import Amalgam.Pattern.Engine
import Amalgam.Proofs.Exclusion
import Amalgam.Proofs.Plan.Order

/-!
# Excluding more

A further pattern turns includes that were followed into lines that are lifted,
never the other way. So the root reaches no header that it did not reach before,
and a plan that could be made still can. Which include of a header is met first
may change, and with it the order; the headers are compared as sets.
-/

namespace Amalgam

section Reach

variable {reader : Reader} {ex ex' : Exclusion} {rootDir dir target : Path} {source line : String}

theorem Reach.not_excluded (h : Reach reader ex rootDir source target) :
    ex.excludes target = false := by
  have hfollow : ∃ dir line, directive ex dir line = .follow target := by
    cases h with
    | root hf =>
      obtain ⟨line, -, hl⟩ := hf
      exact ⟨_, line, hl⟩
    | step _ hab =>
      obtain ⟨content, -, line, -, hl⟩ := hab
      exact ⟨_, line, hl⟩
  obtain ⟨dir, line, hl⟩ := hfollow
  obtain ⟨path, -, -, hex⟩ := directive_eq_follow.mp hl
  exact hex

variable (hmore : ∀ path, ex.excludes path = true → ex'.excludes path = true)
include hmore

theorem follow_of_excluding_more (h : directive ex' dir line = .follow target) :
    directive ex dir line = .follow target := by
  obtain ⟨path, hc, hjoin, hex'⟩ := directive_eq_follow.mp h
  refine directive_eq_follow.mpr ⟨path, hc, hjoin, ?_⟩
  rw [Bool.eq_false_iff] at hex' ⊢
  exact mt (hmore target) hex'

theorem Reach.of_excluding_more (h : Reach reader ex' rootDir source target) :
    Reach reader ex rootDir source target := by
  induction h with
  | root hf =>
    obtain ⟨line, hm, hl⟩ := hf
    exact .root ⟨line, hm, follow_of_excluding_more hmore hl⟩
  | step _ hab ih =>
    obtain ⟨content, hr, line, hm, hl⟩ := hab
    exact .step ih ⟨content, hr, line, hm, follow_of_excluding_more hmore hl⟩

end Reach

namespace Inliner

/-- If a plan can be made, it can also be made with further patterns. It then has
no header that it did not have before and none that is excluded. -/
theorem plan_excluding_more (engine : Engine) (inl : Inliner) (source : String)
    (texts more : List String) (ex ex' : Exclusion) (plan : Plan) (hmore : texts ⊆ more)
    (hex : Exclusion.compile engine texts = .ok ex) (hex' : Exclusion.compile engine more = .ok ex')
    (h : ({ inl with exclusion := ex } : Inliner).plan source = .ok plan) :
    ∃ plan', ({ inl with exclusion := ex' } : Inliner).plan source = .ok plan' ∧
      plan'.order ⊆ plan.order ∧ ∀ header ∈ plan'.order, ex'.excludes header = false := by
  have hshrink : ∀ header, ({ inl with exclusion := ex' } : Inliner).Reaches source header →
      ({ inl with exclusion := ex } : Inliner).Reaches source header :=
    fun header => Reach.of_excluding_more fun path => Exclusion.excludes_of_subset hmore hex hex'
  obtain ⟨hread, hroot⟩ := exists_plan.mp ⟨plan, h⟩
  have hplan' : ∃ plan', ({ inl with exclusion := ex' } : Inliner).plan source = .ok plan' :=
    exists_plan.mpr ⟨fun header hreach => hread header (hshrink header hreach),
      mt (hshrink rootLabel) hroot⟩
  obtain ⟨plan', h'⟩ := hplan'
  -- both orders list what their inliner reaches
  obtain ⟨f, hspans⟩ := Plan.exists_spans h
  obtain ⟨f', hspans'⟩ := Plan.exists_spans h'
  refine ⟨plan', h', fun header hm => ?_, fun header hm => ?_⟩
  · exact hspans.mem_order.mpr (hshrink header (hspans'.mem_order.mp hm))
  · exact (hspans'.mem_order.mp hm).not_excluded

def excludingGone : Exclusion :=
  ⟨["^gone"].filterMap Pattern.matcher?⟩

def excludingBetween : Exclusion :=
  ⟨["sub/b", "^gone"].filterMap Pattern.matcher?⟩

theorem plan_excluding_between :
    excludingBetween.excludes "inc/sub/b.h" = true ∧
    ∃ plan', ({ diamond with exclusion := excludingBetween } : Inliner).plan "#include \"a.h\"" =
        .ok plan' ∧
      plan'.order ⊆ ["inc/c.h", "inc/sub/b.h", "inc/a.h"] ∧ "inc/sub/b.h" ∉ plan'.order := by
  have hmatch : excludingBetween.excludes "inc/sub/b.h" = true := by decide +kernel
  have hplan : ({ diamond with exclusion := excludingGone } : Inliner).plan "#include \"a.h\"" =
      .ok Plan.diamond := by decide +kernel
  obtain ⟨plan', hplan', horder, hnone⟩ := plan_excluding_more Pattern.engine diamond
    "#include \"a.h\"" ["^gone"] ["sub/b", "^gone"] excludingGone excludingBetween Plan.diamond
    (by simp) rfl rfl hplan
  refine ⟨hmatch, plan', hplan', horder, fun hm => ?_⟩
  have hnot := hnone _ hm
  rw [hmatch] at hnot
  cases hnot

end Inliner

end Amalgam
