import Amalgam.Inliner
import Amalgam.Proofs.Path.Components

/-!
# How inlining fails

A plan fails because a header cannot be read or because the headers cannot be put
in order. Once there is a plan there is a unit, since every header has a label.
-/

namespace Amalgam.Inliner

variable {inl : Inliner} {source : String}

theorem result_walk (inl : Inliner) (source : String) :
    (inl.walk source).result = extract inl.reader inl.exclusion inl.includeDir source := rfl

theorem plan_eq_error {err : InlineError} :
    inl.plan source = .error err ↔
      (∃ e, extract inl.reader inl.exclusion inl.includeDir source = .error e ∧
        err = .unreadable e) ∨
      ∃ x e, extract inl.reader inl.exclusion inl.includeDir source = .ok x ∧
        (Graph.ofEdges x.edges).order rootLabel = .error e ∧ err = .cyclic e := by
  rw [plan, result_walk]
  cases extract inl.reader inl.exclusion inl.includeDir source with
  | error e => simp [eq_comm]
  | ok x =>
    simp only [planOf]
    cases horder : (Graph.ofEdges x.edges).order rootLabel with
    | error e => simp [horder, eq_comm]
    | ok order => simp [horder]

theorem exists_blocks (inl : Inliner) (x : Extraction) (headers : List Path) :
    ∃ lines, inl.blocks x headers = .ok lines := by
  induction headers with
  | nil => exact ⟨[], rfl⟩
  | cons header headers ih =>
    obtain ⟨more, hmore⟩ := ih
    obtain ⟨label, hlabel⟩ := inl.style.exists_label inl.includeDir header
    exact ⟨_, by rw [blocks, block, hlabel, hmore]⟩

theorem exists_inline {plan : Plan} (h : inl.plan source = .ok plan) :
    ∃ unit, inl.inline source = .ok unit := by
  obtain ⟨blocks, hblocks⟩ := inl.exists_blocks plan.extraction plan.order
  rw [inline, h]
  simp only
  split
  · exact ⟨source, rfl⟩
  · exact ⟨_, by rw [render, hblocks]⟩

theorem inline_eq_error {err : InlineError} :
    inl.inline source = .error err ↔ inl.plan source = .error err := by
  cases hplan : inl.plan source with
  | error e => simp [inline, hplan]
  | ok plan =>
    obtain ⟨unit, hunit⟩ := exists_inline hplan
    rw [hunit]
    simp

end Amalgam.Inliner
