import Amalgam.Pattern.Engine
import Amalgam.Proofs.Exclusion
import Amalgam.Settings.Basic

/-!
# Patterns from layers

The patterns of all layers are compiled as one list. Each of them counts alone, so this
comes to the same as compiling every layer for itself and excluding what one of them
excludes. Only which malformed pattern is reported depends on the order of the layers.
-/

namespace Amalgam.Settings

variable {engine : Engine} {overrides project user : Layer} {envDir : Option String}
  {defaultDir : Path} {s : Settings} {ex : Exclusion} {e : SettingsError}

/-- The patterns of all layers, in the order in which they are compiled. -/
def layered (overrides project user : Layer) : List String :=
  user.excludes ++ project.excludes ++ overrides.excludes

@[simp] theorem excludes_merge (overrides : Layer) (envDir : Option String) (project user : Layer)
    (defaultDir : Path) :
    (merge overrides envDir project user defaultDir).excludes = layered overrides project user := rfl

theorem exclusion_eq_ok :
    s.exclusion engine = .ok ex ↔ Exclusion.compile engine s.excludes = .ok ex := by
  unfold exclusion
  cases Exclusion.compile engine s.excludes <;> simp

theorem resolve_eq_ok :
    resolve engine overrides envDir project user defaultDir = .ok s ↔
      s = merge overrides envDir project user defaultDir ∧
        ∃ ex, Exclusion.compile engine (layered overrides project user) = .ok ex := by
  simp only [resolve, exclusion, excludes_merge]
  cases Exclusion.compile engine (layered overrides project user) <;> simp [eq_comm]

theorem resolve_eq_error :
    resolve engine overrides envDir project user defaultDir = .error e ↔
      ∃ m, Exclusion.compile engine (layered overrides project user) = .error m ∧ e = .pattern m := by
  simp only [resolve, exclusion, excludes_merge]
  cases Exclusion.compile engine (layered overrides project user) <;> simp [eq_comm]

theorem exists_resolve_iff :
    (∃ s, resolve engine overrides envDir project user defaultDir = .ok s) ↔
      (∃ u, Exclusion.compile engine user.excludes = .ok u) ∧
      (∃ p, Exclusion.compile engine project.excludes = .ok p) ∧
      ∃ o, Exclusion.compile engine overrides.excludes = .ok o := by
  simp only [resolve_eq_ok, exists_eq_left]
  rw [layered, Exclusion.exists_compile_append, Exclusion.exists_compile_append, and_assoc]

theorem exclusion_of_resolve (h : resolve engine overrides envDir project user defaultDir = .ok s) :
    ∃ u p o, Exclusion.compile engine user.excludes = .ok u ∧
      Exclusion.compile engine project.excludes = .ok p ∧
      Exclusion.compile engine overrides.excludes = .ok o ∧
      s.exclusion engine = .ok (u ++ p ++ o) := by
  obtain ⟨rfl, ex, hex⟩ := resolve_eq_ok.mp h
  obtain ⟨files, o, hfiles, ho, rfl⟩ := Exclusion.compile_append.mp hex
  obtain ⟨u, p, hu, hp, rfl⟩ := Exclusion.compile_append.mp hfiles
  exact ⟨u, p, o, hu, hp, ho, exclusion_eq_ok.mpr hex⟩

/-- The layers resolve exactly if the patterns of each compile. The settings then exclude
what one of the layers excludes, with as many patterns as the layers have together, blank
ones not counted. Otherwise the first malformed pattern is reported, those of the user
coming first and those of the command line last. -/
theorem resolve_merges_exclusion (engine : Engine) (overrides : Layer) (envDir : Option String)
    (project user : Layer) (defaultDir : Path) :
    ((∃ s, resolve engine overrides envDir project user defaultDir = .ok s) ↔
      (∃ u, Exclusion.compile engine user.excludes = .ok u) ∧
      (∃ p, Exclusion.compile engine project.excludes = .ok p) ∧
      ∃ o, Exclusion.compile engine overrides.excludes = .ok o) ∧
    (∀ s, resolve engine overrides envDir project user defaultDir = .ok s →
      ∃ u p o ex,
        Exclusion.compile engine user.excludes = .ok u ∧
        Exclusion.compile engine project.excludes = .ok p ∧
        Exclusion.compile engine overrides.excludes = .ok o ∧ s.exclusion engine = .ok ex ∧
        (∀ path, ex.excludes path = true ↔
          u.excludes path = true ∨ p.excludes path = true ∨ o.excludes path = true) ∧
        ex.size = u.size + p.size + o.size ∧
        ex.size = ((user.excludes ++ project.excludes ++ overrides.excludes).filter
          (!Text.isBlankText ·)).length) ∧
    (∀ e, resolve engine overrides envDir project user defaultDir = .error e ↔
      ∃ text cause, (user.excludes ++ project.excludes ++ overrides.excludes).find?
          (Exclusion.isMalformed engine) = some text ∧
        engine.compile text = .error cause ∧ e = .pattern ⟨text, cause⟩) := by
  refine ⟨exists_resolve_iff, ?_, ?_⟩
  · intro s hs
    obtain ⟨u, p, o, hu, hp, ho, hex⟩ := exclusion_of_resolve hs
    refine ⟨u, p, o, u ++ p ++ o, hu, hp, ho, hex, ?_, by simp, ?_⟩
    · intro path
      simp [or_assoc]
    · obtain ⟨rfl, -⟩ := resolve_eq_ok.mp hs
      exact Exclusion.size_eq (exclusion_eq_ok.mp hex)
  · intro e
    simp only [resolve_eq_error, Exclusion.compile_eq_error, layered]
    constructor
    · rintro ⟨m, ⟨hfind, hcause⟩, rfl⟩
      exact ⟨m.text, m.cause, hfind, hcause, rfl⟩
    · rintro ⟨text, cause, hfind, hcause, rfl⟩
      exact ⟨⟨text, cause⟩, ⟨hfind, hcause⟩, rfl⟩

def userLayer : Layer := { excludes := ["\u3000", "/io/"] }

def projectLayer : Layer := { includeDir := some "inc", excludes := ["^inc/a", ""] }

/-- Two layers have a malformed pattern; the blank one before them is none. The other
layers resolve, and one of them excludes a header. -/
theorem resolve_merges_layered :
    (∃ s ex, resolve Pattern.engine {} (some " ") projectLayer userLayer "include" = .ok s ∧
      s.exclusion Pattern.engine = .ok ex ∧ ex.size = 2 ∧ ex.excludes "inc/io/x.h" = true) ∧
    resolve Pattern.engine { excludes := ["*"] } none { excludes := ["a", "(b", "c)"] } userLayer
      "include" = .error (.pattern ⟨"(b", Pattern.refusal⟩) := by
  have huser : Exclusion.compile Pattern.engine userLayer.excludes =
      .ok ⟨["/io/"].filterMap Pattern.matcher?⟩ := rfl
  have hproject : Exclusion.compile Pattern.engine projectLayer.excludes =
      .ok ⟨["^inc/a"].filterMap Pattern.matcher?⟩ := rfl
  obtain ⟨hiff, hok, -⟩ :=
    resolve_merges_exclusion Pattern.engine {} (some " ") projectLayer userLayer "include"
  obtain ⟨s, hs⟩ := hiff.mpr ⟨⟨_, huser⟩, ⟨_, hproject⟩, _, rfl⟩
  obtain ⟨u, p, o, ex, hu, -, -, hex, hpath, -, hsize⟩ := hok s hs
  obtain rfl := Except.ok.inj (huser.symm.trans hu)
  refine ⟨⟨s, ex, hs, hex, hsize.trans (by decide +kernel), ?_⟩, ?_⟩
  · exact (hpath "inc/io/x.h").mpr (.inl (by decide +kernel))
  · exact ((resolve_merges_exclusion _ _ _ _ _ _).2.2 _).mpr
      ⟨"(b", _, by decide +kernel, rfl, rfl⟩

end Amalgam.Settings
