import Amalgam.Exclusion

/-!
# Compiled patterns

Texts compile unless one of them is malformed, and then the first such text is
named, with what the engine says of it. Compiled texts exclude what the pattern
of one of them matches, so more texts exclude more.
-/

namespace Amalgam.Exclusion

variable {engine : Engine} {texts more : List String} {ex ex' : Exclusion} {path : String}

def isMalformed (engine : Engine) (text : String) : Bool :=
  !Text.isBlankText text && !(engine.compile text).isOk

theorem compileAll_eq_ok {patterns : List (String → Bool)} :
    compileAll engine texts = .ok patterns ↔
      (texts.filter (!Text.isBlankText ·)).map engine.compile = patterns.map .ok := by
  induction texts generalizing patterns with
  | nil => cases patterns <;> simp [compileAll]
  | cons text texts ih =>
    rw [compileAll]
    by_cases hb : Text.isBlankText text = true
    · simp [hb, ih]
    · cases hp : engine.compile text with
      | error cause => cases patterns <;> simp [hb, hp]
      | ok pattern =>
        cases hc : compileAll engine texts with
        | error e => cases patterns <;> simp_all
        | ok rest => cases patterns <;> simp_all

theorem compileAll_eq_error {e : MalformedPattern} :
    compileAll engine texts = .error e ↔
      texts.find? (isMalformed engine) = some e.text ∧ engine.compile e.text = .error e.cause := by
  induction texts with
  | nil => simp [compileAll]
  | cons text texts ih =>
    rw [compileAll, List.find?_cons, isMalformed]
    by_cases hb : Text.isBlankText text = true
    · simp [hb, ih]
    · cases hp : engine.compile text with
      | error cause =>
        simp only [hb, Bool.false_eq_true, if_false, Except.isOk, Except.toBool, Bool.not_false,
          Bool.and_self, Except.error.injEq, Option.some.injEq]
        constructor
        · rintro rfl
          exact ⟨rfl, hp⟩
        · rintro ⟨rfl, hcompile⟩
          rw [hp] at hcompile
          cases hcompile
          rfl
      | ok pattern => cases hc : compileAll engine texts <;> simp_all [Except.isOk, Except.toBool]

theorem compile_eq_ok :
    compile engine texts = .ok ex ↔
      (texts.filter (!Text.isBlankText ·)).map engine.compile = ex.patterns.map .ok := by
  rw [← compileAll_eq_ok, compile]
  cases ex
  cases compileAll engine texts <;> simp

theorem compile_eq_error {e : MalformedPattern} :
    compile engine texts = .error e ↔
      texts.find? (isMalformed engine) = some e.text ∧ engine.compile e.text = .error e.cause := by
  rw [← compileAll_eq_error, compile]
  cases compileAll engine texts <;> simp

theorem mem_patterns (h : compile engine texts = .ok ex) {pattern : String → Bool} :
    pattern ∈ ex.patterns ↔
      ∃ text ∈ texts, Text.isBlankText text = false ∧ engine.compile text = .ok pattern := by
  have hok : pattern ∈ ex.patterns ↔
      (.ok pattern : Except String (String → Bool)) ∈ ex.patterns.map .ok := by simp
  rw [hok, ← compile_eq_ok.mp h, List.mem_map]
  simp only [List.mem_filter, Bool.not_eq_true', and_assoc]

theorem excludes_iff (h : compile engine texts = .ok ex) :
    ex.excludes path = true ↔
      ∃ text ∈ texts, Text.isBlankText text = false ∧
        ∃ pattern, engine.compile text = .ok pattern ∧ pattern path = true := by
  rw [excludes, List.any_eq_true]
  constructor
  · rintro ⟨pattern, hm, hmatch⟩
    obtain ⟨text, ht, hb, hp⟩ := (mem_patterns h).mp hm
    exact ⟨text, ht, hb, pattern, hp, hmatch⟩
  · rintro ⟨text, ht, hb, pattern, hp, hmatch⟩
    exact ⟨pattern, (mem_patterns h).mpr ⟨text, ht, hb, hp⟩, hmatch⟩

theorem excludes_of_subset (hmore : texts ⊆ more) (h : compile engine texts = .ok ex)
    (h' : compile engine more = .ok ex') (hp : ex.excludes path = true) :
    ex'.excludes path = true := by
  obtain ⟨text, hm, hcounts⟩ := (excludes_iff h).mp hp
  exact (excludes_iff h').mpr ⟨text, hmore hm, hcounts⟩

-- ---------------------------------------------------------------------------
-- Texts in two parts
-- ---------------------------------------------------------------------------

instance : Append Exclusion :=
  ⟨fun a b => ⟨a.patterns ++ b.patterns⟩⟩

@[simp] theorem patterns_append (a b : Exclusion) : (a ++ b).patterns = a.patterns ++ b.patterns :=
  rfl

@[simp] theorem excludes_append (a b : Exclusion) (path : String) :
    (a ++ b).excludes path = (a.excludes path || b.excludes path) := by
  simp [excludes]

@[simp] theorem size_append (a b : Exclusion) : (a ++ b).size = a.size + b.size := by
  simp [size]

theorem compile_append :
    compile engine (texts ++ more) = .ok ex ↔
      ∃ a b, compile engine texts = .ok a ∧ compile engine more = .ok b ∧ ex = a ++ b := by
  simp only [compile_eq_ok, List.filter_append, List.map_append]
  constructor
  · intro h
    obtain ⟨before, after, hpatterns, hbefore, hafter⟩ := List.map_eq_append_iff.mp h.symm
    refine ⟨⟨before⟩, ⟨after⟩, hbefore.symm, hafter.symm, ?_⟩
    cases ex
    exact congrArg Exclusion.mk hpatterns
  · rintro ⟨a, b, ha, hb, rfl⟩
    simp [ha, hb]

theorem exists_compile_append :
    (∃ ex, compile engine (texts ++ more) = .ok ex) ↔
      (∃ a, compile engine texts = .ok a) ∧ ∃ b, compile engine more = .ok b := by
  simp only [compile_append]
  constructor
  · rintro ⟨_, a, b, ha, hb, -⟩
    exact ⟨⟨a, ha⟩, b, hb⟩
  · rintro ⟨⟨a, ha⟩, b, hb⟩
    exact ⟨a ++ b, a, b, ha, hb, rfl⟩

theorem size_eq (h : compile engine texts = .ok ex) :
    ex.size = (texts.filter (!Text.isBlankText ·)).length := by
  simpa [size] using (congrArg List.length (compile_eq_ok.mp h)).symm

end Amalgam.Exclusion
