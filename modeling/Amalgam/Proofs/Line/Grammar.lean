import Amalgam.Proofs.Directive
import Mathlib.Order.Bounds.Defs

/-!
# Which lines are includes

A site of a line is a place where an include begins. A line that has a site of a
quoted include is what stands at the first of them, whatever else it holds. Any
other line is what stands at its first site of an angle include, with the longest
name there, and text if it has none.
-/

namespace Amalgam.Line

variable {line path name : String} {s : List Char}

-- ---------------------------------------------------------------------------
-- The least site
-- ---------------------------------------------------------------------------

section Least

variable {α : Type} {here? : List Char → Option α} {found : α}

theorem leftmost?_eq_some_iff_isLeast {Site : List Char → Prop}
    (hsite : ∀ s, here? s = none ↔ ¬ Site s) :
    leftmost? here? s = some found ↔
      ∃ i, IsLeast {i | Site (s.drop i)} i ∧ here? (s.drop i) = some found := by
  rw [leftmost?_eq_some]
  constructor
  · rintro ⟨i, hi, hnone⟩
    have hat : Site (s.drop i) := by
      by_contra h
      simp [(hsite _).mpr h] at hi
    refine ⟨i, ⟨hat, ?_⟩, hi⟩
    intro j hj
    by_contra hlt
    exact (hsite _).mp (hnone j (by omega)) hj
  · rintro ⟨i, ⟨-, hleast⟩, hi⟩
    refine ⟨i, hi, ?_⟩
    intro j hj
    rw [hsite]
    intro hat
    have hle := hleast hat
    omega

theorem map_leftmost?_eq_some {here? : List Char → Option (List Char)} {Site : List Char → Prop}
    (hsite : ∀ s, here? s = none ↔ ¬ Site s) {text : String} :
    (leftmost? here? s).map String.ofList = some text ↔
      ∃ i, IsLeast {i | Site (s.drop i)} i ∧ here? (s.drop i) = some text.toList := by
  rw [Option.map_eq_some_iff, ← leftmost?_eq_some_iff_isLeast hsite]
  constructor
  · rintro ⟨chars, hf, rfl⟩
    simpa using hf
  · intro hf
    exact ⟨text.toList, hf, by simp⟩

end Least

-- ---------------------------------------------------------------------------
-- Sites
-- ---------------------------------------------------------------------------

def QuotedSite (line : String) (i : Nat) : Prop :=
  ∃ path, QuotedAt (line.toList.drop i) path

def AngledSite (line : String) (i : Nat) : Prop :=
  ∃ name, AngledAt (line.toList.drop i) name

/-- No longer name stands at the place. -/
def LongestAt (s name : List Char) : Prop :=
  AngledAt s name ∧ ∀ other, AngledAt s other → other.length ≤ name.length

theorem quotedHere?_eq_none (s : List Char) :
    quotedHere? s = none ↔ ¬ ∃ path, QuotedAt s path := by
  cases hs : quotedHere? s with
  | none =>
    simp only [true_iff]
    rintro ⟨path, hat⟩
    simp [quotedHere?_eq_some.mpr hat] at hs
  | some path => simpa using ⟨path, quotedHere?_eq_some.mp hs⟩

theorem angledHere?_eq_none (s : List Char) :
    angledHere? s = none ↔ ¬ ∃ name, AngledAt s name := by
  cases hs : angledHere? s with
  | none =>
    simp only [true_iff]
    rintro ⟨name, hat⟩
    obtain ⟨found, hf⟩ := exists_angledHere? hat
    simp [hf] at hs
  | some name => simpa using ⟨name, (angledHere?_eq_some.mp hs).1⟩

theorem quotedPath?_eq_some :
    quotedPath? line = some path ↔
      ∃ i, IsLeast {i | QuotedSite line i} i ∧ QuotedAt (line.toList.drop i) path.toList := by
  simp only [quotedPath?, map_leftmost?_eq_some quotedHere?_eq_none, quotedHere?_eq_some]
  rfl

theorem angledName?_eq_some :
    angledName? line = some name ↔
      ∃ i, IsLeast {i | AngledSite line i} i ∧ LongestAt (line.toList.drop i) name.toList := by
  simp only [angledName?, map_leftmost?_eq_some angledHere?_eq_none, angledHere?_eq_some]
  rfl

theorem quotedPath?_eq_none : quotedPath? line = none ↔ ∀ i, ¬ QuotedSite line i := by
  simp [quotedPath?, leftmost?_eq_none, quotedHere?_eq_none, QuotedSite]

-- ---------------------------------------------------------------------------
-- The kinds of lines
-- ---------------------------------------------------------------------------

theorem classify_eq_angled :
    classify line = .angled name ↔ quotedPath? line = none ∧ angledName? line = some name := by
  unfold classify
  cases quotedPath? line with
  | some found => simp
  | none => cases angledName? line <;> simp

theorem isQuotedInclude_iff : isQuotedInclude line = true ↔ ∃ i, QuotedSite line i := by
  simp [isQuotedInclude, Option.isSome_iff_ne_none, leftmost?_eq_none, quotedHere?_eq_none,
    QuotedSite]

theorem isAngledInclude_iff : isAngledInclude line = true ↔ ∃ i, AngledSite line i := by
  simp [isAngledInclude, Option.isSome_iff_ne_none, leftmost?_eq_none, angledHere?_eq_none,
    AngledSite]

theorem isInclude_iff (kind : Line) : kind.isInclude = true ↔ kind ≠ .text := by
  cases kind <;> simp [isInclude]

/-- A line is the quoted include at its first site of one, or else the angle include
at its first site of one, with the longest name there, or else text. The tests for
the kinds of lines ask for the sites. -/
theorem classify_by_sites (line : String) :
    (∀ path, classify line = .quoted path ↔
      ∃ i, IsLeast {i | QuotedSite line i} i ∧ QuotedAt (line.toList.drop i) path.toList) ∧
    (∀ name, classify line = .angled name ↔
      (∀ i, ¬ QuotedSite line i) ∧
        ∃ i, IsLeast {i | AngledSite line i} i ∧ LongestAt (line.toList.drop i) name.toList) ∧
    (classify line = .text ↔ (∀ i, ¬ QuotedSite line i) ∧ ∀ i, ¬ AngledSite line i) ∧
    (∀ path, quotedPath? line = some path ↔ classify line = .quoted path) ∧
    (isQuotedInclude line = true ↔ ∃ i, QuotedSite line i) ∧
    (isAngledInclude line = true ↔ ∃ i, AngledSite line i) ∧
    (isIncludeLine line = true ↔ classify line ≠ .text) ∧
    ((classify line).isInclude = true ↔ classify line ≠ .text) := by
  refine ⟨?_, ?_, ?_, ?_, isQuotedInclude_iff, isAngledInclude_iff, ?_, isInclude_iff _⟩
  · intro path
    rw [classify_eq_quoted, quotedPath?_eq_some]
  · intro name
    rw [classify_eq_angled, quotedPath?_eq_none, angledName?_eq_some]
  · rw [classify_eq_text, isIncludeLine, Bool.or_eq_false_iff, ← Bool.not_eq_true,
      ← Bool.not_eq_true, isQuotedInclude_iff, isAngledInclude_iff, not_exists, not_exists]
  · intro path
    exact classify_eq_quoted.symm
  · rw [Ne, classify_eq_text, Bool.not_eq_false]

-- the first keyword leads to no closing quote before the line feed
example : classify "#include \"a\n#include <b> #include <c> d" = .angled "b> #include <c" := by
  decide +kernel

end Amalgam.Line
