import Amalgam.Line
import Amalgam.Proofs.Text.Lines
import Mathlib.Data.List.Basic
import Mathlib.Data.List.TakeWhile

/-!
# Where an include begins

`QuotedAt` and `AngledAt` say what a text looks like if an include begins where
it begins. The readers of one place find exactly these: the one quoted path, or
the longest of the bracketed names. A line is read at the first place where its
reader answers. Since an include ends in a quote or in a bracket, a return at the
end of the line changes nothing.
-/

namespace Amalgam.Line

open Text (isBlank)

def Introduces (s rest : List Char) : Prop :=
  ∃ blanks, s = keyword ++ blanks ++ rest ∧ blanks ≠ [] ∧ ∀ c ∈ blanks, isBlank c

def QuotedAt (s path : List Char) : Prop :=
  ∃ rest, Introduces s ('"' :: path ++ '"' :: rest) ∧ '"' ∉ path ∧ '\n' ∉ path

def AngledAt (s name : List Char) : Prop :=
  ∃ rest, Introduces s ('<' :: name ++ '>' :: rest) ∧ name ≠ [] ∧ '\n' ∉ name

variable {s rest path name : List Char} {c x : Char}

-- ---------------------------------------------------------------------------
-- The readers
-- ---------------------------------------------------------------------------

theorem introduces_of_operand? (h : operand? s = some rest) : Introduces s rest := by
  rw [operand?] at h
  split at h
  next c after hp =>
    split at h
    next hc =>
      cases h
      refine ⟨c :: after.takeWhile isBlank, ?_, by simp, ?_⟩
      · rw [← List.isPrefixOf?_eq_some_iff_append_eq.mp hp]
        simp
      · intro b hb
        rcases List.mem_cons.mp hb with rfl | hb
        · exact hc
        · exact List.mem_takeWhile_imp hb
    next => cases h
  next => cases h

theorem operand?_of_introduces (h : Introduces s (c :: rest)) (hc : isBlank c = false) :
    operand? s = some (c :: rest) := by
  obtain ⟨blanks, rfl, hne, hb⟩ := h
  cases blanks with
  | nil => exact absurd rfl hne
  | cons b blanks =>
    have hp : List.isPrefixOf? keyword (keyword ++ (b :: blanks) ++ c :: rest) =
        some (b :: (blanks ++ c :: rest)) :=
      List.isPrefixOf?_eq_some_iff_append_eq.mpr (by simp)
    have hblanks : ∀ d ∈ blanks, isBlank d := fun d hd => hb d (List.mem_cons_of_mem _ hd)
    rw [operand?, hp]
    simp only [hb b (by simp), if_true]
    rw [List.dropWhile_append_of_pos hblanks, List.dropWhile_cons_of_neg (by simp [hc])]

theorem quotedHere?_eq_some : quotedHere? s = some path ↔ QuotedAt s path := by
  constructor
  · intro h
    rw [quotedHere?] at h
    split at h
    next rest ho =>
      split at h
      next after hd =>
        cases h
        refine ⟨after, ?_, ?_⟩
        · rw [List.cons_append, ← hd, List.takeWhile_append_dropWhile]
          exact introduces_of_operand? ho
        · constructor <;> intro hm <;> simpa using List.mem_takeWhile_imp hm
      next => cases h
    next => cases h
  · rintro ⟨rest, hs, hq, hn⟩
    have hpath : ∀ c ∈ path, (c != '"' && c != '\n') = true := by
      intro c hc
      have hcq : c ≠ '"' := fun e => hq (e ▸ hc)
      have hcn : c ≠ '\n' := fun e => hn (e ▸ hc)
      simp [hcq, hcn]
    rw [quotedHere?, operand?_of_introduces hs (by decide)]
    simp [List.dropWhile_append_of_pos hpath, List.takeWhile_append_of_pos hpath]

theorem takeWhile_line {before after : List Char} (hn : '\n' ∉ before) (hc : c ≠ '\n') :
    (before ++ c :: after).takeWhile (· != '\n') =
      before ++ c :: after.takeWhile (· != '\n') := by
  have hbefore : ∀ d ∈ before, (d != '\n') = true :=
    fun d hd => by simpa using fun e : d = '\n' => hn (e ▸ hd)
  rw [List.takeWhile_append_of_pos hbefore, List.takeWhile_cons_of_pos (by simp [hc])]

theorem angledAt_of_angledHere? (h : angledHere? s = some name) :
    AngledAt s name ∧ ∀ other, AngledAt s other → other.length ≤ name.length := by
  rw [angledHere?] at h
  split at h
  next rest ho =>
    split at h
    next c name after hcut =>
      cases h
      obtain ⟨htake, hafter⟩ := Text.of_cutLast? hcut
      have hfree : ∀ d ∈ rest.takeWhile (· != '\n'), d ≠ '\n' :=
        fun d hd => by simpa using List.mem_takeWhile_imp hd
      refine ⟨⟨after ++ rest.dropWhile (· != '\n'), ?_, by simp, ?_⟩, ?_⟩
      · have hrest : rest = (c :: name) ++ '>' :: (after ++ rest.dropWhile (· != '\n')) := calc
          rest = rest.takeWhile (· != '\n') ++ rest.dropWhile (· != '\n') :=
            List.takeWhile_append_dropWhile.symm
          _ = _ := by rw [htake]; simp
        rw [List.cons_append, ← hrest]
        exact introduces_of_operand? ho
      · exact fun hm => hfree '\n' (by rw [htake]; exact List.mem_append_left _ hm) rfl
      · -- a longer name would end at a bracket behind the last one
        rintro other ⟨tail, hs, -, hn⟩
        rw [List.cons_append] at hs
        rw [operand?_of_introduces hs (by decide)] at ho
        obtain rfl : other ++ '>' :: tail = rest := by simpa using ho
        rw [takeWhile_line hn (by decide)] at htake
        rcases List.append_eq_append_iff.mp htake with ⟨more, hname, -⟩ | ⟨more, rfl, hm⟩
        · rw [hname, List.length_append]
          omega
        · cases more with
          | nil => simp
          | cons d more =>
            rw [List.cons_append] at hm
            exact absurd (by rw [(List.cons.inj hm).2]; simp) hafter
    next => cases h
  next => cases h

theorem exists_angledHere? (h : AngledAt s name) : ∃ found, angledHere? s = some found := by
  obtain ⟨rest, hs, hne, hn⟩ := h
  rw [List.cons_append] at hs
  rw [angledHere?, operand?_of_introduces hs (by decide)]
  simp only [takeWhile_line hn (by decide : '>' ≠ '\n')]
  cases hcut : Text.cutLast? '>' (name ++ '>' :: rest.takeWhile (· != '\n')) with
  | none => exact absurd (by simp) (Text.cutLast?_eq_none.mp hcut)
  | some cut =>
    obtain ⟨before, after⟩ := cut
    obtain ⟨hsplit, hafter⟩ := Text.of_cutLast? hcut
    cases before with
    | cons d before => exact ⟨_, rfl⟩
    | nil =>
      cases name with
      | nil => exact absurd rfl hne
      | cons d name =>
        have htail : name ++ '>' :: rest.takeWhile (· != '\n') = after := (List.cons.inj hsplit).2
        exact absurd (by simp [← htail]) hafter

theorem angledHere?_eq_some : angledHere? s = some name ↔
    AngledAt s name ∧ ∀ other, AngledAt s other → other.length ≤ name.length := by
  refine ⟨angledAt_of_angledHere?, ?_⟩
  rintro ⟨hat, hmax⟩
  obtain ⟨found, hf⟩ := exists_angledHere? hat
  obtain ⟨hfat, hfmax⟩ := angledAt_of_angledHere? hf
  have hlen : found.length = name.length := Nat.le_antisymm (hmax found hfat) (hfmax name hat)
  obtain ⟨rest, hs, -⟩ := hat
  obtain ⟨tail, ht, -⟩ := hfat
  rw [List.cons_append] at hs ht
  have hrest := operand?_of_introduces hs (by decide)
  rw [operand?_of_introduces ht (by decide)] at hrest
  have hsame : found ++ '>' :: tail = name ++ '>' :: rest := by simpa using hrest
  rw [hf, (List.append_inj hsame hlen).1]

-- ---------------------------------------------------------------------------
-- The leftmost place
-- ---------------------------------------------------------------------------

section Leftmost

variable {α : Type} {here? : List Char → Option α} {found : α}

theorem leftmost?_eq_some :
    leftmost? here? s = some found ↔
      ∃ i, here? (s.drop i) = some found ∧ ∀ j < i, here? (s.drop j) = none := by
  induction s with
  | nil =>
    constructor
    · intro h
      exact ⟨0, h, by simp⟩
    · rintro ⟨i, hi, -⟩
      simpa [leftmost?] using hi
  | cons c s ih =>
    unfold leftmost?
    cases hc : here? (c :: s) with
    | some first =>
      constructor
      · intro h
        exact ⟨0, hc.trans h, by simp⟩
      · rintro ⟨i, hi, hnone⟩
        cases i with
        | zero => exact hc.symm.trans hi
        | succ i =>
          have h0 := hnone 0 (by omega)
          simp [hc] at h0
    | none =>
      simp only [ih]
      constructor
      · rintro ⟨i, hi, hnone⟩
        refine ⟨i + 1, hi, ?_⟩
        intro j hj
        cases j with
        | zero => exact hc
        | succ j => exact hnone j (by omega)
      · rintro ⟨i, hi, hnone⟩
        cases i with
        | zero => simp [hc] at hi
        | succ i => exact ⟨i, hi, fun j hj => hnone (j + 1) (by omega)⟩

theorem leftmost?_eq_none : leftmost? here? s = none ↔ ∀ i, here? (s.drop i) = none := by
  induction s with
  | nil => simp [leftmost?]
  | cons c s ih =>
    unfold leftmost?
    cases hc : here? (c :: s) with
    | some first =>
      simp only [reduceCtorEq, false_iff]
      intro h
      simpa [hc] using h 0
    | none =>
      simp only [ih]
      constructor
      · intro h i
        cases i with
        | zero => exact hc
        | succ i => exact h i
      · intro h i
        exact h (i + 1)

end Leftmost

-- ---------------------------------------------------------------------------
-- A return at the end
-- ---------------------------------------------------------------------------

theorem Introduces.concat (h : Introduces s rest) (x : Char) : Introduces (s ++ [x]) (rest ++ [x]) := by
  obtain ⟨blanks, rfl, hb⟩ := h
  exact ⟨blanks, by simp, hb⟩

theorem Introduces.of_concat {front : List Char} (h : Introduces (s ++ [x]) (front ++ c :: rest))
    (hx : x ≠ c) : ∃ rest', Introduces s (front ++ c :: rest') := by
  obtain ⟨blanks, hs, hb⟩ := h
  rcases rest.eq_nil_or_concat with rfl | ⟨rest', y, rfl⟩
  · rw [← List.append_assoc] at hs
    exact absurd (List.cons.inj (List.append_inj' hs rfl).2).1 hx
  · rw [List.concat_eq_append, ← List.cons_append, ← List.append_assoc, ← List.append_assoc] at hs
    refine ⟨rest', blanks, ?_, hb⟩
    rw [(List.append_inj' hs rfl).1]
    simp

theorem quotedAt_concat_return : QuotedAt (s ++ ['\r']) path ↔ QuotedAt s path := by
  constructor
  · rintro ⟨rest, hs, hp⟩
    obtain ⟨rest', hs'⟩ := hs.of_concat (by decide)
    exact ⟨rest', hs', hp⟩
  · rintro ⟨rest, hs, hp⟩
    exact ⟨rest ++ ['\r'], by simpa using hs.concat '\r', hp⟩

theorem angledAt_concat_return : AngledAt (s ++ ['\r']) name ↔ AngledAt s name := by
  constructor
  · rintro ⟨rest, hs, hn⟩
    obtain ⟨rest', hs'⟩ := hs.of_concat (by decide)
    exact ⟨rest', hs', hn⟩
  · rintro ⟨rest, hs, hn⟩
    exact ⟨rest ++ ['\r'], by simpa using hs.concat '\r', hn⟩

theorem quotedHere?_concat_return (s : List Char) : quotedHere? (s ++ ['\r']) = quotedHere? s := by
  ext path
  rw [quotedHere?_eq_some, quotedHere?_eq_some, quotedAt_concat_return]

theorem angledHere?_concat_return (s : List Char) : angledHere? (s ++ ['\r']) = angledHere? s := by
  ext name
  simp only [angledHere?_eq_some, angledAt_concat_return]

theorem leftmost?_concat {α : Type} {here? : List Char → Option α}
    (h : ∀ s, here? (s ++ [x]) = here? s) (s : List Char) :
    leftmost? here? (s ++ [x]) = leftmost? here? s := by
  induction s with
  | nil =>
    have hx : here? [x] = here? [] := h []
    simp only [List.nil_append, leftmost?, hx]
    cases here? [] <;> rfl
  | cons c s ih =>
    have hc : here? (c :: (s ++ [x])) = here? (c :: s) := h (c :: s)
    rw [List.cons_append, leftmost?, leftmost?, hc, ih]

theorem classify_append_return (line : String) : classify (line ++ "\r") = classify line := by
  have hquoted : quotedPath? (line ++ "\r") = quotedPath? line := by
    rw [quotedPath?, String.toList_append]
    exact congrArg _ (leftmost?_concat quotedHere?_concat_return line.toList)
  have hangled : angledName? (line ++ "\r") = angledName? line := by
    rw [angledName?, String.toList_append]
    exact congrArg _ (leftmost?_concat angledHere?_concat_return line.toList)
  rw [classify, classify, hquoted, hangled]

theorem classify_dropReturn (line : String) : classify (Text.dropReturn line) = classify line := by
  rcases Text.dropReturn_cases line with h | h
  · rw [h]
  · conv => rhs; rw [h, classify_append_return]

end Amalgam.Line
