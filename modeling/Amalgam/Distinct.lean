/-!
# First occurrences

The entries of a list, each once, in the order of their first occurrence.
-/

namespace Amalgam

variable {α : Type} [DecidableEq α]

def distinctFrom (seen : List α) : List α → List α
  | [] => []
  | a :: as => if a ∈ seen then distinctFrom seen as else a :: distinctFrom (a :: seen) as

def distinct (as : List α) : List α :=
  distinctFrom [] as

theorem mem_distinctFrom {a : α} {seen as : List α} :
    a ∈ distinctFrom seen as ↔ a ∈ as ∧ a ∉ seen := by
  induction as generalizing seen with
  | nil => simp [distinctFrom]
  | cons b as ih =>
    rw [distinctFrom]
    by_cases hb : b ∈ seen
    · rw [if_pos hb, ih, List.mem_cons]
      grind
    · rw [if_neg hb, List.mem_cons, ih]
      grind

@[simp] theorem mem_distinct {a : α} {as : List α} : a ∈ distinct as ↔ a ∈ as := by
  simp [distinct, mem_distinctFrom]

theorem nodup_distinctFrom (seen as : List α) : (distinctFrom seen as).Nodup := by
  induction as generalizing seen with
  | nil => exact List.nodup_nil
  | cons a as ih =>
    rw [distinctFrom]
    split
    · exact ih seen
    · refine List.nodup_cons.mpr ⟨?_, ih (a :: seen)⟩
      rw [mem_distinctFrom]
      simp

theorem nodup_distinct (as : List α) : (distinct as).Nodup :=
  nodup_distinctFrom [] as

theorem distinctFrom_sublist (seen as : List α) : (distinctFrom seen as).Sublist as := by
  induction as generalizing seen with
  | nil => exact .slnil
  | cons a as ih =>
    rw [distinctFrom]
    split
    · exact (ih seen).cons a
    · exact (ih (a :: seen)).cons_cons a

theorem distinct_sublist (as : List α) : (distinct as).Sublist as :=
  distinctFrom_sublist [] as

theorem distinctFrom_concat (seen as : List α) (a : α) :
    distinctFrom seen (as ++ [a]) =
      if a ∈ seen ∨ a ∈ as then distinctFrom seen as else distinctFrom seen as ++ [a] := by
  induction as generalizing seen with
  | nil => by_cases ha : a ∈ seen <;> simp [distinctFrom, ha]
  | cons b as ih =>
    rw [List.cons_append, distinctFrom, distinctFrom, ih, ih]
    by_cases hb : b ∈ seen <;> by_cases hab : a = b <;> grind

theorem distinct_concat (as : List α) (a : α) :
    distinct (as ++ [a]) = if a ∈ as then distinct as else distinct as ++ [a] := by
  simpa [distinct] using distinctFrom_concat [] as a

theorem distinctFrom_eq_self {seen as : List α} (h : as.Nodup) (hs : ∀ a ∈ as, a ∉ seen) :
    distinctFrom seen as = as := by
  induction as generalizing seen with
  | nil => rfl
  | cons a as ih =>
    obtain ⟨ha, h⟩ := List.nodup_cons.mp h
    rw [distinctFrom, if_neg (hs a (by simp)), ih h]
    intro b hb
    have hba : b ≠ a := fun e => ha (e ▸ hb)
    simp [hba, hs b (List.mem_cons_of_mem a hb)]

theorem distinct_eq_self {as : List α} (h : as.Nodup) : distinct as = as :=
  distinctFrom_eq_self h (by simp)

theorem distinctFrom_congr {seen seen' : List α} (h : ∀ a, a ∈ seen ↔ a ∈ seen') (as : List α) :
    distinctFrom seen as = distinctFrom seen' as := by
  induction as generalizing seen seen' with
  | nil => rfl
  | cons a as ih =>
    have hcons : ∀ b, b ∈ a :: seen ↔ b ∈ a :: seen' := by simp [h]
    simp only [distinctFrom, h a, ih h, ih hcons]

theorem distinctFrom_append (seen as bs : List α) :
    distinctFrom seen (as ++ bs) = distinctFrom seen as ++ distinctFrom (as ++ seen) bs := by
  induction as generalizing seen with
  | nil => rfl
  | cons a as ih =>
    rw [List.cons_append, distinctFrom, distinctFrom]
    split
    next ha =>
      rw [ih]
      refine congrArg (distinctFrom seen as ++ ·) (distinctFrom_congr ?_ bs)
      grind
    next =>
      rw [ih, List.cons_append]
      refine congrArg (a :: distinctFrom (a :: seen) as ++ ·) (distinctFrom_congr ?_ bs)
      grind

/-- What is seen can as well be taken out beforehand. -/
theorem distinctFrom_eq_distinct (seen as : List α) :
    distinctFrom seen as = distinct (as.filter (· ∉ seen)) := by
  suffices h : ∀ known, distinctFrom (seen ++ known) as =
      distinctFrom known (as.filter (· ∉ seen)) by
    simpa [distinct] using h []
  induction as with
  | nil => simp [distinctFrom]
  | cons a as ih =>
    intro known
    have hcons : distinctFrom (a :: (seen ++ known)) as = distinctFrom (seen ++ a :: known) as :=
      distinctFrom_congr (by grind) as
    by_cases hs : a ∈ seen
    · simp [distinctFrom, hs, ih]
    · by_cases hk : a ∈ known
      · simp [distinctFrom, hs, hk, ih]
      · simp [distinctFrom, hs, hk, hcons, ih]

theorem distinct_append (as bs : List α) :
    distinct (as ++ bs) = distinct as ++ distinct (bs.filter (· ∉ as)) := by
  rw [distinct, distinctFrom_append, List.append_nil, distinctFrom_eq_distinct as bs]
  rfl

theorem distinct_append_self (as bs : List α) :
    distinct (distinct (as ++ bs) ++ bs) = distinct (as ++ bs) := by
  have hnone : bs.filter (· ∉ distinct (as ++ bs)) = [] := by simp +contextual
  rw [distinct_append, hnone, distinct_eq_self (nodup_distinct (as ++ bs))]
  exact List.append_nil _

-- ---------------------------------------------------------------------------
-- Positions
-- ---------------------------------------------------------------------------

theorem pairwise_idxOf_cons {a : α} {as bs : List α}
    (h : bs.Pairwise fun b c => as.idxOf b < as.idxOf c) (hne : ∀ b ∈ bs, a ≠ b) :
    bs.Pairwise fun b c => (a :: as).idxOf b < (a :: as).idxOf c := by
  refine h.imp_of_mem ?_
  intro b c hb hc hlt
  simpa [List.idxOf_cons, beq_false_of_ne (hne b hb), beq_false_of_ne (hne c hc)] using hlt

theorem pairwise_idxOf_distinctFrom (seen as : List α) :
    (distinctFrom seen as).Pairwise fun a b => as.idxOf a < as.idxOf b := by
  induction as generalizing seen with
  | nil => exact .nil
  | cons a as ih =>
    unfold distinctFrom
    split
    next ha =>
      refine pairwise_idxOf_cons (ih seen) ?_
      rintro b hb rfl
      exact (mem_distinctFrom.mp hb).2 ha
    next =>
      have hne : ∀ b ∈ distinctFrom (a :: seen) as, a ≠ b := by
        rintro b hb rfl
        exact (mem_distinctFrom.mp hb).2 List.mem_cons_self
      refine .cons ?_ (pairwise_idxOf_cons (ih (a :: seen)) hne)
      intro b hb
      simp [List.idxOf_cons, beq_false_of_ne (hne b hb)]

theorem pairwise_idxOf_distinct (as : List α) :
    (distinct as).Pairwise fun a b => as.idxOf a < as.idxOf b :=
  pairwise_idxOf_distinctFrom [] as

end Amalgam
