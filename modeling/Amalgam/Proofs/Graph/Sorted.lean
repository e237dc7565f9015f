import Amalgam.Graph.Cycles
import Mathlib.Data.List.Nodup

/-!
# Sorted reports

Sorting entries of which no two are equal puts them in strictly increasing order,
and no other list of the same entries is in that order. So what a sorted list says
is settled by its entries. Labels are compared as texts, lists of labels entry by
entry.
-/

namespace Amalgam.Graph

variable {α : Type}

theorem eq_of_pairwise {r : α → α → Prop} [Std.Asymm r] {as bs : List α} (ha : as.Pairwise r)
    (hb : bs.Pairwise r) (h : ∀ a, a ∈ as ↔ a ∈ bs) : as = bs := by
  have hperm : as.Perm bs := (List.perm_ext_iff_of_nodup ha.nodup hb.nodup).mpr h
  exact hperm.eq_of_pairwise (fun a b _ _ hab hba => absurd hba (Std.Asymm.asymm a b hab)) ha hb

theorem pairwise_mergeSort_of_nodup {le : α → α → Bool} {r : α → α → Prop}
    (htrans : ∀ a b c, le a b = true → le b c = true → le a c = true)
    (htotal : ∀ a b, (le a b || le b a) = true)
    (hstrict : ∀ a b, le a b = true → a ≠ b → r a b) {as : List α} (h : as.Nodup) :
    (as.mergeSort le).Pairwise r := by
  have hnodup : (as.mergeSort le).Nodup := (List.mergeSort_perm as le).nodup_iff.mpr h
  refine ((List.pairwise_mergeSort htrans htotal as).and hnodup).imp ?_
  rintro a b ⟨hle, hne⟩
  exact hstrict a b hle hne

-- ---------------------------------------------------------------------------
-- Labels
-- ---------------------------------------------------------------------------

@[simp] theorem mem_sortLabels {label : String} {labels : List String} :
    label ∈ sortLabels labels ↔ label ∈ labels :=
  List.mem_mergeSort

theorem pairwise_sortLabels {labels : List String} (h : labels.Nodup) :
    (sortLabels labels).Pairwise (· < ·) := by
  refine pairwise_mergeSort_of_nodup ?_ ?_ ?_ h
  · intro a b c hab hbc
    rw [decide_eq_true_eq] at *
    exact String.le_trans hab hbc
  · intro a b
    simpa using String.le_total a b
  · intro a b hab hne
    rw [decide_eq_true_eq] at hab
    exact String.not_le.mp fun hba => hne (String.le_antisymm hab hba)

-- ---------------------------------------------------------------------------
-- Lists of labels
-- ---------------------------------------------------------------------------

theorem lexLE_iff {as bs : List String} : lexLE as bs = true ↔ as = bs ∨ as < bs := by
  induction as generalizing bs with
  | nil => cases bs <;> simp [lexLE]
  | cons a as ih =>
    cases bs with
    | nil => simp [lexLE]
    | cons b bs =>
      rw [lexLE, List.cons_lt_cons_iff]
      by_cases hab : a = b
      · subst hab
        simp [ih]
      · simp [hab]

theorem lexLE_trans (as bs cs : List String) (hab : lexLE as bs = true) (hbc : lexLE bs cs = true) :
    lexLE as cs = true := by
  rw [lexLE_iff] at *
  rcases hab with rfl | hab
  · exact hbc
  · rcases hbc with rfl | hbc
    · exact .inr hab
    · exact .inr (List.lt_trans hab hbc)

theorem lexLE_total (as bs : List String) : (lexLE as bs || lexLE bs as) = true := by
  induction as generalizing bs with
  | nil => rfl
  | cons a as ih =>
    cases bs with
    | nil => rfl
    | cons b bs =>
      rw [lexLE, lexLE]
      by_cases hab : a = b
      · subst hab
        simpa using ih bs
      · have hlt : a < b ∨ b < a := by
          rcases String.le_total a b with h | h
          · exact .inl (String.not_le.mp fun h' => hab (String.le_antisymm h h'))
          · exact .inr (String.not_le.mp fun h' => hab (String.le_antisymm h' h))
        simpa [hab, Ne.symm hab] using hlt

theorem pairwise_mergeSort_lexLE {lists : List (List String)} (h : lists.Nodup) :
    (lists.mergeSort lexLE).Pairwise (· < ·) :=
  pairwise_mergeSort_of_nodup lexLE_trans lexLE_total
    (fun _ _ hle hne => (lexLE_iff.mp hle).resolve_left hne) h

end Amalgam.Graph
