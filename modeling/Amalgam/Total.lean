/-!
# Totals

The weights of the entries of a list, added up.
-/

namespace Amalgam

variable {α : Type}

def total (weight : α → Nat) : List α → Nat
  | [] => 0
  | a :: as => weight a + total weight as

@[simp] theorem total_nil (weight : α → Nat) : total weight [] = 0 := rfl

@[simp] theorem total_cons (weight : α → Nat) (a : α) (as : List α) :
    total weight (a :: as) = weight a + total weight as := rfl

theorem total_append (weight : α → Nat) (as bs : List α) :
    total weight (as ++ bs) = total weight as + total weight bs := by
  induction as with
  | nil => simp
  | cons a as ih => simp [ih, Nat.add_assoc]

end Amalgam
