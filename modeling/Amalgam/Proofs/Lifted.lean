import Amalgam.Extraction

/-!
# Lifted lines, each once

Lines are pushed as the walk meets them and go through one filter in the end, the
lines of the root before them. The filter keeps a line where it stands first.
-/

namespace Amalgam.LiftedLines

def pushAll (lines : List String) : LiftedLines :=
  lines.foldl push {}

theorem lines_foldl_push (s : LiftedLines) (lines : List String) :
    (lines.foldl push s).lines = s.lines ++ lines := by
  induction lines generalizing s with
  | nil => simp
  | cons line lines ih => simp [ih, push]

@[simp] theorem lines_pushAll (lines : List String) : (pushAll lines).lines = lines := by
  simp [pushAll, lines_foldl_push]

theorem uniqueAfter_pushAll (lines base : List String) :
    (pushAll lines).uniqueAfter base = distinct (base ++ lines) := by
  simp [uniqueAfter]

/-- No line stays twice and none is lost. The lines that stay are in the order of their
first positions, so those of the base come first, as they would alone. To filter once
more, with the result as the base, changes nothing. -/
theorem uniqueAfter_keeps_first (lines base : List String) :
    ((pushAll lines).uniqueAfter base).Nodup ∧
    (∀ line, line ∈ (pushAll lines).uniqueAfter base ↔ line ∈ base ∨ line ∈ lines) ∧
    ((pushAll lines).uniqueAfter base).Sublist (base ++ lines) ∧
    ((pushAll lines).uniqueAfter base).Pairwise
      (fun a b => (base ++ lines).idxOf a < (base ++ lines).idxOf b) ∧
    distinct base <+: (pushAll lines).uniqueAfter base ∧
    (pushAll lines).uniqueAfter ((pushAll lines).uniqueAfter base) =
      (pushAll lines).uniqueAfter base := by
  simp only [uniqueAfter_pushAll]
  refine ⟨nodup_distinct _, ?_, distinct_sublist _, pairwise_idxOf_distinct _, ?_,
    distinct_append_self base lines⟩
  · intro line
    simp
  · rw [distinct_append]
    exact List.prefix_append _ _

end Amalgam.LiftedLines
