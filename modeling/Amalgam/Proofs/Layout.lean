import Amalgam.Layout
import Mathlib.Data.List.TakeWhile

/-!
# The parts of a root

The head and the tail of a layout are text and its block begins and ends with an
include line, so the layout is the one way to cut a root around its include
lines. No line gets lost: the text of the root is its head, the text of its
block and its tail, and the lines to lift are those of its block.
-/

namespace Amalgam.Layout

/-- The layout cuts the lines at the first and at the last that is no text. -/
structure Divides (isText : String → Bool) (lines : List String) (layout : Layout) : Prop where
  parts : layout.head ++ layout.block ++ layout.tail = lines
  head : ∀ line ∈ layout.head, isText line = true
  tail : ∀ line ∈ layout.tail, isText line = true
  first : ∀ line rest, layout.block = line :: rest → isText line = false
  last : ∀ rest line, layout.block = rest ++ [line] → isText line = false

variable {isText : String → Bool} {lines : List String}

theorem isText_of_dropWhile {line : String} {rest : List String}
    (h : lines.dropWhile isText = line :: rest) : isText line = false := by
  have hd := List.head?_dropWhile_not isText lines
  rwa [h] at hd

theorem divides_ofLines (isText : String → Bool) (lines : List String) :
    (ofLines isText lines).Divides isText lines := by
  rw [ofLines]
  split
  next hall =>
    refine ⟨by simp, by simp, by simpa using hall, ?_, ?_⟩
    · intro line rest h
      cases h
    · intro rest line h
      cases rest <;> cases h
  next =>
    -- what follows the head, and that again cut from behind
    simp only
    generalize hrest : lines.dropWhile isText = rest
    have hcut : (rest.reverse.dropWhile isText).reverse ++ (rest.reverse.takeWhile isText).reverse =
        rest := by
      rw [← List.reverse_append, List.takeWhile_append_dropWhile, List.reverse_reverse]
    refine ⟨?_, fun line hl => List.mem_takeWhile_imp hl, ?_, ?_, ?_⟩
    · rw [List.append_assoc, hcut, ← hrest, List.takeWhile_append_dropWhile]
    · exact fun line hl => List.mem_takeWhile_imp (List.mem_reverse.mp hl)
    · intro line more h
      dsimp only at h
      rw [h, List.cons_append] at hcut
      exact isText_of_dropWhile (hrest.trans hcut.symm)
    · intro more line h
      have hlast : rest.reverse.dropWhile isText = line :: more.reverse := by
        simpa using congrArg List.reverse h
      exact isText_of_dropWhile hlast

namespace Divides

variable {layout : Layout}

theorem head_subset (h : layout.Divides isText lines) : layout.head ⊆ lines := by
  rw [← h.parts, List.append_assoc]
  exact List.subset_append_left _ _

theorem block_subset (h : layout.Divides isText lines) : layout.block ⊆ lines := by
  rw [← h.parts]
  exact fun line hl => List.mem_append_left _ (List.mem_append_right _ hl)

theorem tail_subset (h : layout.Divides isText lines) : layout.tail ⊆ lines := by
  rw [← h.parts]
  exact List.subset_append_right _ _

theorem filter_text (h : layout.Divides isText lines) :
    lines.filter isText = layout.head ++ layout.block.filter isText ++ layout.tail := by
  rw [← h.parts, List.filter_append, List.filter_append, List.filter_eq_self.mpr h.head,
    List.filter_eq_self.mpr h.tail]

theorem filter_block (h : layout.Divides isText lines) {p : String → Bool}
    (hp : ∀ line, isText line = true → ¬ p line) : lines.filter p = layout.block.filter p := by
  have hhead : layout.head.filter p = [] :=
    List.filter_eq_nil_iff.mpr fun line hl => hp line (h.head line hl)
  have htail : layout.tail.filter p = [] :=
    List.filter_eq_nil_iff.mpr fun line hl => hp line (h.tail line hl)
  rw [← h.parts, List.filter_append, List.filter_append, hhead, htail, List.nil_append,
    List.append_nil]

theorem block_ne_nil (h : layout.Divides isText lines) {line : String} (hm : line ∈ lines)
    (hl : isText line = false) : layout.block ≠ [] := by
  intro hb
  rw [← h.parts, hb, List.append_nil, List.mem_append] at hm
  have ht : isText line = true := hm.elim (h.head line) (h.tail line)
  simp [hl] at ht

theorem exists_first (h : layout.Divides isText lines) (hb : layout.block ≠ []) :
    ∃ line rest, lines = layout.head ++ line :: rest ∧ isText line = false := by
  obtain ⟨line, rest, hblock⟩ := List.exists_cons_of_ne_nil hb
  refine ⟨line, rest ++ layout.tail, ?_, h.first line rest hblock⟩
  rw [← h.parts, hblock]
  simp

theorem exists_last (h : layout.Divides isText lines) (hb : layout.block ≠ []) :
    ∃ rest line, lines = rest ++ line :: layout.tail ∧ isText line = false := by
  obtain ⟨rest, line, hblock⟩ := layout.block.eq_nil_or_concat.resolve_left hb
  rw [List.concat_eq_append] at hblock
  refine ⟨layout.head ++ rest, line, ?_, h.last rest line hblock⟩
  rw [← h.parts, hblock]
  simp

end Divides

section Scan

variable (ex : Exclusion) (dir : Path) (source : String)

theorem divides_scan :
    (scan ex dir source).Divides (fun line => directive ex dir line = .text)
      (Text.split '\n' source) :=
  divides_ofLines _ _

theorem lifted_scan :
    (scan ex dir source).lifted ex dir =
      (Text.split '\n' source).filter fun line => directive ex dir line = .lift := by
  refine ((divides_scan ex dir source).filter_block ?_).symm
  intro line hl
  simp only [decide_eq_true_eq] at hl ⊢
  simp [hl]

end Scan

end Amalgam.Layout
