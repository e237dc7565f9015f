import Amalgam.Proofs.Directive
import Amalgam.Proofs.Walk.Reach

/-!
# The root under two readings

A walk reads the lines of the root as it reads those of headers; a layout cuts
the root at line feeds and keeps returns. Both follow the same includes in the
same order. In a root without returns they also lift the same lines.
-/

namespace Amalgam

variable {ex : Exclusion} {dir target : Path} {source : String}

theorem followed_lines (ex : Exclusion) (dir : Path) (source : String) :
    followed ex dir (Text.lines source) = followed ex dir (Text.split '\n' source) := by
  refine Text.filterMap_lines ?_ fun line _ => ?_
  · rw [directive_empty]
  · rw [directive_dropReturn]

theorem follows_iff :
    Follows ex dir source target ↔
      ∃ line ∈ Text.split '\n' source, directive ex dir line = .follow target := by
  rw [← mem_followed, followed_lines, mem_followed_iff]

theorem dropReturn_of_mem_split {line : String} (hr : '\r' ∉ source.toList)
    (hl : line ∈ Text.split '\n' source) : Text.dropReturn line = line := by
  rcases Text.dropReturn_cases line with h | h
  · exact h
  · refine absurd (Text.mem_of_mem_split hl ?_) hr
    rw [h]
    simp

theorem filter_lines (hr : '\r' ∉ source.toList) {p : String → Bool} (hp : p "" = false) :
    (Text.lines source).filter p = (Text.split '\n' source).filter p := by
  rw [← List.filterMap_eq_filter]
  refine Text.filterMap_lines ?_ fun line hl => ?_
  · simp [hp]
  · rw [dropReturn_of_mem_split hr hl]

end Amalgam
