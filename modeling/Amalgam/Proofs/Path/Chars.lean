import Amalgam.Marker
import Amalgam.Proofs.Text.Lines

/-!
# The characters of a path

Cleaning a path drops segments and never makes new ones. So a character other
than a slash or a dot that two paths lack is not in what they are joined to,
nor in a directory, nor in the label of a header.
-/

namespace Amalgam

namespace Path

section Segments

variable {rooted : Bool} {segments kept : List (List Char)} {segment part : List Char}

theorem mem_of_mem_keep (h : segment ∈ keep rooted kept part) : segment ∈ kept ∨ segment = part := by
  unfold keep at h
  grind

theorem mem_of_mem_foldl_keep (h : segment ∈ segments.foldl (keep rooted) kept) :
    segment ∈ kept ∨ segment ∈ segments := by
  induction segments generalizing kept with
  | nil => exact .inl h
  | cons part segments ih =>
    rcases ih h with hk | hs
    · rcases mem_of_mem_keep hk with hk | rfl
      · exact .inl hk
      · exact .inr List.mem_cons_self
    · exact .inr (List.mem_cons_of_mem _ hs)

theorem mem_of_mem_reduce (h : segment ∈ reduce rooted segments) : segment ∈ segments := by
  rcases mem_of_mem_foldl_keep (List.mem_reverse.mp h) with hk | hs
  · cases hk
  · exact hs

end Segments

variable {c : Char} {p base rel : Path}

theorem mem_clean (h : c ∈ p.clean.toList) : c = '/' ∨ c = '.' ∨ c ∈ p.toList := by
  have hsegments : c ∈ Text.joinChars '/' (reduce p.isRooted (Text.splitChars '/' p.toList)) →
      c = '/' ∨ c = '.' ∨ c ∈ p.toList := by
    intro hm
    rcases Text.mem_joinChars hm with rfl | ⟨segment, hs, hc⟩
    · exact .inl rfl
    · exact .inr (.inr (Text.mem_of_mem_splitChars (mem_of_mem_reduce hs) hc))
  rw [clean, String.toList_ofList, render] at h
  split at h
  · rcases List.mem_cons.mp h with rfl | h
    · exact .inl rfl
    · exact hsegments h
  · split at h
    · exact .inr (.inl (by simpa [dot] using h))
    · exact hsegments h

section Lacking

variable (hs : c ≠ '/') (hd : c ≠ '.')
include hs hd

theorem not_mem_clean (h : c ∉ p.toList) : c ∉ p.clean.toList := by
  intro hm
  rcases mem_clean hm with e | e | hp
  · exact hs e
  · exact hd e
  · exact h hp

theorem not_mem_join (hb : c ∉ base.toList) (hr : c ∉ rel.toList) : c ∉ (base.join rel).toList := by
  rw [join]
  split
  · split
    · simp
    · exact not_mem_clean hs hd hr
  · split
    · exact not_mem_clean hs hd hb
    · exact not_mem_clean hs hd (by simp [hb, hr, hs])

theorem not_mem_dir (h : c ∉ p.toList) : c ∉ p.dir.toList := by
  rw [dir]
  split
  next => simpa using hd
  next => simpa using hs
  next before after _ hcut =>
    refine not_mem_clean hs hd ?_
    rw [String.toList_ofList]
    intro hm
    rw [(Text.of_cutLast? hcut).1] at h
    exact h (List.mem_append_left _ hm)

theorem not_mem_stripComponents {n : Nat} {q : Path} (hq : p.stripComponents n = .ok q)
    (h : c ∉ p.toList) : c ∉ q.toList := by
  rw [stripComponents] at hq
  split at hq
  · cases hq
  · cases hq
    rw [String.toList_ofList]
    intro hm
    rcases Text.mem_joinChars hm with e | ⟨part, hp, hc⟩
    · exact hs e
    · have hpart : part ∈ Text.splitChars '/' p.clean.toList :=
        (List.mem_filter.mp (List.mem_of_mem_drop hp)).1
      exact not_mem_clean hs hd h (Text.mem_of_mem_splitChars hpart hc)

end Lacking

end Path

theorem MarkerStyle.not_mem_label {style : MarkerStyle} {includeDir header : Path} {label : String}
    {c : Char} (hs : c ≠ '/') (hd : c ≠ '.') (hl : style.label includeDir header = .ok label)
    (h : c ∉ header.toList) : c ∉ label.toList := by
  rw [MarkerStyle.label] at hl
  split at hl
  · exact Path.not_mem_stripComponents hs hd hl h
  · cases hl
    exact h

end Amalgam
