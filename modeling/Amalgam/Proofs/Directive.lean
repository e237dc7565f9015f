import Amalgam.Directive
import Amalgam.Proofs.Line.Sites

/-!
# What decides a directive

Excluded headers and directories decide between following and lifting, never
whether a line is text: that is the line's own affair, and a return at its end
does not matter. A header that is followed is named by a path without quotes and
line feeds, joined to the directory.
-/

namespace Amalgam

variable {ex : Exclusion} {dir target : Path} {line : String}

namespace Line

theorem exists_of_leftmost? {α : Type} {here? : List Char → Option α} {s : List Char} {found : α}
    (h : leftmost? here? s = some found) : ∃ s', s' <:+ s ∧ here? s' = some found := by
  obtain ⟨i, hi, -⟩ := leftmost?_eq_some.mp h
  exact ⟨s.drop i, List.drop_suffix i s, hi⟩

theorem not_mem_quotedPath? {path : String} (h : quotedPath? line = some path) :
    '"' ∉ path.toList ∧ '\n' ∉ path.toList := by
  obtain ⟨chars, hl, rfl⟩ := Option.map_eq_some_iff.mp h
  obtain ⟨s, -, hs⟩ := exists_of_leftmost? hl
  obtain ⟨_, _, hq, hn⟩ := quotedHere?_eq_some.mp hs
  rw [String.toList_ofList]
  exact ⟨hq, hn⟩

theorem quote_mem_of_quotedPath? {path : String} (h : quotedPath? line = some path) :
    '"' ∈ line.toList := by
  obtain ⟨chars, hl, rfl⟩ := Option.map_eq_some_iff.mp h
  obtain ⟨s, hsuffix, hs⟩ := exists_of_leftmost? hl
  obtain ⟨rest, ⟨blanks, rfl, -⟩, -⟩ := quotedHere?_eq_some.mp hs
  exact hsuffix.subset (by simp)

theorem classify_eq_quoted {path : String} :
    classify line = .quoted path ↔ quotedPath? line = some path := by
  unfold classify
  cases quotedPath? line with
  | some found => simp
  | none => cases angledName? line <;> simp

theorem classify_eq_text : classify line = .text ↔ isIncludeLine line = false := by
  have hquoted : (quotedPath? line).isSome = isQuotedInclude line := Option.isSome_map
  have hangled : (angledName? line).isSome = isAngledInclude line := Option.isSome_map
  rw [isIncludeLine, ← hquoted, ← hangled, classify]
  cases quotedPath? line with
  | some path => simp
  | none =>
    cases angledName? line with
    | some name => simp
    | none => simp

end Line

theorem directive_eq_text : directive ex dir line = .text ↔ isIncludeLine line = false := by
  rw [← Line.classify_eq_text, directive]
  cases Line.classify line with
  | quoted path =>
    simp only
    split <;> simp
  | angled name => simp
  | text => simp

theorem directive_ne_text : directive ex dir line ≠ .text ↔ isIncludeLine line = true := by
  rw [Ne, directive_eq_text, Bool.not_eq_false]

theorem isIncludeLine_of_lift (h : directive ex dir line = .lift) : isIncludeLine line = true := by
  have hne : directive ex dir line ≠ .text := by simp [h]
  exact directive_ne_text.mp hne

theorem directive_empty (ex : Exclusion) (dir : Path) : directive ex dir "" = .text :=
  directive_eq_text.mpr (by decide)

theorem directive_dropReturn (ex : Exclusion) (dir : Path) (line : String) :
    directive ex dir (Text.dropReturn line) = directive ex dir line := by
  rw [directive, directive, Line.classify_dropReturn]

theorem isIncludeLine_dropReturn (line : String) :
    isIncludeLine (Text.dropReturn line) = isIncludeLine line := by
  rw [Bool.eq_iff_iff, ← Bool.not_eq_false, ← Bool.not_eq_false, ← Line.classify_eq_text,
    ← Line.classify_eq_text, Line.classify_dropReturn]

/-- Where nothing is excluded, the directory does not matter to what is lifted. -/
theorem lift_of_isEmpty (hex : ex.isEmpty = true) (h : directive ex dir line = .lift) (dir' : Path) :
    directive ex dir' line = .lift := by
  have hnone : ∀ path, ex.excludes path = false := by
    intro path
    rw [Exclusion.isEmpty, List.isEmpty_iff] at hex
    rw [Exclusion.excludes, hex]
    rfl
  rw [directive] at h ⊢
  cases hc : Line.classify line with
  | quoted path => simp [hc, hnone] at h
  | angled name => rfl
  | text => simp [hc] at h

theorem directive_eq_follow :
    directive ex dir line = .follow target ↔
      ∃ path, Line.classify line = .quoted path ∧ dir.join path = target ∧
        ex.excludes target = false := by
  rw [directive]
  cases Line.classify line with
  | quoted path =>
    simp only [Line.quoted.injEq, exists_eq_left']
    split
    next hex =>
      simp only [reduceCtorEq, false_iff]
      rintro ⟨rfl, hnot⟩
      simp [hex] at hnot
    next hex =>
      simp only [Directive.follow.injEq, iff_self_and]
      rintro rfl
      simpa using hex
  | angled name => simp
  | text => simp

theorem quote_mem_of_follow (h : directive ex dir line = .follow target) : '"' ∈ line.toList := by
  obtain ⟨path, hc, -⟩ := directive_eq_follow.mp h
  exact Line.quote_mem_of_quotedPath? (Line.classify_eq_quoted.mp hc)

theorem exists_path_of_follow (h : directive ex dir line = .follow target) :
    ∃ path : Path, target = dir.join path ∧ '"' ∉ path.toList ∧ '\n' ∉ path.toList := by
  obtain ⟨path, hc, rfl, -⟩ := directive_eq_follow.mp h
  exact ⟨path, rfl, Line.not_mem_quotedPath? (Line.classify_eq_quoted.mp hc)⟩

end Amalgam
