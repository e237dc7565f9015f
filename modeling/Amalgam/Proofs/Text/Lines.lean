import Amalgam.Text.Lines

/-!
# Laws of cutting and joining

A part holds no separator, and parts that hold none come back when they are
joined and cut again; so do lines that each got a line feed.

`lines` and `split '\n'` read one text by two rules. Whoever does not mind a
return at the end of a line and passes over empty lines learns the same from
both (`filterMap_lines`).
-/

namespace Amalgam.Text

variable {sep c : Char} {cs part : List Char} {parts : List (List Char)}

-- ---------------------------------------------------------------------------
-- Parts
-- ---------------------------------------------------------------------------

theorem splitChars_of_not_mem (h : sep ∉ part) : splitChars sep part = [part] := by
  induction part with
  | nil => rfl
  | cons c part ih =>
    obtain ⟨hc, hp⟩ := not_or.mp (mt List.mem_cons.mpr h)
    rw [splitChars, if_neg (Ne.symm hc), ih hp]

theorem splitChars_append_sep (sep : Char) (before after : List Char) :
    splitChars sep (before ++ sep :: after) = splitChars sep before ++ splitChars sep after := by
  induction before with
  | nil => simp [splitChars]
  | cons c before ih =>
    rw [List.cons_append, splitChars, splitChars, ih]
    split
    · rfl
    · cases hs : splitChars sep before with
      | nil => exact absurd hs (splitChars_ne_nil sep before)
      | cons part parts => rfl

theorem splitChars_append_cons (h : sep ∉ part) (cs : List Char) :
    splitChars sep (part ++ sep :: cs) = part :: splitChars sep cs := by
  rw [splitChars_append_sep, splitChars_of_not_mem h, List.singleton_append]

theorem splitChars_cons_ne (h : c ≠ sep) (cs : List Char) :
    ∃ part parts, splitChars sep cs = part :: parts ∧
      splitChars sep (c :: cs) = (c :: part) :: parts := by
  cases hs : splitChars sep cs with
  | nil => exact absurd hs (splitChars_ne_nil sep cs)
  | cons part parts => exact ⟨part, parts, rfl, by rw [splitChars, if_neg h, hs]⟩

theorem not_mem_of_mem_splitChars (h : part ∈ splitChars sep cs) : sep ∉ part := by
  induction cs generalizing part with
  | nil => simp_all [splitChars]
  | cons c cs ih =>
    by_cases hc : c = sep
    · rw [splitChars, if_pos hc] at h
      rcases List.mem_cons.mp h with rfl | h
      · simp
      · exact ih h
    · obtain ⟨first, parts, hs, hcons⟩ := splitChars_cons_ne hc cs
      rw [hcons] at h
      rcases List.mem_cons.mp h with rfl | h
      · simp [Ne.symm hc, ih (hs ▸ List.mem_cons_self)]
      · exact ih (hs ▸ List.mem_cons_of_mem _ h)

theorem mem_joinChars (h : c ∈ joinChars sep parts) : c = sep ∨ ∃ part ∈ parts, c ∈ part := by
  induction parts with
  | nil => cases h
  | cons part parts ih =>
    cases parts with
    | nil => exact .inr ⟨part, by simp, h⟩
    | cons next parts =>
      rw [joinChars, List.mem_append, List.mem_cons] at h
      rcases h with h | rfl | h
      · exact .inr ⟨part, by simp, h⟩
      · exact .inl rfl
      · rcases ih h with rfl | ⟨other, ho, hc⟩
        · exact .inl rfl
        · exact .inr ⟨other, List.mem_cons_of_mem _ ho, hc⟩

theorem mem_joinChars_of_mem (h : part ∈ parts) (hc : c ∈ part) : c ∈ joinChars sep parts := by
  induction parts with
  | nil => cases h
  | cons first parts ih =>
    cases parts with
    | nil =>
      obtain rfl : part = first := by simpa using h
      exact hc
    | cons next parts =>
      rw [joinChars, List.mem_append, List.mem_cons]
      rcases List.mem_cons.mp h with rfl | h
      · exact .inl hc
      · exact .inr (.inr (ih h))

theorem mem_of_mem_splitChars (h : part ∈ splitChars sep cs) (hc : c ∈ part) : c ∈ cs := by
  rw [← joinChars_splitChars sep cs]
  exact mem_joinChars_of_mem h hc

theorem splitChars_joinChars (hne : parts ≠ []) (h : ∀ part ∈ parts, sep ∉ part) :
    splitChars sep (joinChars sep parts) = parts := by
  induction parts with
  | nil => exact absurd rfl hne
  | cons part parts ih =>
    cases parts with
    | nil => exact splitChars_of_not_mem (h part (by simp))
    | cons next parts =>
      rw [joinChars, splitChars_append_cons (h part (by simp)), ih (by simp)]
      exact fun other ho => h other (List.mem_cons_of_mem _ ho)

theorem joinChars_append {parts' : List (List Char)} (h : parts ≠ []) (h' : parts' ≠ []) :
    joinChars sep (parts ++ parts') = joinChars sep parts ++ sep :: joinChars sep parts' := by
  induction parts with
  | nil => exact absurd rfl h
  | cons part parts ih =>
    cases parts with
    | nil =>
      obtain ⟨next, rest, rfl⟩ := List.exists_cons_of_ne_nil h'
      rfl
    | cons next parts =>
      rw [List.cons_append, List.cons_append, joinChars, joinChars, List.append_assoc,
        List.cons_append, ← ih (by simp), List.cons_append]

theorem cutLast?_eq_none : cutLast? sep cs = none ↔ sep ∉ cs := by
  induction cs with
  | nil => simp [cutLast?]
  | cons c cs ih =>
    rw [cutLast?, List.mem_cons, not_or, ← ih]
    cases hcut : cutLast? sep cs with
    | some cut => simp
    | none => simp [eq_comm]

theorem of_cutLast? {before after : List Char} (h : cutLast? sep cs = some (before, after)) :
    cs = before ++ sep :: after ∧ sep ∉ after := by
  induction cs generalizing before with
  | nil => cases h
  | cons c cs ih =>
    rw [cutLast?] at h
    split at h
    next hcut =>
      cases h
      obtain ⟨rfl, ha⟩ := ih hcut
      exact ⟨rfl, ha⟩
    next hcut =>
      split at h
      next hc =>
        cases h
        exact ⟨by rw [hc]; rfl, cutLast?_eq_none.mp hcut⟩
      next => cases h

-- ---------------------------------------------------------------------------
-- Lines with their line feeds
-- ---------------------------------------------------------------------------

theorem not_mem_of_mem_split {s line : String} (h : line ∈ split sep s) : sep ∉ line.toList := by
  obtain ⟨part, hp, rfl⟩ := List.mem_map.mp h
  rw [String.toList_ofList]
  exact not_mem_of_mem_splitChars hp

theorem mem_of_mem_split {s line : String} (h : line ∈ split sep s) (hc : c ∈ line.toList) :
    c ∈ s.toList := by
  obtain ⟨part, hp, rfl⟩ := List.mem_map.mp h
  rw [String.toList_ofList] at hc
  exact mem_of_mem_splitChars hp hc

theorem split_join {lines : List String} (hne : lines ≠ []) (h : ∀ line ∈ lines, sep ∉ line.toList) :
    split sep (join sep lines) = lines := by
  rw [split, join, String.toList_ofList, splitChars_joinChars (by simpa using hne) (by simpa using h)]
  simp [Function.comp_def]

theorem split_unlines_append {lines : List String} (h : ∀ line ∈ lines, '\n' ∉ line.toList)
    (s : String) : split '\n' (unlines lines ++ s) = lines ++ split '\n' s := by
  induction lines with
  | nil => simp [unlines]
  | cons line lines ih =>
    have ih := ih fun other ho => h other (List.mem_cons_of_mem _ ho)
    simp only [split, unlines, String.toList_append, String.toList_ofList] at ih ⊢
    simp [splitChars_append_cons (h line (by simp)), ih]

-- ---------------------------------------------------------------------------
-- Two ways to read lines
-- ---------------------------------------------------------------------------

def dropReturn (line : String) : String :=
  String.ofList (chopReturn line.toList)

theorem chopReturn_concat (line : List Char) : chopReturn (line ++ ['\r']) = line := by
  simp [chopReturn]

theorem chopReturn_cases (line : List Char) :
    chopReturn line = line ∨ line = chopReturn line ++ ['\r'] := by
  by_cases h : line.getLast? = some '\r'
  · obtain ⟨rest, rfl⟩ := List.getLast?_eq_some_iff.mp h
    exact .inr (by rw [chopReturn_concat])
  · exact .inl (if_neg h)

theorem dropReturn_append (line : String) : dropReturn (line ++ "\r") = line := by
  simp [dropReturn, chopReturn]

theorem dropReturn_cases (line : String) : dropReturn line = line ∨ line = dropReturn line ++ "\r" := by
  rcases chopReturn_cases line.toList with h | h
  · exact .inl (by simp [dropReturn, h])
  · refine .inr (String.toList_inj.mp ?_)
    simpa [dropReturn] using h

variable {β : Type}

theorem filterMap_endLines {f : List Char → Option β} (he : f [] = none)
    (hr : ∀ part ∈ parts, f (chopReturn part) = f part) :
    (endLines parts).filterMap f = parts.filterMap f := by
  induction parts with
  | nil => rfl
  | cons part parts ih =>
    cases parts with
    | nil =>
      rw [endLines]
      split
      next h => simp [h, he]
      next => rfl
    | cons next parts =>
      have ih := ih fun other ho => hr other (List.mem_cons_of_mem _ ho)
      rw [endLines, List.filterMap_cons, List.filterMap_cons, hr part (by simp), ih]

theorem filterMap_lines {f : String → Option β} {s : String} (he : f "" = none)
    (hr : ∀ line ∈ split '\n' s, f (dropReturn line) = f line) :
    (lines s).filterMap f = (split '\n' s).filterMap f := by
  rw [lines, split, List.filterMap_map, List.filterMap_map]
  refine filterMap_endLines he fun part hp => ?_
  simpa [dropReturn] using hr _ (List.mem_map_of_mem hp)

theorem mem_endLines (h : part ∈ endLines parts) :
    ∃ other ∈ parts, part = other ∨ part = chopReturn other := by
  induction parts with
  | nil => cases h
  | cons first parts ih =>
    cases parts with
    | nil =>
      rw [endLines] at h
      split at h
      next => cases h
      next => exact ⟨part, h, .inl rfl⟩
    | cons next parts =>
      rw [endLines] at h
      rcases List.mem_cons.mp h with rfl | h
      · exact ⟨first, by simp, .inr rfl⟩
      · obtain ⟨other, ho, he⟩ := ih h
        exact ⟨other, List.mem_cons_of_mem _ ho, he⟩

theorem mem_lines {s line : String} (h : line ∈ lines s) :
    ∃ part ∈ split '\n' s, line = part ∨ line = dropReturn part := by
  obtain ⟨part, hp, rfl⟩ := List.mem_map.mp h
  obtain ⟨other, ho, he⟩ := mem_endLines hp
  refine ⟨String.ofList other, List.mem_map_of_mem ho, ?_⟩
  rcases he with rfl | rfl
  · exact .inl rfl
  · exact .inr (by simp [dropReturn])

theorem chopReturn_mem_endLines (h : part ∈ parts.dropLast) : chopReturn part ∈ endLines parts := by
  induction parts with
  | nil => cases h
  | cons first parts ih =>
    cases parts with
    | nil => cases h
    | cons next parts =>
      rw [List.dropLast_cons_cons] at h
      rw [endLines]
      rcases List.mem_cons.mp h with rfl | h
      · exact List.mem_cons_self
      · exact List.mem_cons_of_mem _ (ih h)

theorem dropReturn_mem_lines {s line : String} (h : line ∈ (split '\n' s).dropLast) :
    dropReturn line ∈ lines s := by
  rw [split, ← List.map_dropLast] at h
  obtain ⟨part, hp, rfl⟩ := List.mem_map.mp h
  rw [dropReturn, String.toList_ofList]
  exact List.mem_map_of_mem (chopReturn_mem_endLines hp)

theorem mem_dropReturn {line : String} (h : c ∈ (dropReturn line).toList) : c ∈ line.toList := by
  rcases dropReturn_cases line with hl | hl
  · rwa [hl] at h
  · rw [hl, String.toList_append]
    exact List.mem_append_left _ h

theorem not_mem_of_mem_lines {s line : String} (h : line ∈ lines s) : '\n' ∉ line.toList := by
  obtain ⟨part, hp, hl⟩ := mem_lines h
  have hn := not_mem_of_mem_split hp
  rcases hl with rfl | rfl
  · exact hn
  · exact mt mem_dropReturn hn

end Amalgam.Text
