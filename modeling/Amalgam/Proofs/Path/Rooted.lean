import Amalgam.Proofs.Path.Chars

/-!
# Rooted paths

Whether a path begins at the root is settled by its first character, and neither
cleaning nor joining another path to it nor taking its directory changes that.
-/

namespace Amalgam.Path

variable {rooted : Bool} {segments kept : List (List Char)} {p base : Path}

-- ---------------------------------------------------------------------------
-- Segments that stand
-- ---------------------------------------------------------------------------

theorem ne_nil_of_mem_keep {part : List Char} (h : ∀ segment ∈ kept, segment ≠ []) :
    ∀ segment ∈ keep rooted kept part, segment ≠ [] := by
  unfold keep
  grind [dotdot]

theorem ne_nil_of_mem_reduce : ∀ segment ∈ reduce rooted segments, segment ≠ [] := by
  have hfold : ∀ kept : List (List Char), (∀ segment ∈ kept, segment ≠ []) →
      ∀ segment ∈ segments.foldl (keep rooted) kept, segment ≠ [] := by
    induction segments with
    | nil => exact fun _ h => h
    | cons part segments ih => exact fun kept h => ih _ (ne_nil_of_mem_keep h)
  intro segment hs
  exact hfold [] (by simp) segment (List.mem_reverse.mp hs)

theorem joinChars_cons_cons (c : Char) (part : List Char) (parts : List (List Char)) :
    ∃ rest, Text.joinChars '/' ((c :: part) :: parts) = c :: rest := by
  cases parts with
  | nil => exact ⟨part, rfl⟩
  | cons next parts => exact ⟨part ++ '/' :: Text.joinChars '/' (next :: parts), rfl⟩

theorem render_eq_cons (hne : ∀ segment ∈ segments, segment ≠ [])
    (hs : ∀ segment ∈ segments, '/' ∉ segment) :
    ∃ c rest, render rooted segments = c :: rest ∧ (c = '/' ↔ rooted = true) := by
  cases rooted with
  | true => exact ⟨'/', _, rfl, by simp⟩
  | false =>
    cases segments with
    | nil => exact ⟨'.', [], rfl, by simp⟩
    | cons first rest =>
      obtain ⟨c, part, rfl⟩ := List.exists_cons_of_ne_nil (hne first List.mem_cons_self)
      obtain ⟨more, hmore⟩ := joinChars_cons_cons c part rest
      have hc : c ≠ '/' := fun e => hs _ List.mem_cons_self (e ▸ List.mem_cons_self)
      exact ⟨c, more, by simpa [render] using hmore, by simp [hc]⟩

-- ---------------------------------------------------------------------------
-- Paths
-- ---------------------------------------------------------------------------

theorem isRooted_iff : p.isRooted = true ↔ p.toList.head? = some '/' := by
  simp [isRooted]

theorem isRooted_of_not_mem (h : '/' ∉ p.toList) : p.isRooted = false := by
  rw [Bool.eq_false_iff, Ne, isRooted_iff]
  intro hhead
  exact h (List.mem_of_head? hhead)

theorem clean_eq_cons (p : Path) :
    ∃ c rest, p.clean.toList = c :: rest ∧ (c = '/' ↔ p.isRooted = true) := by
  rw [clean, String.toList_ofList]
  exact render_eq_cons ne_nil_of_mem_reduce fun segment hm =>
    Text.not_mem_of_mem_splitChars (mem_of_mem_reduce hm)

@[simp] theorem isRooted_clean (p : Path) : p.clean.isRooted = p.isRooted := by
  obtain ⟨c, rest, hp, hc⟩ := clean_eq_cons p
  rw [Bool.eq_iff_iff, isRooted_iff, hp, ← hc]
  simp

theorem clean_ne_empty (p : Path) : p.clean ≠ "" := by
  obtain ⟨c, rest, hp, -⟩ := clean_eq_cons p
  intro h
  simp [h] at hp

theorem isRooted_append {before after : Path} (h : before ≠ "") :
    isRooted (before ++ "/" ++ after) = before.isRooted := by
  obtain ⟨c, rest, hbefore⟩ := List.exists_cons_of_ne_nil (mt String.toList_eq_nil_iff.mp h)
  simp [isRooted, hbefore]

theorem isRooted_join (h : base ≠ "") (rel : Path) : (base.join rel).isRooted = base.isRooted := by
  rw [join, if_neg h]
  split
  · exact isRooted_clean base
  · rw [isRooted_clean, isRooted_append h]

theorem isRooted_dir (p : Path) : p.dir.isRooted = p.isRooted := by
  rw [dir]
  split
  next hcut =>
    rw [isRooted_of_not_mem (Text.cutLast?_eq_none.mp hcut)]
    rfl
  next after hcut =>
    have hp : p.isRooted = true := by rw [isRooted_iff, (Text.of_cutLast? hcut).1]; rfl
    rw [hp]
    rfl
  next before after hne hcut =>
    obtain ⟨c, rest, rfl⟩ := List.exists_cons_of_ne_nil hne
    rw [isRooted_clean, isRooted, isRooted, (Text.of_cutLast? hcut).1]
    simp

theorem dir_ne_empty (p : Path) : p.dir ≠ "" := by
  rw [dir]
  split
  next => decide
  next => decide
  next => exact clean_ne_empty _

end Amalgam.Path
