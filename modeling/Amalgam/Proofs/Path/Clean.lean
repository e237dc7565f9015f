import Amalgam.Proofs.Path.Rooted

/-!
# Clean paths

Taking segments into account one by one leaves segments that stand: each of them
stays if those before it and then it are taken into account again (`Settled`). So
cleaning a cleaned path changes nothing, and a path joined to a directory takes
back the same segments whether the directory was cleaned beforehand or not.
-/

namespace Amalgam.Path

variable {rooted : Bool} {segments kept : List (List Char)} {segment : List Char}

-- ---------------------------------------------------------------------------
-- Segments that stand
-- ---------------------------------------------------------------------------

/-- Every segment stays when it is taken into account after those before it. The
last one is first. -/
inductive Settled (rooted : Bool) : List (List Char) → Prop where
  | nil : Settled rooted []
  | push {segment : List Char} {kept : List (List Char)} :
      Settled rooted kept → keep rooted kept segment = segment :: kept →
      Settled rooted (segment :: kept)

theorem keep_cases (rooted : Bool) (kept : List (List Char)) (segment : List Char) :
    keep rooted kept segment = kept ∨ keep rooted kept segment = kept.tail ∨
      keep rooted kept segment = segment :: kept := by
  unfold keep
  split
  · exact .inl rfl
  · split
    next hup =>
      subst hup
      cases kept with
      | nil => cases rooted <;> simp
      | cons last rest => cases rooted <;> by_cases hlast : last = dotdot <;> simp [hlast]
    next => exact .inr (.inr rfl)

theorem Settled.tail (h : Settled rooted kept) : Settled rooted kept.tail := by
  cases h with
  | nil => exact .nil
  | push hk _ => exact hk

theorem Settled.keep (h : Settled rooted kept) (segment : List Char) :
    Settled rooted (Path.keep rooted kept segment) := by
  rcases keep_cases rooted kept segment with hk | hk | hk
  · rwa [hk]
  · rw [hk]
    exact h.tail
  · rw [hk]
    exact .push h hk

theorem Settled.foldl (h : Settled rooted kept) (segments : List (List Char)) :
    Settled rooted (segments.foldl (Path.keep rooted) kept) := by
  induction segments generalizing kept with
  | nil => exact h
  | cons segment segments ih => exact ih (h.keep segment)

theorem Settled.foldl_reverse (h : Settled rooted kept) :
    kept.reverse.foldl (Path.keep rooted) [] = kept := by
  induction h with
  | nil => rfl
  | push _ hk ih =>
    -- the stack has its last segment first, and that one is taken into account last
    rw [List.reverse_cons, List.foldl_append, ih]
    exact hk

theorem foldl_reduce (rooted : Bool) (segments : List (List Char)) :
    (reduce rooted segments).foldl (keep rooted) [] = segments.foldl (keep rooted) [] :=
  (Settled.nil.foldl segments).foldl_reverse

-- ---------------------------------------------------------------------------
-- The text of what stands
-- ---------------------------------------------------------------------------

theorem foldl_splitChars_joinChars (hs : ∀ segment ∈ segments, '/' ∉ segment) :
    (Text.splitChars '/' (Text.joinChars '/' segments)).foldl (keep rooted) kept =
      segments.foldl (keep rooted) kept := by
  by_cases hne : segments = []
  · subst hne
    rfl
  · rw [Text.splitChars_joinChars hne hs]

theorem foldl_splitChars_render (hs : ∀ segment ∈ segments, '/' ∉ segment) :
    (Text.splitChars '/' (render rooted segments)).foldl (keep rooted) kept =
      segments.foldl (keep rooted) kept := by
  cases rooted with
  | true =>
    -- the slash in front makes an empty segment
    rw [render, if_pos rfl, ← foldl_splitChars_joinChars hs]
    rfl
  | false =>
    rw [render, if_neg (by simp)]
    split
    next hne =>
      subst hne
      rfl
    next => exact foldl_splitChars_joinChars hs

/-- The segments of a path that stand. -/
def route (p : Path) : List (List Char) :=
  reduce p.isRooted (Text.splitChars '/' p.toList)

variable {p base : Path}

theorem clean_eq_render (p : Path) : p.clean = String.ofList (render p.isRooted p.route) := rfl

theorem clean_congr {q : Path} (hrooted : p.isRooted = q.isRooted) (hroute : p.route = q.route) :
    p.clean = q.clean := by
  rw [clean_eq_render, clean_eq_render, hrooted, hroute]

theorem not_mem_route (h : segment ∈ p.route) : '/' ∉ segment :=
  Text.not_mem_of_mem_splitChars (mem_of_mem_reduce h)

theorem foldl_route (p : Path) :
    p.route.foldl (keep p.isRooted) [] =
      (Text.splitChars '/' p.toList).foldl (keep p.isRooted) [] :=
  foldl_reduce _ _

theorem foldl_clean (p : Path) :
    (Text.splitChars '/' p.clean.toList).foldl (keep p.isRooted) [] =
      (Text.splitChars '/' p.toList).foldl (keep p.isRooted) [] := by
  rw [clean_eq_render, String.toList_ofList,
    foldl_splitChars_render fun _ => not_mem_route, foldl_route]

theorem route_clean (p : Path) : p.clean.route = p.route := by
  rw [route, isRooted_clean, reduce, foldl_clean]
  rfl

@[simp] theorem clean_clean (p : Path) : p.clean.clean = p.clean :=
  clean_congr (isRooted_clean p) (route_clean p)

-- ---------------------------------------------------------------------------
-- Joining to a cleaned directory
-- ---------------------------------------------------------------------------

theorem route_append (h : base ≠ "") (rel : Path) :
    route (base ++ "/" ++ rel) =
      ((Text.splitChars '/' rel.toList).foldl (keep base.isRooted)
        ((Text.splitChars '/' base.toList).foldl (keep base.isRooted) [])).reverse := by
  have hchars : (base ++ "/" ++ rel).toList = base.toList ++ '/' :: rel.toList := by simp
  rw [route, isRooted_append h, hchars, Text.splitChars_append_sep, reduce, List.foldl_append]

theorem clean_append_clean (h : base ≠ "") (rel : Path) :
    clean (base.clean ++ "/" ++ rel) = clean (base ++ "/" ++ rel) := by
  have hclean := clean_ne_empty base
  refine clean_congr ?_ ?_
  · rw [isRooted_append hclean, isRooted_append h, isRooted_clean]
  · rw [route_append hclean, route_append h, isRooted_clean, foldl_clean]

theorem clean_join (h : base ≠ "") (rel : Path) : base.clean.join rel = base.join rel := by
  rw [join, join, if_neg (clean_ne_empty base), if_neg h, clean_clean, clean_append_clean h]

theorem isWithin_clean (p base : Path) : p.isWithin base.clean = p.isWithin base := by
  rw [isWithin, isWithin, clean_clean]

theorem componentCount_clean (p : Path) : p.clean.componentCount = p.componentCount := by
  rw [componentCount, componentCount, components, components, clean_clean]

end Amalgam.Path
