import Amalgam.Proofs.Path.Clean

/-!
# Routes

The route of a path is the list of its segments that stand. Together with the
first slash it is all that a path means: two paths have the same clean form
exactly if they agree on both (`clean_eq_clean`).

A `..` stands only in a relative path, and only after other `..`. Joining a
relative path to a base walks on from the route of the base by the route of the
relative path (`route_join`).
-/

namespace Amalgam.Path

variable {rooted : Bool} {segments kept below : List (List Char)} {segment : List Char}
  {p q base rel : Path}

-- ---------------------------------------------------------------------------
-- Taking one segment into account
-- ---------------------------------------------------------------------------

theorem keep_of_name (hempty : segment ≠ []) (hdot : segment ≠ dot) (hup : segment ≠ dotdot)
    (kept : List (List Char)) : keep rooted kept segment = segment :: kept := by
  simp [keep, hempty, hdot, hup]

theorem keep_dotdot_nil (rooted : Bool) :
    keep rooted [] dotdot = if rooted then [] else [dotdot] := by
  rw [keep, if_neg (by decide), if_pos rfl]

theorem keep_dotdot_cons (rooted : Bool) (last : List Char) (rest : List (List Char)) :
    keep rooted (last :: rest) dotdot =
      if last = dotdot then (if rooted then last :: rest else dotdot :: last :: rest) else rest := by
  rw [keep, if_neg (by decide), if_pos rfl]

theorem keep_dotdot_eq_cons :
    keep rooted kept dotdot = dotdot :: kept ↔
      rooted = false ∧ ∀ last ∈ kept.head?, last = dotdot := by
  cases kept with
  | nil =>
    rw [keep_dotdot_nil]
    cases rooted <;> simp
  | cons last rest =>
    rw [keep_dotdot_cons]
    by_cases hlast : last = dotdot
    · cases rooted <;> simp [hlast]
    · simp only [List.head?_cons, Option.mem_some_iff, forall_eq', hlast, and_false, iff_false]
      intro h
      have hlen := congrArg List.length h
      simp at hlen
      omega

theorem keep_eq_cons :
    keep rooted kept segment = segment :: kept ↔
      segment ≠ [] ∧ segment ≠ dot ∧
        (segment = dotdot → rooted = false ∧ ∀ last ∈ kept.head?, last = dotdot) := by
  by_cases hup : segment = dotdot
  · subst hup
    have hempty : dotdot ≠ [] := by decide
    have hdot : dotdot ≠ dot := by decide
    simp [keep_dotdot_eq_cons, hempty, hdot]
  · by_cases hname : segment = [] ∨ segment = dot
    · rcases hname with rfl | rfl
      · simp [keep]
      · simp [keep]
    · obtain ⟨hempty, hdot⟩ := not_or.mp hname
      simp [keep_of_name hempty hdot hup, hempty, hdot, hup]

-- ---------------------------------------------------------------------------
-- Segments that stand
-- ---------------------------------------------------------------------------

namespace Settled

theorem ne_of_mem (h : Settled rooted kept) (hm : segment ∈ kept) :
    segment ≠ [] ∧ segment ≠ dot := by
  induction h with
  | nil => cases hm
  | push _ hk ih =>
    rcases List.mem_cons.mp hm with rfl | hm
    · obtain ⟨hempty, hdot, -⟩ := keep_eq_cons.mp hk
      exact ⟨hempty, hdot⟩
    · exact ih hm

theorem before_dotdot {after before : List (List Char)}
    (h : Settled rooted (after ++ dotdot :: before)) :
    rooted = false ∧ ∀ segment ∈ before, segment = dotdot := by
  induction after with
  | cons last after ih =>
    cases h with
    | push h _ => exact ih h
  -- each `..` could be pushed only because the one before it is a `..`
  | nil =>
    induction before with
    | nil =>
      cases h with
      | push _ hk => exact ⟨(keep_dotdot_eq_cons.mp hk).1, by simp⟩
    | cons last before ih =>
      cases h with
      | push h hk =>
        obtain ⟨hrooted, hlast⟩ := keep_dotdot_eq_cons.mp hk
        obtain rfl : last = dotdot := hlast last rfl
        exact ⟨hrooted, List.forall_mem_cons.mpr ⟨rfl, (ih h).2⟩⟩

theorem relative (h : Settled rooted kept) : Settled false kept := by
  induction h with
  | nil => exact .nil
  | push _ hk ih =>
    obtain ⟨hempty, hdot, hup⟩ := keep_eq_cons.mp hk
    exact .push ih (keep_eq_cons.mpr ⟨hempty, hdot, fun e => ⟨rfl, (hup e).2⟩⟩)

theorem of_append (h : Settled rooted (kept ++ below)) : Settled rooted kept := by
  induction kept with
  | nil => exact .nil
  | cons segment kept ih =>
    cases h with
    | push h hk =>
      obtain ⟨hempty, hdot, hup⟩ := keep_eq_cons.mp hk
      refine .push (ih h) (keep_eq_cons.mpr ⟨hempty, hdot, fun e => ?_⟩)
      obtain ⟨hrooted, hlast⟩ := hup e
      refine ⟨hrooted, fun last hm => hlast last ?_⟩
      obtain ⟨rest, rfl⟩ := List.head?_eq_some_iff.mp hm
      rfl

theorem append_dotdot (h : Settled false kept) (hbelow : ∀ segment ∈ below, segment = dotdot) :
    Settled false (kept ++ below) := by
  induction h with
  | nil =>
    rw [List.nil_append]
    induction below with
    | nil => exact .nil
    | cons segment below ih =>
      obtain ⟨rfl, htail⟩ := List.forall_mem_cons.mp hbelow
      refine .push (ih htail) (keep_dotdot_eq_cons.mpr ⟨rfl, fun last hm => htail last ?_⟩)
      exact List.mem_of_head? hm
  | @push segment kept _ hk ih =>
    obtain ⟨hempty, hdot, hup⟩ := keep_eq_cons.mp hk
    refine .push ih (keep_eq_cons.mpr ⟨hempty, hdot, fun e => ⟨rfl, fun last hm => ?_⟩⟩)
    cases kept with
    | nil => exact hbelow last (List.mem_of_head? hm)
    | cons last' kept => exact (hup e).2 last hm

end Settled

theorem foldl_keep_names (h : ∀ segment ∈ segments, segment ≠ [] ∧ segment ≠ dot ∧ segment ≠ dotdot)
    (kept : List (List Char)) :
    segments.foldl (keep rooted) kept = segments.reverse ++ kept := by
  induction segments generalizing kept with
  | nil => rfl
  | cons segment segments ih =>
    obtain ⟨⟨hempty, hdot, hup⟩, hrest⟩ := List.forall_mem_cons.mp h
    rw [List.foldl_cons, keep_of_name hempty hdot hup, ih hrest]
    simp

-- ---------------------------------------------------------------------------
-- Relative segments after others
-- ---------------------------------------------------------------------------

/-- One more segment, whether taken into account among relative ones first or
after all of them. -/
theorem foldl_keep_relative (h : Settled false kept) (segment : List Char) (base : List (List Char)) :
    (keep false kept segment).reverse.foldl (keep rooted) base =
      keep rooted (kept.reverse.foldl (keep rooted) base) segment := by
  by_cases hstays : keep false kept segment = segment :: kept
  · rw [hstays, List.reverse_cons, List.foldl_append]
    rfl
  · by_cases hname : segment = [] ∨ segment = dot
    · simp [keep, hname]
    -- what does not stay and is not passed over is a `..` that takes back a name
    · obtain ⟨hempty, hdot⟩ := not_or.mp hname
      obtain rfl : segment = dotdot :=
        Decidable.not_not.mp fun hup => hstays (keep_of_name hempty hdot hup kept)
      cases h with
      | nil => exact absurd rfl hstays
      | @push last rest hrest hk =>
        obtain ⟨hempty', hdot', -⟩ := keep_eq_cons.mp hk
        have hlast : last ≠ dotdot := by
          rintro rfl
          exact hstays (keep_dotdot_eq_cons.mpr ⟨rfl, by simp⟩)
        rw [keep_dotdot_cons, if_neg hlast, List.reverse_cons, List.foldl_append, List.foldl_cons,
          List.foldl_nil, keep_of_name hempty' hdot' hlast, keep_dotdot_cons, if_neg hlast]

theorem foldl_foldl_relative (h : Settled false kept) (segments base : List (List Char)) :
    (segments.foldl (keep false) kept).reverse.foldl (keep rooted) base =
      segments.foldl (keep rooted) (kept.reverse.foldl (keep rooted) base) := by
  induction segments generalizing kept with
  | nil => rfl
  | cons segment segments ih =>
    rw [List.foldl_cons, List.foldl_cons, ih (h.keep segment), foldl_keep_relative h]

-- ---------------------------------------------------------------------------
-- Routes
-- ---------------------------------------------------------------------------

theorem foldl_splitChars (p : Path) :
    (Text.splitChars '/' p.toList).foldl (keep p.isRooted) [] = p.route.reverse := by
  rw [route, reduce, List.reverse_reverse]

theorem settled_route (p : Path) : Settled p.isRooted p.route.reverse := by
  rw [← foldl_splitChars]
  exact Settled.nil.foldl _

theorem foldl_route_self (p : Path) : p.route.foldl (keep p.isRooted) [] = p.route.reverse := by
  rw [foldl_route, foldl_splitChars]

theorem ne_of_mem_route (h : segment ∈ p.route) : segment ≠ [] ∧ segment ≠ dot :=
  p.settled_route.ne_of_mem (List.mem_reverse.mpr h)

theorem before_dotdot {before after : List (List Char)} (h : p.route = before ++ dotdot :: after) :
    p.isRooted = false ∧ ∀ segment ∈ before, segment = dotdot := by
  have hsettled := p.settled_route
  simp only [h, List.reverse_append, List.reverse_cons, List.append_assoc,
    List.singleton_append] at hsettled
  obtain ⟨hrooted, hbefore⟩ := hsettled.before_dotdot
  exact ⟨hrooted, by simpa using hbefore⟩

theorem clean_eq_clean : p.clean = q.clean ↔ p.isRooted = q.isRooted ∧ p.route = q.route := by
  constructor
  · intro h
    exact ⟨by rw [← isRooted_clean p, h, isRooted_clean], by rw [← route_clean p, h, route_clean]⟩
  · rintro ⟨hrooted, hroute⟩
    exact clean_congr hrooted hroute

theorem route_render (h : Settled rooted segments.reverse)
    (hs : ∀ segment ∈ segments, '/' ∉ segment) :
    isRooted (String.ofList (render rooted segments)) = rooted ∧
      route (String.ofList (render rooted segments)) = segments := by
  have hne : ∀ segment ∈ segments, segment ≠ [] :=
    fun segment hm => (h.ne_of_mem (List.mem_reverse.mpr hm)).1
  obtain ⟨c, rest, htext, hc⟩ := @render_eq_cons rooted segments hne hs
  have hrooted : isRooted (String.ofList (render rooted segments)) = rooted := by
    rw [Bool.eq_iff_iff, isRooted_iff, String.toList_ofList, htext, ← hc]
    simp
  refine ⟨hrooted, ?_⟩
  have hfold := h.foldl_reverse
  rw [List.reverse_reverse] at hfold
  rw [route, hrooted, String.toList_ofList, reduce, foldl_splitChars_render hs, hfold,
    List.reverse_reverse]

theorem route_joinChars (h : Settled false segments.reverse)
    (hs : ∀ segment ∈ segments, '/' ∉ segment) :
    isRooted (String.ofList (Text.joinChars '/' segments)) = false ∧
      route (String.ofList (Text.joinChars '/' segments)) = segments := by
  cases segments with
  | nil => exact ⟨rfl, rfl⟩
  | cons first rest =>
    have htext : Text.joinChars '/' (first :: rest) = render false (first :: rest) := by simp [render]
    rw [htext]
    exact route_render h hs

theorem route_joinChars_of_append {before rest : List (List Char)} (h : p.route = before ++ rest) :
    isRooted (String.ofList (Text.joinChars '/' rest)) = false ∧
      route (String.ofList (Text.joinChars '/' rest)) = rest := by
  have hsettled := p.settled_route
  rw [h, List.reverse_append] at hsettled
  refine route_joinChars hsettled.of_append.relative fun segment hm => ?_
  exact not_mem_route (h ▸ List.mem_append_right before hm)

/-- The route of a relative path does for its segments, wherever they are taken
into account. -/
theorem foldl_route_relative (hrel : rel.isRooted = false) (kept : List (List Char)) :
    rel.route.foldl (keep rooted) kept =
      (Text.splitChars '/' rel.toList).foldl (keep rooted) kept := by
  rw [route, hrel]
  exact foldl_foldl_relative .nil _ _

-- ---------------------------------------------------------------------------
-- Joining
-- ---------------------------------------------------------------------------

theorem clean_append_relative (h : base ≠ "") (hrel : rel.isRooted = false) :
    clean (base ++ "/" ++ rel.clean) = clean (base ++ "/" ++ rel) := by
  have hclean : rel.clean.isRooted = false := by rw [isRooted_clean, hrel]
  refine clean_congr ?_ ?_
  · rw [isRooted_append h, isRooted_append h]
  · rw [route_append h, route_append h, ← foldl_route_relative hclean, route_clean,
      foldl_route_relative hrel]

section Join

/- Only two empty paths have nothing to go by. -/
variable (h : base ≠ "" ∨ rel ≠ "") (hrel : rel.isRooted = false)
include h

theorem clean_join_self : (base.join rel).clean = base.join rel := by
  rw [join]
  split
  next hbase => rw [if_neg (h.resolve_left (not_not_intro hbase)), clean_clean]
  next => split <;> exact clean_clean _

include hrel

theorem isRooted_join_relative : (base.join rel).isRooted = base.isRooted := by
  by_cases hbase : base = ""
  · subst hbase
    have hne : rel ≠ "" := h.resolve_left (by simp)
    rw [join, if_pos rfl, if_neg hne, isRooted_clean, hrel]
    rfl
  · exact isRooted_join hbase rel

theorem route_join :
    (base.join rel).route =
      (rel.route.foldl (keep base.isRooted) base.route.reverse).reverse := by
  rw [foldl_route_relative hrel, join]
  split
  next hbase =>
    subst hbase
    rw [if_neg (h.resolve_left (by simp)), route_clean, route, hrel]
    rfl
  next hbase =>
    split
    next hempty =>
      subst hempty
      rw [route_clean]
      exact (List.reverse_reverse _).symm
    next => rw [route_clean, route_append hbase, foldl_splitChars]

theorem join_eq_clean :
    base.join rel = p.clean ↔
      p.isRooted = base.isRooted ∧
        p.route = (rel.route.foldl (keep base.isRooted) base.route.reverse).reverse := by
  rw [← clean_join_self h, clean_eq_clean, isRooted_join_relative h hrel, route_join h hrel]
  exact and_congr eq_comm eq_comm

theorem join_of_route (hrooted : p.isRooted = base.isRooted)
    (hroute : p.route = base.route ++ rel.route) : base.join rel = p.clean := by
  refine (join_eq_clean h hrel).mpr ⟨hrooted, ?_⟩
  -- walking the route of `p` again passes through the route of the base
  have hwalk := p.foldl_route_self
  rw [hrooted, hroute, List.foldl_append, foldl_route_self, ← hroute] at hwalk
  rw [hwalk, List.reverse_reverse]

end Join

end Amalgam.Path
