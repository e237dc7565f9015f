import Amalgam.Proofs.Path.Within
import Mathlib.Data.List.Induction

/-!
# Canonical paths

A canonical path is `.` or `/`, or it is made of segments that each mean something
where they stand. Cleaning gives a canonical path and leaves canonical paths alone,
so they are the fixed points of cleaning, one for each meaning a path can have.
-/

namespace Amalgam.Path

variable {rooted : Bool} {segments : List (List Char)} {p : Path}

/-- No segment is empty or `.` or holds a slash. A `..` stands in relative paths only,
and only after other `..`. -/
structure Standing (rooted : Bool) (segments : List (List Char)) : Prop where
  proper : ∀ segment ∈ segments, segment ≠ [] ∧ segment ≠ dot ∧ '/' ∉ segment
  climbs : ∀ before after, segments = before ++ dotdot :: after →
    rooted = false ∧ ∀ segment ∈ before, segment = dotdot

inductive Canonical : Path → Prop where
  | here : Canonical "."
  | root : Canonical "/"
  | relative {segments : List (List Char)} : segments ≠ [] → Standing false segments →
      Canonical (String.ofList (Text.joinChars '/' segments))
  | rooted {segments : List (List Char)} : segments ≠ [] → Standing true segments →
      Canonical (String.ofList ('/' :: Text.joinChars '/' segments))

-- ---------------------------------------------------------------------------
-- Segments
-- ---------------------------------------------------------------------------

theorem standing_route (p : Path) : Standing p.isRooted p.route := by
  refine ⟨?_, fun before after h => before_dotdot h⟩
  intro segment hm
  obtain ⟨hempty, hdot⟩ := ne_of_mem_route hm
  exact ⟨hempty, hdot, not_mem_route hm⟩

theorem Standing.settled (h : Standing rooted segments) : Settled rooted segments.reverse := by
  induction segments using List.reverseRecOn with
  | nil => exact .nil
  | append_singleton segments last ih =>
    obtain ⟨proper, climbs⟩ := h
    rw [List.reverse_append, List.reverse_singleton, List.singleton_append]
    refine .push (ih ⟨?_, ?_⟩) (keep_eq_cons.mpr ?_)
    · intro segment hm
      exact proper segment (List.mem_append_left _ hm)
    · rintro before after rfl
      exact climbs before (after ++ [last]) (by simp)
    · obtain ⟨hempty, hdot, -⟩ := proper last (by simp)
      refine ⟨hempty, hdot, ?_⟩
      rintro rfl
      obtain ⟨hrooted, hbefore⟩ := climbs segments [] rfl
      refine ⟨hrooted, ?_⟩
      intro segment hm
      exact hbefore segment (List.mem_reverse.mp (List.mem_of_head? hm))

theorem Standing.exists_climb (h : Standing false segments) :
    ∃ levels names, segments = List.replicate levels dotdot ++ names ∧ dotdot ∉ names := by
  induction segments with
  | nil => exact ⟨0, [], rfl, by simp⟩
  | cons segment rest ih =>
    by_cases hup : segment = dotdot
    · have hrest : Standing false rest := by
        refine ⟨fun s hm => h.proper s (List.mem_cons_of_mem _ hm), ?_⟩
        rintro before after rfl
        obtain ⟨-, hbefore⟩ := h.climbs (segment :: before) after rfl
        exact ⟨rfl, fun s hm => hbefore s (List.mem_cons_of_mem _ hm)⟩
      obtain ⟨levels, names, rfl, hnames⟩ := ih hrest
      exact ⟨levels + 1, names, by rw [hup, List.replicate_succ, List.cons_append], hnames⟩
    · refine ⟨0, segment :: rest, rfl, fun hm => ?_⟩
      obtain ⟨before, after, heq⟩ := List.append_of_mem hm
      obtain ⟨-, hbefore⟩ := h.climbs before after heq
      -- the first segment stands before the climb or is the climb itself
      cases before with
      | nil => exact hup (List.cons.inj heq).1
      | cons first before =>
        exact hup ((List.cons.inj heq).1.trans (hbefore first List.mem_cons_self))

theorem Standing.clean_render (h : Standing rooted segments) :
    clean (String.ofList (render rooted segments)) = String.ofList (render rooted segments) := by
  obtain ⟨hrooted, hroute⟩ := route_render h.settled fun segment hm => (h.proper segment hm).2.2
  rw [clean_eq_render, hrooted, hroute]

-- ---------------------------------------------------------------------------
-- Canonical paths are the clean ones
-- ---------------------------------------------------------------------------

theorem Standing.canonical (h : Standing rooted segments) :
    Canonical (String.ofList (render rooted segments)) := by
  by_cases hne : segments = []
  · subst hne
    cases rooted with
    | true => exact .root
    | false => exact .here
  · cases rooted with
    | true => exact .rooted hne h
    | false =>
      simp only [render, Bool.false_eq_true, if_false, if_neg hne]
      exact .relative hne h

theorem canonical_clean (p : Path) : p.clean.Canonical := by
  rw [clean_eq_render]
  exact p.standing_route.canonical

theorem Canonical.clean_eq (h : p.Canonical) : p.clean = p := by
  cases h with
  | here => decide +kernel
  | root => decide +kernel
  | relative hne h => simpa [render, hne] using h.clean_render
  | rooted hne h => simpa [render] using h.clean_render

theorem clean_eq_self : p.clean = p ↔ p.Canonical :=
  ⟨fun h => h ▸ p.canonical_clean, Canonical.clean_eq⟩

instance (p : Path) : Decidable p.Canonical :=
  decidable_of_iff _ clean_eq_self

/-- Cleaning gives a canonical path that is rooted if the path was, and changes no
canonical path. What a path appended to another means depends on nothing but what
the two mean. -/
theorem clean_gives_canonical (p : Path) :
    p.clean.Canonical ∧
    (p.clean.isRooted = true ↔ p.isRooted = true) ∧
    (p.clean = p ↔ p.Canonical) ∧
    p.clean.clean = p.clean ∧
    ∀ base : Path, base ≠ "" → p.isRooted = false →
      clean (base ++ "/" ++ p) = clean (base.clean ++ "/" ++ p.clean) := by
  refine ⟨canonical_clean p, by rw [isRooted_clean], clean_eq_self, clean_clean p, ?_⟩
  intro base hbase hrel
  rw [clean_append_clean hbase, clean_append_relative hbase hrel]

theorem clean_gives_canonical_climbing :
    ¬ Canonical "./lib/../../a//b.h" ∧ Canonical "../a/b.h" ∧
    clean "/inc/x/.././lib/../../a//b.h" = clean "/inc/../a/b.h" := by
  obtain ⟨hcanonical, -, hself, -, happend⟩ := clean_gives_canonical "./lib/../../a//b.h"
  have hclean : clean "./lib/../../a//b.h" = "../a/b.h" := by decide +kernel
  have hbase : clean "/inc/x/.." = "/inc" := by decide +kernel
  have hjoined := happend "/inc/x/.." (by decide) (by decide +kernel)
  rw [hclean] at hcanonical hself hjoined
  rw [hbase] at hjoined
  exact ⟨fun h => absurd (hself.mpr h) (by decide), hcanonical, hjoined⟩

end Amalgam.Path
