import Amalgam.Proofs.Path.Components
import Amalgam.Proofs.Path.Route

/-!
# Containment

A base contains the paths that a relative path without a climb leads to from it.
Whether a path is within a base is told by comparing texts, and that asks whether
the route of the base begins the route of the path (`isWithin_iff_route`). The two
agree unless the base is made of `..` alone: then `..` goes on the route as a name
would, and a path above the base counts as within it.
-/

namespace Amalgam

namespace Path

variable {p base rel : Path}

def Climbs (p : Path) : Prop :=
  p.clean = ".." ∨ "../".toList <+: p.clean.toList

/-- From the base a relative path that does not climb leads to the path. -/
def Contains (base p : Path) : Prop :=
  ∃ rel : Path, rel.isRooted = false ∧ ¬ rel.Climbs ∧ base.clean.join rel = p.clean

def ClimbsTo (base p : Path) : Prop :=
  ∃ rel : Path, rel.isRooted = false ∧ rel.Climbs ∧ base.clean.join rel = p.clean

/-- The path is `..`, once or several times over. -/
def OnlyClimbs (p : Path) : Prop :=
  p.components ≠ [] ∧ ∀ segment ∈ p.components, segment = dotdot

instance (p : Path) : Decidable p.OnlyClimbs :=
  inferInstanceAs (Decidable (_ ∧ _))

-- ---------------------------------------------------------------------------
-- Clean texts and routes
-- ---------------------------------------------------------------------------

theorem clean_of_route_eq_nil (h : p.route = []) : p.clean = if p.isRooted then "/" else "." := by
  rw [clean_eq_render, h]
  cases p.isRooted <;> rfl

theorem components_of_route_eq_nil (h : p.route = []) :
    p.components = if p.isRooted then [] else [dot] := by
  rw [components, clean_of_route_eq_nil h]
  cases p.isRooted <;> rfl

theorem components_of_route_ne_nil (h : p.route ≠ []) : p.components = p.route := by
  have hsplit : Text.splitChars '/' (Text.joinChars '/' p.route) = p.route :=
    Text.splitChars_joinChars h fun _ => not_mem_route
  have hfilter : p.route.filter (· ≠ []) = p.route := by
    refine List.filter_eq_self.mpr fun segment hs => ?_
    simpa using (ne_of_mem_route hs).1
  rw [components, clean_eq_render, String.toList_ofList, render]
  cases p.isRooted with
  | true =>
    rw [if_pos rfl, Text.splitChars, if_pos rfl, hsplit]
    exact hfilter
  | false => rw [if_neg (by simp), if_neg h, hsplit, hfilter]

theorem route_ne_nil_of_components (h : p.components ≠ []) (hdot : dot ∉ p.components) :
    p.route ≠ [] := by
  intro hroute
  rw [components_of_route_eq_nil hroute] at h hdot
  cases hrooted : p.isRooted <;> simp [hrooted] at h hdot

theorem onlyClimbs_iff : p.OnlyClimbs ↔ p.route ≠ [] ∧ ∀ segment ∈ p.route, segment = dotdot := by
  constructor
  · rintro ⟨hne, hall⟩
    have hroute : p.route ≠ [] :=
      route_ne_nil_of_components hne fun hm => absurd (hall _ hm) (by decide)
    rw [components_of_route_ne_nil hroute] at hall
    exact ⟨hroute, hall⟩
  · rintro ⟨hne, hall⟩
    rw [OnlyClimbs, components_of_route_ne_nil hne]
    exact ⟨hne, hall⟩

theorem isRooted_of_dotdot_mem (h : dotdot ∈ p.route) : p.isRooted = false := by
  obtain ⟨before, after, hroute⟩ := List.append_of_mem h
  exact (before_dotdot hroute).1

theorem exists_cons_of_dotdot_mem (h : dotdot ∈ p.route) : ∃ rest, p.route = dotdot :: rest := by
  obtain ⟨before, after, hroute⟩ := List.append_of_mem h
  obtain ⟨-, hbefore⟩ := before_dotdot hroute
  cases before with
  | nil => exact ⟨after, hroute⟩
  | cons segment before =>
    obtain rfl : segment = dotdot := hbefore segment List.mem_cons_self
    exact ⟨_, hroute⟩

theorem climbs_iff (h : p.isRooted = false) : p.Climbs ↔ dotdot ∈ p.route := by
  constructor
  · rintro (hclean | ⟨rest, hrest⟩)
    · rw [← route_clean, hclean]
      decide +kernel
    · by_cases hroute : p.route = []
      · simp [clean_of_route_eq_nil hroute, h] at hrest
      · rw [← components_of_route_ne_nil hroute, components, ← hrest, List.mem_filter]
        exact ⟨List.mem_cons_self, by decide⟩
  · intro hm
    obtain ⟨rest, hroute⟩ := exists_cons_of_dotdot_mem hm
    have hclean : p.clean.toList = Text.joinChars '/' (dotdot :: rest) := by
      rw [clean_eq_render, String.toList_ofList, hroute, h]
      rfl
    cases rest with
    | nil => exact .inl (String.toList_inj.mp hclean)
    | cons next rest => exact .inr ⟨Text.joinChars '/' (next :: rest), hclean.symm⟩

-- ---------------------------------------------------------------------------
-- What the test asks
-- ---------------------------------------------------------------------------

theorem isWithin_of_route_eq_nil (h : base.route = []) :
    p.isWithin base = true ↔ p.isRooted = base.isRooted ∧ dotdot ∉ p.route := by
  rw [isWithin, clean_of_route_eq_nil h]
  cases base.isRooted with
  | true =>
    have hup : p.isRooted = true → dotdot ∉ p.route :=
      fun hrooted hm => by simp [isRooted_of_dotdot_mem hm] at hrooted
    simpa using hup
  | false =>
    simp only [Bool.false_eq_true, if_false, if_true, isRooted_clean, Bool.and_eq_true,
      Bool.not_eq_true', bne_iff_ne]
    rw [and_assoc]
    refine and_congr_right fun hrelative => ?_
    rw [← climbs_iff hrelative, Climbs, not_or, ← List.isPrefixOf_iff_prefix, Bool.not_eq_true]

theorem toList_clean_of_route {rest : List (List Char)} (hrooted : p.isRooted = base.isRooted)
    (hroute : p.route = base.route ++ rest) (hbase : base.route ≠ []) (hrest : rest ≠ []) :
    p.clean.toList = base.clean.toList ++ '/' :: Text.joinChars '/' rest := by
  have hne : base.route ++ rest ≠ [] := List.append_ne_nil_of_left_ne_nil hbase rest
  rw [clean_eq_render, clean_eq_render, String.toList_ofList, String.toList_ofList, hrooted, hroute,
    render, render, if_neg hne, if_neg hbase, Text.joinChars_append hbase hrest]
  split <;> rfl

theorem route_of_below {rest : List Char} (hbase : base.route ≠ [])
    (h : p.clean.toList = base.clean.toList ++ '/' :: rest) :
    p.isRooted = base.isRooted ∧ base.route <+: p.route := by
  obtain ⟨c, more, htop, -⟩ := clean_eq_cons base
  have hrooted : p.isRooted = base.isRooted := by
    rw [← isRooted_clean p, ← isRooted_clean base, isRooted, isRooted, h, htop]
    rfl
  -- the text of a path without segments is one character, too short for this
  have hroute : p.route ≠ [] := by
    intro hnil
    have hlen := congrArg List.length h
    rw [clean_of_route_eq_nil hnil, htop] at hlen
    cases hp : p.isRooted <;> simp [hp] at hlen
  have hcomponents := components_of_below h
  rw [components_of_route_ne_nil hroute, components_of_route_ne_nil hbase] at hcomponents
  exact ⟨hrooted, _, hcomponents.symm⟩

theorem isWithin_of_route_ne_nil (h : base.route ≠ []) :
    p.isWithin base = true ↔ p.isRooted = base.isRooted ∧ base.route <+: p.route := by
  have hdot : base.clean ≠ "." := fun e => h (by rw [← route_clean, e]; decide +kernel)
  have hslash : base.clean ≠ "/" := fun e => h (by rw [← route_clean, e]; decide +kernel)
  rw [isWithin]
  simp only [if_neg hdot, if_neg hslash, Bool.or_eq_true, beq_iff_eq, List.isPrefixOf_iff_prefix]
  constructor
  · rintro (heq | ⟨rest, hrest⟩)
    · obtain ⟨hrooted, hroute⟩ := clean_eq_clean.mp heq
      exact ⟨hrooted, [], by simpa using hroute.symm⟩
    · rw [List.append_assoc, List.singleton_append] at hrest
      exact route_of_below h hrest.symm
  · rintro ⟨hrooted, rest, hroute⟩
    by_cases hrest : rest = []
    · subst hrest
      exact .inl (clean_congr hrooted (by simpa using hroute.symm))
    · refine .inr ⟨Text.joinChars '/' rest, ?_⟩
      rw [toList_clean_of_route hrooted hroute.symm h hrest, List.append_assoc,
        List.singleton_append]

/-- The test asks whether the route of the base begins that of the path, and of a
base that is `.` or `/` also whether the path does not climb. -/
theorem isWithin_iff_route :
    p.isWithin base = true ↔
      p.isRooted = base.isRooted ∧
        ∃ rest, p.route = base.route ++ rest ∧ (base.route = [] → dotdot ∉ rest) := by
  by_cases h : base.route = []
  · simp [isWithin_of_route_eq_nil h, h]
  · rw [isWithin_of_route_ne_nil h]
    simp [h, List.IsPrefix, eq_comm]

-- ---------------------------------------------------------------------------
-- What relative paths lead to
-- ---------------------------------------------------------------------------

theorem exists_relative {rest : List (List Char)} (hrooted : p.isRooted = base.isRooted)
    (hroute : p.route = base.route ++ rest) :
    ∃ rel : Path, rel.isRooted = false ∧ rel.route = rest ∧ base.clean.join rel = p.clean := by
  obtain ⟨hrel, hrest⟩ := route_joinChars_of_append hroute
  refine ⟨_, hrel, hrest, join_of_route (.inl (clean_ne_empty base)) hrel ?_ ?_⟩
  · rw [isRooted_clean, hrooted]
  · rw [route_clean, hrest, hroute]

theorem contains_iff :
    base.Contains p ↔
      p.isRooted = base.isRooted ∧ ∃ rest, p.route = base.route ++ rest ∧ dotdot ∉ rest := by
  constructor
  · rintro ⟨rel, hrel, hclimbs, hjoin⟩
    have hup : dotdot ∉ rel.route := mt (climbs_iff hrel).mpr hclimbs
    have hnames : ∀ segment ∈ rel.route, segment ≠ [] ∧ segment ≠ dot ∧ segment ≠ dotdot :=
      fun segment hm =>
        ⟨(ne_of_mem_route hm).1, (ne_of_mem_route hm).2, fun e => hup (e ▸ hm)⟩
    obtain ⟨hrooted, hroute⟩ := (join_eq_clean (.inl (clean_ne_empty base)) hrel).mp hjoin
    rw [foldl_keep_names hnames, route_clean] at hroute
    rw [isRooted_clean] at hrooted
    exact ⟨hrooted, rel.route, by simpa using hroute, hup⟩
  · rintro ⟨hrooted, rest, hroute, hup⟩
    obtain ⟨rel, hrel, hrest, hjoin⟩ := exists_relative hrooted hroute
    exact ⟨rel, hrel, by rwa [climbs_iff hrel, hrest], hjoin⟩

theorem climbsTo_iff (h : base.OnlyClimbs) :
    base.ClimbsTo p ↔
      p.isRooted = base.isRooted ∧ ∃ rest, p.route = base.route ++ rest ∧ dotdot ∈ rest := by
  obtain ⟨hne, hall⟩ := onlyClimbs_iff.mp h
  constructor
  · rintro ⟨rel, hrel, hclimbs, hjoin⟩
    obtain ⟨hrooted, hroute⟩ := (join_eq_clean (.inl (clean_ne_empty base)) hrel).mp hjoin
    rw [isRooted_clean] at hrooted
    -- all of `rel` stands after the base, so walking it takes nothing back
    have hbase : base.isRooted = false := by
      obtain ⟨segment, hm⟩ := List.exists_mem_of_ne_nil _ hne
      exact isRooted_of_dotdot_mem (hall segment hm ▸ hm)
    have hsettled : Settled false (base.route ++ rel.route).reverse := by
      rw [List.reverse_append]
      exact rel.settled_route.relative.append_dotdot (by simpa using hall)
    have hwalk := hsettled.foldl_reverse
    rw [List.reverse_reverse, List.foldl_append, ← hbase, foldl_route_self] at hwalk
    rw [isRooted_clean, route_clean, hwalk, List.reverse_reverse] at hroute
    exact ⟨hrooted, rel.route, hroute, (climbs_iff hrel).mp hclimbs⟩
  · rintro ⟨hrooted, rest, hroute, hup⟩
    obtain ⟨rel, hrel, hrest, hjoin⟩ := exists_relative hrooted hroute
    exact ⟨rel, hrel, by rwa [climbs_iff hrel, hrest], hjoin⟩

-- ---------------------------------------------------------------------------
-- The test and containment
-- ---------------------------------------------------------------------------

theorem isWithin_of_contains (h : base.Contains p) : p.isWithin base = true := by
  obtain ⟨hrooted, rest, hroute, hup⟩ := contains_iff.mp h
  exact isWithin_iff_route.mpr ⟨hrooted, rest, hroute, fun _ => hup⟩

theorem not_contains_of_climbsTo (hbase : base.OnlyClimbs) (h : base.ClimbsTo p) :
    ¬ base.Contains p := by
  intro hc
  obtain ⟨-, rest, hroute, hup⟩ := (climbsTo_iff hbase).mp h
  obtain ⟨-, rest', hroute', hup'⟩ := contains_iff.mp hc
  obtain rfl : rest = rest' := List.append_cancel_left (hroute.symm.trans hroute')
  exact hup' hup

theorem isWithin_of_climbsTo (hbase : base.OnlyClimbs) (h : base.ClimbsTo p) :
    p.isWithin base = true := by
  obtain ⟨hrooted, rest, hroute, -⟩ := (climbsTo_iff hbase).mp h
  have hne := (onlyClimbs_iff.mp hbase).1
  exact isWithin_iff_route.mpr ⟨hrooted, rest, hroute, fun e => absurd e hne⟩

/-- Whatever counts as within a base without lying below it lies above a base of
`..` alone. -/
theorem climbsTo_of_isWithin (h : p.isWithin base = true) (hc : ¬ base.Contains p) :
    base.OnlyClimbs ∧ base.ClimbsTo p := by
  obtain ⟨hrooted, rest, hroute, hnil⟩ := isWithin_iff_route.mp h
  have hup : dotdot ∈ rest := Decidable.not_not.mp fun hup =>
    hc (contains_iff.mpr ⟨hrooted, rest, hroute, hup⟩)
  -- nothing but `..` stands before a `..`, so the base is made of these
  obtain ⟨before, after, rfl⟩ := List.append_of_mem hup
  rw [← List.append_assoc] at hroute
  have hbefore := (before_dotdot hroute).2
  have hbase : base.OnlyClimbs := onlyClimbs_iff.mpr
    ⟨fun e => hnil e hup, fun segment hm => hbefore segment (List.mem_append_left _ hm)⟩
  rw [List.append_assoc] at hroute
  exact ⟨hbase, (climbsTo_iff hbase).mpr ⟨hrooted, _, hroute, hup⟩⟩

/-- Whatever a base contains is within it, and nothing else is, but for what lies
above a base of `..` alone. So a header outside the include directory keeps its
path as label, but for these. -/
theorem isWithin_contains_or_above (p base : Path) :
    (base.Contains p → p.isWithin base = true) ∧
    (p.isWithin base = true ∧ ¬ base.Contains p ↔ base.OnlyClimbs ∧ base.ClimbsTo p) ∧
    (¬ base.Contains p → ¬ (base.OnlyClimbs ∧ base.ClimbsTo p) →
      ∀ style : MarkerStyle, style.label base p = .ok p) := by
  refine ⟨isWithin_of_contains, ⟨fun h => climbsTo_of_isWithin h.1 h.2, ?_⟩, ?_⟩
  · rintro ⟨hbase, h⟩
    exact ⟨isWithin_of_climbsTo hbase h, not_contains_of_climbsTo hbase h⟩
  · intro hc hclimbs style
    have hnot : ¬ p.isWithin base = true := fun h => hclimbs (climbsTo_of_isWithin h hc)
    rw [MarkerStyle.label, if_neg fun h => hnot h.2]

theorem isWithin_climbing_out :
    ¬ Contains "inc/lib" "inc/a.h" ∧
    MarkerStyle.relative.label "inc/lib" "inc/a.h" = .ok "inc/a.h" := by
  obtain ⟨hwithin, -, hlabel⟩ := isWithin_contains_or_above "inc/a.h" "inc/lib"
  have hc : ¬ Contains "inc/lib" "inc/a.h" := mt hwithin (by decide +kernel)
  exact ⟨hc, hlabel hc (fun h => absurd h.1 (by decide +kernel)) .relative⟩

/-- A header two directories up counts as within the directory one up, and its label
leaves out a directory that it does not lie in. -/
theorem isWithin_above :
    isWithin "../../a.h" ".." = true ∧ ¬ Contains ".." "../../a.h" ∧
    MarkerStyle.relative.label ".." "../../a.h" = .ok "../a.h" := by
  have hwithin : isWithin "../../a.h" ".." = true := by decide +kernel
  have hclimbs : ClimbsTo ".." "../../a.h" :=
    ⟨"../a.h", by decide +kernel, .inr (by decide +kernel), by decide +kernel⟩
  refine ⟨hwithin, not_contains_of_climbsTo (by decide +kernel) hclimbs, ?_⟩
  rw [MarkerStyle.label, if_pos ⟨rfl, hwithin⟩, stripComponents, if_neg (by decide +kernel)]
  exact congrArg Except.ok (by decide +kernel)

end Path

end Amalgam
