import Amalgam.FileTree
import Amalgam.Proofs.Path.Canonical

/-!
# Reading a tree by cleaned paths

A reader lists the paths that it can read, and a place has many spellings. The reader of
a tree lists the cleaned ones. None is left out, however far it climbs, so the reader
takes a cleaned path just as the tree does (`reader_read`).
-/

namespace Amalgam.FileTree

variable {t : FileTree} {place place' : Place} {component : String} {p : Path} {content : String}
  {segments : List (List Char)} {bytes : ByteArray}

-- ---------------------------------------------------------------------------
-- Where components lead
-- ---------------------------------------------------------------------------

def IsName (component : String) : Prop :=
  component ≠ "" ∧ component ≠ "." ∧ component ≠ ".."

/-- Where a component leads to, if it leads anywhere. -/
def goesTo (place : Place) (component : String) : Place :=
  if component = "" ∨ component = "." then place
  else if component = ".." then place.dropLast
  else place ++ [component]

theorem enter_eq_ok (h : t.enter place component = .ok place') :
    place' = goesTo place component := by
  unfold enter at h
  unfold goesTo
  split at h
  · split at h
    next hstay =>
      cases h
      simp [hstay]
    next hstay =>
      split at h
      next hup =>
        cases h
        simp [hup]
      next hup =>
        simp only [hstay, hup, if_false]
        split at h
        · cases h
        · split at h <;> cases h
          rfl
  · cases h
  · cases h

theorem foldlM_enter_eq_ok {components : List String}
    (h : components.foldlM t.enter place = .ok place') :
    place' = components.foldl goesTo place := by
  induction components generalizing place with
  | nil =>
    cases h
    rfl
  | cons component components ih =>
    rw [List.foldlM_cons] at h
    cases he : t.enter place component with
    | error e =>
      rw [he] at h
      cases h
    | ok entered =>
      rw [he] at h
      rw [List.foldl_cons, ← enter_eq_ok he]
      exact ih h

theorem foldl_goesTo_climbs (place : Place) (levels : Nat) :
    (List.replicate levels "..").foldl goesTo place = place.take (place.length - levels) := by
  induction levels generalizing place with
  | zero => simp
  | succ levels ih =>
    have hup : goesTo place ".." = place.dropLast := rfl
    rw [List.replicate_succ, List.foldl_cons, hup, ih, List.length_dropLast, List.dropLast_eq_take,
      List.take_take]
    congr 1
    omega

theorem foldl_goesTo_names {names : List String} (h : ∀ name ∈ names, IsName name) :
    names.foldl goesTo place = place ++ names := by
  induction names generalizing place with
  | nil => simp
  | cons name names ih =>
    obtain ⟨hempty, hdot, hup⟩ := h name List.mem_cons_self
    have hname : goesTo place name = place ++ [name] := by simp [goesTo, hempty, hdot, hup]
    rw [List.foldl_cons, hname, ih fun name hm => h name (List.mem_cons_of_mem _ hm),
      List.append_assoc, List.singleton_append]

-- ---------------------------------------------------------------------------
-- Paths that name a file
-- ---------------------------------------------------------------------------

theorem at?_eq_file (h : t.at? place = some (.file bytes)) :
    ¬ place <+: t.cwd ∧ (place, .file bytes) ∈ t.entries := by
  unfold at? at h
  split at h
  · cases h
  next hcwd =>
    refine ⟨mt List.isPrefixOf_iff_prefix.mpr hcwd, ?_⟩
    split at h
    next entry hentry =>
      cases h
      obtain ⟨before, after, heq, -⟩ := List.lookup_eq_some_iff.mp hentry
      simp [heq]
    next => split at h <;> cases h

theorem read_eq_ok (h : t.read p = .ok content) :
    ∃ place bytes, t.resolve p = .ok place ∧ t.at? place = some (.file bytes) := by
  unfold read at h
  split at h
  · cases h
  next place hplace =>
    split at h
    next bytes hbytes => exact ⟨place, bytes, hplace, hbytes⟩
    · cases h
    · cases h

theorem resolve_eq_ok (h : t.resolve p = .ok place) :
    p.utf8ByteSize < maxPathBytes ∧
      place = (Text.split '/' p).foldl goesTo (if p.isRooted then [] else t.cwd) := by
  unfold resolve at h
  split at h
  · cases h
  split at h
  · cases h
  split at h
  · cases h
  exact ⟨by omega, foldlM_enter_eq_ok h⟩

theorem mem_filePaths (hfile : t.at? place = some (.file bytes)) (hp : p ∈ t.pathsTo place) :
    p ∈ t.filePaths :=
  List.mem_flatMap.mpr ⟨(place, .file bytes), (at?_eq_file hfile).2, hp⟩

-- ---------------------------------------------------------------------------
-- How long a path is
-- ---------------------------------------------------------------------------

/-- Every level that a path climbs takes three bytes. -/
theorem utf8ByteSize_climb {names : List String} (h : names ≠ []) (levels : Nat) :
    (Text.join '/' (List.replicate levels ".." ++ names)).utf8ByteSize =
      3 * levels + (Text.join '/' names).utf8ByteSize := by
  induction levels with
  | zero => simp
  | succ levels ih =>
    have hne : List.replicate levels ".." ++ names ≠ [] := by simp [h]
    obtain ⟨first, rest, hrest⟩ := List.exists_cons_of_ne_nil hne
    have hstep : Text.join '/' (List.replicate (levels + 1) ".." ++ names) =
        "../" ++ Text.join '/' (List.replicate levels ".." ++ names) := by
      rw [List.replicate_succ, List.cons_append, hrest, ← String.toList_inj]
      simp [Text.join, Text.joinChars]
    have hup : "../".utf8ByteSize = 3 := rfl
    rw [hstep, String.utf8ByteSize_append, ih, hup]
    omega

theorem utf8ByteSize_join_pos {names : List String} (hne : names ≠ [])
    (h : ∀ name ∈ names, IsName name) : 0 < (Text.join '/' names).utf8ByteSize := by
  obtain ⟨name, rest, rfl⟩ := List.exists_cons_of_ne_nil hne
  obtain ⟨hname, -⟩ := h name List.mem_cons_self
  have hchars : name.toList ≠ [] := by simpa using hname
  obtain ⟨c, hc⟩ := List.exists_mem_of_ne_nil _ hchars
  rw [Nat.pos_iff_ne_zero, ne_eq, String.utf8ByteSize_eq_zero_iff, ← String.toList_inj]
  intro hnil
  have hm : c ∈ (Text.join '/' (name :: rest)).toList := by
    rw [Text.join, String.toList_ofList]
    exact Text.mem_joinChars_of_mem (List.mem_map_of_mem List.mem_cons_self) hc
  rw [hnil] at hm
  simp at hm

-- ---------------------------------------------------------------------------
-- Components of canonical paths
-- ---------------------------------------------------------------------------

theorem join_components (segments : List (List Char)) :
    Text.join '/' (segments.map String.ofList) = String.ofList (Text.joinChars '/' segments) := by
  simp [Text.join, Function.comp_def]

theorem split_components (hne : segments ≠ []) (hs : ∀ segment ∈ segments, '/' ∉ segment) :
    Text.split '/' (String.ofList (Text.joinChars '/' segments)) = segments.map String.ofList := by
  rw [← join_components]
  exact Text.split_join (by simpa using hne) (by simpa using hs)

theorem isName_of_mem
    (hproper : ∀ segment ∈ segments, segment ≠ [] ∧ segment ≠ Path.dot ∧ '/' ∉ segment)
    (hup : Path.dotdot ∉ segments) (hm : component ∈ segments.map String.ofList) :
    IsName component := by
  obtain ⟨segment, hseg, rfl⟩ := List.mem_map.mp hm
  obtain ⟨hempty, hdot, -⟩ := hproper segment hseg
  refine ⟨fun heq => hempty ?_, fun heq => hdot ?_, fun heq => hup ?_⟩
  · exact String.ofList_injective heq
  · exact String.ofList_injective heq
  · have hclimb : segment = Path.dotdot := String.ofList_injective heq
    rwa [← hclimb]

theorem mem_pathsTo_of_rooted (hne : segments ≠ []) (h : Path.Standing true segments)
    (hresolve : t.resolve (String.ofList ('/' :: Text.joinChars '/' segments)) = .ok place) :
    String.ofList ('/' :: Text.joinChars '/' segments) ∈ t.pathsTo place := by
  have hup : Path.dotdot ∉ segments := by
    intro hm
    obtain ⟨before, after, heq⟩ := List.append_of_mem hm
    exact absurd (h.climbs before after heq).1 (by simp)
  have hsplit : Text.split '/' (String.ofList ('/' :: Text.joinChars '/' segments)) =
      "" :: segments.map String.ofList := by
    rw [← split_components hne fun segment hm => (h.proper segment hm).2.2]
    simp [Text.split, Text.splitChars]
  have hplace : place = segments.map String.ofList := by
    obtain ⟨-, hplace⟩ := resolve_eq_ok hresolve
    rw [hsplit, List.foldl_cons,
      foldl_goesTo_names fun name => isName_of_mem h.proper hup] at hplace
    simpa [Path.isRooted, goesTo] using hplace
  rw [hplace, pathsTo, join_components]
  refine List.mem_cons.mpr (.inl ?_)
  rw [← String.toList_inj]
  simp

theorem exists_components (h : Path.Standing false segments) :
    ∃ levels names, segments.map String.ofList = List.replicate levels ".." ++ names ∧
      ∀ name ∈ names, IsName name := by
  obtain ⟨levels, below, rfl, hup⟩ := h.exists_climb
  refine ⟨levels, below.map String.ofList, ?_, fun name => isName_of_mem ?_ hup⟩
  · rw [List.map_append, List.map_replicate]
    rfl
  · exact fun segment hm => h.proper segment (List.mem_append_right _ hm)

theorem mem_pathsTo_of_relative (hne : segments ≠ []) (h : Path.Standing false segments)
    (hresolve : t.resolve (String.ofList (Text.joinChars '/' segments)) = .ok place)
    (hfile : t.at? place = some (.file bytes)) :
    String.ofList (Text.joinChars '/' segments) ∈ t.pathsTo place := by
  have hslash : ∀ segment ∈ segments, '/' ∉ segment := fun segment hm => (h.proper segment hm).2.2
  have hrooted := (Path.route_joinChars h.settled hslash).1
  obtain ⟨levels, names, hcomponents, hnames⟩ := exists_components h
  obtain ⟨hsize, hplace⟩ := resolve_eq_ok hresolve
  rw [split_components hne hslash, hcomponents, List.foldl_append, foldl_goesTo_climbs,
    foldl_goesTo_names hnames, hrooted, if_neg (by simp)] at hplace
  rw [← join_components, hcomponents] at hsize ⊢
  -- a path that only climbs ends in a directory
  have hdown : names ≠ [] := by
    rintro rfl
    refine (at?_eq_file hfile).1 ?_
    rw [hplace, List.append_nil]
    exact List.take_prefix _ _
  have hlevels : levels < maxPathBytes / 3 := by
    have hpos := utf8ByteSize_join_pos hdown hnames
    rw [utf8ByteSize_climb hdown, maxPathBytes] at hsize
    rw [maxPathBytes]
    omega
  refine List.mem_cons_of_mem _ (List.mem_filterMap.mpr ⟨levels, List.mem_range.mpr hlevels, ?_⟩)
  simp [climbing?, hplace]

-- ---------------------------------------------------------------------------
-- The reader
-- ---------------------------------------------------------------------------

theorem mem_filePaths_of_read (hp : p.clean = p) (h : t.read p = .ok content) :
    p ∈ t.filePaths := by
  obtain ⟨place, bytes, hplace, hfile⟩ := read_eq_ok h
  refine mem_filePaths hfile ?_
  obtain ⟨hcwd, -⟩ := at?_eq_file hfile
  cases Path.clean_eq_self.mp hp with
  | here =>
    obtain ⟨-, rfl⟩ := resolve_eq_ok hplace
    exact absurd (List.prefix_refl _) hcwd
  | root =>
    obtain ⟨-, rfl⟩ := resolve_eq_ok hplace
    exact absurd List.nil_prefix hcwd
  | relative hne hs => exact mem_pathsTo_of_relative hne hs hplace hfile
  | rooted hne hs => exact mem_pathsTo_of_rooted hne hs hplace

theorem reader_read (hp : p.clean = p) : t.reader.read p = t.read p :=
  Reader.read_within fun _ => mem_filePaths_of_read hp

example :
    (mk [(["inc", "a.h"], .file "int a;\n".toUTF8)] ["w"]).reader.read "../inc/a.h" =
      .ok "int a;\n" := by
  rw [reader_read (by decide +kernel)]
  decide +kernel

end Amalgam.FileTree
