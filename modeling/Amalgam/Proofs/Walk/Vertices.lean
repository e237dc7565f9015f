import Amalgam.Proofs.Directive
import Amalgam.Proofs.Path.Join
import Amalgam.Proofs.Walk.Reach
import Amalgam.Store

/-!
# One vertex for each header

An include line spells a header from the directory of its file, in whatever way. The
walk knows the header by the clean form of the spelling, so the labels of the graph
of a walk are clean paths and the label of the root, and all spellings of one header
are one label. Cleaning keeps a path rooted or relative, hence all headers of a walk
are as the directory of the root is, also one whose quoted path begins with a slash.
-/

namespace Amalgam

/-- A line of the content, which lies in `dir`, asks for a header that is not excluded
and spells it like this. -/
def SpelledIn (ex : Exclusion) (dir : Path) (content : String) (spelling : Path) : Prop :=
  ∃ line ∈ Text.lines content, ∃ quoted : Path, Line.classify line = .quoted quoted ∧
    spelling = dir ++ "/" ++ quoted ∧ ex.excludes spelling.clean = false

inductive Spelled (reader : Reader) (ex : Exclusion) (rootDir : Path) (source : String) :
    Path → Prop where
  | root {spelling : Path} :
      SpelledIn ex rootDir source spelling → Spelled reader ex rootDir source spelling
  | header {a spelling : Path} {content : String} :
      Reach reader ex rootDir source a → reader.read a = .ok content →
      SpelledIn ex a.dir content spelling → Spelled reader ex rootDir source spelling

variable {reader : Reader} {ex : Exclusion} {rootDir dir target : Path} {source content : String}

-- ---------------------------------------------------------------------------
-- Headers are clean spellings
-- ---------------------------------------------------------------------------

theorem follows_iff_spelledIn (hd : dir ≠ "") :
    Follows ex dir content target ↔ ∃ spelling, SpelledIn ex dir content spelling ∧
      spelling.clean = target := by
  constructor
  · rintro ⟨line, hm, hl⟩
    obtain ⟨quoted, hc, rfl, hex⟩ := directive_eq_follow.mp hl
    rw [Path.join_of_ne_empty hd] at hex ⊢
    exact ⟨_, ⟨line, hm, quoted, hc, rfl, hex⟩, rfl⟩
  · rintro ⟨_, ⟨line, hm, quoted, hc, rfl, hex⟩, rfl⟩
    exact ⟨line, hm, directive_eq_follow.mpr ⟨quoted, hc, Path.join_of_ne_empty hd quoted, hex⟩⟩

theorem reach_iff_spelled (hd : rootDir ≠ "") :
    Reach reader ex rootDir source target ↔
      ∃ spelling, Spelled reader ex rootDir source spelling ∧ spelling.clean = target := by
  constructor
  · intro h
    cases h with
    | root hf =>
      obtain ⟨spelling, hs, ht⟩ := (follows_iff_spelledIn hd).mp hf
      exact ⟨spelling, .root hs, ht⟩
    | step ha hab =>
      obtain ⟨content, hr, hf⟩ := hab
      obtain ⟨spelling, hs, ht⟩ := (follows_iff_spelledIn (Path.dir_ne_empty _)).mp hf
      exact ⟨spelling, .header ha hr hs, ht⟩
  · rintro ⟨spelling, hs, ht⟩
    cases hs with
    | root hs => exact .root ((follows_iff_spelledIn hd).mpr ⟨spelling, hs, ht⟩)
    | header ha hr hs =>
      exact .step ha ⟨_, hr, (follows_iff_spelledIn (Path.dir_ne_empty _)).mpr ⟨spelling, hs, ht⟩⟩

theorem Reach.clean_eq (hd : rootDir ≠ "") (h : Reach reader ex rootDir source target) :
    target.clean = target := by
  obtain ⟨spelling, -, rfl⟩ := (reach_iff_spelled hd).mp h
  exact Path.clean_clean spelling

theorem Follows.isRooted (hd : dir ≠ "") (h : Follows ex dir content target) :
    target.isRooted = dir.isRooted := by
  obtain ⟨_, ⟨line, -, quoted, -, rfl, -⟩, rfl⟩ := (follows_iff_spelledIn hd).mp h
  rw [Path.isRooted_clean, Path.isRooted_append hd]

theorem Reach.isRooted (hd : rootDir ≠ "") (h : Reach reader ex rootDir source target) :
    target.isRooted = rootDir.isRooted := by
  induction h with
  | root hf => exact hf.isRooted hd
  | step _ hab ih =>
    obtain ⟨content, -, hf⟩ := hab
    rw [hf.isRooted (Path.dir_ne_empty _), Path.isRooted_dir, ih]

-- ---------------------------------------------------------------------------
-- The vertices of a walk
-- ---------------------------------------------------------------------------

section Extract

variable {x : Extraction} {label : String}

theorem mem_targets_iff (h : extract reader ex rootDir source = .ok x) :
    target ∈ x.edges.map (·.target) ↔ Reach reader ex rootDir source target := by
  obtain ⟨f, _, hf, hedges, -⟩ := extract_forest h
  rw [hedges, Forest.map_target_edges, hf.mem_iff_reachable, reach_iff]

theorem nodup_targets (h : extract reader ex rootDir source = .ok x) :
    (x.edges.map (·.target)).Nodup := by
  obtain ⟨f, _, hf, hedges, -⟩ := extract_forest h
  rw [hedges, Forest.map_target_edges]
  exact hf.nodup_preorder

theorem reach_of_mem_edges (h : extract reader ex rootDir source = .ok x) {e : Edge}
    (he : e ∈ x.edges) : Reach reader ex rootDir source e.target :=
  (mem_targets_iff h).mp (List.mem_map_of_mem he)

theorem reach_of_mem_nodes (h : extract reader ex rootDir source = .ok x)
    (hl : label ∈ (Graph.ofEdges x.edges).nodes) :
    label = rootLabel ∨ Reach reader ex rootDir source label := by
  obtain ⟨e, he, rfl | rfl⟩ := Graph.mem_nodes.mp hl
  · obtain ⟨f, _, hf, hedges, -⟩ := extract_forest h
    rw [hedges] at he
    rcases Forest.source_mem he with hs | hs
    · exact .inl hs
    · rw [← Forest.map_target_edges f rootLabel, ← hedges] at hs
      exact .inr ((mem_targets_iff h).mp hs)
  · exact .inr (reach_of_mem_edges h he)

theorem clean_eq_of_mem_nodes (hd : rootDir ≠ "") (h : extract reader ex rootDir source = .ok x)
    (hl : label ∈ (Graph.ofEdges x.edges).nodes) : Path.clean label = label := by
  rcases reach_of_mem_nodes h hl with rfl | hr
  · decide +kernel
  · exact hr.clean_eq hd

end Extract

/-- Every header of a walk is a clean path that is rooted if the directory of the root
is. Two edges lead to paths that clean to different ones, and whatever the walk meets,
however it is spelled there, is one vertex. -/
theorem extract_vertices_canonical (reader : Reader) (ex : Exclusion) (rootDir : Path)
    (source : String) (x : Extraction) (hd : rootDir ≠ "")
    (h : extract reader ex rootDir source = .ok x) :
    (∀ e ∈ x.edges, Path.clean e.target = e.target ∧
      (Path.isRooted e.target = true ↔ rootDir.isRooted = true)) ∧
    (∀ e ∈ x.edges, ∀ e' ∈ x.edges, Path.clean e.target = Path.clean e'.target → e = e') ∧
    (∀ target, target ∈ x.edges.map (·.target) ↔
      ∃ spelling, Spelled reader ex rootDir source spelling ∧ spelling.clean = target) ∧
    (∀ spelling, Spelled reader ex rootDir source spelling →
      (Graph.ofEdges x.edges).nodes.countP (Path.clean · = spelling.clean) = 1) := by
  have hclean : ∀ e ∈ x.edges, Path.clean e.target = e.target :=
    fun e he => (reach_of_mem_edges h he).clean_eq hd
  refine ⟨?_, ?_, ?_, ?_⟩
  · intro e he
    refine ⟨hclean e he, ?_⟩
    rw [(reach_of_mem_edges h he).isRooted hd]
  · intro e he e' he' heq
    rw [hclean e he, hclean e' he'] at heq
    exact List.inj_on_of_nodup_map (nodup_targets h) he he' heq
  · intro target
    rw [mem_targets_iff h, reach_iff_spelled hd]
  · intro spelling hs
    have hreach := (reach_iff_spelled hd).mpr ⟨spelling, hs, rfl⟩
    obtain ⟨e, he, ht⟩ := List.mem_map.mp ((mem_targets_iff h).mpr hreach)
    have hmem : spelling.clean ∈ (Graph.ofEdges x.edges).nodes := ht ▸ Graph.target_mem_nodes he
    -- the labels are clean, so one that cleans to the header is the header
    rw [← List.count_eq_one_of_mem (Graph.nodup_nodes x.edges) hmem, List.count]
    refine List.countP_congr fun label hl => ?_
    simp [clean_eq_of_mem_nodes hd h hl]

def respelled : Store :=
  ⟨[("/inc/a.h", "#include \"../inc/./a.h\"")]⟩

def respelledRoot : String :=
  "#include \"x/../a.h\"\n#include \"/a.h\"\n#include \"../../../inc//a.h\""

def respelledResult : Extraction where
  edges := [⟨"<root>", "/inc/a.h"⟩]
  sources := [("/inc/a.h", "#include \"../inc/./a.h\"")]

/-- Four spellings, one of which climbs above the root of all paths and one of which
stands in the header itself, are one vertex. -/
theorem extract_vertices_respelled :
    extract respelled.reader .none "/inc/" respelledRoot = .ok respelledResult ∧
    Spelled respelled.reader .none "/inc/" respelledRoot "/inc//../../../inc//a.h" ∧
    Spelled respelled.reader .none "/inc/" respelledRoot "/inc/../inc/./a.h" ∧
    (Graph.ofEdges respelledResult.edges).nodes.countP
      (Path.clean · = Path.clean "/inc//../../../inc//a.h") = 1 := by
  have hd : "/inc/" ≠ "" := by decide
  have hx : extract respelled.reader .none "/inc/" respelledRoot = .ok respelledResult := by
    decide +kernel
  have hroot : Spelled respelled.reader .none "/inc/" respelledRoot "/inc//../../../inc//a.h" :=
    .root ⟨"#include \"../../../inc//a.h\"", by decide +kernel, "../../../inc//a.h",
      by decide +kernel, rfl, rfl⟩
  obtain ⟨-, -, htargets, hone⟩ := extract_vertices_canonical _ _ _ _ _ hd hx
  have hreach : Reach respelled.reader .none "/inc/" respelledRoot "/inc/a.h" :=
    (reach_iff_spelled hd).mpr ((htargets "/inc/a.h").mp (by decide))
  refine ⟨hx, hroot, ?_, hone _ hroot⟩
  exact .header hreach rfl ⟨"#include \"../inc/./a.h\"", by decide +kernel, "../inc/./a.h",
    by decide +kernel, by decide +kernel, rfl⟩

end Amalgam
