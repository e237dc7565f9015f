import Amalgam.Proofs.Graph.Edges
import Mathlib.Data.Finset.Card
import Mathlib.Data.List.Nodup

/-!
# A graph stands for its edge list

A graph is built edge by edge. What it answers can be read off the list: where a label
stands, how many edges there are, what a label includes and how many include it. Adding
an edge that is there changes nothing, so the graph of a list does not tell whether an
edge came once or again later.
-/

namespace Amalgam

def sourcesTo (label : String) (edges : List Edge) : List String :=
  (edges.filter (·.target = label)).map (·.source)

theorem mem_sourcesTo {label source : String} {edges : List Edge} :
    source ∈ sourcesTo label edges ↔ ⟨source, label⟩ ∈ edges := by
  simp only [sourcesTo, List.mem_map, List.mem_filter, decide_eq_true_eq]
  constructor
  · rintro ⟨⟨_, target⟩, ⟨he, rfl⟩, rfl⟩
    exact he
  · intro he
    exact ⟨_, ⟨he, rfl⟩, rfl⟩

theorem nodup_sourcesTo {edges : List Edge} (h : edges.Nodup) (label : String) :
    (sourcesTo label edges).Nodup := by
  refine List.Nodup.map_on ?_ (h.filter _)
  rintro ⟨source, target⟩ he ⟨source', target'⟩ he' rfl
  simp only [List.mem_filter, decide_eq_true_eq] at he he'
  rw [he.2, he'.2]

theorem length_distinct {α : Type} [DecidableEq α] (as : List α) :
    (distinct as).length = as.toFinset.card := by
  rw [← List.toFinset_card_of_nodup (nodup_distinct as)]
  congr 1
  ext a
  simp

namespace Graph

variable {g : Graph} {edges before after : List Edge} {e : Edge} {label : String} {i : Nat}

-- ---------------------------------------------------------------------------
-- Lookups
-- ---------------------------------------------------------------------------

theorem index?_eq_some (h : g.nodes.Nodup) : g.index? label = some i ↔ g.label? i = some label := by
  rw [index?, label?, List.idxOf?_eq_some_iff, List.getElem?_eq_some_iff]
  constructor
  · rintro ⟨hi, hlabel, -⟩
    exact ⟨hi, hlabel⟩
  · rintro ⟨hi, hlabel⟩
    refine ⟨hi, hlabel, ?_⟩
    intro j hj heq
    have hij : j = i := (List.Nodup.getElem_inj_iff h).mp (heq.trans hlabel.symm)
    omega

theorem lt_nodeCount_iff : i < g.nodeCount ↔ ∃ label, g.label? i = some label := by
  simp [nodeCount, label?, List.getElem?_eq_some_iff]

theorem mem_nodes_iff_index? : label ∈ g.nodes ↔ ∃ i, g.index? label = some i := by
  simp [index?, ← Option.isSome_iff_exists]

theorem dependencies_of_not_mem (h : label ∉ (ofEdges edges).nodes) :
    (ofEdges edges).dependencies label = [] := by
  refine dependencies_eq_nil ?_
  intro hm
  obtain ⟨e, he, rfl⟩ := List.mem_map.mp hm
  exact h (mem_nodes.mpr ⟨e, mem_edges.mp he, .inl rfl⟩)

-- ---------------------------------------------------------------------------
-- Counts
-- ---------------------------------------------------------------------------

theorem edgeCount_ofEdges (edges : List Edge) :
    (ofEdges edges).edgeCount = edges.toFinset.card := by
  rw [edgeCount, edges_ofEdges, length_distinct]

theorem indegree_eq (g : Graph) (label : String) :
    g.indegree label = (sourcesTo label g.edges).length := by
  simp [indegree, sourcesTo]

theorem indegree_ofEdges (edges : List Edge) (label : String) :
    (ofEdges edges).indegree label = (sourcesTo label edges).toFinset.card := by
  rw [indegree_eq, edges_ofEdges,
    ← List.toFinset_card_of_nodup (nodup_sourcesTo (nodup_distinct edges) label)]
  congr 1
  ext source
  simp [mem_sourcesTo]

-- ---------------------------------------------------------------------------
-- Repeated edges
-- ---------------------------------------------------------------------------

theorem addNode_of_mem (h : label ∈ g.nodes) : g.addNode label = g := by
  simp [addNode, h]

theorem addEdge_of_mem (h : e ∈ edges) : (ofEdges edges).addEdge e = ofEdges edges := by
  have hsource : e.source ∈ (ofEdges edges).nodes := mem_nodes.mpr ⟨e, h, .inl rfl⟩
  have htarget : e.target ∈ (ofEdges edges).nodes := mem_nodes.mpr ⟨e, h, .inr rfl⟩
  simp [addEdge, addNode_of_mem hsource, addNode_of_mem htarget, h]

theorem ofEdges_append (before after : List Edge) :
    ofEdges (before ++ after) = after.foldl addEdge (ofEdges before) := by
  simp [ofEdges]

theorem ofEdges_repeated (h : e ∈ before) :
    ofEdges (before ++ e :: after) = ofEdges (before ++ after) := by
  rw [ofEdges_append, ofEdges_append, List.foldl_cons, addEdge_of_mem h]

/-- The nodes are the ends of the edges, in the order of the list, and have the
places of their first occurrence. A label's dependencies are the targets of its edges
in that order. Edges, and the edges that lead to a label, are counted once each. An
edge that comes again later might as well be left out. -/
theorem ofEdges_faithful (edges : List Edge) :
    (ofEdges edges).nodes = distinct (edges.flatMap fun e => [e.source, e.target]) ∧
    (∀ label i, (ofEdges edges).index? label = some i ↔ (ofEdges edges).label? i = some label) ∧
    (∀ i, i < (ofEdges edges).nodeCount ↔ ∃ label, (ofEdges edges).label? i = some label) ∧
    (∀ label, (∃ i, (ofEdges edges).index? label = some i) ↔
      ∃ e ∈ edges, label = e.source ∨ label = e.target) ∧
    (ofEdges edges).edgeCount = edges.toFinset.card ∧
    (∀ label, (ofEdges edges).dependencies label =
      distinct ((edges.filter (·.source = label)).map (·.target))) ∧
    (∀ label, (ofEdges edges).index? label = none → (ofEdges edges).dependencies label = []) ∧
    (∀ label, (ofEdges edges).indegree label =
      ((edges.filter (·.target = label)).map (·.source)).toFinset.card) ∧
    (∀ before e after, edges = before ++ e :: after → e ∈ before →
      ofEdges (before ++ after) = ofEdges edges) := by
  refine ⟨nodes_ofEdges edges, fun _ _ => index?_eq_some (nodup_nodes edges),
    fun _ => lt_nodeCount_iff, ?_, edgeCount_ofEdges edges, dependencies_ofEdges edges, ?_,
    indegree_ofEdges edges, ?_⟩
  · intro label
    rw [← mem_nodes_iff_index?, mem_nodes]
  · intro label hnone
    refine dependencies_of_not_mem ?_
    rw [mem_nodes_iff_index?, hnone]
    simp
  · rintro before e after rfl he
    exact (ofEdges_repeated he).symm

def repeating : List Edge :=
  [⟨"a", "c"⟩, ⟨"b", "b"⟩, ⟨"a", "c"⟩, ⟨"c", "b"⟩, ⟨"a", "b"⟩, ⟨"b", "b"⟩]

theorem ofEdges_faithful_repeating :
    (ofEdges repeating).nodes = ["a", "c", "b"] ∧
    (ofEdges repeating).dependencies "d" = [] ∧
    ofEdges [⟨"a", "c"⟩, ⟨"b", "b"⟩, ⟨"c", "b"⟩, ⟨"a", "b"⟩, ⟨"b", "b"⟩] = ofEdges repeating := by
  obtain ⟨hnodes, -, -, -, -, -, hunknown, -, hrepeated⟩ := ofEdges_faithful repeating
  refine ⟨hnodes.trans (by decide), hunknown "d" (by decide), ?_⟩
  exact hrepeated [⟨"a", "c"⟩, ⟨"b", "b"⟩] ⟨"a", "c"⟩ _ rfl (by decide)

end Graph

end Amalgam
