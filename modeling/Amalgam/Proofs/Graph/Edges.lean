import Amalgam.Distinct
import Amalgam.Graph.Basic
import Mathlib.Data.List.Induction
import Mathlib.Logic.Relation

/-!
# What a graph keeps of its edge list

The nodes of the graph of an edge list are the ends of its edges and its edges
are those of the list, each where it first occurs. So a label's dependencies
are the targets of its edges, and what the list relates is what the graph does.
-/

namespace Amalgam

open Relation (TransGen)

def Linked (edges : List Edge) (a b : String) : Prop :=
  ⟨a, b⟩ ∈ edges

def Acyclic (edges : List Edge) : Prop :=
  ∀ a, ¬ TransGen (Linked edges) a a

theorem transGen_linked_mono {edges edges' : List Edge} (h : edges ⊆ edges') {a b : String}
    (hab : TransGen (Linked edges) a b) : TransGen (Linked edges') a b :=
  TransGen.mono (fun _ _ he => h he) a b hab

def Edge.ends (e : Edge) : List String :=
  [e.source, e.target]

def targetsFrom (label : String) (edges : List Edge) : List String :=
  (edges.filter (·.source = label)).map (·.target)

@[simp] theorem targetsFrom_nil (label : String) : targetsFrom label [] = [] := rfl

@[simp] theorem targetsFrom_append (label : String) (es es' : List Edge) :
    targetsFrom label (es ++ es') = targetsFrom label es ++ targetsFrom label es' := by
  simp [targetsFrom]

theorem targetsFrom_cons (label : String) (e : Edge) (es : List Edge) :
    targetsFrom label (e :: es) =
      if e.source = label then e.target :: targetsFrom label es else targetsFrom label es := by
  by_cases h : e.source = label <;> simp [targetsFrom, h]

theorem mem_targetsFrom {label target : String} {edges : List Edge} :
    target ∈ targetsFrom label edges ↔ ⟨label, target⟩ ∈ edges := by
  simp only [targetsFrom, List.mem_map, List.mem_filter, decide_eq_true_eq]
  constructor
  · rintro ⟨⟨source, _⟩, ⟨he, rfl⟩, rfl⟩
    exact he
  · intro he
    exact ⟨_, ⟨he, rfl⟩, rfl⟩

theorem targetsFrom_distinct (label : String) (edges : List Edge) :
    targetsFrom label (distinct edges) = distinct (targetsFrom label edges) := by
  induction edges using List.reverseRecOn with
  | nil => rfl
  | append_singleton edges e ih =>
    obtain ⟨source, target⟩ := e
    rw [distinct_concat, targetsFrom_append, targetsFrom_cons, targetsFrom_nil]
    by_cases hsource : source = label
    · subst hsource
      rw [if_pos rfl, distinct_concat]
      by_cases he : ⟨source, target⟩ ∈ edges
      · rw [if_pos he, if_pos (mem_targetsFrom.mpr he), ih]
      · rw [if_neg he, if_neg (mt mem_targetsFrom.mp he), targetsFrom_append, ih]
        simp [targetsFrom_cons]
    · rw [if_neg hsource, List.append_nil, ← ih]
      split
      · rfl
      · simp [targetsFrom_cons, hsource]

namespace Graph

variable {g : Graph} {edges : List Edge} {label : String}

-- ---------------------------------------------------------------------------
-- Nodes and edges
-- ---------------------------------------------------------------------------

@[simp] theorem edges_addNode (g : Graph) (label : String) : (g.addNode label).edges = g.edges := by
  rw [addNode]
  split <;> rfl

theorem nodes_addNode {labels : List String} (h : g.nodes = distinct labels) (label : String) :
    (g.addNode label).nodes = distinct (labels ++ [label]) := by
  simp only [addNode, h, mem_distinct, distinct_concat]
  split
  · exact h
  · rfl

theorem nodes_addEdge {labels : List String} (h : g.nodes = distinct labels) (e : Edge) :
    (g.addEdge e).nodes = distinct (labels ++ e.ends) := by
  have hends : ((g.addNode e.source).addNode e.target).nodes = distinct (labels ++ e.ends) := by
    rw [nodes_addNode (nodes_addNode h e.source), List.append_assoc]
    rfl
  rw [addEdge]
  split <;> exact hends

theorem edges_addEdge (h : g.edges = distinct edges) (e : Edge) :
    (g.addEdge e).edges = distinct (edges ++ [e]) := by
  simp only [addEdge, edges_addNode, h, mem_distinct, distinct_concat]
  split
  · simpa using h
  · rfl

theorem ofEdges_concat (edges : List Edge) (e : Edge) :
    ofEdges (edges ++ [e]) = (ofEdges edges).addEdge e := by
  simp [ofEdges]

theorem nodes_ofEdges (edges : List Edge) :
    (ofEdges edges).nodes = distinct (edges.flatMap Edge.ends) := by
  induction edges using List.reverseRecOn with
  | nil => rfl
  | append_singleton edges e ih =>
    rw [ofEdges_concat, nodes_addEdge ih, List.flatMap_append, List.flatMap_singleton]

theorem edges_ofEdges (edges : List Edge) : (ofEdges edges).edges = distinct edges := by
  induction edges using List.reverseRecOn with
  | nil => rfl
  | append_singleton edges e ih => rw [ofEdges_concat, edges_addEdge ih]

theorem nodup_nodes (edges : List Edge) : (ofEdges edges).nodes.Nodup := by
  rw [nodes_ofEdges]
  exact nodup_distinct _

theorem mem_nodes :
    label ∈ (ofEdges edges).nodes ↔ ∃ e ∈ edges, label = e.source ∨ label = e.target := by
  simp [nodes_ofEdges, Edge.ends]

@[simp] theorem mem_edges {e : Edge} : e ∈ (ofEdges edges).edges ↔ e ∈ edges := by
  rw [edges_ofEdges, mem_distinct]

-- ---------------------------------------------------------------------------
-- Dependencies
-- ---------------------------------------------------------------------------

theorem dependencies_eq (g : Graph) (label : String) :
    g.dependencies label = targetsFrom label g.edges := rfl

theorem mem_dependencies {target : String} :
    target ∈ g.dependencies label ↔ ⟨label, target⟩ ∈ g.edges := by
  rw [dependencies_eq, mem_targetsFrom]

theorem dependencies_ofEdges (edges : List Edge) (label : String) :
    (ofEdges edges).dependencies label = distinct (targetsFrom label edges) := by
  rw [dependencies_eq, edges_ofEdges, targetsFrom_distinct]

theorem dependencies_eq_nil (h : label ∉ g.edges.map (·.source)) : g.dependencies label = [] := by
  refine List.eq_nil_iff_forall_not_mem.mpr fun target ht => h ?_
  exact List.mem_map.mpr ⟨_, mem_dependencies.mp ht, rfl⟩

theorem indegree_eq_zero : g.indegree label = 0 ↔ ∀ e ∈ g.edges, e.target ≠ label := by
  simp [indegree]

end Graph

end Amalgam
