import Amalgam.Graph.Order
import Amalgam.Proofs.Graph.Tour

/-!
# Every acyclic graph is put in order

A tour of all labels has every target before its source exactly if the edges
form no cycle, which is how a cycle is told. Without one, climbing against the
edges comes to a label that nothing includes, so the tours from those labels
emit every label, each after all that it includes.
-/

namespace Amalgam

open Relation (ReflTransGen TransGen)

namespace Graph

variable {edges : List Edge} {labels starts : List String} {label root : String}

theorem leadsTo_dependencies (edges : List Edge) :
    LeadsTo (ofEdges edges).dependencies = Linked edges := by
  funext a b
  rw [LeadsTo, Linked, mem_dependencies, mem_edges]

-- ---------------------------------------------------------------------------
-- Cycles
-- ---------------------------------------------------------------------------

theorem isOrderedBy_iff :
    (ofEdges edges).isOrderedBy labels = true ↔
      ∀ e ∈ edges, labels.idxOf e.target < labels.idxOf e.source := by
  simp [isOrderedBy]

theorem idxOf_lt_of_transGen (h : ∀ e ∈ edges, labels.idxOf e.target < labels.idxOf e.source)
    {a b : String} (hab : TransGen (Linked edges) a b) : labels.idxOf b < labels.idxOf a := by
  induction hab with
  | single he => exact h _ he
  | tail _ he ih => exact Nat.lt_trans (h _ he) ih

theorem acyclic_of_ordered (h : ∀ e ∈ edges, labels.idxOf e.target < labels.idxOf e.source) :
    Acyclic edges :=
  fun _ ha => Nat.lt_irrefl _ (idxOf_lt_of_transGen h ha)

theorem precedes_of_acyclic (h : Acyclic edges) {e : Edge} (he : e ∈ edges)
    (hs : e.source ∈ (ofEdges edges).tour starts) :
    Precedes ((ofEdges edges).tour starts) e.target e.source := by
  have hdep : e.target ∈ (ofEdges edges).dependencies e.source :=
    mem_dependencies.mpr (mem_edges.mpr he)
  rcases precedes_tour hs hdep with hp | hback
  · exact hp
  · rw [leadsTo_dependencies] at hback
    exact absurd (TransGen.head' he hback) (h _)

theorem idxOf_lt_of_acyclic (h : Acyclic edges) {e : Edge} (he : e ∈ edges)
    (hs : e.source ∈ (ofEdges edges).tour starts) :
    ((ofEdges edges).tour starts).idxOf e.target < ((ofEdges edges).tour starts).idxOf e.source :=
  (precedes_of_acyclic h he hs).idxOf_lt (nodup_tour _ _)

theorem source_mem_nodes {e : Edge} (he : e ∈ edges) : e.source ∈ (ofEdges edges).nodes :=
  mem_nodes.mpr ⟨e, he, .inl rfl⟩

theorem target_mem_nodes {e : Edge} (he : e ∈ edges) : e.target ∈ (ofEdges edges).nodes :=
  mem_nodes.mpr ⟨e, he, .inr rfl⟩

theorem mem_tour_nodes (h : label ∈ (ofEdges edges).nodes) :
    label ∈ (ofEdges edges).tour (ofEdges edges).nodes :=
  mem_tour.mpr ⟨label, h, .refl⟩

theorem isCyclic_eq_false : (ofEdges edges).isCyclic = false ↔ Acyclic edges := by
  rw [isCyclic, Bool.not_eq_false', isOrderedBy_iff]
  constructor
  · exact acyclic_of_ordered
  · intro h e he
    exact idxOf_lt_of_acyclic h he (mem_tour_nodes (source_mem_nodes he))

-- ---------------------------------------------------------------------------
-- Starts
-- ---------------------------------------------------------------------------

theorem mem_starts :
    label ∈ (ofEdges edges).starts ↔
      label ∈ (ofEdges edges).nodes ∧ ∀ e ∈ edges, e.target ≠ label := by
  simp [starts, indegree_eq_zero]

/-- Some label that nothing includes leads to any given one. Climbing an edge
moves towards the end of a tour, so it cannot go on for ever. -/
theorem exists_start (h : Acyclic edges) {label : String} (hl : label ∈ (ofEdges edges).nodes) :
    ∃ start ∈ (ofEdges edges).starts, ReflTransGen (Linked edges) start label := by
  let tour := (ofEdges edges).tour (ofEdges edges).nodes
  induction hn : tour.length - tour.idxOf label using Nat.strongRecOn generalizing label with
  | ind n ih =>
    by_cases hd : ∀ e ∈ edges, e.target ≠ label
    · exact ⟨label, mem_starts.mpr ⟨hl, hd⟩, .refl⟩
    · simp only [not_forall, not_not] at hd
      obtain ⟨e, he, rfl⟩ := hd
      have hs : e.source ∈ tour := mem_tour_nodes (source_mem_nodes he)
      have hlt : tour.idxOf e.target < tour.idxOf e.source := idxOf_lt_of_acyclic h he hs
      have hlen : tour.idxOf e.source < tour.length := List.idxOf_lt_length_of_mem hs
      obtain ⟨start, hstart, hr⟩ := ih _ (by omega) (source_mem_nodes he) rfl
      exact ⟨start, hstart, hr.tail he⟩

theorem mem_nodes_of_reachable {a b : String} (ha : a ∈ (ofEdges edges).nodes)
    (hab : ReflTransGen (Linked edges) a b) : b ∈ (ofEdges edges).nodes := by
  cases hab with
  | refl => exact ha
  | tail _ he => exact target_mem_nodes he

theorem mem_emission (h : Acyclic edges) :
    label ∈ (ofEdges edges).emission ↔ label ∈ (ofEdges edges).nodes := by
  rw [emission, mem_tour, leadsTo_dependencies]
  constructor
  · rintro ⟨start, hs, hr⟩
    exact mem_nodes_of_reachable (mem_starts.mp hs).1 hr
  · exact exists_start h

-- ---------------------------------------------------------------------------
-- Order
-- ---------------------------------------------------------------------------

theorem order_eq_ok {order : List String} :
    (ofEdges edges).order root = .ok order ↔
      Acyclic edges ∧ order = (ofEdges edges).emission.filter (· ≠ root) := by
  rw [Graph.order, ← isCyclic_eq_false]
  cases (ofEdges edges).isCyclic <;> simp [eq_comm]

theorem order_eq_error :
    (∃ e, (ofEdges edges).order root = .error e) ↔ ¬ Acyclic edges := by
  rw [Graph.order, ← isCyclic_eq_false]
  cases (ofEdges edges).isCyclic <;> simp

/-- The labels of an edge list can be put in order exactly if no label leads
back to itself. The order then lists every end of an edge but the root once,
and each after all that it includes. -/
theorem order_ofEdges (edges : List Edge) (root : String) :
    ((∃ order, (ofEdges edges).order root = .ok order) ↔ Acyclic edges) ∧
    ∀ order, (ofEdges edges).order root = .ok order →
      order.Nodup ∧
      (∀ label, label ∈ order ↔ label ≠ root ∧ ∃ e ∈ edges, label = e.source ∨ label = e.target) ∧
      ∀ e ∈ edges, e.source ≠ root → e.target ≠ root →
        order.idxOf e.target < order.idxOf e.source := by
  refine ⟨?_, ?_⟩
  · simp only [order_eq_ok, exists_and_left, exists_eq, and_true]
  · intro order horder
    obtain ⟨h, rfl⟩ := order_eq_ok.mp horder
    have hnodup : ((ofEdges edges).emission.filter (· ≠ root)).Nodup :=
      (nodup_tour _ _).filter _
    refine ⟨hnodup, ?_, ?_⟩
    · intro label
      rw [List.mem_filter, mem_emission h, mem_nodes, decide_eq_true_eq, and_comm]
    · intro e he hs ht
      have hp := precedes_of_acyclic h he ((mem_emission h).mpr (source_mem_nodes he))
      exact (hp.filter (by simpa using ht) (by simpa using hs)).idxOf_lt hnodup

def rootBetween : List Edge :=
  [⟨"a", "r"⟩, ⟨"r", "b"⟩, ⟨"a", "b"⟩, ⟨"a", "b"⟩, ⟨"x", "y"⟩]

theorem order_rootBetween :
    (ofEdges rootBetween).order "r" = .ok ["b", "a", "y", "x"] ∧ Acyclic rootBetween := by
  have h : (ofEdges rootBetween).order "r" = .ok ["b", "a", "y", "x"] := by decide +kernel
  exact ⟨h, (order_ofEdges rootBetween "r").1.mp ⟨_, h⟩⟩

end Graph

end Amalgam
