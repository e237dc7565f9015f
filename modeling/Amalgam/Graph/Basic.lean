import Amalgam.Edge

/-!
# Include graphs

Labels in the order in which an edge list first names them, an edge's source
before its target, and the edges without repetitions in list order. Both orders
decide how ties are broken when the graph is put in order.
-/

namespace Amalgam

structure Graph where
  nodes : List String := []
  edges : List Edge := []
deriving DecidableEq

namespace Graph

def addNode (g : Graph) (label : String) : Graph :=
  if label ∈ g.nodes then g else { g with nodes := g.nodes ++ [label] }

/-- Adds an edge and its ends, each unless it is there already. -/
def addEdge (g : Graph) (e : Edge) : Graph :=
  let ends := (g.addNode e.source).addNode e.target
  if e ∈ ends.edges then ends else { ends with edges := ends.edges ++ [e] }

def ofEdges (edges : List Edge) : Graph :=
  edges.foldl addEdge {}

def nodeCount (g : Graph) : Nat :=
  g.nodes.length

def edgeCount (g : Graph) : Nat :=
  g.edges.length

def index? (g : Graph) (label : String) : Option Nat :=
  g.nodes.idxOf? label

def label? (g : Graph) (index : Nat) : Option String :=
  g.nodes[index]?

/-- The files that a file includes, in the order of their edges. -/
def dependencies (g : Graph) (label : String) : List String :=
  (g.edges.filter (·.source = label)).map (·.target)

def indegree (g : Graph) (label : String) : Nat :=
  (g.edges.filter (·.target = label)).length

def edgesOutside (g : Graph) (labels : List String) : List Edge :=
  g.edges.filter (·.source ∉ labels)

theorem length_edgesOutside_cons (g : Graph) {label : String} {labels : List String}
    (h : label ∉ labels) :
    (g.edgesOutside (label :: labels)).length + (g.dependencies label).length =
      (g.edgesOutside labels).length := by
  simp only [edgesOutside, dependencies, List.length_map]
  induction g.edges with
  | nil => rfl
  | cons e edges ih =>
    by_cases he : e.source = label
    · simp [he, h] at ih ⊢
      omega
    · by_cases hl : e.source ∈ labels <;> simp [he, hl] at ih ⊢ <;> omega

end Graph

end Amalgam
