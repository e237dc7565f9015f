import Amalgam.Graph.Tour

/-!
# Include cycles

A label lies on a cycle when edges lead from it back to itself. Its cycle is
reported as the labels that it reaches and that reach it, sorted; the report
lists each such set once and is sorted too, so it does not depend on the order
of the edges.

Whether there is a cycle at all is told faster: a tour of all labels puts every
target before its source exactly if there is none.
-/

namespace Amalgam

namespace Graph

/-- What can be reached from `pending`, `met` included. Every round meets a new
label or drops a pending one. -/
def explore (g : Graph) (pending met : List String) : List String :=
  match pending with
  | [] => met
  | label :: pending =>
    if label ∈ met then g.explore pending met
    else g.explore (g.dependencies label ++ pending) (label :: met)
termination_by (g.edgesOutside met).length + pending.length
decreasing_by
  · simp
  · next h =>
    have := g.length_edgesOutside_cons h
    simp
    omega

/-- The labels that one or more edges lead to from `label`. -/
def reach (g : Graph) (label : String) : List String :=
  g.explore (g.dependencies label) []

def isOnCycle (g : Graph) (label : String) : Bool :=
  label ∈ g.reach label

def reverse (g : Graph) : Graph where
  nodes := g.nodes
  edges := g.edges.map fun e => ⟨e.target, e.source⟩

def cycleOf (g : Graph) (label : String) : List String :=
  let back := g.reverse.reach label
  (g.reach label).filter (· ∈ back)

/-- The cycles of the given labels, each when its first label comes up. -/
def cyclesAmong (g : Graph) (labels : List String) : List (List String) :=
  match labels with
  | [] => []
  | label :: labels =>
    if g.isOnCycle label then
      let cycle := g.cycleOf label
      cycle :: g.cyclesAmong (labels.filter (· ∉ cycle))
    else g.cyclesAmong labels
termination_by labels.length
decreasing_by
  · simpa using Nat.lt_succ_of_le (List.length_filter_le _ labels.attach)
  · simp

def sortLabels (labels : List String) : List String :=
  labels.mergeSort (fun a b => decide (a ≤ b))

def lexLE : List String → List String → Bool
  | [], _ => true
  | _ :: _, [] => false
  | a :: as, b :: bs => if a = b then lexLE as bs else decide (a < b)

/-- All cycles, the labels of each sorted, in lexicographic order. -/
def cycles (g : Graph) : List (List String) :=
  ((g.cyclesAmong g.nodes).map sortLabels).mergeSort lexLE

def isOrderedBy (g : Graph) (labels : List String) : Bool :=
  g.edges.all fun e => labels.idxOf e.target < labels.idxOf e.source

def isCyclic (g : Graph) : Bool :=
  !g.isOrderedBy (g.tour g.nodes)

end Graph

structure CycleError where
  members : List (List String)
deriving DecidableEq

def CycleError.message (e : CycleError) : String :=
  "include cycle detected: " ++ String.intercalate "; " (e.members.map (String.intercalate " <-> "))

end Amalgam
