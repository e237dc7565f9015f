import Amalgam.Graph.Cycles

/-!
# Dependencies first

The labels of a graph without cycles, each after all that it includes. Tours
start at the labels that nothing includes, in node order, and look at
dependencies in edge order, which settles every tie.
-/

namespace Amalgam

namespace Graph

def starts (g : Graph) : List String :=
  g.nodes.filter (g.indegree · = 0)

def emission (g : Graph) : List String :=
  g.tour g.starts

/-- The labels other than `root`, each after all it includes. -/
def order (g : Graph) (root : String) : Except CycleError (List String) :=
  if g.isCyclic then .error ⟨g.cycles⟩ else .ok (g.emission.filter (· ≠ root))

end Graph

end Amalgam
