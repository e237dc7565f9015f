import Amalgam.Inliner
import Amalgam.Log.Event
import Amalgam.Text.Quoted

/-!
# What inlining logs

One event for each header that is read, one when the walk is complete, one for
each label as the graph is put in order, and one when the plan stands. A run
that fails logs up to the failure.
-/

namespace Amalgam

open Log (Event)

namespace Log

def readingHeader (read : Edge) : Event where
  level := .debug
  target := "hinline_core::extract"
  message := "reading header"
  fields := [("path", .text read.target), ("referrer", .text read.source)]

def extractionComplete (x : Extraction) : Event where
  level := .debug
  target := "hinline_core::extract"
  message := "extraction complete"
  fields := [("edges", .count x.edges.length), ("includes", .count x.lifted.size)]

def emitted (label : String) : Event where
  level := .trace
  target := "hinline_core::graph::order"
  message := "emit"
  fields := [("header", .text ("Some(" ++ Text.logQuoted label ++ ")"))]

def planned (p : Plan) : Event where
  level := .info
  target := "hinline_core::assemble"
  message := "resolved include graph"
  fields := [("headers", .count p.order.length), ("system_includes", .count p.includes.length)]

end Log

def Inliner.planJournal (inl : Inliner) (source : String) (x : Extraction) : List Event :=
  match inl.planOf source x with
  | .error _ => []
  | .ok p => (Graph.ofEdges x.edges).emission.map Log.emitted ++ [Log.planned p]

def Inliner.journal (inl : Inliner) (source : String) : List Event :=
  let walk := inl.walk source
  walk.reads.map Log.readingHeader ++
    match walk.result with
    | .error _ => []
    | .ok x => Log.extractionComplete x :: inl.planJournal source x

end Amalgam
