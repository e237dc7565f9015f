import Amalgam.Error
import Amalgam.Graph.Order
import Amalgam.Layout
import Amalgam.Marker
import Amalgam.Walk

/-!
# Inlining

A plan fixes the order of the headers and the lines to lift. The unit is the
head of the root, the lifted lines, the text between include lines, one block
for each header in order, and the tail of the root. A root that follows no
include is its own unit.
-/

namespace Amalgam

structure Plan where
  /-- The headers, each after all it includes. -/
  order : List Path
  /-- The lifted lines, each once, those of the root first. -/
  includes : List String
  extraction : Extraction
deriving DecidableEq

structure Inliner where
  includeDir : Path
  exclusion : Exclusion := .none
  style : MarkerStyle := .resolved
  reader : Reader

namespace Inliner

def layout (inl : Inliner) (source : String) : Layout :=
  Layout.scan inl.exclusion inl.includeDir source

def walk (inl : Inliner) (source : String) : Walk :=
  Amalgam.walk inl.reader inl.exclusion inl.includeDir source

def planOf (inl : Inliner) (source : String) (x : Extraction) : Except InlineError Plan :=
  match (Graph.ofEdges x.edges).order rootLabel with
  | .error e => .error (.cyclic e)
  | .ok order =>
    let lifted := (inl.layout source).lifted inl.exclusion inl.includeDir
    .ok ⟨order, x.lifted.uniqueAfter lifted, x⟩

def plan (inl : Inliner) (source : String) : Except InlineError Plan :=
  match (inl.walk source).result with
  | .error e => .error (.unreadable e)
  | .ok x => inl.planOf source x

def body (x : Extraction) (header : Path) : List String :=
  (Text.lines ((x.source? header).getD "")).filter fun line => !isIncludeLine line

def block (inl : Inliner) (x : Extraction) (header : Path) : Except StripError (List String) :=
  match inl.style.label inl.includeDir header with
  | .error e => .error e
  | .ok label => .ok (beginMarker label :: body x header ++ [endMarker label])

def blocks (inl : Inliner) (x : Extraction) : List Path → Except StripError (List String)
  | [] => .ok []
  | header :: headers =>
    match inl.block x header with
    | .error e => .error e
    | .ok lines =>
      match inl.blocks x headers with
      | .error e => .error e
      | .ok more => .ok (lines ++ more)

def assemble (inl : Inliner) (layout : Layout) (includes blocks : List String) : String :=
  Text.unlines
      (layout.head ++ includes ++ layout.interlude inl.exclusion inl.includeDir ++ blocks) ++
    Text.join '\n' layout.tail

def render (inl : Inliner) (source : String) (plan : Plan) : Except InlineError String :=
  match inl.blocks plan.extraction plan.order with
  | .error e => .error (.marker e)
  | .ok blocks => .ok (inl.assemble (inl.layout source) plan.includes blocks)

def inline (inl : Inliner) (source : String) : Except InlineError String :=
  match inl.plan source with
  | .error e => .error e
  | .ok plan => if plan.extraction.isEmpty then .ok source else inl.render source plan

end Inliner

end Amalgam
