import Amalgam.Distinct
import Amalgam.Edge
import Amalgam.Reader

/-!
# What a walk over includes yields

The includes that were followed, as edges from the including file to the
header, the lines to lift, and the contents of the headers, each in the order
of discovery.
-/

namespace Amalgam

structure Unreadable where
  path : Path
  referrer : String
  cause : ReadError
deriving DecidableEq

def Unreadable.message (e : Unreadable) : String :=
  "cannot read " ++ e.path ++ " (included from " ++ e.referrer ++ ")"

/-- Lines to lift, repetitions kept. -/
structure LiftedLines where
  lines : List String := []
deriving DecidableEq

namespace LiftedLines

def push (s : LiftedLines) (line : String) : LiftedLines :=
  ⟨s.lines ++ [line]⟩

def size (s : LiftedLines) : Nat :=
  s.lines.length

def isEmpty (s : LiftedLines) : Bool :=
  s.lines.isEmpty

/-- The lines of `base` and then these, each once. -/
def uniqueAfter (s : LiftedLines) (base : List String) : List String :=
  distinct (base ++ s.lines)

end LiftedLines

structure Extraction where
  edges : List Edge := []
  lifted : LiftedLines := {}
  sources : List (Path × String) := []
deriving DecidableEq

namespace Extraction

def source? (x : Extraction) (path : Path) : Option String :=
  (x.sources.find? (·.1 = path)).map (·.2)

def headerCount (x : Extraction) : Nat :=
  x.sources.length

/-- The root follows no include. -/
def isEmpty (x : Extraction) : Bool :=
  x.edges.isEmpty

end Extraction

end Amalgam
