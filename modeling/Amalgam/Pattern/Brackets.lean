import Amalgam.Pattern.Escape

/-!
# Bracketed sets in patterns

Brackets list characters, ranges, classes and further brackets, and may combine
such lists by intersection, difference and symmetric difference, taken from
left to right. A closing bracket right after the opening one, and hyphens at
either end, stand for themselves. Brackets, lists of more than one item and
operations each nest a level deeper.
-/

namespace Amalgam.Pattern

inductive SetOp where
  | inter
  | diff
  | symmDiff

def SetOp.apply : SetOp → CharSet → CharSet → CharSet
  | inter, a, b => a.inter b
  | diff, a, b => a.diff b
  | symmDiff, a, b => a.symmDiff b

/-- A set and how deeply its spelling nests. -/
structure SpelledSet where
  chars : CharSet
  depth : Nat := 0

def SpelledSet.union : List SpelledSet → SpelledSet
  | [] => ⟨.empty, 0⟩
  | [set] => set
  | sets =>
    ⟨sets.foldr (fun set union => union.union set.chars) .empty,
      sets.foldl (fun n set => max n set.depth) 0 + 1⟩

/-- Brackets that are still open: what was listed before the last operation,
and what has been listed since, the last item first. -/
structure OpenSet where
  negated : Bool
  pending : Option (SetOp × SpelledSet) := none
  items : List SpelledSet := []

def Flags.fold (flags : Flags) (set : CharSet) : CharSet :=
  if flags.ignoreCase then
    if flags.unicode then set.folded else set.folded.inter .ascii
  else set

namespace OpenSet

def add (s : OpenSet) (set : SpelledSet) : OpenSet :=
  { s with items := set :: s.items }

def combined (flags : Flags) (s : OpenSet) : SpelledSet :=
  let right := SpelledSet.union s.items
  match s.pending with
  | none => right
  | some (op, left) =>
    ⟨op.apply (flags.fold left.chars) (flags.fold right.chars), max left.depth right.depth + 1⟩

def operate (flags : Flags) (s : OpenSet) (op : SetOp) : OpenSet :=
  { s with pending := some (op, s.combined flags), items := [] }

/-- The finished set. Bytes have no complement that is text. -/
def close? (flags : Flags) (s : OpenSet) : Option SpelledSet :=
  let listed := s.combined flags
  let set := flags.fold listed.chars
  if s.negated then
    if flags.unicode then some ⟨set.compl, listed.depth + 1⟩ else none
  else some ⟨set, listed.depth + 1⟩

end OpenSet

def hyphens (flags : Flags) : Nat → OpenSet → List Char → OpenSet × List Char
  | n + 1, s, '-' :: rest =>
    hyphens flags n (s.add ⟨.single '-', 0⟩) (skipGap flags.verbose rest)
  | _, s, cs => (s, cs)

def openSet? (flags : Flags) (cs : List Char) : Option (OpenSet × List Char) :=
  let skip := skipGap flags.verbose
  let (negated, body) :=
    match skip cs with
    | '^' :: rest => (true, skip rest)
    | rest => (false, rest)
  let (begun, body) := hyphens flags body.length { negated } body
  let (begun, body) :=
    match begun.items, body with
    | [], ']' :: rest => (begun.add ⟨.single ']', 0⟩, skip rest)
    | _, body => (begun, body)
  if body.isEmpty then none else some (begun, body)

def namedSet? (cs : List Char) : Option (CharSet × List Char) :=
  match cs with
  | ':' :: body =>
    let (negated, body) :=
      match body with
      | '^' :: rest => (true, rest)
      | rest => (false, rest)
    match body.dropWhile (· != ':') with
    | ':' :: ']' :: rest =>
      (CharSet.named? (String.ofList (body.takeWhile (· != ':')))).map fun set =>
        (if negated then set.compl else set, rest)
    | _ => none
  | _ => none

def setAtom? (flags : Flags) (cs : List Char) : Option (Atom × List Char) :=
  match cs with
  | [] => none
  | '\\' :: rest => escape? flags rest
  | c :: rest => if !flags.unicode && 0x7F < c.toNat then none else some (.char c, rest)

def Atom.toSet? : Atom → Option CharSet
  | .char c => some (.single c)
  | .set members => some members
  | .check _ => none

/-- A character, a class or a range. A hyphen before a closing bracket or
before another hyphen makes no range. -/
def setItem? (flags : Flags) (cs : List Char) : Option (CharSet × List Char) := do
  let (first, rest) ← setAtom? flags cs
  match skipGap flags.verbose rest with
  | [] => none
  | '-' :: after =>
    match skipGap flags.verbose after with
    | [] => none
    | ']' :: _ => some (← first.toSet?, '-' :: after)
    | '-' :: _ => some (← first.toSet?, '-' :: after)
    | second => do
      let (last, rest) ← setAtom? flags second
      match first, last with
      | .char a, .char b => if a.toNat ≤ b.toNat then some (.range a.toNat b.toNat, rest) else none
      | _, _ => none
  | rest => some (← first.toSet?, rest)

/-- Reads items until the outermost brackets close. Every round reads at least
one character, so the length of the text bounds their number. -/
def readSet (flags : Flags) :
    Nat → List OpenSet → OpenSet → List Char → Option (SpelledSet × List Char)
  | 0, _, _, _ => none
  | n + 1, outer, top, cs =>
    match skipGap flags.verbose cs with
    | [] => none
    | '[' :: rest =>
      match namedSet? rest with
      | some (set, rest) => readSet flags n outer (top.add ⟨set, 0⟩) rest
      | none => do
        let (inner, rest) ← openSet? flags rest
        readSet flags n (top :: outer) inner rest
    | ']' :: rest => do
      let set ← top.close? flags
      match outer with
      | [] => some (set, rest)
      | parent :: outer => readSet flags n outer (parent.add set) rest
    | '&' :: '&' :: rest => readSet flags n outer (top.operate flags .inter) rest
    | '-' :: '-' :: rest => readSet flags n outer (top.operate flags .diff) rest
    | '~' :: '~' :: rest => readSet flags n outer (top.operate flags .symmDiff) rest
    | item => do
      let (set, rest) ← setItem? flags item
      readSet flags n outer (top.add ⟨set, 0⟩) rest

def brackets? (flags : Flags) (cs : List Char) : Option (SpelledSet × List Char) := do
  let (top, rest) ← openSet? flags cs
  readSet flags (rest.length + 1) [] top rest

end Amalgam.Pattern
