import Amalgam.Pattern.Brackets
import Amalgam.Pattern.Size

/-!
# Reading a pattern

One pass over the text with a stack of open groups. A group holds the branches
that are finished and the items of the branch being read. Groups only bracket;
what a group has matched is never asked for, so a name serves no purpose but
must still be well formed and new. Patterns that nest too deeply or grow too
large are refused, and so is every escape that is not understood, property
classes among them.
-/

namespace Amalgam.Pattern

/-- How deeply groups, branches, repetitions and brackets may nest. -/
def maxDepth : Nat := 250

def maxCount : Nat := 4294967295

structure Item where
  pattern : Pattern
  depth : Nat
  /-- A switch of modes is an item but cannot be repeated. -/
  repeatable : Bool := true

structure Group where
  /-- Finished branches, the last one first. -/
  branches : List Item := []
  /-- Items of the branch being read, the last one first. -/
  items : List Item := []
  /-- The modes outside, which return when the group closes. -/
  outer : Flags

structure State where
  flags : Flags := {}
  names : List (List Char) := []
  enclosing : List Group := []
  top : Group := { outer := {} }

def deepest (items : List Item) : Nat :=
  items.foldl (fun n item => max n item.depth) 0

/-- Joins two or more items into one that nests a level deeper. -/
def joinItems (combine : Pattern → Pattern → Pattern) : List Item → Item
  | [] => ⟨.empty, 0, true⟩
  | [item] => item
  | last :: rest =>
    ⟨rest.foldl (fun p item => combine item.pattern p) last.pattern, deepest (last :: rest) + 1, true⟩

def Group.branch (g : Group) : Item :=
  joinItems .seq g.items

def Group.close (g : Group) : Item :=
  joinItems .alt (g.branch :: g.branches)

namespace State

def push (st : State) (item : Item) : State :=
  { st with top := { st.top with items := item :: st.top.items } }

def pushAtom? (st : State) : Atom → Option State
  | .char c =>
    if st.flags.ignoreCase && !st.flags.unicode && 0x7F < c.toNat then none
    else some (st.push ⟨.chars (st.flags.fold (.single c)), 0, true⟩)
  | .set set => some (st.push ⟨.chars set, 0, true⟩)
  | .check assertion => some (st.push ⟨.check assertion, 0, true⟩)

def repeat? (st : State) (least : Nat) (most : Option Nat) : Option State :=
  match st.top.items with
  | item :: items =>
    if item.repeatable then
      let repeated : Item := ⟨.rep item.pattern least most, item.depth + 1, true⟩
      some { st with top := { st.top with items := repeated :: items } }
    else none
  | [] => none

def nextBranch (st : State) : State :=
  { st with top := { st.top with branches := st.top.branch :: st.top.branches, items := [] } }

def openGroup (st : State) (flags : Flags) : State :=
  { st with enclosing := st.top :: st.enclosing, top := { outer := st.flags }, flags }

def closeGroup? (st : State) : Option State :=
  match st.enclosing with
  | [] => none
  | parent :: enclosing =>
    let inner := st.top.close
    let closed : State := { st with flags := st.top.outer, top := parent, enclosing }
    some (closed.push ⟨inner.pattern, inner.depth + 1, true⟩)

end State

def dropLazy : List Char → List Char
  | '?' :: rest => rest
  | rest => rest

def count? (cs : List Char) : Option (Nat × List Char) :=
  let body := cs.dropWhile Text.isBlank
  match body.takeWhile Char.isDigit with
  | [] => none
  | digits =>
    let value := digits.foldl (fun n c => 10 * n + (c.toNat - '0'.toNat)) 0
    if value ≤ maxCount then some (value, (body.dropWhile Char.isDigit).dropWhile Text.isBlank)
    else none

def bounds? (flags : Flags) (cs : List Char) : Option ((Nat × Option Nat) × List Char) := do
  let skip := skipGap flags.verbose
  let (least, rest) ← count? (skip cs)
  match rest with
  | '}' :: rest => some ((least, some least), dropLazy (skip rest))
  | ',' :: rest =>
    match skip rest with
    | '}' :: rest => some ((least, none), dropLazy (skip rest))
    | rest => do
      let (most, rest) ← count? rest
      match rest with
      | '}' :: rest => if least ≤ most then some ((least, some most), dropLazy (skip rest)) else none
      | _ => none
  | _ => none

/-- A letter that switches a mode. Which of greedy and lazy is meant makes no
difference to what matches. -/
def switch? (flags : Flags) (value : Bool) : Char → Option Flags
  | 'i' => some { flags with ignoreCase := value }
  | 'm' => some { flags with multiLine := value }
  | 's' => some { flags with dotAll := value }
  | 'R' => some { flags with crlf := value }
  | 'u' => some { flags with unicode := value }
  | 'x' => some { flags with verbose := value }
  | 'U' => some flags
  | _ => none

/-- Applies switches; those after a hyphen switch off. No letter may come
twice, and a hyphen must be followed by a letter. -/
def switches? (flags : Flags) (seen : List Char) : List Char → Option Flags
  | [] => if seen.head? = some '-' then none else some flags
  | c :: cs =>
    if seen.contains c then none
    else if c = '-' then switches? flags (c :: seen) cs
    else
      match switch? flags (!seen.contains '-') c with
      | some flags => switches? flags (c :: seen) cs
      | none => none

def isNameStart (c : Char) : Bool :=
  c == '_' || Text.isAlphabetic c

def isNamePart (c : Char) : Bool :=
  c == '_' || c == '.' || c == '[' || c == ']' || Text.isAlphabetic c || Text.isDecimalDigit c ||
    Text.isOtherNumber c

def groupName? (cs : List Char) : Option (List Char × List Char) :=
  match cs with
  | c :: more =>
    if isNameStart c then
      match more.dropWhile isNamePart with
      | '>' :: rest => some (c :: more.takeWhile isNamePart, rest)
      | _ => none
    else none
  | [] => none

def State.openNamed? (st : State) (cs : List Char) : Option (State × List Char) := do
  let (name, rest) ← groupName? cs
  if st.names.contains name then none
  else some ({ st.openGroup st.flags with names := name :: st.names }, rest)

/-- Reads on from an opening parenthesis. Looking ahead or behind is refused. -/
def State.parenthesis? (st : State) (cs : List Char) : Option (State × List Char) :=
  match skipGap st.flags.verbose cs with
  | '?' :: '=' :: _ => none
  | '?' :: '!' :: _ => none
  | '?' :: '<' :: '=' :: _ => none
  | '?' :: '<' :: '!' :: _ => none
  | '?' :: 'P' :: '<' :: rest => st.openNamed? rest
  | '?' :: '<' :: rest => st.openNamed? rest
  | '?' :: rest =>
    let isEnd (c : Char) := c == ':' || c == ')'
    let letters := rest.takeWhile (!isEnd ·)
    match rest.dropWhile (!isEnd ·) with
    | ':' :: rest => (switches? st.flags [] letters).map fun flags => (st.openGroup flags, rest)
    | ')' :: rest =>
      if letters = [] then none
      else (switches? st.flags [] letters).map fun flags =>
        ({ st.push ⟨.empty, 0, false⟩ with flags }, rest)
    | _ => none
  | rest => some (st.openGroup st.flags, rest)

def State.dot? (st : State) : Option CharSet :=
  if !st.flags.unicode then none
  else if st.flags.dotAll then some .any
  else if st.flags.crlf then some ((CharSet.single '\r').union (.single '\n')).compl
  else some (CharSet.single '\n').compl

def State.read? (st : State) (c : Char) (rest : List Char) : Option (State × List Char) :=
  match c with
  | '(' => st.parenthesis? rest
  | ')' => st.closeGroup?.map (·, rest)
  | '|' => some (st.nextBranch, rest)
  | '[' => do
    let (set, rest) ← brackets? st.flags rest
    some (st.push ⟨.chars set.chars, set.depth, true⟩, rest)
  | '?' => (st.repeat? 0 (some 1)).map (·, dropLazy rest)
  | '*' => (st.repeat? 0 none).map (·, dropLazy rest)
  | '+' => (st.repeat? 1 none).map (·, dropLazy rest)
  | '{' => do
    let ((least, most), rest) ← bounds? st.flags rest
    (st.repeat? least most).map (·, rest)
  | '\\' => do
    let (atom, rest) ← escape? st.flags rest
    (st.pushAtom? atom).map (·, rest)
  | '.' => st.dot?.map fun set => (st.push ⟨.chars set, 0, true⟩, rest)
  | '^' =>
    let start := if st.flags.multiLine then .lineStart st.flags.crlf else Assertion.textStart
    (st.pushAtom? (.check start)).map (·, rest)
  | '$' =>
    let stop := if st.flags.multiLine then .lineEnd st.flags.crlf else Assertion.textEnd
    (st.pushAtom? (.check stop)).map (·, rest)
  | c => (st.pushAtom? (.char c)).map (·, rest)

/-- Reads to the end of the text. Every round takes at least one character, so
the length of the text bounds their number. -/
def readAll : Nat → State → List Char → Option Item
  | 0, _, _ => none
  | n + 1, st, cs =>
    match skipGap st.flags.verbose cs with
    | [] => if st.enclosing.isEmpty then some st.top.close else none
    | c :: rest => do
      let (st, rest) ← st.read? c rest
      readAll n st rest

def parse? (text : String) : Option Pattern := do
  let item ← readAll (text.toList.length + 1) {} text.toList
  if maxDepth < item.depth || item.pattern.isTooLarge then none else some item.pattern

end Amalgam.Pattern
