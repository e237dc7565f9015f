import Amalgam.Text.Blank
import Amalgam.Text.Lines

/-!
# Include lines

A line is an include wherever `#include` and at least one blank stand in it
before a quoted path or a name in angle brackets. The leftmost place counts.
A quoted path ends at the next quote; a bracketed name is not empty and
reaches to the last bracket it can. Neither holds a line feed. A line of both
kinds counts as quoted, since the quoted path is what leads to another file.
-/

namespace Amalgam

inductive Line where
  | quoted (path : String)
  | angled (name : String)
  | text
deriving DecidableEq

namespace Line

def keyword : List Char := ['#', 'i', 'n', 'c', 'l', 'u', 'd', 'e']

/-- What stands after the keyword and its blanks, if the text begins so. -/
def operand? (s : List Char) : Option (List Char) :=
  match List.isPrefixOf? keyword s with
  | some (c :: rest) => if Text.isBlank c then some (rest.dropWhile Text.isBlank) else none
  | _ => none

def quotedHere? (s : List Char) : Option (List Char) :=
  match operand? s with
  | some ('"' :: rest) =>
    match rest.dropWhile (fun c => c != '"' && c != '\n') with
    | '"' :: _ => some (rest.takeWhile (fun c => c != '"' && c != '\n'))
    | _ => none
  | _ => none

def angledHere? (s : List Char) : Option (List Char) :=
  match operand? s with
  | some ('<' :: rest) =>
    match Text.cutLast? '>' (rest.takeWhile (· != '\n')) with
    | some (c :: name, _) => some (c :: name)
    | _ => none
  | _ => none

/-- The answer at the leftmost place that has one. -/
def leftmost? {α : Type} (here? : List Char → Option α) : List Char → Option α
  | [] => here? []
  | c :: cs =>
    match here? (c :: cs) with
    | some found => some found
    | none => leftmost? here? cs

def quotedPath? (line : String) : Option String :=
  (leftmost? quotedHere? line.toList).map String.ofList

def angledName? (line : String) : Option String :=
  (leftmost? angledHere? line.toList).map String.ofList

def classify (line : String) : Line :=
  match quotedPath? line with
  | some path => .quoted path
  | none =>
    match angledName? line with
    | some name => .angled name
    | none => .text

def isInclude : Line → Bool
  | .text => false
  | _ => true

end Line

def isQuotedInclude (line : String) : Bool :=
  (Line.leftmost? Line.quotedHere? line.toList).isSome

def isAngledInclude (line : String) : Bool :=
  (Line.leftmost? Line.angledHere? line.toList).isSome

def isIncludeLine (line : String) : Bool :=
  isQuotedInclude line || isAngledInclude line

end Amalgam
