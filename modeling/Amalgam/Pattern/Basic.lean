import Amalgam.Pattern.CharSet

/-!
# Patterns

A pattern describes stretches of text. Matching asks only whether some stretch
of the text fits, so a pattern acts on sets of places: from the places where a
stretch may begin it leads to the places where one may end. The greedy and the
lazy form of a repetition describe the same stretches.
-/

namespace Amalgam

inductive WordEdge where
  | edge
  | inside
  | start
  | stop
  | startHalf
  | stopHalf

inductive Assertion where
  | textStart
  | textEnd
  | lineStart (crlf : Bool)
  | lineEnd (crlf : Bool)
  | wordEdge (kind : WordEdge) (ascii : Bool)

inductive Pattern where
  | empty
  | chars (set : CharSet)
  | check (assertion : Assertion)
  | seq (first second : Pattern)
  | alt (first second : Pattern)
  /-- At least `least` times, and at most `most` times if it is given. -/
  | rep (body : Pattern) (least : Nat) (most : Option Nat)

namespace Assertion

def before? (text : Array Char) (place : Nat) : Option Char :=
  if place = 0 then none else text[place - 1]?

def isWordChar (ascii : Bool) (c : Option Char) : Bool :=
  match c with
  | none => false
  | some c => if ascii then CharSet.asciiWord.contains c else Text.isWord c

def holds (text : Array Char) (place : Nat) : Assertion → Bool
  | textStart => place == 0
  | textEnd => place == text.size
  | lineStart false => place == 0 || before? text place == some '\n'
  | lineStart true =>
    place == 0 || before? text place == some '\n' ||
      (before? text place == some '\r' && text[place]? != some '\n')
  | lineEnd false => place == text.size || text[place]? == some '\n'
  | lineEnd true =>
    place == text.size || text[place]? == some '\r' ||
      (text[place]? == some '\n' && before? text place != some '\r')
  | wordEdge kind ascii =>
    let left := isWordChar ascii (before? text place)
    let right := isWordChar ascii text[place]?
    match kind with
    | .edge => left != right
    | .inside => left == right
    | .start => !left && right
    | .stop => left && !right
    | .startHalf => !left
    | .stopHalf => !right

end Assertion

namespace Pattern

def merge (a b : List Nat) : List Nat :=
  a ++ b.filter (!a.contains ·)

/-- Exactly `n` rounds of `f`, cut short once a round changes nothing. -/
def rounds (f : List Nat → List Nat) : Nat → List Nat → List Nat
  | 0, places => places
  | n + 1, places =>
    let next := f places
    if next = places then places else rounds f n next

def upTo (f : List Nat → List Nat) : Nat → List Nat → List Nat → List Nat
  | 0, _, met => met
  | n + 1, places, met =>
    match (f places).filter (!met.contains ·) with
    | [] => met
    | fresh => upTo f n fresh (merge met fresh)

/-- The places where a stretch may end that begins at one of `places`. A text
of `n` characters has `n + 1` places, so as many rounds reach all of them. -/
def ends (text : Array Char) : Pattern → List Nat → List Nat
  | empty, places => places
  | chars set, places =>
    places.filterMap fun place =>
      match text[place]? with
      | some c => if set.contains c then some (place + 1) else none
      | none => none
  | check assertion, places => places.filter (assertion.holds text)
  | seq first second, places => second.ends text (first.ends text places)
  | alt first second, places => merge (first.ends text places) (second.ends text places)
  | rep body least none, places =>
    let begun := rounds (body.ends text) least places
    upTo (body.ends text) (text.size + 1) begun begun
  | rep body least (some most), places =>
    let begun := rounds (body.ends text) least places
    upTo (body.ends text) (most - least) begun begun

def isMatch (p : Pattern) (text : String) : Bool :=
  let chars := text.toList.toArray
  !(p.ends chars (List.range (chars.size + 1))).isEmpty

end Pattern

end Amalgam
