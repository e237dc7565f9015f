import Amalgam.Log.Event
import Amalgam.Text.Lines
import Amalgam.Text.Word

/-!
# Log filters

A filter is a comma-separated list of rules. A rule gives a level to the targets
that begin with a given text, or to all targets. Of the rules that fit an event
the one with the longest text decides, and of two for the same text the later
one. An event passes if its level ranks no higher than the rule's; one that no
rule fits does not pass.
-/

namespace Amalgam.Log

/-- The highest rank that passes for targets that begin with `target`. -/
structure Rule where
  target : String
  rank : Nat
deriving DecidableEq

abbrev Filter := List Rule

def rankOf? (text : String) : Option Nat :=
  match String.ofList (text.toList.map Char.toLower) with
  | "off" => some 0
  | "error" => some 1
  | "warn" => some 2
  | "info" => some 3
  | "debug" => some 4
  | "trace" => some 5
  | "0" => some 0
  | "1" => some 1
  | "2" => some 2
  | "3" => some 3
  | "4" => some 4
  | "5" => some 5
  | _ => none

def isTarget (text : List Char) : Bool :=
  !text.isEmpty && text.all fun c => c == ':' || c == '-' || Text.isWord c

/-- A level alone holds for all targets; a target alone lets everything pass. -/
def rule? (text : String) : Option Rule :=
  match rankOf? text with
  | some rank => some ⟨"", rank⟩
  | none =>
    let target := text.toList.takeWhile (· != '=')
    if isTarget target then
      match text.toList.dropWhile (· != '=') with
      | [] => some ⟨String.ofList target, Level.trace.rank⟩
      | ['='] => some ⟨String.ofList target, Level.trace.rank⟩
      | _ :: level => (rankOf? (String.ofList level)).map fun rank => ⟨String.ofList target, rank⟩
    else none

namespace Filter

/-- Reads a filter. Empty parts count for nothing; without any rule only errors
pass. -/
def parse? (text : String) : Option Filter :=
  match (Text.split ',' text).filter (· ≠ "") with
  | [] => some [⟨"", Level.error.rank⟩]
  | parts => parts.mapM rule?

def decisive? (f : Filter) (target : String) : Option Rule :=
  f.foldl (fun best rule =>
    if rule.target.toList.isPrefixOf target.toList then
      match best with
      | none => some rule
      | some b => if b.target.length ≤ rule.target.length then some rule else some b
    else best) none

def passes (f : Filter) (e : Event) : Bool :=
  match f.decisive? e.target with
  | some rule => e.level.rank ≤ rule.rank
  | none => false

def standard : Filter :=
  [⟨"hinline", Level.warn.rank⟩]

def verbose : Filter :=
  [⟨"hinline", Level.debug.rank⟩, ⟨"", Level.warn.rank⟩]

end Filter

end Amalgam.Log
