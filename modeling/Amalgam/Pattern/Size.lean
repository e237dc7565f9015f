import Amalgam.Pattern.Basic

/-!
# The size of a pattern

A pattern is compiled to states; one that would take more than ten mebibytes
of them is refused. A counted repetition writes its body out as often as it
counts, so short patterns can be far too large.
-/

namespace Amalgam

def stateBytes : Nat := 32

def maxPatternBytes : Nat := 10 * 1024 * 1024

def utf8Width (n : Nat) : Nat :=
  if n < 0x80 then 1 else if n < 0x800 then 2 else if n < 0x10000 then 3 else 4

def CharSet.bytes : CharSet → Nat
  | .range first last =>
    if first = last then stateBytes * utf8Width first
    else stateBytes * utf8Width last
  | set => stateBytes * (set.rangeCount + 1)

namespace Pattern

def isZeroWidth : Pattern → Bool
  | empty => true
  | chars _ => false
  | check _ => true
  | seq a b => a.isZeroWidth && b.isZeroWidth
  | alt a b => a.isZeroWidth && b.isZeroWidth
  | rep body _ most => body.isZeroWidth || most == some 0

/-- The memory of the compiled pattern. Repeating an empty stretch more than
once adds nothing and is not written out. -/
def bytes : Pattern → Nat
  | empty => stateBytes
  | chars set => set.bytes
  | check _ => stateBytes
  | seq a b => a.bytes + b.bytes
  | alt a b => a.bytes + b.bytes + stateBytes
  | rep body least most =>
    let once (n : Nat) := if body.isZeroWidth then min n 1 else n
    let fixed := once least * body.bytes
    match most with
    | none => fixed + (if least = 0 then body.bytes else 0) + stateBytes
    | some most => fixed + (once most - once least) * (body.bytes + stateBytes) + stateBytes

def isTooLarge (p : Pattern) : Bool :=
  maxPatternBytes < p.bytes

end Pattern

end Amalgam
