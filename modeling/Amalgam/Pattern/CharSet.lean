import Amalgam.Text.Blank
import Amalgam.Text.CaseFold
import Amalgam.Text.Word

/-!
# Sets of characters

What one place of a pattern accepts: ranges, the classes of blanks, digits and
word characters, and the set operations between them. A folded set also
accepts the case variants of its members.
-/

namespace Amalgam

inductive CharSet where
  | empty
  | range (first last : Nat)
  | blank
  | digit
  | word
  | union (a b : CharSet)
  | inter (a b : CharSet)
  | diff (a b : CharSet)
  | compl (a : CharSet)
  | folded (a : CharSet)

namespace CharSet

def contains : CharSet → Char → Bool
  | empty, _ => false
  | range first last, c => first ≤ c.toNat && c.toNat ≤ last
  | blank, c => Text.isBlank c
  | digit, c => Text.isDecimalDigit c
  | word, c => Text.isWord c
  | union a b, c => a.contains c || b.contains c
  | inter a b, c => a.contains c && b.contains c
  | diff a b, c => a.contains c && !b.contains c
  | compl a, c => !a.contains c
  | folded a, c => (Text.caseVariants c).any a.contains

def single (c : Char) : CharSet :=
  range c.toNat c.toNat

def any : CharSet :=
  compl empty

def ofRanges (ranges : List (Char × Char)) : CharSet :=
  ranges.foldl (fun set r => set.union (range r.1.toNat r.2.toNat)) empty

def symmDiff (a b : CharSet) : CharSet :=
  (a.union b).diff (a.inter b)

def asciiDigit : CharSet :=
  ofRanges [('0', '9')]

def asciiBlank : CharSet :=
  ofRanges [('\t', '\r'), (' ', ' ')]

def asciiWord : CharSet :=
  ofRanges [('0', '9'), ('A', 'Z'), ('_', '_'), ('a', 'z')]

def ascii : CharSet :=
  range 0 0x7F

def named? (name : String) : Option CharSet :=
  match name with
  | "alnum" => some (ofRanges [('0', '9'), ('A', 'Z'), ('a', 'z')])
  | "alpha" => some (ofRanges [('A', 'Z'), ('a', 'z')])
  | "ascii" => some ascii
  | "blank" => some (ofRanges [('\t', '\t'), (' ', ' ')])
  | "cntrl" => some ((range 0 0x1F).union (range 0x7F 0x7F))
  | "digit" => some asciiDigit
  | "graph" => some (ofRanges [('!', '~')])
  | "lower" => some (ofRanges [('a', 'z')])
  | "print" => some (ofRanges [(' ', '~')])
  | "punct" => some ((range 0x21 0x2F).union ((range 0x3A 0x40).union
      ((range 0x5B 0x60).union (range 0x7B 0x7E))))
  | "space" => some asciiBlank
  | "upper" => some (ofRanges [('A', 'Z')])
  | "word" => some asciiWord
  | "xdigit" => some (ofRanges [('0', '9'), ('A', 'F'), ('a', 'f')])
  | _ => none

/-- About how many ranges a sorted list of the members would have. -/
def rangeCount : CharSet → Nat
  | empty => 0
  | range .. => 1
  | blank => 10
  | digit => Text.digitRanges.length
  | word => Text.wordRangeCount
  | union a b => a.rangeCount + b.rangeCount
  | inter a b => min a.rangeCount b.rangeCount
  | diff a _ => a.rangeCount
  | compl a => a.rangeCount + 1
  | folded a => 2 * a.rangeCount

end CharSet

end Amalgam
