import Amalgam.Pattern.Basic
import Amalgam.Text.Hex

/-!
# Escapes in patterns

What may follow a backslash: a punctuation character that stands for itself, a
control character by letter, a character by code point, a class, or an
assertion. Everything else is refused, also the classes of characters by
property, `\p` and `\P`, for which there are no tables here.
-/

namespace Amalgam.Pattern

structure Flags where
  ignoreCase : Bool := false
  multiLine : Bool := false
  dotAll : Bool := false
  crlf : Bool := false
  unicode : Bool := true
  verbose : Bool := false

inductive Atom where
  | char (c : Char)
  | set (set : CharSet)
  | check (assertion : Assertion)

/-- Skips what verbose mode ignores: blanks, and comments to the line end. -/
def skipGap (verbose : Bool) (cs : List Char) : List Char :=
  if verbose then go false cs else cs
where
  go : Bool → List Char → List Char
    | _, [] => []
    | true, c :: cs => go (c != '\n') cs
    | false, c :: cs =>
      if Text.isBlank c then go false cs
      else if c = '#' then go true cs
      else c :: cs

def codePoint? (flags : Flags) (width : Nat) (cs : List Char) : Option (Char × List Char) :=
  match skipGap flags.verbose cs with
  | '{' :: body =>
    match body.dropWhile (· != '}') with
    | '}' :: rest => do
      let digits := (body.takeWhile (· != '}')).filter fun c => !(flags.verbose && Text.isBlank c)
      let c ← Text.charOfCode? (← Text.hexNumber? digits)
      some (c, rest)
    | _ => none
  | digits => do
    let (value, rest) ← Text.fixedHex? (skipGap flags.verbose) width 0 digits
    if !flags.unicode && width = 2 && 0x7F < value then none
    let c ← Text.charOfCode? value
    some (c, rest)

/-- Characters with a meaning of their own outside brackets or inside them. -/
def isMeta (c : Char) : Bool :=
  "\\.+*?()|[]\x7b\x7d^$#&-~".toList.contains c

/-- ASCII punctuation and control characters stand for themselves when escaped. -/
def isEscapable (c : Char) : Bool :=
  isMeta c || (c.toNat < 0x80 && !c.isAlphanum && c != '<' && c != '>')

def letterSet? (unicode : Bool) (c : Char) : Option CharSet :=
  match c, unicode with
  | 'd', true => some .digit
  | 'd', false => some .asciiDigit
  | 's', true => some .blank
  | 's', false => some .asciiBlank
  | 'w', true => some .word
  | 'w', false => some .asciiWord
  | _, _ => none

def controlChar? : Char → Option Char
  | 'a' => some '\x07'
  | 'f' => some '\x0C'
  | 't' => some '\t'
  | 'n' => some '\n'
  | 'r' => some '\r'
  | 'v' => some '\x0B'
  | _ => none

def namedEdge? (name : String) : Option WordEdge :=
  match name with
  | "start" => some .start
  | "end" => some .stop
  | "start-half" => some .startHalf
  | "end-half" => some .stopHalf
  | _ => none

/-- What follows `\b`. Braces with a name in them choose another edge; other
braces are left to be read as a count. -/
def boundary? (flags : Flags) (cs : List Char) : Option (Atom × List Char) :=
  let isNameChar (c : Char) := c.isAlpha || c == '-'
  let plain := some (Atom.check (.wordEdge .edge !flags.unicode), cs)
  match cs with
  | '{' :: body =>
    match skipGap flags.verbose body with
    | [] => none
    | c :: inner =>
      if isNameChar c then
        match (c :: inner).dropWhile isNameChar with
        | '}' :: rest => do
          let kind ← namedEdge? (String.ofList ((c :: inner).takeWhile isNameChar))
          some (.check (.wordEdge kind !flags.unicode), rest)
        | _ => none
      else plain
  | _ => plain

def escape? (flags : Flags) (cs : List Char) : Option (Atom × List Char) :=
  match cs with
  | [] => none
  | c :: rest =>
    if isEscapable c then some (.char c, rest)
    else
      match c with
      | 'x' => (codePoint? flags 2 rest).map fun (c, r) => (.char c, r)
      | 'u' => (codePoint? flags 4 rest).map fun (c, r) => (.char c, r)
      | 'U' => (codePoint? flags 8 rest).map fun (c, r) => (.char c, r)
      | 'A' => some (.check .textStart, rest)
      | 'z' => some (.check .textEnd, rest)
      | 'b' => boundary? flags rest
      | 'B' => some (.check (.wordEdge .inside !flags.unicode), rest)
      | '<' => some (.check (.wordEdge .start !flags.unicode), rest)
      | '>' => some (.check (.wordEdge .stop !flags.unicode), rest)
      | _ =>
        match letterSet? flags.unicode c with
        | some set => some (.set set, rest)
        | none =>
          match letterSet? flags.unicode c.toLower with
          | some set => if flags.unicode then some (.set set.compl, rest) else none
          | none => (controlChar? c).map fun c => (.char c, rest)

end Amalgam.Pattern
