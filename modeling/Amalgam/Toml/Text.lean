import Amalgam.Text.Hex

/-!
# Blanks, comments and strings of TOML

A reader takes characters off the front of the text and gives what it has read
together with the rest. Control characters other than the tab stand nowhere;
line ends are line feeds, with or without a carriage return before them. Inside
strings a line end is read as a line feed.
-/

namespace Amalgam.Toml

def isSpace (c : Char) : Bool :=
  c == ' ' || c == '\t'

def skipSpaces (cs : List Char) : List Char :=
  cs.dropWhile isSpace

def newline? : List Char → Option (List Char)
  | '\n' :: rest => some rest
  | '\r' :: '\n' :: rest => some rest
  | _ => none

def isPlain (c : Char) : Bool :=
  c == '\t' || (0x20 ≤ c.toNat && c.toNat != 0x7F)

def skipComment : List Char → List Char
  | '#' :: rest => rest.dropWhile isPlain
  | cs => cs

def lineEnd? : List Char → Option (List Char)
  | [] => some []
  | cs => newline? cs

def restOfLine? (cs : List Char) : Option (List Char) :=
  lineEnd? (skipComment (skipSpaces cs))

def skipLines : Nat → List Char → List Char
  | 0, cs => cs
  | n + 1, cs =>
    match newline? (skipComment (skipSpaces cs)) with
    | some rest => skipLines n rest
    | none => skipSpaces cs

def skipBetween (cs : List Char) : List Char :=
  skipLines (cs.length + 1) cs

-- ---------------------------------------------------------------------------
-- Strings
-- ---------------------------------------------------------------------------

def escaped? : List Char → Option (Char × List Char)
  | 'b' :: rest => some ('\x08', rest)
  | 't' :: rest => some ('\t', rest)
  | 'n' :: rest => some ('\n', rest)
  | 'f' :: rest => some ('\x0C', rest)
  | 'r' :: rest => some ('\r', rest)
  | '"' :: rest => some ('"', rest)
  | '\\' :: rest => some ('\\', rest)
  | 'u' :: rest => codePoint? 4 rest
  | 'U' :: rest => codePoint? 8 rest
  | _ => none
where
  codePoint? (width : Nat) (cs : List Char) : Option (Char × List Char) := do
    let (value, rest) ← Text.fixedHex? id width 0 cs
    let c ← Text.charOfCode? value
    some (c, rest)

/-- A basic string up to its closing quote. Each round reads at least one
character, so as many rounds as there are characters suffice. -/
def basicString? : Nat → List Char → Option (List Char × List Char)
  | 0, _ => none
  | n + 1, cs =>
    match cs with
    | [] => none
    | '"' :: rest => some ([], rest)
    | '\\' :: rest => do
      let (c, rest) ← escaped? rest
      let (body, rest) ← basicString? n rest
      some (c :: body, rest)
    | c :: rest =>
      if isPlain c then (basicString? n rest).map fun (body, rest) => (c :: body, rest) else none

def literalString? : List Char → Option (List Char × List Char)
  | [] => none
  | c :: rest =>
    if c = '\x27' then some ([], rest)
    else if isPlain c then (literalString? rest).map fun (body, rest) => (c :: body, rest)
    else none

/-- Up to two more quotes may stand right before the three that close. -/
def closing (quote : Char) (rest : List Char) : List Char × List Char :=
  match rest with
  | a :: b :: more =>
    if a = quote ∧ b = quote then ([quote, quote], more)
    else if a = quote then ([quote], b :: more)
    else ([], rest)
  | [a] => if a = quote then ([quote], []) else ([], rest)
  | [] => ([], [])

def skipBlankLines : List Char → List Char
  | ' ' :: rest => skipBlankLines rest
  | '\t' :: rest => skipBlankLines rest
  | '\n' :: rest => skipBlankLines rest
  | '\r' :: '\n' :: rest => skipBlankLines rest
  | cs => cs

/-- A backslash at the end of a line skips to the next character that is neither
blank nor line end. -/
def continuation? (cs : List Char) : Option (List Char) :=
  (newline? (skipSpaces cs)).map skipBlankLines

def longBasic? : Nat → List Char → Option (List Char × List Char)
  | 0, _ => none
  | n + 1, cs =>
    match cs with
    | [] => none
    | '"' :: '"' :: '"' :: rest => some (closing '"' rest)
    | '\\' :: rest =>
      match continuation? rest with
      | some rest => longBasic? n rest
      | none => do
        let (c, rest) ← escaped? rest
        let (body, rest) ← longBasic? n rest
        some (c :: body, rest)
    | c :: rest =>
      match newline? (c :: rest) with
      | some rest => (longBasic? n rest).map fun (body, rest) => ('\n' :: body, rest)
      | none =>
        if isPlain c then (longBasic? n rest).map fun (body, rest) => (c :: body, rest) else none

def longLiteral? : Nat → List Char → Option (List Char × List Char)
  | 0, _ => none
  | n + 1, cs =>
    match cs with
    | [] => none
    | '\x27' :: '\x27' :: '\x27' :: rest => some (closing '\x27' rest)
    | c :: rest =>
      match newline? (c :: rest) with
      | some rest => (longLiteral? n rest).map fun (body, rest) => ('\n' :: body, rest)
      | none =>
        if isPlain c then (longLiteral? n rest).map fun (body, rest) => (c :: body, rest) else none

/-- A line end right after the opening quotes is no part of the string. -/
def skipFirstNewline (cs : List Char) : List Char :=
  (newline? cs).getD cs

def string? (cs : List Char) : Option (String × List Char) :=
  let read : Option (List Char × List Char) :=
    match cs with
    | '"' :: '"' :: '"' :: rest => longBasic? (rest.length + 1) (skipFirstNewline rest)
    | '"' :: rest => basicString? (rest.length + 1) rest
    | '\x27' :: '\x27' :: '\x27' :: rest => longLiteral? (rest.length + 1) (skipFirstNewline rest)
    | '\x27' :: rest => literalString? rest
    | _ => none
  read.map fun (body, rest) => (String.ofList body, rest)

-- ---------------------------------------------------------------------------
-- Keys
-- ---------------------------------------------------------------------------

def isBareKeyChar (c : Char) : Bool :=
  c.isAlphanum || c == '_' || c == '-'

def simpleKey? (cs : List Char) : Option (String × List Char) :=
  match cs with
  | '"' :: rest => (basicString? (rest.length + 1) rest).map fun (k, rest) => (String.ofList k, rest)
  | '\x27' :: rest => (literalString? rest).map fun (k, rest) => (String.ofList k, rest)
  | cs =>
    match cs.takeWhile isBareKeyChar with
    | [] => none
    | key => some (String.ofList key, cs.dropWhile isBareKeyChar)

def dottedKey? : Nat → List Char → Option (List String × List Char)
  | 0, _ => none
  | n + 1, cs => do
    let (key, rest) ← simpleKey? (skipSpaces cs)
    match skipSpaces rest with
    | '.' :: rest => do
      let (keys, rest) ← dottedKey? n rest
      some (key :: keys, rest)
    | rest => some ([key], rest)

/-- The path that a key spells: the tables it leads through, and its last part. -/
def key? (cs : List Char) : Option ((List String × String) × List Char) := do
  let (keys, rest) ← dottedKey? (cs.length + 1) cs
  let last ← keys.getLast?
  some ((keys.dropLast, last), rest)

end Amalgam.Toml
