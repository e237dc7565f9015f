import Amalgam.Toml.Number
import Amalgam.Toml.Text
import Amalgam.Toml.Tree

/-!
# Reading a TOML document

A document is a list of lines: blank, header, or key and value. A header opens
the table that the keys after it belong to. Values nest to a fixed depth.
-/

namespace Amalgam.Toml

def maxNesting : Nat := 79

/-- The items of an array and its closing bracket. A comma may follow the last
item. -/
def arrayItems? (value? : List Char → Option (Data × List Char)) :
    Nat → List Char → Option (List Data × List Char)
  | 0, _ => none
  | n + 1, cs =>
    match skipBetween cs with
    | ']' :: rest => some ([], rest)
    | cs => do
      let (item, rest) ← value? cs
      match skipBetween rest with
      | ',' :: rest => do
        let (items, rest) ← arrayItems? value? n rest
        some (item :: items, rest)
      | ']' :: rest => some ([item], rest)
      | _ => none

def keyValue? (value? : List Char → Option (Data × List Char)) (cs : List Char) :
    Option ((List String × String × Data) × List Char) := do
  let ((path, key), rest) ← key? cs
  let rest ← expect? '=' rest
  let (value, rest) ← value? (skipSpaces rest)
  some ((path, key, value), rest)

/-- The members of an inline table and its closing brace. No comma follows the
last one. -/
def inlineMembers? (value? : List Char → Option (Data × List Char)) :
    Nat → Entries → List Char → Option (Entries × List Char)
  | 0, _, _ => none
  | n + 1, entries, cs => do
    let ((path, key, value), rest) ← keyValue? value? cs
    let entries ← addValue path key value .defined entries
    match skipSpaces rest with
    | ',' :: rest => inlineMembers? value? n entries rest
    | '}' :: rest => some (entries, rest)
    | _ => none

def value? : Nat → List Char → Option (Data × List Char)
  | depth, cs =>
    match cs with
    | '"' :: _ => (string? cs).map fun (s, rest) => (.text s, rest)
    | '\x27' :: _ => (string? cs).map fun (s, rest) => (.text s, rest)
    | 't' :: 'r' :: 'u' :: 'e' :: rest => some (.atom, rest)
    | 'f' :: 'a' :: 'l' :: 's' :: 'e' :: rest => some (.atom, rest)
    | '[' :: rest =>
      match depth with
      | 0 => none
      | depth + 1 =>
        (arrayItems? (value? depth) (rest.length + 1) rest).map fun (items, rest) =>
          (.list items, rest)
    | '{' :: rest =>
      match depth with
      | 0 => none
      | depth + 1 =>
        match skipSpaces rest with
        | '}' :: rest => some (.table [], rest)
        | members =>
          (inlineMembers? (value? depth) (rest.length + 1) [] members).map fun (entries, rest) =>
            (.table (entriesToData entries), rest)
    | cs => (number? cs).map fun rest => (.atom, rest)

/-- A document that has been read in part: its tables, and the path of the one
that is open. -/
structure Draft where
  root : Entries := []
  current : List String := []

def Draft.add? (d : Draft) (path : List String) (key : String) (value : Data) : Option Draft :=
  (changeAlong false (addValue path key value) d.current .defined d.root).map fun root =>
    { d with root }

def line? (d : Draft) (cs : List Char) : Option (Draft × List Char) :=
  match cs with
  | '#' :: _ => (lineEnd? (skipComment cs)).map (d, ·)
  | '\n' :: rest => some (d, rest)
  | '\r' :: '\n' :: rest => some (d, rest)
  | '[' :: '[' :: rest => do
    let ((path, key), rest) ← key? rest
    let rest ← expect? ']' rest
    let rest ← expect? ']' rest
    let rest ← restOfLine? rest
    let root ← addListed path key d.root
    some (⟨root, path ++ [key]⟩, rest)
  | '[' :: rest => do
    let ((path, key), rest) ← key? rest
    let rest ← expect? ']' rest
    let rest ← restOfLine? rest
    let root ← addTable path key d.root
    some (⟨root, path ++ [key]⟩, rest)
  | cs => do
    let ((path, key, value), rest) ← keyValue? (value? maxNesting) cs
    let rest ← restOfLine? rest
    let d ← d.add? path key value
    some (d, rest)

/-- Reads the lines of a document. Each takes at least one character, so the
length of the text bounds their number. -/
def lines? : Nat → Draft → List Char → Option Draft
  | 0, _, _ => none
  | n + 1, d, cs =>
    match skipSpaces cs with
    | [] => some d
    | cs => do
      let (d, rest) ← line? d cs
      lines? n d rest

def dropByteOrderMark : List Char → List Char
  | '\uFEFF' :: rest => rest
  | cs => cs

def parse? (text : String) : Option Data :=
  let cs := dropByteOrderMark text.toList
  (lines? (cs.length + 1) {} cs).map fun d => .table (entriesToData d.root)

end Amalgam.Toml
