import Amalgam.Data

/-!
# Tables under construction

A table comes to be by its own header, on the way to a deeper header, or on the
way of a dotted key. Which one it was decides what may still be added to it:
no table is defined twice, and a dotted key adds only to tables that dotted keys
made.
-/

namespace Amalgam.Toml

inductive TableKind where
  /-- Has a header of its own. -/
  | defined
  /-- Lies on the way to a header. -/
  | implied
  /-- Lies on the way of a dotted key. -/
  | dotted
deriving DecidableEq

inductive Node where
  | leaf (value : Data)
  | table (kind : TableKind) (entries : List (String × Node))
  /-- Tables under one header that is repeated; the last one is open. -/
  | tables (items : List (List (String × Node)))

abbrev Entries := List (String × Node)

mutual

def Node.toData : Node → Data
  | .leaf value => value
  | .table _ entries => .table (entriesToData entries)
  | .tables items => .list (itemsToData items)

def entriesToData : List (String × Node) → List (String × Data)
  | [] => []
  | (key, node) :: entries => (key, node.toData) :: entriesToData entries

def itemsToData : List (List (String × Node)) → List Data
  | [] => []
  | entries :: items => .table (entriesToData entries) :: itemsToData items

end

def changeAt (key : String) (change : Option Node → Option Node) : Entries → Option Entries
  | [] => (change none).map fun node => [(key, node)]
  | (k, node) :: entries =>
    if k = key then (change (some node)).map fun node => (k, node) :: entries
    else (changeAt key change entries).map ((k, node) :: ·)

/-- Changes the table at the end of a path; tables that are missing on the way
come to be. A dotted path passes through no table that has a header. -/
def changeAlong (dotted : Bool) (change : TableKind → Entries → Option Entries) :
    List String → TableKind → Entries → Option Entries
  | [], kind, entries => change kind entries
  | key :: path, _, entries =>
    changeAt key (fun node =>
      match node with
      | none =>
        let kind := if dotted then TableKind.dotted else .implied
        (changeAlong dotted change path kind []).map (.table kind)
      | some (.leaf _) => none
      | some (.table kind inner) =>
        if dotted && kind = .defined then none
        else (changeAlong dotted change path kind inner).map (.table kind)
      | some (.tables items) =>
        match items.getLast? with
        | some last =>
          (changeAlong dotted change path .defined last).map fun last =>
            .tables (items.dropLast ++ [last])
        | none => none) entries

/-- Enters a value under a key that is not taken, in a table of the right kind:
a dotted key ends in a table that dotted keys made, a plain key does not. -/
def addValue (path : List String) (key : String) (value : Data) (kind : TableKind)
    (entries : Entries) : Option Entries :=
  changeAlong true (fun kind entries =>
    if (kind == .dotted) == path.isEmpty then none
    else
      changeAt key (fun node =>
        match node with
        | none => some (.leaf value)
        | some _ => none) entries) path kind entries

def addTable (path : List String) (key : String) (entries : Entries) : Option Entries :=
  changeAlong false (fun _ entries =>
    changeAt key (fun node =>
      match node with
      | none => some (.table .defined [])
      | some (.table .implied inner) => some (.table .defined inner)
      | some _ => none) entries) path .defined entries

def addListed (path : List String) (key : String) (entries : Entries) : Option Entries :=
  changeAlong false (fun _ entries =>
    changeAt key (fun node =>
      match node with
      | none => some (.tables [[]])
      | some (.tables items) => some (.tables (items ++ [[]]))
      | some _ => none) entries) path .defined entries

end Amalgam.Toml
