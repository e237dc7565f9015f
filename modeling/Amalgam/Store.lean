import Amalgam.Reader

/-!
# Headers in memory

Contents by path, exactly as the path is written. Inserting a path again
replaces its content.
-/

namespace Amalgam

structure Store where
  entries : List (Path × String) := []

namespace Store

def put (path : Path) (content : String) : List (Path × String) → List (Path × String)
  | [] => [(path, content)]
  | entry :: entries =>
    if entry.1 = path then (path, content) :: entries else entry :: put path content entries

def insert (s : Store) (path : Path) (content : String) : Store :=
  ⟨put path content s.entries⟩

def ofList (entries : List (Path × String)) : Store :=
  entries.foldl (fun s entry => s.insert entry.1 entry.2) {}

def size (s : Store) : Nat :=
  s.entries.length

def isEmpty (s : Store) : Bool :=
  s.entries.isEmpty

def find? (s : Store) (path : Path) : Option String :=
  (s.entries.find? (·.1 = path)).map (·.2)

def read (s : Store) (path : Path) : Except ReadError String :=
  match s.find? path with
  | some content => .ok content
  | none => .error (.unknownHeader path)

theorem mem_of_read {s : Store} {path : Path} {content : String} (h : s.read path = .ok content) :
    path ∈ s.entries.map (·.1) := by
  rw [read] at h
  split at h
  next found hf =>
    rw [find?, Option.map_eq_some_iff] at hf
    obtain ⟨entry, he, _⟩ := hf
    have hp := List.find?_some he
    simp only [decide_eq_true_eq] at hp
    exact List.mem_map.mpr ⟨entry, List.mem_of_find?_eq_some he, hp⟩
  next => contradiction

def reader (s : Store) : Reader where
  read := s.read
  support := s.entries.map (·.1)
  mem_support := mem_of_read

end Store

end Amalgam
