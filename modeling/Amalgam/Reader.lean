import Amalgam.Path

/-!
# Readers

A reader gives the content of a path or says why it cannot. It gives contents
for finitely many paths only; `support` lists them, so a walk that reads no
path twice comes to an end.
-/

namespace Amalgam

inductive ReadError where
  | unknownHeader (path : Path)
  | notFound
  | notADirectory
  | isADirectory
  | nameTooLong
  | invalidText
  | nulInName
  | other (message : String)
deriving DecidableEq

def ReadError.message : ReadError → String
  | unknownHeader path => "no such header: " ++ path
  | notFound => "No such file or directory (os error 2)"
  | notADirectory => "Not a directory (os error 20)"
  | isADirectory => "Is a directory (os error 21)"
  | nameTooLong => "File name too long (os error 36)"
  | invalidText => "stream did not contain valid UTF-8"
  | nulInName => "file name contained an unexpected NUL byte"
  | other message => message

structure Reader where
  read : Path → Except ReadError String
  support : List Path
  /-- Only the listed paths can be read. -/
  mem_support : ∀ {path content}, read path = .ok content → path ∈ support

/-- Reads what `read` reads among the given paths and finds nothing elsewhere. -/
def Reader.within (support : List Path) (read : Path → Except ReadError String) : Reader where
  read path :=
    if path ∈ support then read path
    else
      match read path with
      | .error e => .error e
      | .ok _ => .error .notFound
  support := support
  mem_support := by
    intro path content h
    split at h
    next hm => exact hm
    next =>
      split at h
      · contradiction
      · contradiction

theorem Reader.read_within {support : List Path} {read : Path → Except ReadError String}
    {path : Path} (h : ∀ content, read path = .ok content → path ∈ support) :
    (within support read).read path = read path := by
  simp only [within]
  split
  · rfl
  next hm =>
    cases hr : read path with
    | error e => rfl
    | ok content => exact absurd (h content hr) hm

/-- Gives answers that are known beforehand; other paths are unknown headers. -/
def Reader.ofAnswers (answers : List (Path × Except ReadError String)) : Reader where
  read path :=
    match answers.find? (·.1 = path) with
    | some answer => answer.2
    | none => .error (.unknownHeader path)
  support := answers.map (·.1)
  mem_support := by
    intro path content h
    split at h
    next answer hf =>
      have hp := List.find?_some hf
      simp only [decide_eq_true_eq] at hp
      exact List.mem_map.mpr ⟨answer, List.mem_of_find?_eq_some hf, hp⟩
    next => contradiction

end Amalgam
