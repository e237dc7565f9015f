import Amalgam.Text.Lines

/-!
# Lexical paths

A path is text cut at slashes; nothing here looks at a disk. Cleaning drops
empty segments and `.`, lets `..` take back the segment before it, keeps a
`..` that has nothing to take back in a relative path and drops it at the root.
Two spellings of one path clean to the same text, which is what makes a
cleaned path fit to name a header.
-/

namespace Amalgam

abbrev Path := String

structure StripError where
  path : Path
  requested : Nat
  available : Nat
deriving DecidableEq

def StripError.message (e : StripError) : String :=
  "cannot strip " ++ toString e.requested ++ " leading components from " ++ e.path ++
    " (" ++ toString e.available ++ " available)"

namespace Path

def dot : List Char := ['.']

def dotdot : List Char := ['.', '.']

def isRooted (p : Path) : Bool :=
  p.toList.head? == some '/'

/-- Takes one more segment into account. `kept` holds those that stand so far,
the last one first. -/
def keep (rooted : Bool) (kept : List (List Char)) (segment : List Char) : List (List Char) :=
  if segment = [] ∨ segment = dot then kept
  else if segment = dotdot then
    match kept with
    | [] => if rooted then [] else [dotdot]
    | last :: rest =>
      if last = dotdot then (if rooted then kept else dotdot :: kept) else rest
  else segment :: kept

def reduce (rooted : Bool) (segments : List (List Char)) : List (List Char) :=
  (segments.foldl (keep rooted) []).reverse

/-- The text of a path from its segments; no segment at all is `/` or `.`. -/
def render (rooted : Bool) (segments : List (List Char)) : List Char :=
  if rooted then '/' :: Text.joinChars '/' segments
  else if segments = [] then dot
  else Text.joinChars '/' segments

/-- The one spelling that stands for all spellings of a path. -/
def clean (p : Path) : Path :=
  String.ofList (render p.isRooted (reduce p.isRooted (Text.splitChars '/' p.toList)))

/-- The path `rel` as seen from `base`. Two empty paths have no meaning
together and give the empty text. -/
def join (base rel : Path) : Path :=
  if base = "" then (if rel = "" then "" else rel.clean)
  else if rel = "" then base.clean
  else (base ++ "/" ++ rel).clean

def dir (p : Path) : Path :=
  match Text.cutLast? '/' p.toList with
  | none => "."
  | some ([], _) => "/"
  | some (before, _) => clean (String.ofList before)

/-- The segments of the cleaned path that hold something; `.` counts as one. -/
def components (p : Path) : List (List Char) :=
  (Text.splitChars '/' p.clean.toList).filter (· ≠ [])

/-- How many steps below its start a path leads; `.` leads none. -/
def componentCount (p : Path) : Nat :=
  if p.clean = "." then 0 else p.components.length

/-- The path is `base` or lies below it, both cleaned. Below `.` lies every
relative path that does not begin by climbing. -/
def isWithin (p base : Path) : Bool :=
  let path := p.clean
  let top := base.clean
  if top = "." then
    !path.isRooted && path != ".." && !"../".toList.isPrefixOf path.toList
  else if top = "/" then path.isRooted
  else path == top || (top.toList ++ ['/']).isPrefixOf path.toList

def stripComponents (p : Path) (n : Nat) : Except StripError Path :=
  if p.components.length < n then
    .error ⟨p, n, p.components.length⟩
  else
    .ok (String.ofList (Text.joinChars '/' (p.components.drop n)))

end Path

end Amalgam
