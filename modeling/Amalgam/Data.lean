/-!
# Structured data

What a settings document holds, whichever notation it is written in. Settings
are texts, lists of texts and tables; a truth value, number or date is an atom,
and which one it is never matters.
-/

namespace Amalgam

inductive Data where
  | null
  | atom
  | text (s : String)
  | list (items : List Data)
  | table (entries : List (String × Data))

namespace Data

def text? : Data → Option String
  | text s => some s
  | _ => none

def texts? : Data → Option (List String)
  | list items => items.mapM text?
  | _ => none

/-- The named members of a table, or of a list that gives them in this order
and may leave out the last ones. -/
def members? (names : List String) : Data → Option (List (Option Data))
  | table entries => some (names.map (entries.lookup ·))
  | list items =>
    if items.length ≤ names.length then
      some (items.map some ++ List.replicate (names.length - items.length) none)
    else none
  | _ => none

end Data

end Amalgam
