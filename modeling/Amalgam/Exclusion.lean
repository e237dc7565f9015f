import Amalgam.Text.Blank

/-!
# Excluded headers

A list of patterns over resolved paths. A header that one of them matches is
not inlined; its include line stays as it is. Blank patterns count for nothing,
since an empty pattern would match every path.

How a text is read as a pattern is left to an engine, and so are the words in
which a text is refused.
-/

namespace Amalgam

/-- Says what a text matches as a pattern, or why it spells none. -/
structure Engine where
  compile : String → Except String (String → Bool)

structure MalformedPattern where
  text : String
  cause : String
deriving DecidableEq

structure Exclusion where
  patterns : List (String → Bool)

namespace Exclusion

def none : Exclusion := ⟨[]⟩

/-- The patterns that the texts spell, or the first text that spells none. -/
def compileAll (engine : Engine) : List String → Except MalformedPattern (List (String → Bool))
  | [] => .ok []
  | text :: texts =>
    if Text.isBlankText text then compileAll engine texts
    else
      match engine.compile text with
      | .error cause => .error ⟨text, cause⟩
      | .ok pattern =>
        match compileAll engine texts with
        | .error e => .error e
        | .ok patterns => .ok (pattern :: patterns)

def compile (engine : Engine) (texts : List String) : Except MalformedPattern Exclusion :=
  match compileAll engine texts with
  | .error e => .error e
  | .ok patterns => .ok ⟨patterns⟩

def excludes (ex : Exclusion) (path : String) : Bool :=
  ex.patterns.any (· path)

def size (ex : Exclusion) : Nat :=
  ex.patterns.length

def isEmpty (ex : Exclusion) : Bool :=
  ex.patterns.isEmpty

end Exclusion

end Amalgam
