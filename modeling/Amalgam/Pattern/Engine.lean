import Amalgam.Exclusion
import Amalgam.Pattern.Parser

/-!
# Patterns as an engine

The engine of this library. It refuses property classes, and of a text that it
cannot read it says no more than that.
-/

namespace Amalgam.Pattern

def matcher? (text : String) : Option (String → Bool) :=
  (parse? text).map isMatch

def refusal : String :=
  "not a pattern that is understood"

def engine : Engine where
  compile text :=
    match matcher? text with
    | some pattern => .ok pattern
    | none => .error refusal

end Amalgam.Pattern
