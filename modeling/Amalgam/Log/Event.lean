/-!
# Log events

An event has a level, the part of the program it comes from, a message, and
named fields that hold texts or counts.
-/

namespace Amalgam.Log

inductive Level where
  | error
  | warn
  | info
  | debug
  | trace
deriving DecidableEq

namespace Level

/-- The more detailed a level, the higher it ranks. -/
def rank : Level → Nat
  | error => 1
  | warn => 2
  | info => 3
  | debug => 4
  | trace => 5

def name : Level → String
  | error => "ERROR"
  | warn => "WARN"
  | info => "INFO"
  | debug => "DEBUG"
  | trace => "TRACE"

end Level

inductive FieldValue where
  | text (s : String)
  | count (n : Nat)
deriving DecidableEq

structure Event where
  level : Level
  target : String
  message : String
  fields : List (String × FieldValue) := []
deriving DecidableEq

end Amalgam.Log
