import Amalgam.Exclusion
import Amalgam.Extraction
import Amalgam.Graph.Cycles

/-!
# Failures

What can keep a unit from being made. Every failure has a message, a short
summary and a hint. A message leaves out its cause.
-/

namespace Amalgam

structure MalformedFile where
  path : Path
  cause : String
deriving DecidableEq

inductive SettingsError where
  | unreadable (path : Path) (cause : ReadError)
  | malformed (e : MalformedFile)
  | pattern (e : MalformedPattern)
deriving DecidableEq

namespace SettingsError

def message : SettingsError → String
  | unreadable path _ => "failed to read " ++ path
  | malformed e => "failed to parse " ++ e.path
  | pattern e => "invalid exclude pattern `" ++ e.text ++ "`"

def cause : SettingsError → String
  | unreadable _ cause => cause.message
  | malformed e => e.cause
  | pattern e => e.cause

end SettingsError

inductive InlineError where
  | unreadable (e : Unreadable)
  | cyclic (e : CycleError)
  | settings (e : SettingsError)
  | marker (e : StripError)
deriving DecidableEq

namespace InlineError

def message : InlineError → String
  | unreadable e => e.message
  | cyclic e => e.message
  | settings e => e.message
  | marker e => "marker label: " ++ e.message

def summary : InlineError → String
  | unreadable _ => "Header could not be read"
  | cyclic _ => "Include graph is cyclic"
  | settings _ => "Invalid configuration"
  | marker _ => "Marker label could not be derived"

def hint : InlineError → String
  | unreadable _ => "Check the include directory (-I) and the quoted path."
  | cyclic _ => "Break the include loop so every header has a defined position."
  | settings _ => "Fix the exclude pattern or .hinline.toml and retry."
  | marker _ => "Use --markers resolved or point -I at the header tree root."

end InlineError

end Amalgam
