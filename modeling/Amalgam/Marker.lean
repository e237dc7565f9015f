import Amalgam.Path
import Amalgam.Text.Blank

/-!
# Markers

Every inlined header stands between two marker lines that name it, by its
resolved path or by its path below the include directory. A header outside the
include directory keeps its resolved path.
-/

namespace Amalgam

inductive MarkerStyle where
  | resolved
  | relative
deriving DecidableEq

structure UnknownStyle where
  text : String
deriving DecidableEq

def UnknownStyle.message (e : UnknownStyle) : String :=
  "unknown marker style `" ++ e.text ++ "` (expected resolved|relative)"

namespace MarkerStyle

def name : MarkerStyle → String
  | resolved => "resolved"
  | relative => "relative"

def ofName? (name : String) : Option MarkerStyle :=
  if name = "resolved" then some resolved
  else if name = "relative" then some relative
  else none

/-- Reads a style; blanks around it and the case of ASCII letters are free. -/
def parse (text : String) : Except UnknownStyle MarkerStyle :=
  let word := String.ofList ((Text.trim text).toList.map Char.toLower)
  match ofName? word with
  | some style => .ok style
  | none => .error ⟨word⟩

def label (style : MarkerStyle) (includeDir header : Path) : Except StripError String :=
  if style = relative ∧ header.isWithin includeDir then
    header.stripComponents includeDir.componentCount
  else .ok header

end MarkerStyle

def beginMarker (label : String) : String :=
  "// BEGIN " ++ label

def endMarker (label : String) : String :=
  "// END " ++ label

end Amalgam
