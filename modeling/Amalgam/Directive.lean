import Amalgam.Exclusion
import Amalgam.Line
import Amalgam.Path

/-!
# Directives

What a line asks for in a file that lies in a given directory: to follow a
header, to lift the line to the top as it stands, or nothing. A quoted include
of an excluded header is lifted like any angle include.
-/

namespace Amalgam

inductive Directive where
  | follow (target : Path)
  | lift
  | text
deriving DecidableEq

def directive (ex : Exclusion) (dir : Path) (line : String) : Directive :=
  match Line.classify line with
  | .quoted path =>
    if ex.excludes (dir.join path) then .lift else .follow (dir.join path)
  | .angled _ => .lift
  | .text => .text

end Amalgam
