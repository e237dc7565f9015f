import Amalgam.Directive

/-!
# The layout of a root file

The lines of a root fall into three parts: a head before its first include
line, a block from the first include line to the last, and a tail after it. A
root without include lines is all tail. Lines are what stands between line
feeds, so that the parts put together again give the root byte for byte.
-/

namespace Amalgam

structure Layout where
  head : List String
  block : List String
  tail : List String
deriving DecidableEq

namespace Layout

/-- Splits lines around those that are not text. -/
def ofLines (isText : String → Bool) (lines : List String) : Layout :=
  if lines.all isText then ⟨[], [], lines⟩
  else
    let rest := (lines.dropWhile isText).reverse
    ⟨lines.takeWhile isText, (rest.dropWhile isText).reverse, (rest.takeWhile isText).reverse⟩

def scan (ex : Exclusion) (dir : Path) (source : String) : Layout :=
  ofLines (fun line => directive ex dir line = .text) (Text.split '\n' source)

def lifted (ex : Exclusion) (dir : Path) (layout : Layout) : List String :=
  layout.block.filter fun line => directive ex dir line = .lift

def interlude (ex : Exclusion) (dir : Path) (layout : Layout) : List String :=
  layout.block.filter fun line => directive ex dir line = .text

end Layout

end Amalgam
