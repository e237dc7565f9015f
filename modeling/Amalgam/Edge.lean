/-!
# Include edges

Files are named by labels: a header by its cleaned path, the root by a label
of its own.
-/

namespace Amalgam

/-- Stands for the root file, which has no path. -/
def rootLabel : String := "<root>"

/-- The file `source` includes the file `target`. -/
structure Edge where
  source : String
  target : String
deriving DecidableEq

end Amalgam
