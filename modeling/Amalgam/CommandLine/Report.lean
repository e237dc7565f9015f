import Amalgam.Inliner
import Amalgam.Text.Quoted

/-!
# Order reports

The order of the headers, one in a line, or with the lifted lines as a JSON
object.
-/

namespace Amalgam.CommandLine

def textReport (p : Plan) : String :=
  Text.unlines p.order

def jsonList (items : List String) : String :=
  if items.isEmpty then "[]"
  else
    "[\n" ++ String.intercalate ",\n" (items.map fun s => "    " ++ Text.reportQuoted s) ++ "\n  ]"

def jsonReport (p : Plan) : String :=
  "\x7b\n  \"headers\": " ++ jsonList p.order ++ ",\n  \"system_includes\": " ++
    jsonList p.includes ++ "\n\x7d\n"

end Amalgam.CommandLine
