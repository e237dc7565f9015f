import Amalgam.Log.Event
import Amalgam.Text.Quoted

/-!
# Written log lines

An event as one JSON object, or as plain text.
-/

namespace Amalgam.Log

def FieldValue.json : FieldValue → String
  | text s => Text.reportQuoted s
  | count n => toString n

def FieldValue.plain : FieldValue → String
  | text s => s
  | count n => toString n

def jsonMember (name value : String) : String :=
  Text.reportQuoted name ++ ":" ++ value

def jsonObject (members : List String) : String :=
  "\x7b" ++ String.intercalate "," members ++ "\x7d"

def Event.json (e : Event) : String :=
  let fields := jsonMember "message" (Text.reportQuoted e.message) ::
    e.fields.map fun field => jsonMember field.1 field.2.json
  jsonObject [
    jsonMember "level" (Text.reportQuoted e.level.name),
    jsonMember "fields" (jsonObject fields),
    jsonMember "target" (Text.reportQuoted e.target)]

def Event.plain (e : Event) : String :=
  let fields := e.fields.map fun field => " " ++ field.1 ++ "=" ++ field.2.plain
  e.level.name ++ " " ++ e.target ++ ": " ++ e.message ++ String.join fields

end Amalgam.Log
