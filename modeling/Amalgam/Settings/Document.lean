import Amalgam.Data
import Amalgam.Settings.Basic
import Amalgam.Toml.Document

/-!
# Settings from documents

A document gives settings by name; names that mean nothing here are passed
over. A layer may leave out or null what it does not set, but its patterns are a
list if they are there. Full settings need an include directory.

A marker style is a name, or a table that holds nothing but an empty member of
that name; the notation decides how an empty member is written.

How a text is read as a document is left to a format, and so are the words in
which a text is refused.
-/

namespace Amalgam

def settingNames : List String :=
  ["include_dir", "excludes", "markers"]

/-- How a notation writes a member that carries no value. -/
def Data.isEmptyMember (json : Bool) : Data → Bool
  | .null => json
  | .table [] => !json
  | .list [] => !json
  | _ => false

def MarkerStyle.ofData? (json : Bool) : Data → Option MarkerStyle
  | .text name => ofName? name
  | .table [(name, member)] => if member.isEmptyMember json then ofName? name else none
  | _ => none

/-- A member that may be missing; `some none` says that it is. -/
def Data.optional? {α : Type} (decode? : Data → Option α) : Option Data → Option (Option α)
  | none => some none
  | some .null => some none
  | some d => (decode? d).map some

/-- A member that takes a default when it is missing, but may not be null. -/
def Data.withDefault? {α : Type} (decode? : Data → Option α) (default : α) :
    Option Data → Option α
  | none => some default
  | some d => decode? d

def Layer.ofData? (json : Bool) (d : Data) : Option Layer :=
  match d.members? settingNames with
  | some [dir, excludes, markers] => do
    let includeDir ← Data.optional? Data.text? dir
    let excludes ← Data.withDefault? Data.texts? [] excludes
    let markers ← Data.optional? (MarkerStyle.ofData? json) markers
    some { includeDir, excludes, markers }
  | _ => none

def Settings.ofData? (json : Bool) (d : Data) : Option Settings :=
  match d.members? settingNames with
  | some [some dir, excludes, markers] => do
    let includeDir ← dir.text?
    let excludes ← Data.withDefault? Data.texts? [] excludes
    let markers ← Data.withDefault? (MarkerStyle.ofData? json) .resolved markers
    some { includeDir, excludes, markers }
  | _ => none

/-- How settings files are written. A text is refused because it spells no
document, or because its document gives no layer. -/
structure DocumentFormat where
  parse : String → Except String Data
  mismatch : String → String

def DocumentFormat.layer (f : DocumentFormat) (text : String) : Except String Layer :=
  match f.parse text with
  | .error cause => .error cause
  | .ok document =>
    match Layer.ofData? false document with
    | none => .error (f.mismatch text)
    | some layer => .ok layer

/-- TOML as this library reads it, which does not say where a fault lies. -/
def Toml.format : DocumentFormat where
  parse text :=
    match parse? text with
    | some document => .ok document
    | none => .error "not a TOML document"
  mismatch _ := "not a document of settings"

end Amalgam
