import Amalgam.FileTree
import Amalgam.Log.Event
import Amalgam.Pattern.Engine
import Amalgam.Settings.Document

/-!
# The host of a run

What a run is given: environment variables, the working directory, standard
input and files, and the readers of patterns and of settings files. The user's
settings file lies in the directory for settings, the project's in the working
directory. A file that is not there says nothing.
-/

namespace Amalgam.CommandLine

structure Host where
  env : List (String × String)
  /-- The home directory on record for the account. -/
  accountHome : Option Path
  cwd : Path
  stdin : ByteArray
  isPresent : Path → Bool
  readFile : Path → Except ReadError String
  /-- Reads headers by their cleaned paths. -/
  headers : Reader
  engine : Engine
  format : DocumentFormat

namespace Host

/-- A machine whose accounts have no home on record, with the readers of this library. -/
def ofTree (tree : FileTree) (env : List (String × String)) (stdin : ByteArray) : Host where
  env := env
  accountHome := none
  cwd := "/" ++ Text.join '/' tree.cwd
  stdin := stdin
  isPresent := tree.isPresent
  readFile := tree.read
  headers := tree.reader
  engine := Pattern.engine
  format := Toml.format

/-- Names an entry of a directory. An absolute name stands for itself. -/
def below (dir name : Path) : Path :=
  if name.isRooted then name
  else if dir = "" ∨ dir.toList.getLast? = some '/' then dir ++ name
  else dir ++ "/" ++ name

def envValue? (h : Host) (name : String) : Option String :=
  h.env.lookup name

/-- The home directory that a variable names, or else the one on record. -/
def home? (h : Host) : Option Path :=
  (h.envValue? "HOME").filter (· ≠ "") <|> h.accountHome

def defaultIncludeDir (h : Host) : Path :=
  match h.home? with
  | some home => below home "include"
  | none => "include"

/-- The directory for settings; a variable that names no absolute path counts
for nothing. -/
def settingsDir? (h : Host) : Option Path :=
  match (h.envValue? "XDG_CONFIG_HOME").filter Path.isRooted with
  | some dir => some dir
  | none => h.home?.map (below · ".config")

def userFile? (h : Host) : Option Path :=
  h.settingsDir?.map (below · "hinline/config.toml")

def projectFile (root : Path) : Path :=
  below root ".hinline.toml"

def layer (h : Host) (path : Path) : Except SettingsError Layer :=
  if h.isPresent path then
    match h.readFile path with
    | .error cause => .error (.unreadable path cause)
    | .ok text =>
      match h.format.layer text with
      | .error cause => .error (.malformed ⟨path, cause⟩)
      | .ok layer => .ok layer
  else .ok {}

def userLayer (h : Host) : Except SettingsError Layer :=
  match h.userFile? with
  | some path => h.layer path
  | none => .ok {}

def projectLayer (h : Host) (root : Path) : Except SettingsError Layer :=
  h.layer (projectFile root)

/-- The settings of a run that starts in `root`. The user's file is read before
the project's, and patterns are checked last. -/
def settings (h : Host) (root : Path) (overrides : Layer) : Except SettingsError Settings :=
  match h.userLayer with
  | .error e => .error e
  | .ok user =>
    match h.projectLayer root with
    | .error e => .error e
    | .ok project =>
      Settings.resolve h.engine overrides (h.envValue? "HINLINE_INCLUDE_DIR") project user
        h.defaultIncludeDir

-- ---------------------------------------------------------------------------
-- What reading settings logs
-- ---------------------------------------------------------------------------

def loadedFile (path : Path) : Log.Event where
  level := .debug
  target := "hinline_core::config"
  message := "loaded config file"
  fields := [("path", .text path)]

/-- A file that could be read is logged, whatever it holds. -/
def layerJournal (h : Host) (path : Path) : List Log.Event :=
  match h.isPresent path, h.readFile path with
  | true, .ok _ => [loadedFile path]
  | _, _ => []

def settingsJournal (h : Host) (root : Path) : List Log.Event :=
  let user := (h.userFile?.map h.layerJournal).getD []
  match h.userLayer with
  | .error _ => user
  | .ok _ => user ++ h.layerJournal (projectFile root)

end Host

end Amalgam.CommandLine
