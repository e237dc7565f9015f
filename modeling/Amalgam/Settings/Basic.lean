import Amalgam.Error
import Amalgam.Marker

/-!
# Settings

Settings come from layers: the command line, the project file and the user
file, each of which may leave a setting open. For the include directory and the
marker style the strongest layer that says something wins; an environment
variable stands between the command line and the files for the directory.
Exclude patterns add up, those of the user first.
-/

namespace Amalgam

structure Layer where
  includeDir : Option Path := none
  excludes : List String := []
  markers : Option MarkerStyle := none
deriving DecidableEq

structure Settings where
  includeDir : Path
  excludes : List String := []
  markers : MarkerStyle := .resolved
deriving DecidableEq

namespace Settings

def exclusion (engine : Engine) (s : Settings) : Except SettingsError Exclusion :=
  match Exclusion.compile engine s.excludes with
  | .error e => .error (.pattern e)
  | .ok ex => .ok ex

/-- An environment variable that holds only blanks says nothing. -/
def nonBlank? (value : Option String) : Option String :=
  value.filter (!Text.isBlankText ·)

/-- The settings that the layers amount to, patterns unchecked. -/
def merge (overrides : Layer) (envDir : Option String) (project user : Layer)
    (defaultDir : Path) : Settings where
  includeDir :=
    (overrides.includeDir <|> nonBlank? envDir <|> project.includeDir <|> user.includeDir).getD
      defaultDir
  excludes := user.excludes ++ project.excludes ++ overrides.excludes
  markers := (overrides.markers <|> project.markers <|> user.markers).getD .resolved

def resolve (engine : Engine) (overrides : Layer) (envDir : Option String) (project user : Layer)
    (defaultDir : Path) : Except SettingsError Settings :=
  let settings := merge overrides envDir project user defaultDir
  match settings.exclusion engine with
  | .error e => .error e
  | .ok _ => .ok settings

end Settings

end Amalgam
