import Amalgam.CommandLine.Arguments
import Amalgam.CommandLine.Host
import Amalgam.CommandLine.Report
import Amalgam.Log.Filter
import Amalgam.Log.Journal

/-!
# A run of the program

A run reads its arguments, establishes the settings, takes the root from
standard input, and writes the unit or the order of its headers. Nothing is
written unless everything has succeeded; the first failure ends the run.
-/

namespace Amalgam.CommandLine

inductive RunError where
  | settings (e : SettingsError)
  | stdin
  | inline (e : InlineError)
deriving DecidableEq

/-- The message and what caused it; only a cycle has no cause. -/
def RunError.message : RunError → String
  | settings e => e.message ++ ": " ++ e.cause
  | stdin => "cannot read source from stdin: " ++ ReadError.invalidText.message
  | inline (.unreadable e) => e.message ++ ": " ++ e.cause.message
  | inline (.cyclic e) => e.message
  | inline (.settings e) => e.message ++ ": " ++ e.cause
  | inline (.marker e) => (InlineError.marker e).message ++ ": " ++ e.message

def inliner (settings : Settings) (ex : Exclusion) (headers : Reader) : Inliner where
  includeDir := settings.includeDir
  exclusion := ex
  style := settings.markers
  reader := headers

def output (a : Arguments) (inl : Inliner) (source : String) : Except InlineError String :=
  if a.order then
    match inl.plan source with
    | .error e => .error e
    | .ok p => .ok (if a.json then jsonReport p else textReport p)
  else inl.inline source

/-- The stages of a run, up to the first that fails. -/
def produce (h : Host) (a : Arguments) : Except RunError String :=
  match h.settings h.cwd a.overrides with
  | .error e => .error (.settings e)
  | .ok settings =>
    match String.fromUTF8? h.stdin with
    | none => .error .stdin
    | some source =>
      match settings.exclusion h.engine with
      | .error e => .error (.inline (.settings e))
      | .ok ex =>
        match output a (inliner settings ex h.headers) source with
        | .error e => .error (.inline e)
        | .ok text => .ok text

-- ---------------------------------------------------------------------------
-- The log of a run
-- ---------------------------------------------------------------------------

def starting (settings : Settings) : Log.Event where
  level := .debug
  target := "hinline"
  message := "starting"
  fields := [("include_dir", .text settings.includeDir), ("excludes", .count settings.excludes.length)]

def inliningFailed (e : InlineError) : Log.Event where
  level := .debug
  target := "hinline"
  message := "inlining failed"
  fields := [("summary", .text e.summary), ("hint", .text e.hint)]

def journal (h : Host) (a : Arguments) : List Log.Event :=
  let begun := h.settingsJournal h.cwd
  match h.settings h.cwd a.overrides with
  | .error _ => begun
  | .ok settings =>
    let started := begun ++ [starting settings]
    let inlined :=
      match String.fromUTF8? h.stdin, settings.exclusion h.engine with
      | some source, .ok ex => (inliner settings ex h.headers).journal source
      | _, _ => []
    match produce h a with
    | .error (.inline e) => started ++ inlined ++ [inliningFailed e]
    | _ => started ++ inlined

/-- The filter that a variable sets; one that cannot be read counts for nothing. -/
def logFilter (h : Host) (a : Arguments) : Log.Filter :=
  let standard := if a.verbose then Log.Filter.verbose else Log.Filter.standard
  ((h.envValue? "HINLINE_LOG").bind Log.Filter.parse?).getD standard

structure Outcome where
  exitCode : Nat
  stdout : String := ""
  error : Option String := none
  log : List Log.Event := []

def versionText : String :=
  "hinline 0.4.1\n"

def helpText : String :=
  "Usage: hinline [OPTIONS]\n\nOptions:\n" ++
  "  -I, --include-dir <DIR>  Directory quoted includes of the input are resolved against\n" ++
  "  -v, --verbose            Enable verbose logging\n" ++
  "  -x, --exclude <REGEX>    Regex over resolved header paths; matching includes are kept\n" ++
  "      --markers <STYLE>    How headers are named in markers: resolved | relative\n" ++
  "      --order              Print the resolved header order instead of the unit\n" ++
  "      --json               Emit the header order as JSON (with --order)\n" ++
  "  -h, --help               Print help\n" ++
  "  -V, --version            Print version\n"

def errorLine (message : String) : String :=
  "error: " ++ message

def run (h : Host) (arguments : List String) : Outcome :=
  match Arguments.parse arguments with
  | .error (.usage e) => { exitCode := 2, error := some (errorLine e.message) }
  | .error .help => { exitCode := 0, stdout := helpText }
  | .error .version => { exitCode := 0, stdout := versionText }
  | .ok a =>
    let log := (journal h a).filter (logFilter h a).passes
    match produce h a with
    | .ok stdout => { exitCode := 0, stdout, log }
    | .error e => { exitCode := 1, error := some (errorLine e.message), log }

def logsJson (h : Host) : Bool :=
  h.envValue? "HINLINE_LOG_FORMAT" == some "json"

end Amalgam.CommandLine
