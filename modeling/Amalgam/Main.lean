import Amalgam.CommandLine.Run
import Amalgam.Log.Written

/-!
# The command line

Shows the machine to a run as a host and writes what comes of it. Files are read
as the run asks for them: a run that lacks the content of a header is repeated
with that content known.
-/

namespace Amalgam.CommandLine

abbrev Answers := List (Path × Except ReadError String)

/-- The number of a system error; some are handed on negated. -/
def errorNumber (code : UInt32) : Nat :=
  if code.toNat < 0x80000000 then code.toNat else 0x100000000 - code.toNat

def readError (e : IO.Error) : ReadError :=
  let numbered (code : UInt32) (details : String) : ReadError :=
    match errorNumber code with
    | 2 => .notFound
    | 20 => .notADirectory
    | 21 => .isADirectory
    | 36 => .nameTooLong
    | n => .other (details ++ " (os error " ++ toString n ++ ")")
  match e with
  | .noFileOrDirectory _ code details => numbered code details
  | .inappropriateType _ code details => numbered code details
  | .invalidArgument _ code details => numbered code details
  | .permissionDenied _ code details => numbered code details
  | e => .other (toString e)

def readPath (path : Path) : IO (Except ReadError String) := do
  if path.toList.contains '\x00' then return .error .nulInName
  try
    let bytes ← IO.FS.readBinFile path
    match String.fromUTF8? bytes with
    | some content => return .ok content
    | none => return .error .invalidText
  catch e => return .error (readError e)

def environmentNames : List String :=
  ["HOME", "XDG_CONFIG_HOME", "HINLINE_INCLUDE_DIR", "HINLINE_LOG", "HINLINE_LOG_FORMAT"]

def homeOf? (user : String) (accounts : String) : Option Path :=
  ((Text.lines accounts).map (Text.split ':')).findSome? fun account =>
    match account with
    | [_, _, id, _, _, home, _] => if id = user ∧ home ≠ "" then some home else none
    | _ => none

def userOf? (status : String) : Option String :=
  ((Text.lines status).map (Text.split '\t')).findSome? fun entry =>
    match entry with
    | "Uid:" :: user :: _ => some user
    | _ => none

def accountHome : IO (Option Path) := do
  match ← readPath "/proc/self/status", ← readPath "/etc/passwd" with
  | .ok status, .ok accounts => return (userOf? status).bind (homeOf? · accounts)
  | _, _ => return none

def hostOf (env : List (String × String)) (accountHome : Option Path) (cwd : Path) : Host where
  env := env
  accountHome := accountHome
  cwd := cwd
  stdin := ByteArray.empty
  isPresent _ := false
  readFile path := .error (.unknownHeader path)
  headers := Reader.ofAnswers []
  engine := Pattern.engine
  format := Toml.format

/-- Reads headers until the run asks for no more of them. -/
partial def gather (host : Host) (a : Arguments) (known : Answers) : IO Host := do
  let host := { host with headers := Reader.ofAnswers known }
  match produce host a with
  | .error (.inline (.unreadable ⟨path, _, .unknownHeader _⟩)) =>
    gather host a ((path, ← readPath path) :: known)
  | _ => return host

partial def readAll (input : IO.FS.Stream) (bytes : ByteArray) : IO ByteArray := do
  let chunk ← input.read 65536
  if chunk.isEmpty then return bytes else readAll input (bytes ++ chunk)

def observe (arguments : List String) : IO Host := do
  let env ← environmentNames.filterMapM fun name => do
    return (← IO.getEnv name).map fun value => (name, value)
  let cwd ← IO.currentDir
  let bare := hostOf env (← accountHome) cwd.toString
  match Arguments.parse arguments with
  | .error _ => return bare
  | .ok a =>
    let paths := bare.userFile?.toList ++ [Host.projectFile bare.cwd]
    -- a path whose directories may not be searched is not there, so its file is never read
    let present ← paths.filterM fun (path : Path) => (cwd / path).pathExists
    let files ← present.mapM fun path => return (path, ← readPath path)
    let stdin ← readAll (← IO.getStdin) ByteArray.empty
    let settled : Host := { bare with
      stdin
      isPresent := (present.contains ·)
      readFile := (Reader.ofAnswers files).read }
    gather settled a []

end Amalgam.CommandLine

open Amalgam in
def main (arguments : List String) : IO UInt32 := do
  let host ← CommandLine.observe arguments
  let outcome := CommandLine.run host arguments
  for event in outcome.log do
    IO.eprintln (if CommandLine.logsJson host then event.json else event.plain)
  for line in outcome.error do
    IO.eprintln line
  IO.print outcome.stdout
  (← IO.getStdout).flush
  return UInt32.ofNat outcome.exitCode
