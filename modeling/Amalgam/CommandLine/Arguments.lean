import Amalgam.Settings.Basic

/-!
# Command-line arguments

Options have a long form and some a short one; short ones may be bundled. The
value of an option follows an equals sign, or the short form directly, or is the
next argument, which must not look like an option. There are no positional
arguments. A value that is an argument of its own is judged only when the next
known option or the end comes, so an argument that is not known is reported
first.
-/

namespace Amalgam.CommandLine

structure Arguments where
  includeDir : Option String := none
  verbose : Bool := false
  excludes : List String := []
  markers : Option MarkerStyle := none
  order : Bool := false
  json : Bool := false
deriving DecidableEq

inductive Flag where
  | includeDir
  | verbose
  | exclude
  | markers
  | order
  | json
  | help
  | version
deriving DecidableEq

inductive UsageError where
  | unexpectedArgument (argument : String)
  | missingValue (flag : Flag)
  | invalidStyle (value : String) (e : UnknownStyle)
  | repeated (flag : Flag)
  | unexpectedValue (value : String) (flag : Flag)
  | jsonWithoutOrder
deriving DecidableEq

inductive Stop where
  | usage (e : UsageError)
  | help
  | version
deriving DecidableEq

namespace Flag

def ofLong? (name : String) : Option Flag :=
  match name with
  | "include-dir" => some includeDir
  | "verbose" => some verbose
  | "exclude" => some exclude
  | "markers" => some markers
  | "order" => some order
  | "json" => some json
  | "help" => some help
  | "version" => some version
  | _ => none

def ofShort? (c : Char) : Option Flag :=
  match c with
  | 'I' => some includeDir
  | 'v' => some verbose
  | 'x' => some exclude
  | 'h' => some help
  | 'V' => some version
  | _ => none

def takesValue : Flag → Bool
  | includeDir => true
  | exclude => true
  | markers => true
  | _ => false

def display : Flag → String
  | includeDir => "--include-dir <DIR>"
  | verbose => "--verbose"
  | exclude => "--exclude <REGEX>"
  | markers => "--markers <STYLE>"
  | order => "--order"
  | json => "--json"
  | help => "--help"
  | version => "--version"

end Flag

def UsageError.message : UsageError → String
  | unexpectedArgument argument => "unexpected argument '" ++ argument ++ "' found"
  | missingValue flag =>
    "a value is required for '" ++ flag.display ++ "' but none was supplied"
  | invalidStyle value e =>
    "invalid value '" ++ value ++ "' for '" ++ Flag.markers.display ++ "': " ++ e.message
  | repeated flag => "the argument '" ++ flag.display ++ "' cannot be used multiple times"
  | unexpectedValue value flag =>
    "unexpected value '" ++ value ++ "' for '" ++ flag.display ++ "' found; no more were expected"
  | jsonWithoutOrder => "the following required arguments were not provided:"

structure Reading where
  given : Arguments := {}
  seen : List Flag := []
  /-- An option whose value is still to come or has not been judged yet. -/
  pending : Option (Flag × Option String) := none
  /-- Nothing after a double hyphen is an option. -/
  onlyPositional : Bool := false

namespace Reading

def fail {α : Type} (e : UsageError) : Except Stop α :=
  .error (.usage e)

/-- Takes an option into account that has all it needs. Exclude patterns may be
given again and again, everything else once. -/
def accept (r : Reading) (flag : Flag) (value : String) : Except Stop Reading :=
  if flag ≠ .exclude ∧ flag ∈ r.seen then fail (.repeated flag)
  else
    let r := { r with seen := flag :: r.seen, pending := none }
    match flag with
    | .includeDir => .ok { r with given := { r.given with includeDir := some value } }
    | .verbose => .ok { r with given := { r.given with verbose := true } }
    | .exclude => .ok { r with given := { r.given with excludes := r.given.excludes ++ [value] } }
    | .markers =>
      match MarkerStyle.parse value with
      | .ok style => .ok { r with given := { r.given with markers := some style } }
      | .error e => fail (.invalidStyle value e)
    | .order => .ok { r with given := { r.given with order := true } }
    | .json => .ok { r with given := { r.given with json := true } }
    | .help => .error .help
    | .version => .error .version

def settle (r : Reading) : Except Stop Reading :=
  match r.pending with
  | none => .ok r
  | some (flag, none) => fail (.missingValue flag)
  | some (flag, some value) => r.accept flag value

def option (r : Reading) (flag : Flag) (attached : Option String) : Except Stop Reading := do
  let r ← r.settle
  match flag.takesValue, attached with
  | true, none => .ok { r with pending := some (flag, none) }
  | true, some value => r.accept flag value
  | false, _ => r.accept flag ""

def long (r : Reading) (text : List Char) : Except Stop Reading :=
  let name := String.ofList (text.takeWhile (· != '='))
  let attached :=
    match text.dropWhile (· != '=') with
    | [] => none
    | _ :: value => some (String.ofList value)
  match Flag.ofLong? name with
  | none => fail (.unexpectedArgument ("--" ++ name))
  | some flag =>
    match attached, flag.takesValue with
    | some value, false => fail (.unexpectedValue value flag)
    | _, _ => r.option flag attached

def bundle (r : Reading) : List Char → Except Stop Reading
  | [] => .ok r
  | c :: rest =>
    match Flag.ofShort? c with
    | none => fail (.unexpectedArgument (String.ofList ['-', c]))
    | some flag =>
      if flag.takesValue then
        match rest with
        | [] => r.option flag none
        | '=' :: value => r.option flag (some (String.ofList value))
        | value => r.option flag (some (String.ofList value))
      else
        match r.option flag none with
        | .error stop => .error stop
        | .ok r => r.bundle rest

/-- An argument that is no option: the value of the option before it, if that
still needs one. -/
def plain (r : Reading) (argument : String) : Except Stop Reading :=
  match r.pending with
  | some (flag, none) => .ok { r with pending := some (flag, some argument) }
  | _ => fail (.unexpectedArgument argument)

def next (r : Reading) (argument : String) : Except Stop Reading :=
  if r.onlyPositional then fail (.unexpectedArgument argument)
  else
    match argument.toList with
    | ['-', '-'] => .ok { r with onlyPositional := true }
    | '-' :: '-' :: text => r.long text
    | ['-'] => r.plain argument
    | '-' :: letters => r.bundle letters
    | _ => r.plain argument

end Reading

def Arguments.parse (arguments : List String) : Except Stop Arguments := do
  let read ← arguments.foldlM Reading.next {}
  let read ← read.settle
  if read.given.json && !read.given.order then Reading.fail .jsonWithoutOrder
  else .ok read.given

def Arguments.overrides (a : Arguments) : Layer where
  includeDir := a.includeDir
  excludes := a.excludes
  markers := a.markers

end Amalgam.CommandLine
