/-!
# Numbers and dates of TOML

No setting takes a number or a date, but a document that holds one must still
spell it rightly. A reader gives the rest after it. Integers fit 64 bits, and no
number is too large for a double. A date is a day that exists.
-/

namespace Amalgam.Toml

def isDecimal (c : Char) : Bool := c.isDigit
def isOctal (c : Char) : Bool := '0' ≤ c && c ≤ '7'
def isBinary (c : Char) : Bool := c == '0' || c == '1'

def isHex (c : Char) : Bool :=
  c.isDigit || ('a' ≤ c && c ≤ 'f') || ('A' ≤ c && c ≤ 'F')

/-- More digits, where one underscore may stand between two of them. -/
def moreDigits? (isDigit : Char → Bool) : List Char → Option (List Char × List Char)
  | [] => some ([], [])
  | ['_'] => none
  | '_' :: c :: rest =>
    if isDigit c then (moreDigits? isDigit rest).map fun (ds, rest) => (c :: ds, rest) else none
  | c :: rest =>
    if isDigit c then (moreDigits? isDigit rest).map fun (ds, rest) => (c :: ds, rest)
    else some ([], c :: rest)

def digits? (isDigit : Char → Bool) : List Char → Option (List Char × List Char)
  | c :: rest =>
    if isDigit c then (moreDigits? isDigit rest).map fun (ds, rest) => (c :: ds, rest) else none
  | [] => none

def digitValue (c : Char) : Nat :=
  if c.isDigit then c.toNat - '0'.toNat
  else if 'a' ≤ c then c.toNat - 'a'.toNat + 10
  else c.toNat - 'A'.toNat + 10

def valueIn (base : Nat) (digits : List Char) : Nat :=
  digits.foldl (fun n c => base * n + digitValue c) 0

def based? (base : Nat) (isDigit : Char → Bool) (cs : List Char) : Option (List Char) := do
  let (ds, rest) ← digits? isDigit cs
  if valueIn base ds < Nat.pow 2 63 then some rest else none

/-- The integral part of a decimal number; a zero in front stands alone. -/
def integral? : List Char → Option (List Char × List Char)
  | '0' :: rest => some (['0'], rest)
  | cs => digits? isDecimal cs

/-- The positive number `mantissa * 10 ^ exponent` is rounded to infinity as a
double. The cut lies half a unit above the largest double. -/
def overflowsDouble (mantissa : List Char) (exponent : Int) : Bool :=
  let significant := mantissa.dropWhile (· == '0')
  let magnitude := exponent + significant.length
  if significant.isEmpty then false
  else if magnitude > 320 then true
  else if magnitude < 300 then false
  else
    let value := valueIn 10 significant
    let limit := Nat.pow 2 1024 - Nat.pow 2 970
    if 0 ≤ exponent then limit ≤ value * Nat.pow 10 exponent.toNat
    else limit * Nat.pow 10 (-exponent).toNat ≤ value

def exponent? (cs : List Char) : Option (Int × List Char) :=
  match cs with
  | '+' :: rest => (digits? isDecimal rest).map fun (ds, rest) => ((valueIn 10 ds : Int), rest)
  | '-' :: rest => (digits? isDecimal rest).map fun (ds, rest) => (-(valueIn 10 ds : Int), rest)
  | cs => (digits? isDecimal cs).map fun (ds, rest) => ((valueIn 10 ds : Int), rest)

def isExponentMark (c : Char) : Bool :=
  c == 'e' || c == 'E'

def decimal? (negative : Bool) (cs : List Char) : Option (List Char) := do
  let (whole, rest) ← integral? cs
  let fits (mantissa : List Char) (exponent : Int) (rest : List Char) : Option (List Char) :=
    if !negative && overflowsDouble mantissa exponent then none else some rest
  match rest with
  | '.' :: rest => do
    let (fraction, rest) ← digits? isDecimal rest
    let mantissa := whole ++ fraction
    match rest with
    | c :: after =>
      if isExponentMark c then do
        let (exponent, rest) ← exponent? after
        fits mantissa (exponent - fraction.length) rest
      else fits mantissa (-(fraction.length : Int)) rest
    | [] => fits mantissa (-(fraction.length : Int)) []
  | c :: after =>
    if isExponentMark c then do
      let (exponent, rest) ← exponent? after
      fits whole exponent rest
    else integer whole rest
  | [] => integer whole []
where
  integer (whole rest : List Char) : Option (List Char) :=
    if valueIn 10 whole < Nat.pow 2 63 + (if negative then 1 else 0) then some rest else none

def afterSign? (negative : Bool) : List Char → Option (List Char)
  | 'i' :: 'n' :: 'f' :: rest => some rest
  | 'n' :: 'a' :: 'n' :: rest => some rest
  | cs => decimal? negative cs

-- ---------------------------------------------------------------------------
-- Dates and times
-- ---------------------------------------------------------------------------

def fixed? : Nat → Nat → List Char → Option (Nat × List Char)
  | 0, value, cs => some (value, cs)
  | n + 1, value, c :: cs => if c.isDigit then fixed? n (10 * value + digitValue c) cs else none
  | _ + 1, _, [] => none

def pair? (least most : Nat) (cs : List Char) : Option (Nat × List Char) := do
  let (value, rest) ← fixed? 2 0 cs
  if least ≤ value ∧ value ≤ most then some (value, rest) else none

def expect? (c : Char) : List Char → Option (List Char)
  | d :: rest => if d = c then some rest else none
  | [] => none

def isLeap (year : Nat) : Bool :=
  year % 4 == 0 && (year % 100 != 0 || year % 400 == 0)

def daysIn (year month : Nat) : Nat :=
  if month = 2 then (if isLeap year then 29 else 28)
  else if month = 4 ∨ month = 6 ∨ month = 9 ∨ month = 11 then 30
  else 31

def date? (cs : List Char) : Option (List Char) := do
  let (year, rest) ← fixed? 4 0 cs
  let rest ← expect? '-' rest
  let (month, rest) ← pair? 1 12 rest
  let rest ← expect? '-' rest
  let (_, rest) ← pair? 1 (daysIn year month) rest
  some rest

def skipFraction : List Char → List Char
  | '.' :: c :: rest => if c.isDigit then rest.dropWhile Char.isDigit else '.' :: c :: rest
  | cs => cs

def time? (cs : List Char) : Option (List Char) := do
  let (_, rest) ← pair? 0 23 cs
  let rest ← expect? ':' rest
  let (_, rest) ← pair? 0 59 rest
  let rest ← expect? ':' rest
  let (_, rest) ← pair? 0 60 rest
  some (skipFraction rest)

/-- Two digits and a colon: what begins so can only be a time. -/
def isTimeStart (cs : List Char) : Bool :=
  match fixed? 2 0 cs with
  | some (hour, ':' :: _) => hour ≤ 23
  | _ => false

/-- Four digits and a hyphen: what begins so can only be a date. -/
def isDateStart (cs : List Char) : Bool :=
  match fixed? 4 0 cs with
  | some (_, '-' :: _) => true
  | _ => false

def offset? (cs : List Char) : Option (List Char) :=
  let distance (rest : List Char) : Option (List Char) := do
    let (_, rest) ← pair? 0 23 rest
    let rest ← expect? ':' rest
    let (_, rest) ← pair? 0 59 rest
    some rest
  match cs with
  | 'Z' :: rest => some rest
  | 'z' :: rest => some rest
  | '+' :: rest => distance rest
  | '-' :: rest => distance rest
  | cs => some cs

def dateTime? (cs : List Char) : Option (List Char) := do
  let rest ← date? cs
  match rest with
  | c :: after =>
    if (c = 'T' ∨ c = 't' ∨ c = ' ') ∧ isTimeStart after then do
      let rest ← time? after
      offset? rest
    else some rest
  | [] => some []

def number? (cs : List Char) : Option (List Char) :=
  if isDateStart cs then dateTime? cs
  else if isTimeStart cs then time? cs
  else
    match cs with
    | '+' :: rest => afterSign? false rest
    | '-' :: rest => afterSign? true rest
    | '0' :: 'x' :: rest => based? 16 isHex rest
    | '0' :: 'o' :: rest => based? 8 isOctal rest
    | '0' :: 'b' :: rest => based? 2 isBinary rest
    | cs => afterSign? false cs

end Amalgam.Toml
