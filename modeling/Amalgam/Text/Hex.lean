/-!
# Characters by code point

Hexadecimal digits and the characters that they name. Surrogates and numbers
beyond the last code point name none.
-/

namespace Amalgam.Text

def hexValue? (c : Char) : Option Nat :=
  if '0' ≤ c ∧ c ≤ '9' then some (c.toNat - '0'.toNat)
  else if 'a' ≤ c ∧ c ≤ 'f' then some (c.toNat - 'a'.toNat + 10)
  else if 'A' ≤ c ∧ c ≤ 'F' then some (c.toNat - 'A'.toNat + 10)
  else none

def charOfCode? (n : Nat) : Option Char :=
  if n.isValidChar then some (Char.ofNat n) else none

def hexNumber? : List Char → Option Nat
  | [] => none
  | digits => digits.foldlM (fun n c => (hexValue? c).map (16 * n + ·)) 0

/-- The value of exactly `n` hexadecimal digits, and the rest; `skip` drops what
may stand after a digit. -/
def fixedHex? (skip : List Char → List Char) : Nat → Nat → List Char → Option (Nat × List Char)
  | 0, value, cs => some (value, cs)
  | n + 1, value, c :: cs =>
    match hexValue? c with
    | some digit => fixedHex? skip n (16 * value + digit) (skip cs)
    | none => none
  | _ + 1, _, [] => none

def hexDigits (n : Nat) : List Char :=
  Nat.toDigits 16 n

end Amalgam.Text
