/-!
# Decimal numbers of 64 bits

A number is read from an optional plus sign and one or more ASCII digits, with any number of
leading zeros, and refused when its value does not fit 64 bits. A number is written with the
fewest digits.

## Main definitions

* `readUInt64?` : the number a text denotes.
* `digits` : the decimal digits of a number.
-/

namespace InspectionHost.Text.Decimal

/-- The value of an ASCII digit. -/
def digitValue? (c : Char) : Option Nat :=
  if '0' ≤ c ∧ c ≤ '9' then some (c.toNat - '0'.toNat) else none

/-- Read digits onto the value `acc`, and stop as soon as the value leaves 64 bits. -/
def accumulate (acc : Nat) : List Char → Option Nat
  | [] => some acc
  | c :: cs =>
    match digitValue? c with
    | none => none
    | some d => if acc * 10 + d < 2 ^ 64 then accumulate (acc * 10 + d) cs else none

/-- The number that one or more digits denote, if it is below `2 ^ 64`. -/
def readDigits? : List Char → Option Nat
  | [] => none
  | c :: cs => accumulate 0 (c :: cs)

/-- The number of a text: one or more ASCII digits after at most one plus sign. -/
def readUInt64? (cs : List Char) : Option UInt64 :=
  (match cs with
    | '+' :: rest => readDigits? rest
    | _ => readDigits? cs).map UInt64.ofNat

/-- The digit of a value below ten. -/
def digitChar (d : Nat) : Char :=
  Char.ofNat ('0'.toNat + d)

/-- The decimal digits of a number, without leading zeros. -/
def digits (n : Nat) : List Char :=
  if n < 10 then [digitChar n] else digits (n / 10) ++ [digitChar (n % 10)]

/-- A number in decimal digits. -/
def print (n : Nat) : String :=
  String.ofList (digits n)

end InspectionHost.Text.Decimal
