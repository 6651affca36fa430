import InspectionHost.Toml.Scan
import InspectionHost.Toml.Table

/-!
# Numbers of a TOML document

Integers have 64 bits, and may be written in base ten with a sign or in base two, eight or
sixteen without one. A float has a fraction or an exponent and must not be too large for a
double. Digits may be separated by single underscores.

## Main definitions

* `number?` : an integer or a float.
* `overflowsDouble` : whether a decimal number rounds to more than any double.
-/

namespace InspectionHost.Toml

open InspectionHost.Text

/-- Digits of the class `p`, where an underscore may stand between two of them. -/
def underscored (p : Char → Bool) : List Char → List Char × List Char
  | [] => ([], [])
  | [c] => if p c then ([c], []) else ([], [c])
  | c :: d :: cs =>
    if p c then
      let (digits, rest) := underscored p (d :: cs)
      (c :: digits, rest)
    else if c = '_' ∧ p d then underscored p (d :: cs)
    else ([], c :: d :: cs)

/-- One or more digits of the class `p`, where an underscore may stand between two of them. -/
def digitRun? (p : Char → Bool) (cs : List Char) : Option (List Char × List Char) :=
  match cs with
  | c :: _ => if p c then some (underscored p cs) else none
  | [] => none

/-- The number that digits denote in a base up to sixteen. -/
def valueIn (base : Nat) (digits : List Char) : Nat :=
  digits.foldl (fun n c => n * base + (Hex.digitValue? c).getD 0) 0

/-- Whether an integer has a signed 64-bit form. -/
def fits64 (n : Int) : Bool :=
  decide (-0x8000000000000000 ≤ n ∧ n < 0x8000000000000000)

/-- Whether `m * 10 ^ e` rounds to more than the largest double, `2 ^ 1024 - 2 ^ 971`. The number
of digits settles it unless the number is near the largest double. -/
def overflowsDouble (m : Nat) (e : Int) : Bool :=
  let magnitude : Int := (Decimal.digits m).length + e
  if m = 0 ∨ magnitude < 308 then false
  else if 310 < magnitude then true
  else
    let bound := Nat.pow 2 1024 - Nat.pow 2 970
    if 0 ≤ e then bound ≤ m * Nat.pow 10 e.toNat else bound * Nat.pow 10 (-e).toNat ≤ m

/-- The digits of an integer part in base ten: a lone zero, or no zero in front. -/
def integerPart? : List Char → Option (List Char × List Char)
  | '0' :: cs => some (['0'], cs)
  | cs => digitRun? Char.isDigit cs

/-- An exponent, if one stands here; nothing when it has no digits. -/
def exponent? : List Char → Option (Option Int × List Char)
  | [] => some (none, [])
  | c :: cs =>
    if c = 'e' ∨ c = 'E' then
      match cs with
      | '-' :: cs => (digitRun? Char.isDigit cs).map fun (ds, rest) =>
        (some (-(valueIn 10 ds : Int)), rest)
      | '+' :: cs => (digitRun? Char.isDigit cs).map fun (ds, rest) =>
        (some (valueIn 10 ds : Int), rest)
      | cs => (digitRun? Char.isDigit cs).map fun (ds, rest) =>
        (some (valueIn 10 ds : Int), rest)
    else some (none, c :: cs)

/-- An integer without sign in base two, eight or sixteen, from behind its leading `0`. -/
def based? : List Char → Option (Int × List Char)
  | 'x' :: cs => (digitRun? (fun c => (Hex.digitValue? c).isSome) cs).map fun (ds, rest) =>
    (valueIn 16 ds, rest)
  | 'o' :: cs => (digitRun? (fun c => '0' ≤ c && c ≤ '7') cs).map fun (ds, rest) =>
    (valueIn 8 ds, rest)
  | 'b' :: cs => (digitRun? (fun c => c == '0' || c == '1') cs).map fun (ds, rest) =>
    (valueIn 2 ds, rest)
  | _ => none

/-- An integer as a value, if it fits 64 bits. -/
def integer? (n : Int) (rest : List Char) : Option (Node × List Char) :=
  if fits64 n then some (.integer n, rest) else none

/-- A number from behind its sign. -/
def unsigned? (negative : Bool) (cs : List Char) : Option (Node × List Char) :=
  match cs with
  | 'i' :: 'n' :: 'f' :: rest => some (.float, rest)
  | 'n' :: 'a' :: 'n' :: rest => some (.float, rest)
  | _ => do
    let (whole, rest) ← integerPart? cs
    let (fraction, afterFraction) ← match rest with
      | '.' :: behind => (digitRun? Char.isDigit behind).map fun (ds, rest) => (some ds, rest)
      | _ => some (none, rest)
    let (exponent, afterExponent) ← exponent? afterFraction
    if fraction.isNone ∧ exponent.isNone then
      let n : Int := valueIn 10 whole
      integer? (if negative then -n else n) rest
    else
      let digits := whole ++ fraction.getD []
      let e := exponent.getD 0 - (fraction.getD []).length
      if !negative && overflowsDouble (valueIn 10 digits) e then none
      else some (.float, afterExponent)

/-- An integer or a float. -/
def number? : List Char → Option (Node × List Char)
  | '+' :: cs => unsigned? false cs
  | '-' :: cs => unsigned? true cs
  | '0' :: cs =>
    match based? cs with
    | some (n, rest) => integer? n rest
    | none => unsigned? false ('0' :: cs)
  | cs => unsigned? false cs

end InspectionHost.Toml
