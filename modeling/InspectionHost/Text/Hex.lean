/-!
# Hexadecimal digits

## Main definitions

* `digitChar` : the lower-case digit of a value below sixteen.
* `digitValue?` : the value of a digit in either case.
* `digits` : the digits of a number, without leading zeros.
* `padded` : the digits of a number with zeros in front up to a given width.
* `value?` : the number that digits denote.

## Main results

* `value?_padded` : padded digits denote the number that they were made of.
-/

namespace InspectionHost.Text.Hex

/-- The lower-case hexadecimal digit of a value below sixteen. -/
def digitChar (d : Nat) : Char :=
  if d < 10 then Char.ofNat ('0'.toNat + d) else Char.ofNat ('a'.toNat + (d - 10))

/-- The value of a hexadecimal digit, in lower or upper case. -/
def digitValue? (c : Char) : Option Nat :=
  if '0' ≤ c ∧ c ≤ '9' then some (c.toNat - '0'.toNat)
  else if 'a' ≤ c ∧ c ≤ 'f' then some (c.toNat - 'a'.toNat + 10)
  else if 'A' ≤ c ∧ c ≤ 'F' then some (c.toNat - 'A'.toNat + 10)
  else none

/-- The hexadecimal digits of a number, without leading zeros. -/
def digits (n : Nat) : List Char :=
  if n < 16 then [digitChar n] else digits (n / 16) ++ [digitChar (n % 16)]

/-- The lowest `width` hexadecimal digits of a number. -/
def padded : Nat → Nat → List Char
  | 0, _ => []
  | width + 1, n => padded width (n / 16) ++ [digitChar (n % 16)]

/-- The number that hexadecimal digits denote. -/
def value? (cs : List Char) : Option Nat :=
  cs.foldl (fun acc c => do return (← acc) * 16 + (← digitValue? c)) (some 0)

/-! ### Small facts -/

theorem digitValue?_digitChar {d : Nat} (h : d < 16) : digitValue? (digitChar d) = some d := by
  have : ∀ d : Fin 16, digitValue? (digitChar d) = some d.val := by decide
  exact this ⟨d, h⟩

theorem value?_append_singleton (cs : List Char) (c : Char) :
    value? (cs ++ [c]) = do return (← value? cs) * 16 + (← digitValue? c) := by
  simp [value?]

/-- Padded digits denote the number that they were made of, if there are enough of them. -/
theorem value?_padded {width n : Nat} (h : n < Nat.pow 16 width) :
    value? (padded width n) = some n := by
  induction width generalizing n with
  | zero =>
    obtain rfl : n = 0 := Nat.lt_one_iff.1 h
    rfl
  | succ width ih =>
    have hhigh : n / 16 < Nat.pow 16 width := Nat.div_lt_of_lt_mul (by rwa [Nat.mul_comm])
    have hlow : n % 16 < 16 := Nat.mod_lt _ (by decide)
    rw [padded, value?_append_singleton, ih hhigh, digitValue?_digitChar hlow]
    exact congrArg some (Nat.div_add_mod' n 16)

end InspectionHost.Text.Hex
