import InspectionHost.Text.Blank
import InspectionHost.Text.Decimal
import Mathlib.Data.Nat.Digits.Defs

/-!
# The number that a text denotes

A text denotes a number if it consists of ASCII digits, at least one, behind at most one plus sign.
The number is the one of these digits to the base ten. It is read exactly if it fits 64 bits, and
the reader never tells another number.

## Main definitions

* `value` : the number of digits.
* `Denotes` : the number of a text.

## Main results

* `readUInt64?_eq_some_iff` : a text is read as the number that it denotes.
* `readUInt64?_eq_none_iff` : a text is refused if it denotes no number of 64 bits.
* `denotes_digits` : the digits that are written of a number denote it.
-/

namespace InspectionHost.Text.Decimal

/-- An ASCII digit. -/
def IsDigit (c : Char) : Prop := '0' ≤ c ∧ c ≤ '9'

instance (c : Char) : Decidable (IsDigit c) := inferInstanceAs (Decidable (_ ∧ _))

/-- The value of one digit. -/
def digitValue (c : Char) : Nat := c.toNat - '0'.toNat

/-- The number of digits to the base ten, the first of which counts most. -/
def value (digits : List Char) : Nat := Nat.ofDigits 10 (digits.reverse.map digitValue)

/-- A text denotes a number: it consists of its digits, behind at most one plus sign. -/
def Denotes (cs : List Char) (n : Nat) : Prop :=
  ∃ digits, (cs = digits ∨ cs = '+' :: digits) ∧ digits ≠ [] ∧ (∀ c ∈ digits, IsDigit c) ∧
    value digits = n

theorem value_cons (c : Char) (cs : List Char) :
    value (c :: cs) = digitValue c * 10 ^ cs.length + value cs := by
  rw [value, List.reverse_cons, List.map_append, Nat.ofDigits_append, List.map_cons, List.map_nil,
    Nat.ofDigits_singleton, List.length_map, List.length_reverse, ← value, Nat.add_comm,
    Nat.mul_comm]

theorem digitValue?_of_isDigit {c : Char} (h : IsDigit c) : digitValue? c = some (digitValue c) :=
  if_pos h

theorem digitValue?_of_not_isDigit {c : Char} (h : ¬ IsDigit c) : digitValue? c = none :=
  if_neg h

theorem accumulate_nil (acc : Nat) : accumulate acc [] = some acc :=
  rfl

theorem accumulate_cons (acc : Nat) (c : Char) (cs : List Char) :
    accumulate acc (c :: cs) =
      match digitValue? c with
      | none => none
      | some d => if acc * 10 + d < 2 ^ 64 then accumulate (acc * 10 + d) cs else none :=
  rfl

/-- Digits are accumulated to their number behind the digits before them, if it fits 64 bits. -/
theorem accumulate_eq_some_iff {acc : Nat} (fits : acc < 2 ^ 64) {cs : List Char} {n : Nat} :
    accumulate acc cs = some n ↔
      (∀ c ∈ cs, IsDigit c) ∧ acc * 10 ^ cs.length + value cs = n ∧ n < 2 ^ 64 := by
  induction cs generalizing acc with
  | nil =>
    have hvalue : value [] = 0 := rfl
    simp only [accumulate_nil, Option.some.injEq, List.not_mem_nil, false_imp_iff, implies_true,
      true_and, List.length_nil, Nat.pow_zero, Nat.mul_one, hvalue, Nat.add_zero]
    exact ⟨fun h => ⟨h, h ▸ fits⟩, And.left⟩
  | cons c cs ih =>
    by_cases digit : IsDigit c
    · have hsum : (acc * 10 + digitValue c) * 10 ^ cs.length + value cs =
          acc * 10 ^ (c :: cs).length + value (c :: cs) := by
        rw [value_cons, List.length_cons, Nat.pow_succ]
        ring
      have hall : (∀ d ∈ c :: cs, IsDigit d) ↔ ∀ d ∈ cs, IsDigit d := by simp [digit]
      rw [accumulate_cons, digitValue?_of_isDigit digit, hall, ← hsum]
      dsimp only
      by_cases small : acc * 10 + digitValue c < 2 ^ 64
      · rw [if_pos small, ih small]
      · rw [if_neg small]
        refine iff_of_false nofun ?_
        rintro ⟨-, rfl, hfits⟩
        -- The number is not below that of the digits read so far.
        have hle : acc * 10 + digitValue c ≤ (acc * 10 + digitValue c) * 10 ^ cs.length :=
          Nat.le_mul_of_pos_right _ (Nat.pow_pos (by decide))
        omega
    · rw [accumulate_cons, digitValue?_of_not_isDigit digit]
      exact iff_of_false nofun fun h => digit (h.1 c List.mem_cons_self)

theorem readDigits?_eq_some_iff {cs : List Char} {n : Nat} :
    readDigits? cs = some n ↔
      cs ≠ [] ∧ (∀ c ∈ cs, IsDigit c) ∧ value cs = n ∧ n < 2 ^ 64 := by
  cases cs with
  | nil => simp [readDigits?]
  | cons c cs =>
    rw [readDigits?, accumulate_eq_some_iff (by decide), Nat.zero_mul, Nat.zero_add]
    simp

theorem not_isDigit_plus : ¬ IsDigit '+' := by decide

/-- A text denotes a number by the digits that are read. -/
theorem denotes_iff {cs : List Char} {n : Nat} :
    Denotes cs n ∧ n < 2 ^ 64 ↔
      (match cs with
        | '+' :: rest => readDigits? rest
        | _ => readDigits? cs) = some n := by
  constructor
  · rintro ⟨⟨digits, hcs, hne, hdigits, hvalue⟩, hfits⟩
    have hread : readDigits? digits = some n :=
      readDigits?_eq_some_iff.2 ⟨hne, hdigits, hvalue, hfits⟩
    rcases hcs with rfl | rfl
    · split
      · exact (not_isDigit_plus (hdigits '+' List.mem_cons_self)).elim
      · exact hread
    · exact hread
  · intro h
    split at h
    · next rest =>
      obtain ⟨hne, hdigits, hvalue, hfits⟩ := readDigits?_eq_some_iff.1 h
      exact ⟨⟨rest, .inr rfl, hne, hdigits, hvalue⟩, hfits⟩
    · obtain ⟨hne, hdigits, hvalue, hfits⟩ := readDigits?_eq_some_iff.1 h
      exact ⟨⟨cs, .inl rfl, hne, hdigits, hvalue⟩, hfits⟩

/-- A text is read as the number that it denotes. -/
theorem readUInt64?_eq_some_iff {cs : List Char} {n : UInt64} :
    readUInt64? cs = some n ↔ Denotes cs n.toNat := by
  unfold readUInt64?
  rw [Option.map_eq_some_iff]
  constructor
  · rintro ⟨k, hk, rfl⟩
    obtain ⟨hdenotes, hfits⟩ := denotes_iff.2 hk
    rwa [UInt64.toNat_ofNat_of_lt' hfits]
  · intro h
    exact ⟨n.toNat, denotes_iff.1 ⟨h, n.toNat_lt⟩, UInt64.ofNat_toNat⟩

/-- A text is refused exactly if it denotes no number of 64 bits. -/
theorem readUInt64?_eq_none_iff {cs : List Char} :
    readUInt64? cs = none ↔ ∀ n : UInt64, ¬ Denotes cs n.toNat := by
  simp only [← readUInt64?_eq_some_iff, Option.eq_none_iff_forall_ne_some, ne_eq]

/-! ### Digits that are written -/

theorem value_append_singleton (cs : List Char) (c : Char) :
    value (cs ++ [c]) = value cs * 10 + digitValue c := by
  rw [value, List.reverse_append, List.reverse_singleton, List.singleton_append, List.map_cons,
    Nat.ofDigits_cons, ← value]
  ring

theorem isDigit_digitChar {d : Nat} (h : d < 10) : IsDigit (digitChar d) := by
  have : ∀ d : Fin 10, IsDigit (digitChar d) := by decide
  exact this ⟨d, h⟩

theorem digitValue_digitChar {d : Nat} (h : d < 10) : digitValue (digitChar d) = d := by
  have : ∀ d : Fin 10, digitValue (digitChar d) = d := by decide
  exact this ⟨d, h⟩

/-- A number is written in digits, and they are its digits. -/
theorem isDigit_and_value_digits (n : Nat) :
    (∀ c ∈ digits n, IsDigit c) ∧ value (digits n) = n := by
  induction n using digits.induct with
  | case1 n small =>
    rw [digits, if_pos small]
    refine ⟨fun c hc => ?_, ?_⟩
    · obtain rfl := List.mem_singleton.1 hc
      exact isDigit_digitChar small
    · rw [← List.nil_append [digitChar n], value_append_singleton, digitValue_digitChar small]
      exact Nat.zero_add n
  | case2 n large ih =>
    obtain ⟨front, hvalue⟩ := ih
    have last : n % 10 < 10 := Nat.mod_lt n (by decide)
    rw [digits, if_neg large]
    refine ⟨fun c hc => ?_, ?_⟩
    · rcases List.mem_append.1 hc with hc | hc
      · exact front c hc
      · obtain rfl := List.mem_singleton.1 hc
        exact isDigit_digitChar last
    · rw [value_append_singleton, hvalue, digitValue_digitChar last]
      omega

/-- The digits that are written of a number denote it. -/
theorem denotes_digits (n : Nat) : Denotes (digits n) n := by
  obtain ⟨hdigits, hvalue⟩ := isDigit_and_value_digits n
  refine ⟨digits n, .inl rfl, ?_, hdigits, hvalue⟩
  rw [digits]
  split <;> simp

/-- No character of a number is blank. -/
theorem Denotes.solid {cs : List Char} {n : Nat} (h : Denotes cs n) :
    ∀ c ∈ cs, isBlank c = false := by
  obtain ⟨digits, hcs, -, hdigits, -⟩ := h
  have digit : ∀ c, IsDigit c → isBlank c = false := by
    rintro c ⟨low, high⟩
    have low : 0x30 ≤ c.toNat := low
    have high : c.toNat ≤ 0x39 := high
    simp only [isBlank, Bool.or_eq_false_iff, Bool.and_eq_false_iff, decide_eq_false_iff_not,
      beq_eq_false_iff_ne]
    omega
  rcases hcs with rfl | rfl
  · exact fun c hc => digit c (hdigits c hc)
  · rintro c hc
    rcases List.mem_cons.1 hc with rfl | hc
    · decide
    · exact digit c (hdigits c hc)

/-- A sign and leading zeros do not count. -/
example : readUInt64? ['+', '0', '7'] = some 7 ∧ value ['0', '7'] = 7 := by decide

end InspectionHost.Text.Decimal
