/-!
# UTF-8

Bytes are read one encoded character at a time. A byte that cannot begin a character, or the
longest beginning of a character that its next byte breaks off, is one fault. Lossy reading
writes the replacement character for each fault; strict reading refuses the whole text.

## Main definitions

* `takeChar` : the first character or fault of a sequence of bytes, and the bytes after it.
* `decodeLossy` : the text of any bytes, with U+FFFD for each fault.
* `decode?` : the text of well-formed bytes.
* `encode` : the bytes of a text.
-/

namespace InspectionHost.Text.Utf8

/-- What a first byte announces: the bounds of the second byte, how many bytes follow, and the
bits that the first byte adds to the code point. -/
structure Lead where
  low : UInt8
  high : UInt8
  following : Nat
  bits : Nat

/-- The announcement of a byte from `0x80` on, if it can begin a character. The bounds of the
second byte exclude overlong forms, surrogates and code points above U+10FFFF. -/
def lead? (b : UInt8) : Option Lead :=
  if b < 0xC2 then none
  else if b < 0xE0 then some ⟨0x80, 0xBF, 1, b.toNat - 0xC0⟩
  else if b < 0xF0 then
    some ⟨if b = 0xE0 then 0xA0 else 0x80, if b = 0xED then 0x9F else 0xBF, 2, b.toNat - 0xE0⟩
  else if b < 0xF5 then
    some ⟨if b = 0xF0 then 0x90 else 0x80, if b = 0xF4 then 0x8F else 0xBF, 3, b.toNat - 0xF0⟩
  else none

/-- Read `n` continuation bytes, the first between `low` and `high`, onto the bits `acc`. The
result is the character, or `none` for a fault, and the bytes not used. -/
def takeFollowing (low high : UInt8) : Nat → Nat → List UInt8 → Option Char × List UInt8
  | 0, acc, bs => (some (Char.ofNat acc), bs)
  | _ + 1, _, [] => (none, [])
  | n + 1, acc, b :: bs =>
    if low ≤ b ∧ b ≤ high then takeFollowing 0x80 0xBF n (acc * 64 + (b.toNat - 0x80)) bs
    else (none, b :: bs)

/-- The first character of the bytes `b :: bs`, or `none` for a fault, and the bytes after it. -/
def takeChar (b : UInt8) (bs : List UInt8) : Option Char × List UInt8 :=
  if b < 0x80 then (some (Char.ofNat b.toNat), bs)
  else match lead? b with
    | none => (none, bs)
    | some l => takeFollowing l.low l.high l.following l.bits bs

theorem length_takeFollowing_le (low high : UInt8) (n acc : Nat) (bs : List UInt8) :
    (takeFollowing low high n acc bs).2.length ≤ bs.length := by
  induction n generalizing low high acc bs with
  | zero => simp [takeFollowing]
  | succ n ih =>
    cases bs with
    | nil => simp [takeFollowing]
    | cons b bs =>
      rw [takeFollowing]
      split
      · exact Nat.le_trans (ih ..) (Nat.le_succ _)
      · exact Nat.le_refl _

theorem length_takeChar_le (b : UInt8) (bs : List UInt8) :
    (takeChar b bs).2.length ≤ bs.length := by
  rw [takeChar]
  split
  · exact Nat.le_refl _
  · split
    · exact Nat.le_refl _
    · exact length_takeFollowing_le ..

/-- The character that stands for a fault. -/
def replacement : Char := '\uFFFD'

/-- Lossy reading onto the characters already read, the last first. -/
def decodeLossyOnto (done : List Char) : List UInt8 → List Char
  | [] => done.reverse
  | b :: bs =>
    decodeLossyOnto ((takeChar b bs).1.getD replacement :: done) (takeChar b bs).2
termination_by bs => bs.length
decreasing_by
  have := length_takeChar_le b bs
  simp only [List.length_cons]
  omega

/-- The text of any bytes: well-formed characters as they are, U+FFFD for each fault. -/
def decodeLossy (bs : List UInt8) : List Char :=
  decodeLossyOnto [] bs

/-- Strict reading onto the characters already read, the last first. -/
def decodeOnto? (done : List Char) : List UInt8 → Option (List Char)
  | [] => some done.reverse
  | b :: bs =>
    match (takeChar b bs).1 with
    | none => none
    | some c => decodeOnto? (c :: done) (takeChar b bs).2
termination_by bs => bs.length
decreasing_by
  have := length_takeChar_le b bs
  simp only [List.length_cons]
  omega

/-- The text of well-formed bytes; `none` if there is a fault. -/
def decode? (bs : List UInt8) : Option (List Char) :=
  decodeOnto? [] bs

/-- The bytes of a text. -/
def encode (cs : List Char) : List UInt8 :=
  cs.flatMap String.utf8EncodeChar

end InspectionHost.Text.Utf8
