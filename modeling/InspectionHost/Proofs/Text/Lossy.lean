import InspectionHost.Proofs.Text.Utf8
import Mathlib.Data.List.Basic
import Mathlib.Tactic.Ring

/-!
# Lossy reading of bytes in parts

A byte below `0x80` is a character by itself. It continues no character of several bytes, and it
ends the fault that stands before it, so bytes can be cut at such a byte before or after they are
read, with the same replacement characters. It is also the only way to such a character: what
several bytes are read for, a character or a fault, is never below U+0080.

## Main results

* `decodeLossy_append_cons` : bytes are read in two parts, on both sides of an ASCII byte.
* `decodeLossy_intercalate` : parts with an ASCII byte between them are read one by one.
* `mem_decodeLossy_iff`, `getLast?_decodeLossy_iff` : where an ASCII character comes from.
-/

namespace InspectionHost.Text.Utf8

/-! ### Bytes that end what stands before them -/

/-- An ASCII byte continues no character. -/
theorem takeFollowing_append_cons {x : UInt8} (ascii : x < 0x80) {low : UInt8} (above : 0x80 ≤ low)
    (high : UInt8) (n acc : Nat) (bs rest : List UInt8) :
    takeFollowing low high n acc (bs ++ x :: rest) =
      ((takeFollowing low high n acc bs).1, (takeFollowing low high n acc bs).2 ++ x :: rest) := by
  induction n generalizing low high acc bs with
  | zero => rfl
  | succ n ih =>
    cases bs with
    | nil =>
      have hbelow : ¬ low ≤ x := UInt8.not_le.2 (UInt8.lt_of_lt_of_le ascii above)
      have hstop : takeFollowing low high (n + 1) acc (x :: rest) = (none, x :: rest) := by
        rw [takeFollowing, if_neg fun h => hbelow h.1]
      exact hstop
    | cons b bs =>
      rw [List.cons_append, takeFollowing, takeFollowing]
      split
      · exact ih (UInt8.le_refl _) ..
      · rfl

/-- What a byte announces: its second byte is no ASCII byte, and the code points with such a second
byte are at least U+0080 and no surrogates. -/
structure Lead.IsWide (l : Lead) (n : Nat) : Prop where
  low : 0x80 ≤ l.low
  following : l.following = n + 1
  least : 0x80 ≤ (l.bits * 64 + (l.low.toNat - 0x80)) * 64 ^ n
  valid : (l.bits * 64 + (l.high.toNat - 0x80) + 1) * 64 ^ n ≤ 0xD800 ∨
    0xDFFF < (l.bits * 64 + (l.low.toNat - 0x80)) * 64 ^ n ∧
      (l.bits * 64 + (l.high.toNat - 0x80) + 1) * 64 ^ n ≤ 0x110000

/-- A byte that can begin a character announces one of several bytes. -/
theorem exists_isWide_of_lead? {b : UInt8} {l : Lead} (h : lead? b = some l) :
    ∃ n, l.IsWide n := by
  have heq (x : UInt8) : b = x ↔ b.toNat = x.toNat := UInt8.toNat_inj.symm
  simp only [lead?, UInt8.lt_iff_toNat_lt, heq, UInt8.toNat_ofNat,
    Option.ite_none_left_eq_some] at h
  obtain ⟨above, h⟩ := h
  split at h
  · obtain rfl := Option.some.inj h
    exact ⟨0, by simp, rfl, by simp; omega, .inl (by simp; omega)⟩
  · split at h
    · obtain rfl := Option.some.inj h
      refine ⟨1, ?_, rfl, ?_, ?_⟩ <;> dsimp only <;> split_ifs <;> simp <;> omega
    · rw [Option.ite_none_right_eq_some] at h
      obtain ⟨below, h⟩ := h
      obtain rfl := Option.some.inj h
      refine ⟨2, ?_, rfl, ?_, ?_⟩ <;> dsimp only <;> split_ifs <;> simp <;> omega

/-- The first character or fault of bytes ends in front of an ASCII byte. -/
theorem takeChar_append_cons {x : UInt8} (ascii : x < 0x80) (b : UInt8) (bs rest : List UInt8) :
    takeChar b (bs ++ x :: rest) = ((takeChar b bs).1, (takeChar b bs).2 ++ x :: rest) := by
  rw [takeChar, takeChar]
  split
  · rfl
  · cases hlead : lead? b with
    | none => rfl
    | some l =>
      obtain ⟨n, wide⟩ := exists_isWide_of_lead? hlead
      exact takeFollowing_append_cons ascii wide.low ..

theorem takeChar_of_ascii {x : UInt8} (ascii : x < 0x80) (bs : List UInt8) :
    takeChar x bs = (some (Char.ofNat x.toNat), bs) := by
  rw [takeChar, if_pos ascii]

/-! ### Reading on -/

theorem decodeLossyOnto_append (done front : List Char) (bs : List UInt8) :
    decodeLossyOnto (done ++ front) bs = front.reverse ++ decodeLossyOnto done bs := by
  induction done, bs using decodeLossyOnto.induct with
  | case1 done => simp [decodeLossyOnto]
  | case2 done b bs ih =>
    rw [decodeLossyOnto, decodeLossyOnto, ← ih, List.cons_append]

@[simp] theorem decodeLossy_nil : decodeLossy [] = [] := by
  rw [decodeLossy, decodeLossyOnto, List.reverse_nil]

theorem decodeLossy_cons (b : UInt8) (bs : List UInt8) :
    decodeLossy (b :: bs) =
      (takeChar b bs).1.getD replacement :: decodeLossy (takeChar b bs).2 := by
  rw [decodeLossy, decodeLossyOnto]
  exact decodeLossyOnto_append [] [_] _

/-- What holds of no bytes, and of bytes if it holds behind their first character or fault, holds of
all bytes. -/
theorem lossy_induction {motive : List UInt8 → Prop} (nil : motive [])
    (cons : ∀ b bs, motive (takeChar b bs).2 → motive (b :: bs)) (bs : List UInt8) : motive bs := by
  induction [], bs using decodeLossyOnto.induct with
  | case1 => exact nil
  | case2 _ b bs ih => exact cons b bs ih

/-- Bytes are read in two parts, on both sides of an ASCII byte. -/
theorem decodeLossy_append_cons {x : UInt8} (ascii : x < 0x80) (bs rest : List UInt8) :
    decodeLossy (bs ++ x :: rest) =
      decodeLossy bs ++ Char.ofNat x.toNat :: decodeLossy rest := by
  induction bs using lossy_induction with
  | nil => rw [List.nil_append, decodeLossy_cons, takeChar_of_ascii ascii, decodeLossy_nil]; rfl
  | cons b bs ih =>
    rw [List.cons_append, decodeLossy_cons, takeChar_append_cons ascii, ih, decodeLossy_cons,
      List.cons_append]

/-- Parts with an ASCII byte between them are read one by one. -/
theorem decodeLossy_intercalate {x : UInt8} (ascii : x < 0x80) (parts : List (List UInt8)) :
    decodeLossy ([x].intercalate parts) =
      [Char.ofNat x.toNat].intercalate (parts.map decodeLossy) := by
  induction parts with
  | nil => simp
  | cons part parts ih =>
    cases parts with
    | nil => simp
    | cons next parts =>
      rw [List.intercalate_cons_cons, List.append_assoc, List.singleton_append,
        decodeLossy_append_cons ascii, ih]
      simp [List.intercalate_cons_cons]

/-! ### Where ASCII characters come from -/

theorem toNat_char {n : Nat} (valid : n.isValidChar) : (Char.ofNat n).toNat = n := by
  rw [Char.ofNat, dif_pos valid]
  rfl

theorem exists_cons_of_takeFollowing {low high : UInt8} {n acc : Nat} {bs : List UInt8} {c : Char}
    (h : (takeFollowing low high (n + 1) acc bs).1 = some c) :
    ∃ b bs', bs = b :: bs' ∧ (low.toNat ≤ b.toNat ∧ b.toNat ≤ high.toNat) ∧
      (takeFollowing 0x80 0xBF n (acc * 64 + (b.toNat - 0x80)) bs').1 = some c := by
  cases bs with
  | nil => simp [takeFollowing] at h
  | cons b bs =>
    rw [takeFollowing] at h
    split at h
    · next within =>
      rw [UInt8.le_iff_toNat_le, UInt8.le_iff_toNat_le] at within
      exact ⟨b, bs, rfl, within, h⟩
    · contradiction

/-- The code point of several bytes lies within the bounds that the first and the second byte
set. -/
theorem exists_of_takeFollowing {low high : UInt8} {n acc : Nat} {bs : List UInt8} {c : Char}
    (h : (takeFollowing low high (n + 1) acc bs).1 = some c) :
    ∃ m, c = Char.ofNat m ∧ (acc * 64 + (low.toNat - 0x80)) * 64 ^ n ≤ m ∧
      m < (acc * 64 + (high.toNat - 0x80) + 1) * 64 ^ n := by
  induction n generalizing low high acc bs with
  | zero =>
    obtain ⟨b, bs, rfl, ⟨above, below⟩, h⟩ := exists_cons_of_takeFollowing h
    obtain rfl := Option.some.inj h
    exact ⟨_, rfl, by omega, by omega⟩
  | succ n ih =>
    obtain ⟨b, bs, rfl, ⟨above, below⟩, h⟩ := exists_cons_of_takeFollowing h
    obtain ⟨m, rfl, least, most⟩ := ih h
    have hleast : (0x80 : UInt8).toNat = 128 := rfl
    have hmost : (0xBF : UInt8).toNat = 191 := rfl
    rw [hleast] at least
    rw [hmost] at most
    refine ⟨m, rfl, ?_, ?_⟩
    · calc (acc * 64 + (low.toNat - 0x80)) * 64 ^ (n + 1)
          = (acc * 64 + (low.toNat - 0x80)) * 64 * 64 ^ n := by ring
        _ ≤ ((acc * 64 + (b.toNat - 0x80)) * 64 + (128 - 128)) * 64 ^ n :=
          Nat.mul_le_mul_right _ (by omega)
        _ ≤ m := least
    · calc m < ((acc * 64 + (b.toNat - 0x80)) * 64 + (191 - 0x80) + 1) * 64 ^ n := most
        _ ≤ (acc * 64 + (high.toNat - 0x80) + 1) * 64 * 64 ^ n :=
          Nat.mul_le_mul_right _ (by omega)
        _ = (acc * 64 + (high.toNat - 0x80) + 1) * 64 ^ (n + 1) := by ring

/-- What several bytes are read for is no ASCII character. -/
theorem le_toNat_of_takeChar {b : UInt8} (long : ¬ b < 0x80) (bs : List UInt8) :
    0x80 ≤ ((takeChar b bs).1.getD replacement).toNat := by
  cases hread : (takeChar b bs).1 with
  | none => decide
  | some c =>
    rw [takeChar, if_neg long] at hread
    cases hlead : lead? b with
    | none => simp [hlead] at hread
    | some l =>
      obtain ⟨n, wide⟩ := exists_isWide_of_lead? hlead
      simp only [hlead, wide.following] at hread
      obtain ⟨m, rfl, least, most⟩ := exists_of_takeFollowing hread
      have valid := wide.valid
      have hm : m.isValidChar := by
        rcases valid with below | ⟨above, below⟩
        · exact .inl (by omega)
        · exact .inr ⟨by omega, by omega⟩
      rw [Option.getD_some, toNat_char hm]
      exact wide.least.trans least

theorem getD_takeChar_eq_iff {x : UInt8} (ascii : x < 0x80) (b : UInt8) (bs : List UInt8) :
    (takeChar b bs).1.getD replacement = Char.ofNat x.toNat ↔ b = x := by
  have hnumber {y : UInt8} (hy : y < 0x80) : (Char.ofNat y.toNat).toNat = y.toNat := by
    rw [UInt8.lt_iff_toNat_lt] at hy
    exact toNat_char (.inl (by simp at hy; omega))
  constructor
  · intro h
    by_cases short : b < 0x80
    · rw [takeChar_of_ascii short, Option.getD_some] at h
      rw [← UInt8.toNat_inj, ← hnumber short, h, hnumber ascii]
    · have hlong := le_toNat_of_takeChar short bs
      rw [h, hnumber ascii] at hlong
      exact absurd (UInt8.lt_iff_toNat_lt.1 ascii) (Nat.not_lt.2 hlong)
  · rintro rfl
    rw [takeChar_of_ascii ascii, Option.getD_some]

/-- What is behind the first character or fault stands at the end of the bytes. -/
theorem takeChar_suffix (b : UInt8) (bs : List UInt8) : (takeChar b bs).2 <:+ bs := by
  have following (low high : UInt8) (n acc : Nat) (bs : List UInt8) :
      (takeFollowing low high n acc bs).2 <:+ bs := by
    induction n generalizing low high acc bs with
    | zero => exact List.suffix_rfl
    | succ n ih =>
      cases bs with
      | nil => exact List.suffix_rfl
      | cons b bs =>
        rw [takeFollowing]
        split
        · exact (ih ..).trans (List.suffix_cons b bs)
        · exact List.suffix_rfl
  rw [takeChar]
  split
  · exact List.suffix_rfl
  · split
    · exact List.suffix_rfl
    · exact following ..

/-- An ASCII character is read exactly where its byte stands. -/
theorem mem_decodeLossy_iff {x : UInt8} (ascii : x < 0x80) {bs : List UInt8} :
    Char.ofNat x.toNat ∈ decodeLossy bs ↔ x ∈ bs := by
  constructor
  · induction bs using lossy_induction with
    | nil => simp
    | cons b bs ih =>
      intro h
      rw [decodeLossy_cons, List.mem_cons, eq_comm, getD_takeChar_eq_iff ascii] at h
      rcases h with rfl | h
      · exact List.mem_cons_self
      · exact List.mem_cons_of_mem b ((takeChar_suffix b bs).mem (ih h))
  · intro h
    obtain ⟨front, rest, rfl⟩ := List.append_of_mem h
    rw [decodeLossy_append_cons ascii]
    exact List.mem_append_right _ List.mem_cons_self

/-- An ASCII character is read last exactly if its byte is the last. -/
theorem getLast?_decodeLossy_iff {x : UInt8} (ascii : x < 0x80) {bs : List UInt8} :
    (decodeLossy bs).getLast? = some (Char.ofNat x.toNat) ↔ bs.getLast? = some x := by
  constructor
  · induction bs using lossy_induction with
    | nil => simp
    | cons b bs ih =>
      intro h
      rw [decodeLossy_cons] at h
      obtain ⟨front, parts⟩ := takeChar_suffix b bs
      cases hrest : (takeChar b bs).2 with
      | nil =>
        rw [hrest, decodeLossy_nil, List.getLast?_singleton, Option.some_inj,
          getD_takeChar_eq_iff ascii] at h
        subst h
        rw [takeChar_of_ascii ascii] at hrest
        obtain rfl : bs = [] := hrest
        rfl
      | cons c cs =>
        have hne : (takeChar b bs).2 ≠ [] := by simp [hrest]
        have hne' : decodeLossy (takeChar b bs).2 ≠ [] := by simp [hrest, decodeLossy_cons]
        rw [← List.singleton_append, List.getLast?_append_of_ne_nil _ hne'] at h
        rw [← parts, ← List.cons_append, List.getLast?_append_of_ne_nil _ hne]
        exact ih h
  · intro h
    obtain ⟨front, rfl⟩ := List.getLast?_eq_some_iff.1 h
    rw [decodeLossy_append_cons ascii, decodeLossy_nil, List.getLast?_concat]

end InspectionHost.Text.Utf8
