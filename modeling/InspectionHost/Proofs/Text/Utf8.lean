import InspectionHost.Text.Utf8
import Mathlib.Tactic.SplitIfs

/-!
# Encoded text is read back

The bytes of a text are well-formed, and strict reading gives the text back. A line feed is one
byte, and no other character has that byte among its own, so a text can be cut at its line feeds
before or after it is encoded.

## Main results

* `takeChar_encodeChar` : the first character of an encoded text is read back.
* `decode?_encode` : an encoded text is read back.
* `lineFeed_notMem_encodeChar`, `count_lineFeed_encode` : only a line feed is encoded with the byte
  of a line feed.
-/

namespace InspectionHost.Text.Utf8

/-! ### Bytes -/

theorem toNat_ofNat {n : Nat} (h : n < 256) : (UInt8.ofNat n).toNat = n := by
  simpa using h

theorem ofNat_lt_iff {n : Nat} (h : n < 256) (b : UInt8) : UInt8.ofNat n < b ↔ n < b.toNat := by
  rw [UInt8.lt_iff_toNat_lt, toNat_ofNat h]

theorem takeFollowing_cons {low high : UInt8} (n acc k : Nat) (bs : List UInt8)
    (above : low.toNat ≤ k % 64 + 0x80) (below : k % 64 + 0x80 ≤ high.toNat) :
    takeFollowing low high (n + 1) acc (UInt8.ofNat (k % 64 + 0x80) :: bs) =
      takeFollowing 0x80 0xBF n (acc * 64 + k % 64) bs := by
  have hk : (UInt8.ofNat (k % 64 + 0x80)).toNat = k % 64 + 0x80 := toNat_ofNat (by omega)
  rw [takeFollowing, if_pos]
  · rw [hk, Nat.add_sub_cancel]
  · rw [UInt8.le_iff_toNat_le, UInt8.le_iff_toNat_le, hk]
    exact ⟨above, below⟩

theorem takeFollowing_cons_of_free (n acc k : Nat) (bs : List UInt8) :
    takeFollowing 0x80 0xBF (n + 1) acc (UInt8.ofNat (k % 64 + 0x80) :: bs) =
      takeFollowing 0x80 0xBF n (acc * 64 + k % 64) bs := by
  have hfree : k % 64 + 0x80 ≤ (0xBF : UInt8).toNat := by
    change _ ≤ 191
    omega
  exact takeFollowing_cons n acc k bs (Nat.le_add_left ..) hfree

theorem lead?_ofNat {n : Nat} (h : n < 256) : lead? (UInt8.ofNat n) =
    if n < 0xC2 then none
    else if n < 0xE0 then some ⟨0x80, 0xBF, 1, n - 0xC0⟩
    else if n < 0xF0 then
      some ⟨if n = 0xE0 then 0xA0 else 0x80, if n = 0xED then 0x9F else 0xBF, 2, n - 0xE0⟩
    else if n < 0xF5 then
      some ⟨if n = 0xF0 then 0x90 else 0x80, if n = 0xF4 then 0x8F else 0xBF, 3, n - 0xF0⟩
    else none := by
  have heq (m : Nat) (hm : m < 256) : UInt8.ofNat n = UInt8.ofNat m ↔ n = m := by
    rw [← UInt8.toNat_inj, toNat_ofNat h, toNat_ofNat hm]
  have hE0 := heq 0xE0 (by decide)
  have hED := heq 0xED (by decide)
  have hF0 := heq 0xF0 (by decide)
  have hF4 := heq 0xF4 (by decide)
  simp only [lead?, ofNat_lt_iff h, toNat_ofNat h]
  simp only [UInt8.reduceOfNat] at hE0 hED hF0 hF4
  simp only [hE0, hED, hF0, hF4]
  rfl

/-! ### Characters -/

theorem takeChar_of_lead {n : Nat} (above : 0x80 ≤ n) (h : n < 256) {l : Lead}
    (announced : lead? (UInt8.ofNat n) = some l) (bs : List UInt8) :
    takeChar (UInt8.ofNat n) bs = takeFollowing l.low l.high l.following l.bits bs := by
  have hlong : ¬ UInt8.ofNat n < 0x80 := by
    rw [ofNat_lt_iff h]
    exact Nat.not_lt.2 above
  rw [takeChar, if_neg hlong, announced]

theorem takeChar_two {v : Nat} (above : 0x7F < v) (below : v ≤ 0x7FF) (bs : List UInt8) :
    takeChar (UInt8.ofNat (v / 64 % 32 + 0xC0)) (UInt8.ofNat (v % 64 + 0x80) :: bs) =
      (some (Char.ofNat v), bs) := by
  have hlead : lead? (UInt8.ofNat (v / 64 % 32 + 0xC0)) = some ⟨0x80, 0xBF, 1, v / 64 % 32⟩ := by
    rw [lead?_ofNat (by omega), if_neg (by omega), if_pos (by omega), Nat.add_sub_cancel]
  have hv : v / 64 % 32 * 64 + v % 64 = v := by omega
  rw [takeChar_of_lead (by omega) (by omega) hlead, takeFollowing_cons_of_free, takeFollowing, hv]

/-- A character of three bytes is read back. Its second byte is bounded behind the first bytes that
begin overlong forms and surrogates. -/
theorem takeChar_three {v : Nat} (above : 0x7FF < v) (below : v ≤ 0xFFFF)
    (valid : v < 0xD800 ∨ 0xDFFF < v) (bs : List UInt8) :
    takeChar (UInt8.ofNat (v / 4096 % 16 + 0xE0))
        (UInt8.ofNat (v / 64 % 64 + 0x80) :: UInt8.ofNat (v % 64 + 0x80) :: bs) =
      (some (Char.ofNat v), bs) := by
  have hlead := lead?_ofNat (n := v / 4096 % 16 + 0xE0) (by omega)
  rw [if_neg (by omega), if_neg (by omega), if_pos (by omega), Nat.add_sub_cancel] at hlead
  have hv : (v / 4096 % 16 * 64 + v / 64 % 64) * 64 + v % 64 = v := by omega
  rw [takeChar_of_lead (by omega) (by omega) hlead, takeFollowing_cons, takeFollowing_cons_of_free,
    takeFollowing, hv]
  · dsimp only
    split
    · change 160 ≤ _
      omega
    · exact Nat.le_add_left ..
  · dsimp only
    split
    · change _ ≤ 159
      omega
    · change _ ≤ 191
      omega

/-- A character of four bytes is read back. Its second byte is bounded behind the first bytes that
begin overlong forms and numbers above U+10FFFF. -/
theorem takeChar_four {v : Nat} (above : 0xFFFF < v) (below : v < 0x110000) (bs : List UInt8) :
    takeChar (UInt8.ofNat (v / 262144 % 8 + 0xF0))
        (UInt8.ofNat (v / 4096 % 64 + 0x80) :: UInt8.ofNat (v / 64 % 64 + 0x80) ::
          UInt8.ofNat (v % 64 + 0x80) :: bs) =
      (some (Char.ofNat v), bs) := by
  have hlead := lead?_ofNat (n := v / 262144 % 8 + 0xF0) (by omega)
  rw [if_neg (by omega), if_neg (by omega), if_neg (by omega), if_pos (by omega),
    Nat.add_sub_cancel] at hlead
  have hv : ((v / 262144 % 8 * 64 + v / 4096 % 64) * 64 + v / 64 % 64) * 64 + v % 64 = v := by omega
  rw [takeChar_of_lead (by omega) (by omega) hlead, takeFollowing_cons, takeFollowing_cons_of_free,
    takeFollowing_cons_of_free, takeFollowing, hv]
  · dsimp only
    split
    · change 144 ≤ _
      omega
    · exact Nat.le_add_left ..
  · dsimp only
    split
    · change _ ≤ 143
      omega
    · change _ ≤ 191
      omega

/-- The first character of an encoded text is read back. -/
theorem takeChar_encodeChar (c : Char) (rest : List UInt8) :
    ∃ b bs, String.utf8EncodeChar c = b :: bs ∧ takeChar b (bs ++ rest) = (some c, rest) := by
  have hc : Char.ofNat c.val.toNat = c := Char.ofNat_toNat c
  have hvalid : c.val.toNat < 0xD800 ∨ 0xDFFF < c.val.toNat ∧ c.val.toNat < 0x110000 := c.valid
  generalize hv : c.val.toNat = v at hc hvalid
  simp only [String.utf8EncodeChar, hv]
  split
  · have hshort : UInt8.ofNat v < 0x80 := by
      rw [ofNat_lt_iff (by omega)]
      change v < 128
      omega
    refine ⟨_, _, rfl, ?_⟩
    rw [takeChar, if_pos hshort, toNat_ofNat (by omega), hc, List.nil_append]
  · split
    · refine ⟨_, _, rfl, ?_⟩
      exact (takeChar_two (by omega) (by omega) rest).trans (by rw [hc])
    · split
      · refine ⟨_, _, rfl, ?_⟩
        exact (takeChar_three (by omega) (by omega) (by omega) rest).trans (by rw [hc])
      · refine ⟨_, _, rfl, ?_⟩
        exact (takeChar_four (by omega) (by omega) rest).trans (by rw [hc])

/-- Only a line feed is encoded with the byte of a line feed. -/
theorem lineFeed_notMem_encodeChar {c : Char} (h : c ≠ '\n') :
    (0x0A : UInt8) ∉ String.utf8EncodeChar c := by
  have hc : c.val.toNat ≠ 10 := fun hval => h (Char.ext (UInt32.toNat_inj.1 hval))
  have hbyte {n : Nat} (hn : n < 256) : (0x0A : UInt8) = UInt8.ofNat n ↔ 10 = n := by
    rw [← UInt8.toNat_inj, toNat_ofNat hn]
    rfl
  generalize hv : c.val.toNat = v at hc
  simp only [String.utf8EncodeChar, hv]
  split_ifs <;>
    simp (disch := omega) only [List.mem_cons, List.not_mem_nil, or_false, hbyte] <;> omega

/-! ### Texts -/

@[simp] theorem encode_nil : encode [] = [] :=
  rfl

@[simp] theorem encode_cons (c : Char) (cs : List Char) :
    encode (c :: cs) = String.utf8EncodeChar c ++ encode cs :=
  rfl

@[simp] theorem encode_append (cs ds : List Char) : encode (cs ++ ds) = encode cs ++ encode ds :=
  List.flatMap_append

theorem encode_flatten (texts : List (List Char)) :
    encode texts.flatten = (texts.map encode).flatten := by
  induction texts with
  | nil => rfl
  | cons text texts ih => simp [ih]

/-- The line feeds of a text are those of its bytes. -/
theorem count_lineFeed_encode (cs : List Char) :
    (encode cs).count 0x0A = cs.count '\n' := by
  induction cs with
  | nil => rfl
  | cons c cs ih =>
    rw [encode_cons, List.count_append, ih, List.count_cons, Nat.add_comm]
    by_cases h : c = '\n'
    · subst h
      rfl
    · rw [List.count_eq_zero.2 (lineFeed_notMem_encodeChar h), if_neg (by simpa using h)]

theorem decodeOnto?_encode (done cs : List Char) :
    decodeOnto? done (encode cs) = some (done.reverse ++ cs) := by
  induction cs generalizing done with
  | nil => simp [decodeOnto?]
  | cons c cs ih =>
    obtain ⟨b, bs, hbytes, htake⟩ := takeChar_encodeChar c (encode cs)
    rw [encode_cons, hbytes, List.cons_append, decodeOnto?, htake]
    simp [ih]

/-- An encoded text is read back. -/
theorem decode?_encode (cs : List Char) : decode? (encode cs) = some cs :=
  decodeOnto?_encode [] cs

end InspectionHost.Text.Utf8
