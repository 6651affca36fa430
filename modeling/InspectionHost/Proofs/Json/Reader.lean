import InspectionHost.Text.Hex

/-!
# Reading JSON

A reader takes something off the front of a text and tells what follows it. Strings are read by the
whole grammar of JSON: any character from U+0020 on but the quote and the backslash stands for
itself, escapes have one letter or four hexadecimal digits, and a pair of escaped surrogates is one
character. Escapes that denote no character are refused. Objects have any number of members, and
blanks may stand in front of every mark and every value.

## Main definitions

* `readChar?`, `readBody?` : one character of a string, and all of them.
* `Reader` : what takes something off the front of a text.
* `Reader.string`, `Reader.object`, `Reader.either` : strings, objects, and one of two things.
* `Reader.whole?` : what a text is, if it is one thing and blanks.

## Main results

* `length_lt_of_readChar?`, `length_lt_of_readBody?`, `length_lt_of_members?` : whatever is read,
  less is left.
-/

namespace InspectionHost.Json

open InspectionHost.Text

/-! ### Strings -/

/-- The character of a one-letter escape. -/
def shortEscape? (c : Char) : Option Char :=
  if c = '"' then some '"'
  else if c = '\\' then some '\\'
  else if c = '/' then some '/'
  else if c = 'b' then some '\x08'
  else if c = 'f' then some '\x0c'
  else if c = 'n' then some '\n'
  else if c = 'r' then some '\r'
  else if c = 't' then some '\t'
  else none

/-- The second half of a pair of surrogates, and what follows it. -/
def lowSurrogate? : List Char → Option (Nat × List Char)
  | '\\' :: 'u' :: a :: b :: c :: d :: rest => do
    let low ← Hex.value? [a, b, c, d]
    if 0xDC00 ≤ low ∧ low ≤ 0xDFFF then some (low, rest) else none
  | _ => none

/-- The character of an escape, from behind its backslash, and what follows it. -/
def readEscape? : List Char → Option (Char × List Char)
  | 'u' :: a :: b :: c :: d :: rest => do
    let n ← Hex.value? [a, b, c, d]
    if n < 0xD800 ∨ 0xDFFF < n then some (Char.ofNat n, rest)
    else if n < 0xDC00 then
      let (low, after) ← lowSurrogate? rest
      some (Char.ofNat (0x10000 + (n - 0xD800) * 0x400 + (low - 0xDC00)), after)
    else none
  | c :: rest => (shortEscape? c).map fun d => (d, rest)
  | [] => none

/-- A character inside a string, and what follows it. -/
def readChar? : List Char → Option (Char × List Char)
  | '\\' :: rest => readEscape? rest
  | c :: rest => if c = '"' ∨ c.toNat < 0x20 then none else some (c, rest)
  | [] => none

theorem length_lt_of_lowSurrogate? {cs rest : List Char} {n : Nat}
    (h : lowSurrogate? cs = some (n, rest)) : rest.length < cs.length := by
  unfold lowSurrogate? at h
  split at h
  · obtain ⟨low, -, h⟩ := Option.bind_eq_some_iff.1 h
    split at h
    · obtain ⟨-, rfl⟩ := Prod.mk.inj (Option.some.inj h)
      simp only [List.length_cons]
      omega
    · cases h
  · cases h

theorem length_lt_of_readEscape? {cs rest : List Char} {c : Char}
    (h : readEscape? cs = some (c, rest)) : rest.length < cs.length := by
  unfold readEscape? at h
  split at h
  · obtain ⟨n, -, h⟩ := Option.bind_eq_some_iff.1 h
    split at h
    · obtain ⟨-, rfl⟩ := Prod.mk.inj (Option.some.inj h)
      simp only [List.length_cons]
      omega
    · split at h
      · obtain ⟨⟨low, after⟩, hlow, h⟩ := Option.bind_eq_some_iff.1 h
        obtain ⟨-, rfl⟩ := Prod.mk.inj (Option.some.inj h)
        have := length_lt_of_lowSurrogate? hlow
        simp only [List.length_cons]
        omega
      · cases h
  · obtain ⟨d, -, h⟩ := Option.map_eq_some_iff.1 h
    obtain ⟨-, rfl⟩ := Prod.mk.inj h
    simp
  · cases h

/-- A character is read of at least one. -/
theorem length_lt_of_readChar? {cs rest : List Char} {c : Char}
    (h : readChar? cs = some (c, rest)) : rest.length < cs.length := by
  unfold readChar? at h
  split at h
  · have := length_lt_of_readEscape? h
    simp only [List.length_cons]
    omega
  · split at h
    · cases h
    · obtain ⟨-, rfl⟩ := Prod.mk.inj (Option.some.inj h)
      simp
  · cases h

/-- A pair of escaped surrogates is one character, and one of them alone is none. -/
example : readChar? "\\ud83d\\uDE00!".toList = some ('😀', ['!']) ∧
    readChar? "\\ud83d!".toList = none := by
  decide

/-- Read a string from behind its opening quote: its text, and what follows the closing quote. -/
def readBody? (cs : List Char) : Option (List Char × List Char) :=
  match cs with
  | '"' :: rest => some ([], rest)
  | cs =>
    match _hchar : readChar? cs with
    | none => none
    | some (c, rest) => (readBody? rest).map fun (text, after) => (c :: text, after)
termination_by cs.length
decreasing_by exact length_lt_of_readChar? _hchar

/-- A string is read of at least its quote. -/
theorem length_lt_of_readBody? {cs text rest : List Char}
    (h : readBody? cs = some (text, rest)) : rest.length < cs.length := by
  fun_induction readBody? cs generalizing text with
  | case1 after =>
    obtain ⟨-, rfl⟩ := Prod.mk.inj (Option.some.inj h)
    simp
  | case2 => cases h
  | case3 cs hquote c after hchar ih =>
    obtain ⟨⟨more, last⟩, hmore, h⟩ := Option.map_eq_some_iff.1 h
    obtain ⟨-, rfl⟩ := Prod.mk.inj h
    have := ih hmore
    have := length_lt_of_readChar? hchar
    omega

/-! ### Marks -/

/-- The blanks that may stand between marks and values. -/
def isSpace (c : Char) : Bool :=
  c == ' ' || c == '\t' || c == '\n' || c == '\r'

/-- What follows a mark, if the text begins with blanks and that mark. -/
def mark? (mark : Char) (cs : List Char) : Option (List Char) :=
  match cs.dropWhile isSpace with
  | c :: rest => if c = mark then some rest else none
  | [] => none

theorem length_lt_of_mark? {mark : Char} {cs rest : List Char} (h : mark? mark cs = some rest) :
    rest.length < cs.length := by
  unfold mark? at h
  split at h
  · next c after hskip =>
    split at h
    · obtain rfl := Option.some.inj h
      have hle := (List.dropWhile_sublist (l := cs) isSpace).length_le
      rw [hskip, List.length_cons] at hle
      omega
    · cases h
  · cases h

/-! ### Readers -/

/-- A reader takes something off the front of a text, and tells what follows it. It always takes at
least one character. -/
structure Reader (α : Type) where
  read? : List Char → Option (α × List Char)
  length_lt : ∀ {cs a rest}, read? cs = some (a, rest) → rest.length < cs.length

namespace Reader

variable {α β : Type}

/-- Strings. -/
def string : Reader String where
  read? cs := do
    let body ← mark? '"' cs
    let (text, rest) ← readBody? body
    return (String.ofList text, rest)
  length_lt h := by
    obtain ⟨body, hmark, h⟩ := Option.bind_eq_some_iff.1 h
    obtain ⟨⟨text, rest⟩, hbody, h⟩ := Option.bind_eq_some_iff.1 h
    obtain ⟨-, rfl⟩ := Prod.mk.inj (Option.some.inj h)
    exact Nat.lt_trans (length_lt_of_readBody? hbody) (length_lt_of_mark? hmark)

/-- One thing, or else another. -/
def either (r : Reader α) (s : Reader β) : Reader (α ⊕ β) where
  read? cs :=
    match r.read? cs with
    | some (a, rest) => some (.inl a, rest)
    | none => (s.read? cs).map fun (b, rest) => (.inr b, rest)
  length_lt h := by
    split at h
    · next hr =>
      obtain ⟨-, rfl⟩ := Prod.mk.inj (Option.some.inj h)
      exact r.length_lt hr
    · obtain ⟨⟨b, rest⟩, hs, h⟩ := Option.map_eq_some_iff.1 h
      obtain ⟨-, rfl⟩ := Prod.mk.inj h
      exact s.length_lt hs

/-- A member of an object: its name and its value. -/
def member (value : Reader α) : Reader (String × α) where
  read? cs := do
    let (name, cs) ← string.read? cs
    let cs ← mark? ':' cs
    let (a, cs) ← value.read? cs
    return ((name, a), cs)
  length_lt h := by
    obtain ⟨⟨name, afterName⟩, hname, h⟩ := Option.bind_eq_some_iff.1 h
    obtain ⟨afterMark, hmark, h⟩ := Option.bind_eq_some_iff.1 h
    obtain ⟨⟨a, afterValue⟩, hvalue, h⟩ := Option.bind_eq_some_iff.1 h
    obtain ⟨-, rfl⟩ := Prod.mk.inj (Option.some.inj h)
    have hbehind := Nat.lt_trans (value.length_lt hvalue) (length_lt_of_mark? hmark)
    exact Nat.lt_trans hbehind (string.length_lt hname)

/-- The members of an object, of which there is one at least, and what follows the object. -/
def members? (value : Reader α) (cs : List Char) :
    Option (List (String × α) × List Char) :=
  match _hm : value.member.read? cs with
  | none => none
  | some (m, behind) =>
    match _hc : mark? ',' behind with
    | some more => (members? value more).map fun (ms, after) => (m :: ms, after)
    | none => (mark? '\x7d' behind).map fun after => ([m], after)
termination_by cs.length
decreasing_by exact Nat.lt_trans (length_lt_of_mark? _hc) (value.member.length_lt _hm)

theorem length_lt_of_members? {value : Reader α} {cs rest : List Char}
    {ms : List (String × α)} (h : members? value cs = some (ms, rest)) :
    rest.length < cs.length := by
  fun_induction members? value cs generalizing ms with
  | case1 => cases h
  | case2 cs m behind hm more hc ih =>
    obtain ⟨⟨ms', after⟩, hmore, h⟩ := Option.map_eq_some_iff.1 h
    obtain ⟨-, rfl⟩ := Prod.mk.inj h
    have hbehind := Nat.lt_trans (length_lt_of_mark? hc) (value.member.length_lt hm)
    exact Nat.lt_trans (ih hmore) hbehind
  | case3 cs m behind hm hc =>
    obtain ⟨after, hend, h⟩ := Option.map_eq_some_iff.1 h
    obtain ⟨-, rfl⟩ := Prod.mk.inj h
    exact Nat.lt_trans (length_lt_of_mark? hend) (value.member.length_lt hm)

/-- Objects with values of one form: their members in order. -/
def object (value : Reader α) : Reader (List (String × α)) where
  read? cs := do
    let cs ← mark? '\x7b' cs
    match mark? '\x7d' cs with
    | some after => return ([], after)
    | none => members? value cs
  length_lt h := by
    obtain ⟨inside, hopen, h⟩ := Option.bind_eq_some_iff.1 h
    have hlt := length_lt_of_mark? hopen
    split at h
    · next after hclose =>
      obtain ⟨-, rfl⟩ := Prod.mk.inj (Option.some.inj h)
      exact Nat.lt_trans (length_lt_of_mark? hclose) hlt
    · exact Nat.lt_trans (length_lt_of_members? h) hlt

/-- What a text is, if nothing but blanks stands in front of it and behind it. -/
def whole? (r : Reader α) (text : String) : Option α :=
  match r.read? text.toList with
  | some (a, rest) => if rest.all isSpace then some a else none
  | none => none

end Reader

end InspectionHost.Json
