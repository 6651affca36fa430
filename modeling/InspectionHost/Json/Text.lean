import InspectionHost.Text.Hex

/-!
# JSON strings

A string is written between double quotes. Quotes, backslashes and control characters below
U+0020 are escaped, with a short escape where JSON has one; every other character stands for
itself.

## Main definitions

* `escapeChar`, `quote` : the written form of a text.
* `object` : the written form of named values.

## Main results

* `ge_space_of_mem_quote`, `ge_space_of_mem_object` : nothing below U+0020 is written.
-/

namespace InspectionHost.Json

open InspectionHost.Text

/-- One character inside a JSON string. -/
def escapeChar (c : Char) : List Char :=
  if c = '"' then ['\\', '"']
  else if c = '\\' then ['\\', '\\']
  else if c = '\x08' then ['\\', 'b']
  else if c = '\x0c' then ['\\', 'f']
  else if c = '\n' then ['\\', 'n']
  else if c = '\r' then ['\\', 'r']
  else if c = '\t' then ['\\', 't']
  else if c.toNat < 0x20 then ['\\', 'u'] ++ Hex.padded 4 c.toNat
  else [c]

/-- The JSON string of a text. -/
def quote (cs : List Char) : List Char :=
  ['"'] ++ cs.flatMap escapeChar ++ ['"']

/-- A JSON object of named members, written without blanks in the given order. -/
def object (members : List (String × List Char)) : List Char :=
  let written := members.map fun (name, value) => quote name.toList ++ [':'] ++ value
  ['\x7b'] ++ [','].intercalate written ++ ['\x7d']

/-! ### Small facts -/

theorem ge_space_digitChar {d : Nat} (h : d < 16) : 0x20 ≤ (Hex.digitChar d).toNat := by
  have : ∀ d : Fin 16, 0x20 ≤ (Hex.digitChar d).toNat := by decide
  exact this ⟨d, h⟩

theorem ge_space_padded {width n : Nat} {c : Char} (h : c ∈ Hex.padded width n) :
    0x20 ≤ c.toNat := by
  induction width generalizing n with
  | zero => simp [Hex.padded] at h
  | succ width ih =>
    rw [Hex.padded, List.mem_append, List.mem_singleton] at h
    rcases h with h | rfl
    · exact ih h
    · exact ge_space_digitChar (Nat.mod_lt _ (by decide))

/-- No character below U+0020 is written inside a JSON string. -/
theorem ge_space_of_mem_escapeChar {c x : Char} (h : x ∈ escapeChar c) : 0x20 ≤ x.toNat := by
  unfold escapeChar at h
  repeat' split at h
  all_goals first
    | (simp only [List.mem_cons, List.not_mem_nil, or_false] at h
       rcases h with rfl | rfl <;> decide)
    | skip
  · rw [List.mem_append] at h
    rcases h with h | h
    · simp only [List.mem_cons, List.not_mem_nil, or_false] at h
      rcases h with rfl | rfl <;> decide
    · exact ge_space_padded h
  · simp only [List.mem_singleton] at h
    subst h
    omega

/-- Nothing below U+0020 is written in a JSON string. -/
theorem ge_space_of_mem_quote {cs : List Char} {c : Char} (h : c ∈ quote cs) :
    0x20 ≤ c.toNat := by
  simp only [quote, List.mem_append, List.mem_singleton, List.mem_flatMap] at h
  obtain (rfl | ⟨d, -, hd⟩) | rfl := h
  · decide
  · exact ge_space_of_mem_escapeChar hd
  · decide

theorem mem_of_mem_intercalate {α : Type} {a : α} {separator : List α} {parts : List (List α)}
    (h : a ∈ separator.intercalate parts) : a ∈ separator ∨ ∃ part ∈ parts, a ∈ part := by
  induction parts with
  | nil => cases h
  | cons part parts ih =>
    cases parts with
    | nil => exact .inr ⟨part, List.mem_singleton_self part, by simpa using h⟩
    | cons next rest =>
      rw [List.intercalate_cons_cons, List.mem_append, List.mem_append] at h
      obtain (here | between) | later := h
      · exact .inr ⟨part, List.mem_cons_self, here⟩
      · exact .inl between
      · exact (ih later).imp_right fun ⟨p, hp, ha⟩ => ⟨p, List.mem_cons_of_mem _ hp, ha⟩

/-- Nothing below U+0020 is written in a JSON object that has none in its values. -/
theorem ge_space_of_mem_object {members : List (String × List Char)} {c : Char}
    (values : ∀ member ∈ members, ∀ c ∈ member.2, 0x20 ≤ c.toNat) (h : c ∈ object members) :
    0x20 ≤ c.toNat := by
  simp only [object, List.mem_append, List.mem_singleton] at h
  obtain (rfl | inside) | rfl := h
  · decide
  · obtain between | ⟨part, there, hc⟩ := mem_of_mem_intercalate inside
    · obtain rfl := List.mem_singleton.1 between
      decide
    · obtain ⟨⟨name, value⟩, member, rfl⟩ := List.mem_map.1 there
      simp only [List.mem_append, List.mem_singleton] at hc
      obtain (named | rfl) | valued := hc
      · exact ge_space_of_mem_quote named
      · decide
      · exact values _ member c valued
  · decide

end InspectionHost.Json
