import InspectionHost.Command
import InspectionHost.Outcome
import InspectionHost.Proofs.Json.Reader
import Mathlib.Data.List.Forall2
import Mathlib.Tactic.SplitIfs

/-!
# What is written in JSON can be read back

Outcomes and commands are written as JSON objects. The readers of `Reader` know nothing of the
writer: they take blanks, members in any number and every escape of JSON. Read by them, each written
form gives back the value that it was written of, so no two values are written alike.

## Main definitions

* `Reader.Reads` : a reader takes a text for a value, whatever follows.
* `Outcome.ofJson?`, `Command.ofJson?` : the outcome and the command that a text denotes, members
  looked up by their names.

## Main results

* `readChar?_escapeChar`, `Reader.reads_string`, `Reader.reads_object` : characters, strings and
  objects are read as they were written.
* `json_lossless` : outcomes and commands are recovered from their written forms, which have no
  control characters.
-/

namespace InspectionHost

namespace Json

open Text

/-! ### Characters and strings -/

theorem readEscape?_padded {n : Nat} (h : n < 0xD800) (rest : List Char) :
    readEscape? ('u' :: (Hex.padded 4 n ++ rest)) = some (Char.ofNat n, rest) := by
  obtain ⟨a, b, c, d, hdigits⟩ : ∃ a b c d, Hex.padded 4 n = [a, b, c, d] := ⟨_, _, _, _, rfl⟩
  have hvalue : Hex.value? [a, b, c, d] = some n :=
    hdigits ▸ Hex.value?_padded (Nat.lt_trans h (by decide))
  simp [hdigits, readEscape?, hvalue, h]

/-- The written form of a character is read as that character. -/
theorem readChar?_escapeChar (c : Char) (rest : List Char) :
    readChar? (escapeChar c ++ rest) = some (c, rest) := by
  unfold escapeChar
  split_ifs with hquote hbackslash hback hfeed hline hreturn htab hcontrol
  · subst hquote; rfl
  · subst hbackslash; rfl
  · subst hback; rfl
  · subst hfeed; rfl
  · subst hline; rfl
  · subst hreturn; rfl
  · subst htab; rfl
  · have hread := readEscape?_padded (Nat.lt_trans hcontrol (by decide)) rest
    rwa [Char.ofNat_toNat] at hread
  · simp [readChar?, hquote, hcontrol]

/-- A string goes on with each character that can be read, since the closing quote is none. -/
theorem readBody?_of_readChar? {cs rest : List Char} {c : Char}
    (h : readChar? cs = some (c, rest)) :
    readBody? cs = (readBody? rest).map fun (text, after) => (c :: text, after) := by
  rw [readBody?.eq_def]
  split
  · next after => simp [readChar?] at h
  · split
    · next hnone => rw [hnone] at h; cases h
    · next hsome =>
      rw [hsome] at h
      obtain ⟨rfl, rfl⟩ := Prod.mk.inj (Option.some.inj h)
      rfl

theorem readBody?_flatMap_escapeChar (cs rest : List Char) :
    readBody? (cs.flatMap escapeChar ++ '"' :: rest) = some (cs, rest) := by
  induction cs with
  | nil => rw [List.flatMap_nil, List.nil_append, readBody?]
  | cons c cs ih =>
    rw [List.flatMap_cons, List.append_assoc, readBody?_of_readChar? (readChar?_escapeChar c _), ih]
    rfl

theorem mark?_cons_self (mark : Char) (h : isSpace mark = false) (rest : List Char) :
    mark? mark (mark :: rest) = some rest := by
  simp [mark?, h]

theorem mark?_cons_of_ne (mark : Char) {c : Char} (h : isSpace c = false) (hne : c ≠ mark)
    (rest : List Char) : mark? mark (c :: rest) = none := by
  simp [mark?, h, hne]

namespace Reader

variable {α β : Type}

/-- A reader takes a text for a value, whatever follows the text. -/
def Reads (r : Reader α) (cs : List Char) (a : α) : Prop :=
  ∀ rest, r.read? (cs ++ rest) = some (a, rest)

theorem reads_string (text : String) : string.Reads (quote text.toList) text := by
  intro rest
  have hopen : mark? '"' (quote text.toList ++ rest) =
      some (text.toList.flatMap escapeChar ++ '"' :: rest) := by
    simp [quote, mark?_cons_self '"' rfl]
  simp [string, hopen, readBody?_flatMap_escapeChar]

theorem string_read?_object (members : List (String × List Char)) (rest : List Char) :
    string.read? (Json.object members ++ rest) = none := by
  simp [string, Json.object, mark?_cons_of_ne '"' (c := '\x7b') rfl (by decide)]

theorem Reads.inl {r : Reader α} {cs : List Char} {a : α} (h : r.Reads cs a) (s : Reader β) :
    (r.either s).Reads cs (.inl a) := by
  intro rest
  simp [either, h rest]

theorem Reads.inr {r : Reader α} {s : Reader β} {cs : List Char} {b : β}
    (hr : ∀ rest, r.read? (cs ++ rest) = none) (h : s.Reads cs b) :
    (r.either s).Reads cs (.inr b) := by
  intro rest
  simp [either, hr rest, h rest]

/-! ### Objects -/

/-- The written form of a member: its name, a colon, its value. -/
def memberText (written : String × List Char) : List Char :=
  quote written.1.toList ++ [':'] ++ written.2

theorem object_eq_memberText (members : List (String × List Char)) :
    Json.object members =
      ['\x7b'] ++ [','].intercalate (members.map memberText) ++ ['\x7d'] := rfl

/-- A member is read with the name and the value that it was written with. -/
def ReadsMember (value : Reader α) (written : String × List Char) (m : String × α) : Prop :=
  written.1 = m.1 ∧ value.Reads written.2 m.2

theorem ReadsMember.reads {value : Reader α} {written : String × List Char} {m : String × α}
    (h : value.ReadsMember written m) : value.member.Reads (memberText written) m := by
  obtain ⟨hname, hvalue⟩ := h
  intro rest
  have hread := reads_string m.1 (':' :: (written.2 ++ rest))
  simp [Reader.member, memberText, hname, hread, mark?_cons_self ':' rfl, hvalue rest]

/-- What a reader of members does behind the first one: go on behind a comma, or end. -/
theorem members?_of_member {value : Reader α} {cs behind : List Char} {m : String × α}
    (h : value.member.read? cs = some (m, behind)) :
    members? value cs =
      match mark? ',' behind with
      | some more => (members? value more).map fun (ms, after) => (m :: ms, after)
      | none => (mark? '\x7d' behind).map fun after => ([m], after) := by
  rw [members?.eq_def]
  split
  · next hnone => rw [hnone] at h; cases h
  · next hsome =>
    rw [hsome] at h
    obtain ⟨rfl, rfl⟩ := Prod.mk.inj (Option.some.inj h)
    split
    · next hmore => rw [hmore]
    · next hend => rw [hend]

/-- Members are read as they were written, up to the end of the object. -/
theorem members?_intercalate {value : Reader α} {first : String × List Char} {m : String × α}
    {others : List (String × List Char)} {ms : List (String × α)}
    (hfirst : value.ReadsMember first m) (hothers : List.Forall₂ value.ReadsMember others ms)
    (rest : List Char) :
    members? value ([','].intercalate ((first :: others).map memberText) ++ '\x7d' :: rest) =
      some (m :: ms, rest) := by
  induction hothers generalizing first m with
  | nil =>
    have hmember := hfirst.reads ('\x7d' :: rest)
    have hcomma : mark? ',' ('\x7d' :: rest) = none := mark?_cons_of_ne _ rfl (by decide) rest
    rw [List.map_singleton, List.intercalate_singleton, members?_of_member hmember, hcomma]
    simp [mark?_cons_self '\x7d' rfl]
  | @cons next m' others ms hnext hlater ih =>
    have hmore := ih hnext
    set later := [','].intercalate ((next :: others).map memberText)
    have hmember := hfirst.reads (',' :: (later ++ '\x7d' :: rest))
    have hcomma := mark?_cons_self ',' rfl (later ++ '\x7d' :: rest)
    have hwritten : [','].intercalate ((first :: next :: others).map memberText) ++ '\x7d' :: rest =
        memberText first ++ ',' :: (later ++ '\x7d' :: rest) := by
      simp [later, List.intercalate_cons_cons]
    rw [hwritten, members?_of_member hmember, hcomma]
    simp [hmore]

theorem exists_intercalate_memberText (first : String × List Char)
    (others : List (String × List Char)) :
    ∃ tail, [','].intercalate ((first :: others).map memberText) = '"' :: tail := by
  cases others with
  | nil => exact ⟨_, List.intercalate_singleton⟩
  | cons next others => exact ⟨_, List.intercalate_cons_cons⟩

/-- Objects are read as they were written: the same names in the same order, each with the value
that its text is read as. -/
theorem reads_object {value : Reader α} {members : List (String × List Char)}
    {ms : List (String × α)} (h : List.Forall₂ value.ReadsMember members ms) :
    (object value).Reads (Json.object members) ms := by
  intro rest
  have hopen : mark? '\x7b' (Json.object members ++ rest) =
      some ([','].intercalate (members.map memberText) ++ '\x7d' :: rest) := by
    simp [object_eq_memberText, mark?_cons_self '\x7b' rfl]
  simp only [object, hopen, Option.bind_eq_bind, Option.bind_some]
  cases h with
  | nil => simp [mark?_cons_self '\x7d' rfl]
  | cons hfirst hothers =>
    have hmembers := members?_intercalate hfirst hothers rest
    obtain ⟨tail, htail⟩ := exists_intercalate_memberText _ _
    rw [htail, List.cons_append] at hmembers ⊢
    rw [mark?_cons_of_ne _ rfl (by decide), hmembers]

theorem Reads.whole? {r : Reader α} {cs : List Char} {a : α} (h : r.Reads cs a) :
    r.whole? (String.ofList cs) = some a := by
  have hread := h []
  rw [List.append_nil] at hread
  simp [Reader.whole?, hread]

end Reader

end Json

open Json

/-! ### Outcomes -/

/-- The kind of failure of a name. -/
def FailureKind.ofName? : String → Option FailureKind
  | "not_found" => some .notFound
  | "launch" => some .launch
  | "io" => some .io
  | "timed_out" => some .timedOut
  | "cancelled" => some .cancelled
  | _ => none

namespace Failure

/-- The failure that named texts tell of. -/
def ofFields? (fields : List (String × String)) : Option Failure := do
  let kind ← FailureKind.ofName? (← fields.lookup "kind")
  let reason ← fields.lookup "reason"
  return ⟨kind, reason⟩

/-- The named texts that a failure is written as, in order. -/
def fields (f : Failure) : List (String × String) :=
  [("kind", f.kind.name), ("reason", f.reason)]

theorem ofFields?_fields (f : Failure) : ofFields? f.fields = some f := by
  obtain ⟨kind, reason⟩ := f
  cases kind <;> rfl

end Failure

namespace Outcome

/-- The form of outcomes: an object whose values are strings, or objects of strings. -/
def reader : Reader (List (String × (String ⊕ List (String × String)))) :=
  .object (.either .string (.object .string))

/-- The outcome of a text in JSON: an object with one member, whose name tells how the call
ended. -/
def ofJson? (json : String) : Option Outcome := do
  match ← reader.whole? json with
  | [("output", .inl text)] => return .output text
  | [("failure", .inr fields)] => return .failure (← Failure.ofFields? fields)
  | _ => none

/-- The member that an outcome is written as: its name, and its text or its fields. -/
def member : Outcome → String × (String ⊕ List (String × String))
  | output text => ("output", .inl text)
  | failure f => ("failure", .inr f.fields)

theorem whole?_json (o : Outcome) : reader.whole? o.json = some [o.member] := by
  cases o with
  | output text =>
    have hmember : (Reader.string.either (.object .string)).ReadsMember
        ("output", quote text.toList) (member (output text)) :=
      ⟨rfl, (Reader.reads_string text).inl _⟩
    exact (Reader.reads_object (.cons hmember .nil)).whole?
  | failure f =>
    have hkind : Reader.string.ReadsMember ("kind", quote f.kind.name.toList)
        ("kind", f.kind.name) := ⟨rfl, Reader.reads_string _⟩
    have hreason : Reader.string.ReadsMember ("reason", quote f.reason.toList)
        ("reason", f.reason) := ⟨rfl, Reader.reads_string _⟩
    have hfields := Reader.reads_object (.cons hkind (.cons hreason .nil))
    have hmember : (Reader.string.either (.object .string)).ReadsMember
        ("failure", Json.object [("kind", quote f.kind.name.toList),
          ("reason", quote f.reason.toList)]) (member (failure f)) :=
      ⟨rfl, hfields.inr (Reader.string_read?_object _)⟩
    exact (Reader.reads_object (.cons hmember .nil)).whole?

theorem ofJson?_json (o : Outcome) : ofJson? o.json = some o := by
  rw [ofJson?, whole?_json]
  cases o with
  | output text => rfl
  | failure f => simp [member, Failure.ofFields?_fields]

end Outcome

/-! ### Commands -/

namespace Command

/-- The command that named texts ask for. -/
def ofFields? (fields : List (String × String)) : Option Command := do
  match ← fields.lookup "command" with
  | "parse" => return .parse (← fields.lookup "pattern")
  | "match" => return .matching (← fields.lookup "pattern") (← fields.lookup "candidate")
  | "explain" => return .explain (← fields.lookup "pattern")
  | _ => none

theorem ofFields?_fields (c : Command) : ofFields? c.fields = some c := by
  cases c <;> rfl

/-- The command of a text in JSON: an object of strings, one of which tells what is asked. -/
def ofJson? (json : String) : Option Command := do
  ofFields? (← (Reader.object .string).whole? json)

theorem ofJson?_json (c : Command) : ofJson? c.json = some c := by
  have hread : (Reader.object .string).whole? c.json = some c.fields := by
    refine (Reader.reads_object (List.forall₂_map_left_iff.2 ?_)).whole?
    exact List.forall₂_same.2 fun m _ => ⟨rfl, Reader.reads_string m.2⟩
  rw [ofJson?, hread]
  exact ofFields?_fields c

end Command

/-! ### Written forms -/

/-- The written forms lose nothing. Read by the grammar of JSON, the written form of an outcome
gives back that outcome, and that of a command that command, whatever characters their texts have.
So no two outcomes are written alike and no two commands: an empty text is told from every failure,
and the two questions about one pattern from each other. No written form has a character below
U+0020. -/
theorem json_lossless :
    (∀ o : Outcome, Outcome.ofJson? o.json = some o) ∧
      (∀ command : Command, Command.ofJson? command.json = some command) ∧
      Function.Injective Outcome.json ∧ Function.Injective Command.json ∧
      (∀ f : Failure, (Outcome.output "").json ≠ (Outcome.failure f).json) ∧
      (∀ pattern : String, (Command.parse pattern).json ≠ (Command.explain pattern).json) ∧
      (∀ o : Outcome, ∀ c ∈ o.json.toList, 0x20 ≤ c.toNat) ∧
      ∀ command : Command, ∀ c ∈ command.json.toList, 0x20 ≤ c.toNat := by
  have houtcomes : Function.Injective Outcome.json := fun o p h => by
    have hread := congrArg Outcome.ofJson? h
    rwa [o.ofJson?_json, p.ofJson?_json, Option.some.injEq] at hread
  have hcommands : Function.Injective Command.json := fun c d h => by
    have hread := congrArg Command.ofJson? h
    rwa [c.ofJson?_json, d.ofJson?_json, Option.some.injEq] at hread
  refine ⟨Outcome.ofJson?_json, Command.ofJson?_json, houtcomes, hcommands, fun f h => ?_,
    fun pattern h => ?_, fun o c => Outcome.ge_space_of_mem_json,
    fun command c => Command.ge_space_of_mem_json⟩
  · cases houtcomes h
  · cases hcommands h

end InspectionHost
