import InspectionHost.CommandLine.Reading
import InspectionHost.Proofs.Text.Table

/-!
# The arguments of a level

The words of a level stand for arguments. An option without a value is one word, and so is an
option with its value attached; an option whose value stands apart is two words, and a text is one.
A text and a value that stands apart do not look like options. An argument is taken as a whole, once
the value that waits is taken.

## Main definitions

* `PlainWord` : a word that does not look like an option.
* `WrittenOption`, `Argument` : arguments as they are written, with their words.
* `Level.Regular` : the level has the usual names for its options.
* `Reading.take` : take one argument.

## Main results

* `Reading.take_of_settled` : an argument is taken by what is settled.
* `Reading.take_eq_ok` : what an argument adds.
-/

namespace InspectionHost.CommandLine

theorem bind_eq_ok_iff {ε α β : Type} {x : Except ε α} {f : α → Except ε β} {b : β} :
    (x >>= f) = .ok b ↔ ∃ a, x = .ok a ∧ f a = .ok b := by
  cases x <;> simp [bind, Except.bind]

theorem map_eq_ok_iff {ε α β : Type} {x : Except ε α} {f : α → β} {b : β} :
    x.map f = .ok b ↔ ∃ a, x = .ok a ∧ f a = b := by
  cases x <;> simp [Except.map]

/-! ### Arguments as they are written -/

/-- The name of an option without a value, behind its dashes. -/
def Switch.name : Switch → String
  | verbose => "verbose"
  | jsonOutput => "json-output"
  | json => "json"
  | noServer => "no-server"

/-- The name of an option with a value, behind its dashes. -/
def Valued.name : Valued → String
  | config => "config"
  | client => "client"
  | server => "server"
  | timeout => "timeout"

/-- Whether a word does not look like an option: it does not begin with a dash, or is no more. -/
def isPlain (word : String) : Bool :=
  match word.toList with
  | '-' :: _ :: _ => false
  | _ => true

/-- A word that does not look like an option. -/
structure PlainWord where
  word : String
  plain : isPlain word = true
  deriving DecidableEq

/-- An option as it is written. -/
inductive WrittenOption where
  /-- An option without a value, by its name. -/
  | long (s : Switch)
  /-- The option for all log records, by its letter. -/
  | letter
  /-- An option with its value behind an equals sign. -/
  | attached (v : Valued) (value : String)
  /-- An option with its value as the next word. -/
  | apart (v : Valued) (value : PlainWord)
  deriving DecidableEq

namespace WrittenOption

/-- The words of an option. -/
def words : WrittenOption → List String
  | long s => ["--" ++ s.name]
  | letter => ["-v"]
  | attached v value => ["--" ++ v.name ++ "=" ++ value]
  | apart v value => ["--" ++ v.name, value.word]

/-- The option, if it has no value. -/
def switch? : WrittenOption → Option Switch
  | long s => some s
  | letter => some .verbose
  | _ => none

/-- The option with its value, if it has one. -/
def value? : WrittenOption → Option (Valued × String)
  | attached v value => some (v, value)
  | apart v value => some (v, value.word)
  | _ => none

end WrittenOption

/-- An argument of a level. -/
inductive Argument where
  | option (o : WrittenOption)
  | text (t : PlainWord)
  deriving DecidableEq

namespace Argument

/-- The words of an argument. -/
def words : Argument → List String
  | option o => o.words
  | text t => [t.word]

/-- The argument, if it is an option. -/
def option? : Argument → Option WrittenOption
  | option o => some o
  | text _ => none

/-- The argument, if it is a text. -/
def text? : Argument → Option String
  | option _ => none
  | text t => some t.word

theorem length_words_pos (a : Argument) : 0 < a.words.length := by
  rcases a with (_ | _ | _ | _) | _ <;> exact Nat.zero_lt_succ _

end Argument

/-! ### Levels with the usual names -/

namespace Meaning

/-- The name of an option behind two dashes. -/
def name : Meaning → String
  | switch s => s.name
  | valued v => v.name
  | help => "help"
  | version => "version"

/-- The letter of an option behind one dash, if it has one. -/
def letter? : Meaning → Option Char
  | switch .verbose => some 'v'
  | help => some 'h'
  | version => some 'V'
  | _ => none

theorem name_injective : Function.Injective name := by
  intro m m' same
  rcases m with s | v | _ | _ <;> rcases m' with s' | v' | _ | _ <;>
    (try cases s) <;> (try cases v) <;> (try cases s') <;> (try cases v') <;>
    first | rfl | exact absurd same (by decide)

end Meaning

namespace Level

/-- An option without a value belongs to a level. -/
def Knows (level : Level) (s : Switch) : Prop :=
  level.longs.lookup s.name = some (.switch s)

instance (level : Level) (s : Switch) : Decidable (level.Knows s) :=
  inferInstanceAs (Decidable (_ = _))

/-- A level gives options their names and letters, and takes all options with values and the one
for all log records. Where the name of an action belongs there are no texts. -/
structure Regular (level : Level) : Prop where
  named : ∀ entry ∈ level.longs, entry.1 = entry.2.name
  lettered : ∀ entry ∈ level.shorts, some entry.1 = entry.2.letter?
  valued : ∀ v : Valued, level.longs.lookup v.name = some (.valued v)
  verbose : level.shorts.lookup 'v' = some (.switch .verbose)
  texts : level.actions = true → level.texts = 0

theorem regular_top : top.Regular where
  named := by decide
  lettered := by decide
  valued v := by cases v <;> rfl
  verbose := rfl
  texts _ := rfl

theorem regular_ofAction (name : ActionName) : (ofAction name).Regular where
  named := by cases name <;> decide
  lettered := by cases name <;> decide
  valued v := by cases name <;> cases v <;> rfl
  verbose := by cases name <;> rfl
  texts actions := by cases name <;> cases actions

end Level

namespace Level.Regular

variable {level : Level} (regular : level.Regular)
include regular

theorem eq_of_lookup {name : String} {meaning : Meaning}
    (found : level.longs.lookup name = some meaning) : name = meaning.name :=
  regular.named _ (mem_of_lookup found)

/-- Only the option for all log records has a letter and no value. -/
theorem eq_of_letter {c : Char} {meaning : Meaning}
    (found : level.shorts.lookup c = some meaning) :
    (c = 'v' ∧ meaning = .switch .verbose) ∨ meaning = .help ∨ meaning = .version := by
  have lettered : some c = meaning.letter? := regular.lettered _ (mem_of_lookup found)
  rcases meaning with (_ | _ | _ | _) | v | _ | _ <;> simp_all [Meaning.letter?]

theorem lookup_eq_none {s : Switch} (unknown : ¬ level.Knows s) :
    level.longs.lookup s.name = none := by
  cases found : level.longs.lookup s.name with
  | none => rfl
  | some meaning =>
    have same : meaning = .switch s :=
      Meaning.name_injective (regular.eq_of_lookup found).symm
    exact (unknown (found.trans (congrArg some same))).elim

end Level.Regular

/-! ### Words as they are read -/

theorem splitLong_append {name : List Char} (single : '=' ∉ name) (value : List Char) :
    Reading.splitLong (name ++ '=' :: value) =
      (String.ofList name, some (String.ofList value)) := by
  have body : (name ++ '=' :: value).takeWhile (· != '=') = name := by
    rw [takeWhile_append_of_notMem single]
    simp
  simp [Reading.splitLong, body]

theorem splitLong_of_notMem {name : List Char} (single : '=' ∉ name) :
    Reading.splitLong name = (String.ofList name, none) := by
  have body : name.takeWhile (· != '=') = name := by
    simpa using takeWhile_append_of_notMem single []
  simp [Reading.splitLong, body]

/-- A long option is its name, or its name and its value around an equals sign. -/
theorem eq_of_splitLong (cs : List Char) :
    match Reading.splitLong cs with
    | (name, none) => cs = name.toList
    | (name, some value) => cs = name.toList ++ '=' :: value.toList := by
  have whole : cs.takeWhile (· != '=') ++ cs.dropWhile (· != '=') = cs :=
    List.takeWhile_append_dropWhile
  have behind : cs.drop (cs.takeWhile (· != '=')).length = cs.dropWhile (· != '=') :=
    calc cs.drop (cs.takeWhile (· != '=')).length
      _ = (cs.takeWhile (· != '=') ++ cs.dropWhile (· != '=')).drop
            (cs.takeWhile (· != '=')).length := by rw [whole]
      _ = cs.dropWhile (· != '=') := List.drop_left
  simp only [Reading.splitLong, behind]
  cases rest : cs.dropWhile (· != '=') with
  | nil => simpa [rest] using whole.symm
  | cons c value =>
    have mark : c = '=' := by
      have := List.head?_dropWhile_not (· != '=') cs
      simpa [rest] using this
    simpa [rest, mark] using whole.symm

namespace Reading

variable {level : Level} {r : Reading}

theorem takeWord_of_plain {word : String} (plain : isPlain word = true) :
    r.takeWord level word = match r.pending with
      | some (v, none) => .ok { r with pending := some (v, some word) }
      | _ => r.takeText level false word := by
  unfold takeWord
  split
  · next chars => simp [isPlain, chars] at plain
  · next chars => simp [isPlain, chars] at plain
  · rfl

theorem takeWord_of_dashes {word : String} {cs : List Char} {name : String}
    {attached : Option String} (chars : word.toList = '-' :: '-' :: cs)
    (parts : splitLong cs = (name, attached)) :
    r.takeWord level word = match level.longs.lookup name with
      | none => .error .unknownArgument
      | some meaning => r.takeOption attached meaning := by
  cases found : level.longs.lookup name <;> simp only [takeWord, chars, parts, found]

theorem takeWord_of_dash {word : String} {c : Char} {cs : List Char}
    (chars : word.toList = '-' :: c :: cs) (letter : c ≠ '-') :
    r.takeWord level word = r.takeShorts level (c :: cs) := by
  unfold takeWord
  split
  · next chars' => exact (letter (List.cons.inj (List.cons.inj (chars.symm.trans chars')).2).1).elim
  · next chars' => rw [(List.cons.inj (chars.symm.trans chars')).2]
  · next other => exact (other c cs chars).elim

theorem takeWord_long (regular : level.Regular) (r : Reading) (s : Switch) :
    r.takeWord level ("--" ++ s.name) =
      if level.Knows s then r.takeSwitch s else .error .unknownArgument := by
  have parts : splitLong s.name.toList = (s.name, none) := by
    rw [splitLong_of_notMem (by cases s <;> decide), String.ofList_toList]
  have chars : ("--" ++ s.name).toList = '-' :: '-' :: s.name.toList := by simp
  rw [takeWord_of_dashes chars parts]
  by_cases known : level.Knows s
  · rw [if_pos known, known]
    rfl
  · rw [if_neg known, regular.lookup_eq_none known]

theorem takeWord_letter (regular : level.Regular) (r : Reading) :
    r.takeWord level "-v" = r.takeSwitch .verbose := by
  change r.takeShorts level ['v'] = _
  simp only [takeShorts, regular.verbose, takeOption]
  exact bind_pure _

theorem takeWord_attached (regular : level.Regular) (r : Reading) (v : Valued) (value : String) :
    r.takeWord level ("--" ++ v.name ++ "=" ++ value) =
      r.settle.bind (·.takeValue v value) := by
  have parts : splitLong (v.name.toList ++ '=' :: value.toList) = (v.name, some value) := by
    rw [splitLong_append (by cases v <;> decide), String.ofList_toList, String.ofList_toList]
  have chars : ("--" ++ v.name ++ "=" ++ value).toList =
      '-' :: '-' :: (v.name.toList ++ '=' :: value.toList) := by simp
  rw [takeWord_of_dashes chars parts, regular.valued v]
  rfl

theorem takeWord_apart (regular : level.Regular) (r : Reading) (v : Valued) :
    r.takeWord level ("--" ++ v.name) =
      r.settle.map ({ · with pending := some (v, none) }) := by
  have parts : splitLong v.name.toList = (v.name, none) := by
    rw [splitLong_of_notMem (by cases v <;> decide), String.ofList_toList]
  have chars : ("--" ++ v.name).toList = '-' :: '-' :: v.name.toList := by simp
  rw [takeWord_of_dashes chars parts, regular.valued v]
  cases settled : r.settle <;> simp [takeOption, settled, bind, Except.bind, Except.map, pure,
    Except.pure]

/-! ### Taking arguments -/

/-- Take one argument. -/
def take (level : Level) (r : Reading) : Argument → Except UsageError Reading
  | .option (.long s) => if level.Knows s then r.takeSwitch s else .error .unknownArgument
  | .option .letter => r.takeSwitch .verbose
  | .option (.attached v value) => r.settle.bind (·.takeValue v value)
  | .option (.apart v value) => r.settle.map ({ · with pending := some (v, some value.word) })
  | .text t => r.takeText level false t.word

theorem takeValue_eq_ok {v : Valued} {value : String} {q : Reading} :
    r.takeValue v value = .ok q ↔ r.value? v = none ∧ checkValue v value = .ok () ∧
      q = { r with values := r.values ++ [(v, value)] } := by
  unfold takeValue
  cases given : r.value? v <;> cases checked : checkValue v value <;>
    simp [Except.map, eq_comm]

theorem takeSwitch_eq_ok {s : Switch} {q : Reading} (settled : r.settle = .ok r) :
    r.takeSwitch s = .ok q ↔ s ∉ r.switches ∧ q = { r with switches := r.switches ++ [s] } := by
  simp only [takeSwitch, settled, bind, Except.bind]
  split <;> simp_all [eq_comm]

theorem takeText_eq_ok {trailing : Bool} {text : String} {q : Reading}
    (settled : r.settle = .ok r) : r.takeText level trailing text = .ok q ↔
      r.texts.length < level.texts ∧ q = { r with texts := r.texts ++ [text] } := by
  by_cases room : r.texts.length < level.texts
  · simp [takeText, room, settled, bind, Except.bind, pure, Except.pure, eq_comm]
  · simp only [takeText, room, if_false, false_and, iff_false]
    split
    · split <;> simp
    · simp

theorem settle_cases {q : Reading} (settled : r.settle = .ok q) :
    (r.pending = none ∧ q = r) ∨ ∃ v value, r.pending = some (v, some value) ∧
      q = { r with pending := none, values := r.values ++ [(v, value)] } := by
  unfold settle at settled
  split at settled
  · next idle => exact .inl ⟨idle, (Except.ok.inj settled).symm⟩
  · cases settled
  · next v value waits => exact .inr ⟨v, value, waits, (takeValue_eq_ok.1 settled).2.2⟩

theorem pending_of_settle {q : Reading} (settled : r.settle = .ok q) : q.pending = none := by
  obtain ⟨idle, rfl⟩ | ⟨v, value, -, rfl⟩ := settle_cases settled
  · exact idle
  · rfl

theorem texts_of_settle {q : Reading} (settled : r.settle = .ok q) : q.texts = r.texts := by
  obtain ⟨-, rfl⟩ | ⟨v, value, -, rfl⟩ := settle_cases settled <;> rfl

theorem settle_of_pending (idle : r.pending = none) : r.settle = .ok r := by
  rw [settle, idle]

theorem settle_ne_ok_of_pending {v : Valued} (waits : r.pending = some (v, none)) (q : Reading) :
    r.settle ≠ .ok q := by
  rw [settle, waits]
  exact nofun

theorem awaiting_of_pending (idle : r.pending = none) : r.awaiting = false := by
  rw [awaiting, idle]

theorem exists_settled_of_takeText {trailing : Bool} {text : String} {r' : Reading}
    (taken : r.takeText level trailing text = .ok r') :
    r.texts.length < level.texts ∧ ∃ q, r.settle = .ok q := by
  unfold takeText at taken
  split at taken
  · next room =>
    obtain ⟨q, settled, -⟩ := bind_eq_ok_iff.1 taken
    exact ⟨room, q, settled⟩
  · split at taken
    · split at taken <;> cases taken
    · cases taken

theorem exists_settled_of_take {a : Argument} {r' : Reading} (taken : r.take level a = .ok r') :
    ∃ q, r.settle = .ok q := by
  rcases a with (s | _ | ⟨v, value⟩ | ⟨v, value⟩) | t
  · rw [take] at taken
    split at taken
    · obtain ⟨q, settled, -⟩ := bind_eq_ok_iff.1 taken
      exact ⟨q, settled⟩
    · cases taken
  · obtain ⟨q, settled, -⟩ := bind_eq_ok_iff.1 taken
    exact ⟨q, settled⟩
  · obtain ⟨q, settled, -⟩ := bind_eq_ok_iff.1 taken
    exact ⟨q, settled⟩
  · obtain ⟨q, settled, -⟩ := map_eq_ok_iff.1 taken
    exact ⟨q, settled⟩
  · exact (exists_settled_of_takeText taken).2

theorem takeText_of_settled {q : Reading} (settled : r.settle = .ok q) (trailing : Bool)
    (text : String) : r.takeText level trailing text = q.takeText level trailing text := by
  have same : q.settle = .ok q := settle_of_pending (pending_of_settle settled)
  simp only [takeText, settled, same, texts_of_settle settled]

/-- An argument is taken by what is settled. -/
theorem take_of_settled {q : Reading} (settled : r.settle = .ok q) (a : Argument) :
    r.take level a = q.take level a := by
  have same : q.settle = .ok q := settle_of_pending (pending_of_settle settled)
  rcases a with (s | _ | ⟨v, value⟩ | ⟨v, value⟩) | t
  · simp only [take, takeSwitch, settled, same]
  · simp only [take, takeSwitch, settled, same]
  · simp only [take, settled, same]
  · simp only [take, settled, same]
  · exact takeText_of_settled settled false t.word

/-- What an argument adds to a reading that is settled. -/
theorem take_eq_ok {q : Reading} (idle : r.pending = none) (a : Argument) :
    r.take level a = .ok q ↔ match a with
      | .option (.long s) =>
        level.Knows s ∧ s ∉ r.switches ∧ q = { r with switches := r.switches ++ [s] }
      | .option .letter =>
        .verbose ∉ r.switches ∧ q = { r with switches := r.switches ++ [.verbose] }
      | .option (.attached v value) => r.value? v = none ∧ checkValue v value = .ok () ∧
        q = { r with values := r.values ++ [(v, value)] }
      | .option (.apart v value) => q = { r with pending := some (v, some value.word) }
      | .text t => r.texts.length < level.texts ∧ q = { r with texts := r.texts ++ [t.word] } := by
  have same : r.settle = .ok r := settle_of_pending idle
  rcases a with (s | _ | ⟨v, value⟩ | ⟨v, value⟩) | t
  · by_cases known : level.Knows s <;> simp [take, known, takeSwitch_eq_ok same]
  · exact takeSwitch_eq_ok same
  · simp only [take, same, Except.bind]
    exact takeValue_eq_ok
  · simp [take, same, Except.map, eq_comm]
  · exact takeText_eq_ok same

theorem awaiting_of_take {a : Argument} {r' : Reading} (taken : r.take level a = .ok r') :
    r'.awaiting = false := by
  obtain ⟨q, settled⟩ := exists_settled_of_take taken
  have idle : q.pending = none := pending_of_settle settled
  have added := (take_eq_ok idle a).1 ((take_of_settled settled a).symm.trans taken)
  rcases a with (s | _ | ⟨v, value⟩ | ⟨v, value⟩) | t
  · obtain ⟨-, -, rfl⟩ := added
    exact awaiting_of_pending idle
  · obtain ⟨-, rfl⟩ := added
    exact awaiting_of_pending idle
  · obtain ⟨-, -, rfl⟩ := added
    exact awaiting_of_pending idle
  · obtain rfl := added
    rfl
  · obtain ⟨-, rfl⟩ := added
    exact awaiting_of_pending idle

end Reading

end InspectionHost.CommandLine
