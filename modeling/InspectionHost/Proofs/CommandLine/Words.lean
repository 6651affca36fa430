import InspectionHost.Proofs.CommandLine.Arguments

/-!
# The words of a level

Reading the words of arguments is taking the arguments one after another. Conversely words that are
read to the end of a level are those of arguments, up to a pair of dashes or the name of an action.

## Main definitions

* `Level.IsWritten` : words are those of arguments up to the end of a level.

## Main results

* `Reading.words_arguments` : reading the words of arguments is taking the arguments.
* `Reading.isWritten_of_words` : words that are read are those of arguments.
-/

namespace InspectionHost.CommandLine

namespace Level

/-- Words at which a level ends: none, a pair of dashes, or the name of an action. -/
def Ends (level : Level) : List String → Prop
  | [] => True
  | word :: _ => word = "--" ∨ (level.actions = true ∧ (ActionName.ofWord? word).isSome = true)

/-- Words are those of arguments up to the end of a level. -/
def IsWritten (level : Level) (ws : List String) : Prop :=
  ∃ (as : List Argument) (tail : List String), ws = as.flatMap Argument.words ++ tail ∧
    (level.actions = true → ∀ a ∈ as, a.text? = none) ∧ level.Ends tail

theorem IsWritten.ends {level : Level} {ws : List String} (ends : level.Ends ws) :
    level.IsWritten ws :=
  ⟨[], ws, rfl, nofun, ends⟩

theorem IsWritten.cons {level : Level} {ws : List String} (written : level.IsWritten ws)
    {a : Argument} (options : level.actions = true → a.text? = none) :
    level.IsWritten (a.words ++ ws) := by
  obtain ⟨as, tail, rfl, others, ends⟩ := written
  refine ⟨a :: as, tail, by simp, fun actions => ?_, ends⟩
  exact List.forall_mem_cons.2 ⟨options actions, others actions⟩

end Level

namespace Reading

variable {level : Level} {r : Reading}

/-! ### Reading the words of arguments -/

theorem not_action_of_dash {word : String} (dash : word.toList.head? = some '-') :
    word ≠ helpWord ∧ ActionName.ofWord? word = none := by
  have undashed : ∀ entry ∈ ActionName.written, entry.1.toList.head? ≠ some '-' := by decide
  constructor
  · rintro rfl
    exact absurd dash (by decide)
  · refine List.lookup_eq_none_iff.2 fun entry there => ?_
    have different : word ≠ entry.1 := fun same => undashed entry there (same ▸ dash)
    simpa using different

/-- A word that neither ends a level nor names an action is taken. -/
theorem words_cons {word : String} (mark : word ≠ "--")
    (unnamed : level.actions = true → r.awaiting = false →
      word ≠ helpWord ∧ ActionName.ofWord? word = none) (rest : List String) :
    Reading.words level r (word :: rest) =
      (r.takeWord level word).bind (Reading.words level · rest) := by
  have from_ : words.wordsFrom level r word rest =
      (r.takeWord level word).bind (Reading.words level · rest) := by
    rw [words.wordsFrom, if_neg (by simpa using mark)]
    rfl
  rw [words]
  split
  · next actions =>
    simp only [Bool.and_eq_true, Bool.not_eq_true'] at actions
    obtain ⟨noHelp, noAction⟩ := unnamed actions.1 actions.2
    rw [if_neg (by simpa using noHelp), noAction]
    exact from_
  · exact from_

/-- A value that is awaited is the next word, unless that looks like an option. -/
theorem words_cons_of_awaiting {v : Valued} (waits : r.pending = some (v, none)) (value : PlainWord)
    (rest : List String) : Reading.words level r (value.word :: rest) =
      Reading.words level { r with pending := some (v, some value.word) } rest := by
  have awaiting : r.awaiting = true := by rw [Reading.awaiting, waits]
  have mark : value.word ≠ "--" := fun same => absurd (same ▸ value.plain) (by decide)
  rw [words_cons mark (fun _ ready => by simp [awaiting] at ready), takeWord_of_plain value.plain,
    waits]
  rfl

/-- Reading the words of an argument is taking the argument. -/
theorem words_argument (regular : level.Regular) (ready : r.awaiting = false) {a : Argument}
    (options : level.actions = true → a.text? = none) (rest : List String) :
    Reading.words level r (a.words ++ rest) =
      (r.take level a).bind (Reading.words level · rest) := by
  have dashed {word : String} (dash : word.toList.head? = some '-') (mark : word ≠ "--")
      (rest : List String) : Reading.words level r (word :: rest) =
        (r.takeWord level word).bind (Reading.words level · rest) :=
    words_cons mark (fun _ _ => not_action_of_dash dash) rest
  rcases a with (s | _ | ⟨v, value⟩ | ⟨v, value⟩) | t
  · change Reading.words level r (("--" ++ s.name) :: rest) = _
    rw [dashed (by simp) (by cases s <;> decide), takeWord_long regular]
    rfl
  · change Reading.words level r ("-v" :: rest) = _
    rw [dashed (by decide) (by decide), takeWord_letter regular]
    rfl
  · change Reading.words level r (("--" ++ v.name ++ "=" ++ value) :: rest) = _
    have mark : "--" ++ v.name ++ "=" ++ value ≠ "--" := fun same => by
      simpa using congrArg String.toList same
    rw [dashed (by simp) mark, takeWord_attached regular]
    rfl
  · change Reading.words level r (("--" ++ v.name) :: value.word :: rest) = _
    rw [dashed (by simp) (by cases v <;> decide), takeWord_apart regular]
    cases settled : r.settle with
    | error e => simp [take, settled, Except.map, Except.bind]
    | ok q =>
      simp only [take, settled, Except.map, Except.bind]
      exact words_cons_of_awaiting rfl value rest
  · change Reading.words level r (t.word :: rest) = _
    have mark : t.word ≠ "--" := fun same => absurd (same ▸ t.plain) (by decide)
    have noActions : level.actions = true → r.awaiting = false →
        t.word ≠ helpWord ∧ ActionName.ofWord? t.word = none :=
      fun actions _ => (Option.some_ne_none _ (options actions)).elim
    rw [words_cons mark noActions, takeWord_of_plain t.plain]
    rcases waits : r.pending with _ | ⟨v, _ | value⟩
    · rfl
    · simp [awaiting, waits] at ready
    · rfl

/-- **Reading the words of arguments** is taking the arguments one after another. -/
theorem words_arguments (regular : level.Regular) {as : List Argument}
    (options : level.actions = true → ∀ a ∈ as, a.text? = none) (ready : r.awaiting = false)
    (rest : List String) : Reading.words level r (as.flatMap Argument.words ++ rest) =
      (as.foldlM (Reading.take level) r).bind (Reading.words level · rest) := by
  induction as generalizing r with
  | nil => rfl
  | cons a as ih =>
    rw [List.flatMap_cons, List.append_assoc, words_argument regular ready
      (fun actions => options actions a List.mem_cons_self), List.foldlM_cons]
    cases taken : r.take level a with
    | error e => rfl
    | ok r' =>
      exact ih (fun actions b there => options actions b (List.mem_cons_of_mem _ there))
        (awaiting_of_take taken)

/-! ### Words that are read -/

/-- An option in one of its meanings is taken only if the reading settles, and none that asks to be
told something is. -/
theorem exists_settled_of_takeOption {attached : Option String} {meaning : Meaning} {r' : Reading}
    (taken : r.takeOption attached meaning = .ok r') : ∃ q, r.settle = .ok q ∧
      ((∃ s, meaning = .switch s ∧ attached = none ∧ q.takeSwitch s = .ok r') ∨
        (∃ v value, meaning = .valued v ∧ attached = some value ∧ q.takeValue v value = .ok r') ∨
        ∃ v, meaning = .valued v ∧ attached = none ∧
          r' = { q with pending := some (v, none) }) := by
  rcases meaning with s | v | _ | _ <;> rcases attached with _ | value
  · obtain ⟨q, settled, on⟩ := bind_eq_ok_iff.1 taken
    have same : q.settle = .ok q := settle_of_pending (pending_of_settle settled)
    exact ⟨q, settled, .inl ⟨s, rfl, rfl, bind_eq_ok_iff.2 ⟨q, same, on⟩⟩⟩
  · cases taken
  · obtain ⟨q, settled, waits⟩ := bind_eq_ok_iff.1 taken
    exact ⟨q, settled, .inr (.inr ⟨v, rfl, rfl, (Except.ok.inj waits).symm⟩)⟩
  · obtain ⟨q, settled, valued⟩ := bind_eq_ok_iff.1 taken
    exact ⟨q, settled, .inr (.inl ⟨v, value, rfl, rfl, valued⟩)⟩
  · obtain ⟨q, -, told⟩ := bind_eq_ok_iff.1 taken
    cases told
  · cases taken
  · obtain ⟨q, -, told⟩ := bind_eq_ok_iff.1 taken
    cases told
  · cases taken

/-- A letter that is taken is the one for all log records, and is taken as such. -/
theorem letter_of_takeShorts (regular : level.Regular) {c : Char} {cs : List Char} {r' : Reading}
    (taken : r.takeShorts level (c :: cs) = .ok r') : c = 'v' ∧ ∃ q q', r.settle = .ok q ∧
      q.takeSwitch .verbose = .ok q' ∧ q'.takeShorts level cs = .ok r' := by
  cases found : level.shorts.lookup c with
  | none => simp [takeShorts, found] at taken
  | some meaning =>
    simp only [takeShorts, found] at taken
    obtain ⟨q', option, rest⟩ := bind_eq_ok_iff.1 taken
    obtain ⟨q, settled, as⟩ := exists_settled_of_takeOption option
    rcases regular.eq_of_letter found with ⟨rfl, rfl⟩ | rfl | rfl
    · exact ⟨rfl, q, q', settled, by simpa using as, rest⟩
    all_goals simp at as

/-- Of the letters only the one for all log records is taken, and only once. -/
theorem eq_of_takeShorts (regular : level.Regular) {c : Char} {cs : List Char} {r' : Reading}
    (taken : r.takeShorts level (c :: cs) = .ok r') : c = 'v' ∧ cs = [] := by
  obtain ⟨rfl, q, q', settled, on, rest⟩ := letter_of_takeShorts regular taken
  refine ⟨rfl, ?_⟩
  cases cs with
  | nil => rfl
  | cons c' cs =>
    obtain ⟨-, p, p', settled', again, -⟩ := letter_of_takeShorts regular rest
    have idle : q.pending = none := pending_of_settle settled
    obtain ⟨-, rfl⟩ := (takeSwitch_eq_ok (settle_of_pending idle)).1 on
    have same : settle { q with switches := q.switches ++ [.verbose] } = _ := settle_of_pending idle
    obtain rfl := Except.ok.inj (same.symm.trans settled')
    have fresh := ((takeSwitch_eq_ok same).1 again).1
    simp at fresh

theorem exists_of_not_plain {word : String} (option : isPlain word = false) :
    ∃ c cs, word.toList = '-' :: c :: cs := by
  unfold isPlain at option
  split at option
  · next c cs chars => exact ⟨c, cs, chars⟩
  · cases option

theorem eq_of_takeWord_of_dash (regular : level.Regular) {word : String} {c : Char}
    {cs : List Char} (chars : word.toList = '-' :: c :: cs) (letter : c ≠ '-') {r' : Reading}
    (taken : r.takeWord level word = .ok r') : word = "-v" := by
  rw [takeWord_of_dash chars letter] at taken
  obtain ⟨rfl, rfl⟩ := eq_of_takeShorts regular taken
  exact String.toList_injective (by simp [chars])

/-- A word with two dashes in front that is taken is an option by its name, which has no value, or
has it attached, or awaits it. -/
theorem exists_option_of_takeWord_of_dashes (regular : level.Regular) {word : String}
    {cs : List Char} (chars : word.toList = '-' :: '-' :: cs) {r' : Reading}
    (taken : r.takeWord level word = .ok r') :
    (∃ o : WrittenOption, o.words = [word]) ∨
      ∃ v : Valued, word = "--" ++ v.name ∧ r'.pending = some (v, none) := by
  have parts := eq_of_splitLong cs
  rcases split : splitLong cs with ⟨name, attached⟩
  rw [split] at parts
  rw [takeWord_of_dashes chars split] at taken
  cases found : level.longs.lookup name with
  | none => simp [found] at taken
  | some meaning =>
    simp only [found] at taken
    obtain rfl : name = meaning.name := regular.eq_of_lookup found
    obtain ⟨q, -, ⟨s, rfl, rfl, -⟩ | ⟨v, value, rfl, rfl, -⟩ | ⟨v, rfl, rfl, rfl⟩⟩ :=
      exists_settled_of_takeOption taken
    · have written : word = "--" ++ s.name :=
        String.toList_injective (by simp [chars, parts, Meaning.name])
      exact .inl ⟨.long s, by rw [written]; rfl⟩
    · have written : word = "--" ++ v.name ++ "=" ++ value :=
        String.toList_injective (by simp [chars, parts, Meaning.name])
      exact .inl ⟨.attached v value, by rw [written]; rfl⟩
    · exact .inr ⟨v, String.toList_injective (by simp [chars, parts, Meaning.name]), rfl⟩

/-- A word that is taken is an argument, or an option whose value is awaited. -/
theorem exists_argument_of_takeWord (regular : level.Regular) (ready : r.awaiting = false)
    {word : String} {r' : Reading} (taken : r.takeWord level word = .ok r') :
    (∃ a : Argument, a.words = [word] ∧ (level.actions = true → a.text? = none)) ∨
      ∃ v : Valued, word = "--" ++ v.name ∧ r'.pending = some (v, none) := by
  cases plain : isPlain word with
  | true =>
    have text : r.takeText level false word = .ok r' := by
      rw [takeWord_of_plain plain] at taken
      split at taken
      · next waits => simp [awaiting, waits] at ready
      · exact taken
    refine .inl ⟨.text ⟨word, plain⟩, rfl, fun actions => ?_⟩
    have room : r.texts.length < level.texts := (exists_settled_of_takeText text).1
    simp [regular.texts actions] at room
  | false =>
    obtain ⟨c, cs, chars⟩ := exists_of_not_plain plain
    by_cases long : c = '-'
    · subst long
      rcases exists_option_of_takeWord_of_dashes regular chars taken with ⟨o, written⟩ | waits
      · exact .inl ⟨.option o, written, fun _ => rfl⟩
      · exact .inr waits
    · obtain rfl := eq_of_takeWord_of_dash regular chars long taken
      exact .inl ⟨.option .letter, rfl, fun _ => rfl⟩

/-- A word does not look like an option if it is the value that is awaited. -/
theorem plain_of_takeWord (regular : level.Regular) {v : Valued}
    (waits : r.pending = some (v, none)) {word : String} {r' : Reading}
    (taken : r.takeWord level word = .ok r') : isPlain word = true := by
  cases plain : isPlain word with
  | true => rfl
  | false =>
    obtain ⟨c, cs, chars⟩ := exists_of_not_plain plain
    by_cases long : c = '-'
    · subst long
      rw [takeWord_of_dashes chars rfl] at taken
      split at taken
      · cases taken
      · obtain ⟨q, settled, -⟩ := exists_settled_of_takeOption taken
        exact (settle_ne_ok_of_pending waits q settled).elim
    · rw [takeWord_of_dash chars long] at taken
      obtain ⟨-, q, -, settled, -⟩ := letter_of_takeShorts regular taken
      exact (settle_ne_ok_of_pending waits q settled).elim

theorem exists_settled_of_takeTexts {texts : List String} {r' q : Reading}
    (taken : r.takeTexts level texts = .ok r') (settled : r'.settle = .ok q) :
    ∃ q, r.settle = .ok q := by
  cases texts with
  | nil => exact ⟨q, Except.ok.inj taken ▸ settled⟩
  | cons text texts =>
    obtain ⟨p, first, -⟩ := bind_eq_ok_iff.1 taken
    exact (exists_settled_of_takeText first).2

/-- The first of the words that are read names an action, is a pair of dashes with texts behind it,
or is taken. -/
theorem words_cons_cases {word : String} {rest : List String} {r' : Reading}
    {x : Option (ActionName × List String)}
    (read : Reading.words level r (word :: rest) = .ok (r', x)) :
    (r.awaiting = false ∧ level.actions = true ∧ (ActionName.ofWord? word).isSome = true) ∨
      (word = "--" ∧ r.takeTexts level rest = .ok r') ∨
      ∃ r₁, r.takeWord level word = .ok r₁ ∧ Reading.words level r₁ rest = .ok (r', x) := by
  have goesOn (read : words.wordsFrom level r word rest = .ok (r', x)) :
      (word = "--" ∧ r.takeTexts level rest = .ok r') ∨
        ∃ r₁, r.takeWord level word = .ok r₁ ∧ Reading.words level r₁ rest = .ok (r', x) := by
    rw [words.wordsFrom] at read
    split at read
    · next mark =>
      obtain ⟨q, texts, same⟩ := map_eq_ok_iff.1 read
      obtain ⟨rfl, -⟩ := Prod.mk.inj same
      exact .inl ⟨by simpa using mark, texts⟩
    · exact .inr (bind_eq_ok_iff.1 read)
  rw [Reading.words] at read
  split at read
  · next actions =>
    split at read
    · cases read
    · split at read
      · next name named =>
        obtain ⟨actions, ready⟩ := Bool.and_eq_true_iff.1 actions
        exact .inl ⟨by simpa using ready, actions, by rw [named]; rfl⟩
      · exact .inr (goesOn read)
  · exact .inr (goesOn read)

/-- **Words that are read** up to the end of a level are those of arguments. -/
theorem isWritten_of_words (regular : level.Regular) {ws : List String} (ready : r.awaiting = false)
    {r' q : Reading} {x : Option (ActionName × List String)}
    (read : Reading.words level r ws = .ok (r', x)) (settled : r'.settle = .ok q) :
    level.IsWritten ws := by
  induction n : ws.length using Nat.strongRecOn generalizing ws r with
  | ind n ih =>
    subst n
    -- Words with an argument in front are read as the argument and the words behind it.
    have cons {a : Argument} {rest : List String}
        (options : level.actions = true → a.text? = none) (whole : ws = a.words ++ rest) :
        level.IsWritten ws := by
      rw [whole, words_argument regular ready options] at read
      obtain ⟨r₁, taken, onward⟩ := bind_eq_ok_iff.1 read
      have shorter : rest.length < ws.length := by
        have := a.length_words_pos
        rw [whole, List.length_append]
        omega
      rw [whole]
      exact (ih _ shorter (awaiting_of_take taken) onward rfl).cons options
    cases ws with
    | nil => exact .ends trivial
    | cons word rest =>
      rcases words_cons_cases read with ⟨-, named⟩ | ⟨mark, -⟩ | ⟨r₁, taken, onward⟩
      · exact .ends (.inr named)
      · exact .ends (.inl mark)
      rcases exists_argument_of_takeWord regular ready taken with
        ⟨a, written, options⟩ | ⟨v, rfl, waits⟩
      · exact cons options (by rw [written]; rfl)
      cases rest with
      | nil =>
        rw [Reading.words] at onward
        obtain ⟨rfl, -⟩ := Prod.mk.inj (Except.ok.inj onward)
        exact (settle_ne_ok_of_pending waits q settled).elim
      | cons value rest =>
        rcases words_cons_cases onward with ⟨awaited, -⟩ | ⟨-, texts⟩ | ⟨r₂, taken, -⟩
        · simp [awaiting, waits] at awaited
        · obtain ⟨q', settled'⟩ := exists_settled_of_takeTexts texts settled
          exact (settle_ne_ok_of_pending waits q' settled').elim
        · have plain : isPlain value = true := plain_of_takeWord regular waits taken
          exact cons (a := .option (.apart v ⟨value, plain⟩)) (fun _ => rfl) rfl

end Reading

end InspectionHost.CommandLine
