import InspectionHost.CommandLine.Invocation
import InspectionHost.Proofs.CommandLine.Words

/-!
# What a level takes

A level takes arguments exactly if they fit: its options are known to it, none stands twice, their
values have the right forms, and there is room for the texts. What it has taken then are the
options and the texts, each in their order. So the words of a level are read exactly if they are
those of arguments that fit, and an argument may stand before or behind any other.

## Main definitions

* `switchesOf`, `valuesOf`, `optionsOf`, `textsOf` : what arguments say.
* `Reading.of` : a reading that has taken options and texts.
* `Level.Fits` : options and texts fit a level.
* `Behind` : what stands behind the name of an action, with its words.

## Main results

* `Reading.settles_iff` : arguments are taken exactly if they fit.
* `Reading.front_iff`, `Reading.behind_iff` : what stands in front of the name of an action, and
  behind it, is read exactly if it fits.
* `Reading.exists_front`, `Reading.exists_behind` : words that are read are of this form.
-/

namespace InspectionHost.CommandLine

/-! ### What arguments say -/

/-- The options that have no values, in their order. -/
def switchesOf (os : List WrittenOption) : List Switch :=
  os.filterMap WrittenOption.switch?

/-- The options that have values, in their order, with the values. -/
def valuesOf (os : List WrittenOption) : List (Valued × String) :=
  os.filterMap WrittenOption.value?

/-- The options among arguments. -/
def optionsOf (as : List Argument) : List WrittenOption :=
  as.filterMap Argument.option?

/-- The texts among arguments. -/
def textsOf (as : List Argument) : List String :=
  as.filterMap Argument.text?

theorem switchesOf_concat (os : List WrittenOption) (o : WrittenOption) :
    switchesOf (os ++ [o]) = switchesOf os ++ o.switch?.toList := by
  cases h : o.switch? <;> simp [switchesOf, h]

theorem valuesOf_concat (os : List WrittenOption) (o : WrittenOption) :
    valuesOf (os ++ [o]) = valuesOf os ++ o.value?.toList := by
  cases h : o.value? <;> simp [valuesOf, h]

/-- One more stands once if it does not stand there yet. -/
theorem nodup_append_toList_iff {α : Type} {as : List α} {a? : Option α} :
    (as ++ a?.toList).Nodup ↔ as.Nodup ∧ ∀ a, a? = some a → a ∉ as := by
  cases a? with
  | none => simp
  | some a =>
    have apart : (∀ b ∈ as, b ≠ a) ↔ a ∉ as :=
      ⟨fun each there => each a there rfl, fun fresh b there same => fresh (same ▸ there)⟩
    simp [List.nodup_append, apart]

/-- A reading that has taken options and texts. -/
def Reading.of (os : List WrittenOption) (ts : List String) : Reading :=
  ⟨switchesOf os, valuesOf os, ts, none⟩

/-- Options and texts fit a level. -/
structure Level.Fits (level : Level) (os : List WrittenOption) (ts : List String) : Prop where
  known : ∀ s, .long s ∈ os → level.Knows s
  switches : (switchesOf os).Nodup
  values : ((valuesOf os).map Prod.fst).Nodup
  checked : ∀ entry ∈ valuesOf os, Reading.checkValue entry.1 entry.2 = .ok ()
  texts : ts.length ≤ level.texts

theorem Switch.forall_iff {P : Switch → Prop} :
    (∀ s, P s) ↔ P .verbose ∧ P .jsonOutput ∧ P .json ∧ P .noServer := by
  refine ⟨fun all => ⟨all _, all _, all _, all _⟩, ?_⟩
  rintro ⟨verbose, jsonOutput, json, noServer⟩ s
  cases s <;> assumption

instance {P : Switch → Prop} [DecidablePred P] : Decidable (∀ s, P s) :=
  decidable_of_iff' _ Switch.forall_iff

namespace Level

variable {level : Level} {os os' : List WrittenOption} {ts ts' : List String}

theorem fits_iff : level.Fits os ts ↔ (∀ s, .long s ∈ os → level.Knows s) ∧
    (switchesOf os).Nodup ∧ ((valuesOf os).map Prod.fst).Nodup ∧
    (∀ entry ∈ valuesOf os, Reading.checkValue entry.1 entry.2 = .ok ()) ∧
    ts.length ≤ level.texts := by
  constructor
  · rintro ⟨known, switches, values, checked, texts⟩
    exact ⟨known, switches, values, checked, texts⟩
  · rintro ⟨known, switches, values, checked, texts⟩
    exact ⟨known, switches, values, checked, texts⟩

instance : Decidable (level.Fits os ts) :=
  decidable_of_iff' _ fits_iff

theorem fits_nil (level : Level) : level.Fits [] [] :=
  ⟨nofun, .nil, .nil, nofun, Nat.zero_le _⟩

theorem Fits.of_append (fits : level.Fits (os ++ os') (ts ++ ts')) : level.Fits os ts := by
  obtain ⟨known, switches, values, checked, texts⟩ := fits
  simp only [switchesOf, valuesOf, List.filterMap_append, List.map_append, List.nodup_append,
    List.mem_append, List.length_append] at known switches values checked texts
  exact ⟨fun s there => known s (.inl there), switches.1, values.1,
    fun entry there => checked entry (.inl there), by omega⟩

theorem Fits.of_append_texts (fits : level.Fits os (ts ++ ts')) : level.Fits os ts :=
  of_append (List.append_nil os |>.symm ▸ fits)

/-- One more option fits if it is known, does not stand there yet, and has a value of the right
form. -/
theorem fits_concat_iff {o : WrittenOption} : level.Fits (os ++ [o]) ts ↔ level.Fits os ts ∧
    (∀ s, o = .long s → level.Knows s) ∧ (∀ s, o.switch? = some s → s ∉ switchesOf os) ∧
    ∀ v value, o.value? = some (v, value) →
      (Reading.of os ts).value? v = none ∧ Reading.checkValue v value = .ok () := by
  have absent (v : Valued) : (Reading.of os ts).value? v = none ↔
      v ∉ (valuesOf os).map Prod.fst := by
    simp only [Reading.of, Reading.value?, List.lookup_eq_none_iff, bne_iff_ne, List.mem_map,
      not_exists, not_and, ne_comm, ne_eq]
  have knownAll : (∀ s, .long s ∈ os ++ [o] → level.Knows s) ↔
      (∀ s, .long s ∈ os → level.Knows s) ∧ ∀ s, o = .long s → level.Knows s := by
    simp [or_imp, forall_and, eq_comm]
  have switchesOnce : (switchesOf (os ++ [o])).Nodup ↔
      (switchesOf os).Nodup ∧ ∀ s, o.switch? = some s → s ∉ switchesOf os := by
    rw [switchesOf_concat, nodup_append_toList_iff]
  have valuesOnce : ((valuesOf (os ++ [o])).map Prod.fst).Nodup ↔
      ((valuesOf os).map Prod.fst).Nodup ∧
        ∀ v value, o.value? = some (v, value) → (Reading.of os ts).value? v = none := by
    rw [valuesOf_concat, List.map_append, ← Option.toList_map, nodup_append_toList_iff]
    simp only [absent, Option.map_eq_some_iff]
    refine and_congr_right fun _ => ⟨fun fresh v value valued => fresh v ⟨_, valued, rfl⟩, ?_⟩
    rintro fresh v ⟨⟨_, value⟩, valued, rfl⟩
    exact fresh _ value valued
  have checkedAll : (∀ entry ∈ valuesOf (os ++ [o]), Reading.checkValue entry.1 entry.2 = .ok ()) ↔
      (∀ entry ∈ valuesOf os, Reading.checkValue entry.1 entry.2 = .ok ()) ∧
        ∀ v value, o.value? = some (v, value) → Reading.checkValue v value = .ok () := by
    simp [valuesOf_concat, or_imp, forall_and]
  constructor
  · rintro ⟨known, switches, values, checked, texts⟩
    obtain ⟨known, knownHere⟩ := knownAll.1 known
    obtain ⟨switches, switchHere⟩ := switchesOnce.1 switches
    obtain ⟨values, valueHere⟩ := valuesOnce.1 values
    obtain ⟨checked, checkedHere⟩ := checkedAll.1 checked
    exact ⟨⟨known, switches, values, checked, texts⟩, knownHere, switchHere,
      fun v value valued => ⟨valueHere v value valued, checkedHere v value valued⟩⟩
  · rintro ⟨⟨known, switches, values, checked, texts⟩, knownHere, switchHere, valued⟩
    exact ⟨knownAll.2 ⟨known, knownHere⟩, switchesOnce.2 ⟨switches, switchHere⟩,
      valuesOnce.2 ⟨values, fun v value here => (valued v value here).1⟩,
      checkedAll.2 ⟨checked, fun v value here => (valued v value here).2⟩, texts⟩

theorem fits_concat_text_iff {text : String} :
    level.Fits os (ts ++ [text]) ↔ level.Fits os ts ∧ ts.length < level.texts := by
  constructor
  · rintro ⟨known, switches, values, checked, texts⟩
    rw [List.length_append, List.length_singleton] at texts
    exact ⟨⟨known, switches, values, checked, by omega⟩, by omega⟩
  · rintro ⟨⟨known, switches, values, checked, -⟩, room⟩
    exact ⟨known, switches, values, checked, by rw [List.length_append]; exact room⟩

end Level

/-! ### Arguments that are taken -/

namespace Reading

variable {level : Level} {r : Reading} {os : List WrittenOption} {ts : List String}

/-- An argument is taken, and settles, exactly if it fits as well. -/
theorem take_settles_iff (settled : r.settle = .ok (.of os ts)) (fits : level.Fits os ts)
    (a : Argument) {q : Reading} :
    (∃ r', r.take level a = .ok r' ∧ r'.settle = .ok q) ↔
      level.Fits (os ++ a.option?.toList) (ts ++ a.text?.toList) ∧
        q = .of (os ++ a.option?.toList) (ts ++ a.text?.toList) := by
  simp only [take_of_settled settled, take_eq_ok (r := .of os ts) rfl]
  rcases a with o | t
  · simp only [Argument.option?, Argument.text?, Option.toList, List.append_nil,
      Level.fits_concat_iff, fits, true_and, Reading.of, switchesOf_concat, valuesOf_concat]
    rcases o with s | _ | ⟨v, value⟩ | ⟨v, value⟩
    · simp [WrittenOption.switch?, WrittenOption.value?, settle, and_assoc, eq_comm]
    · simp [WrittenOption.switch?, WrittenOption.value?, settle, and_assoc, eq_comm]
    · simp [WrittenOption.switch?, WrittenOption.value?, settle, and_assoc, eq_comm]
    · simp [WrittenOption.switch?, WrittenOption.value?, settle, takeValue_eq_ok, and_assoc]
  · simp [Level.fits_concat_text_iff, fits, Argument.option?, Argument.text?, Reading.of, settle,
      and_assoc, eq_comm]

theorem exists_settled_of_foldlM {as : List Argument} {r' q : Reading}
    (taken : as.foldlM (Reading.take level) r = .ok r') (settled : r'.settle = .ok q) :
    ∃ q, r.settle = .ok q := by
  cases as with
  | nil => exact ⟨q, Except.ok.inj taken ▸ settled⟩
  | cons a as =>
    rw [List.foldlM_cons] at taken
    obtain ⟨r₁, first, -⟩ := bind_eq_ok_iff.1 taken
    exact exists_settled_of_take first

/-- **Arguments are taken**, one after another, and settle, exactly if they fit. -/
theorem settles_iff (settled : r.settle = .ok (.of os ts)) (fits : level.Fits os ts)
    (as : List Argument) {q : Reading} :
    (∃ r', as.foldlM (Reading.take level) r = .ok r' ∧ r'.settle = .ok q) ↔
      level.Fits (os ++ optionsOf as) (ts ++ textsOf as) ∧
        q = .of (os ++ optionsOf as) (ts ++ textsOf as) := by
  induction as generalizing r os ts with
  | nil =>
    simp only [List.foldlM_nil, optionsOf, textsOf, List.filterMap_nil, List.append_nil]
    constructor
    · rintro ⟨r', taken, settled'⟩
      obtain rfl : r = r' := Except.ok.inj taken
      exact ⟨fits, Except.ok.inj (settled'.symm.trans settled)⟩
    · rintro ⟨-, rfl⟩
      exact ⟨r, rfl, settled⟩
  | cons a as ih =>
    have options : os ++ optionsOf (a :: as) = os ++ a.option?.toList ++ optionsOf as := by
      cases h : a.option? <;> simp [optionsOf, h]
    have texts : ts ++ textsOf (a :: as) = ts ++ a.text?.toList ++ textsOf as := by
      cases h : a.text? <;> simp [textsOf, h]
    rw [options, texts, List.foldlM_cons]
    constructor
    · rintro ⟨r', taken, settled'⟩
      obtain ⟨r₁, first, others⟩ := bind_eq_ok_iff.1 taken
      obtain ⟨q₁, settled₁⟩ := exists_settled_of_foldlM others settled'
      obtain ⟨fits₁, rfl⟩ := (take_settles_iff settled fits a).1 ⟨r₁, first, settled₁⟩
      exact (ih settled₁ fits₁).1 ⟨r', others, settled'⟩
    · rintro ⟨fits', rfl⟩
      have fits₁ : level.Fits (os ++ a.option?.toList) (ts ++ a.text?.toList) := fits'.of_append
      obtain ⟨r₁, first, settled₁⟩ := (take_settles_iff settled fits a).2 ⟨fits₁, rfl⟩
      obtain ⟨r', others, settled'⟩ := (ih settled₁ fits₁).2 ⟨fits', rfl⟩
      exact ⟨r', bind_eq_ok_iff.2 ⟨r₁, first, others⟩, settled'⟩

/-- Texts behind a pair of dashes are taken, and settle, exactly if there is room for them. -/
theorem takeTexts_settles_iff (settled : r.settle = .ok (.of os ts)) (fits : level.Fits os ts)
    (texts : List String) {q : Reading} :
    (∃ r', r.takeTexts level texts = .ok r' ∧ r'.settle = .ok q) ↔
      level.Fits os (ts ++ texts) ∧ q = .of os (ts ++ texts) := by
  induction texts generalizing r ts with
  | nil =>
    rw [List.append_nil]
    constructor
    · rintro ⟨r', taken, settled'⟩
      obtain rfl : r = r' := Except.ok.inj taken
      exact ⟨fits, Except.ok.inj (settled'.symm.trans settled)⟩
    · rintro ⟨-, rfl⟩
      exact ⟨r, rfl, settled⟩
  | cons text texts ih =>
    have onward : ts ++ text :: texts = ts ++ [text] ++ texts := by simp
    have first {r₁ : Reading} : r.takeText level true text = .ok r₁ ↔
        ts.length < level.texts ∧ r₁ = .of os (ts ++ [text]) := by
      rw [takeText_of_settled settled]
      exact takeText_eq_ok (r := .of os ts) rfl
    rw [onward]
    constructor
    · rintro ⟨r', taken, settled'⟩
      obtain ⟨r₁, taken₁, others⟩ := bind_eq_ok_iff.1 taken
      obtain ⟨room, rfl⟩ := first.1 taken₁
      have fits₁ : level.Fits os (ts ++ [text]) := Level.fits_concat_text_iff.2 ⟨fits, room⟩
      exact (ih rfl fits₁).1 ⟨r', others, settled'⟩
    · rintro ⟨fits', rfl⟩
      have fits₁ : level.Fits os (ts ++ [text]) := fits'.of_append_texts
      have room : ts.length < level.texts := (Level.fits_concat_text_iff.1 fits₁).2
      obtain ⟨r', others, settled'⟩ := (ih (r := .of os (ts ++ [text])) rfl fits₁).2 ⟨fits', rfl⟩
      exact ⟨r', bind_eq_ok_iff.2 ⟨_, first.2 ⟨room, rfl⟩, others⟩, settled'⟩

end Reading

/-! ### What stands in front of the name of an action -/

/-- The word of the name of an action. -/
def ActionName.word : ActionName → String
  | parse => "parse"
  | matching => "match"
  | explain => "explain"
  | server => "server"
  | session => "session"

theorem ActionName.ofWord?_eq_some_iff {word : String} {name : ActionName} :
    ofWord? word = some name ↔ word = name.word := by
  constructor
  · intro named
    have there : (word, name) ∈ written := mem_of_lookup named
    have words : ∀ entry ∈ written, entry.1 = entry.2.word := by decide
    exact words _ there
  · rintro rfl
    cases name <;> rfl

namespace Reading

variable {level : Level} {r : Reading} {os : List WrittenOption} {name : ActionName}
  {rest : List String} {q : Reading}

theorem awaiting_of_foldlM {as : List Argument} {r' : Reading} (ready : r.awaiting = false)
    (taken : as.foldlM (Reading.take level) r = .ok r') : r'.awaiting = false := by
  induction as generalizing r with
  | nil => exact Except.ok.inj taken ▸ ready
  | cons a as ih =>
    rw [List.foldlM_cons] at taken
    obtain ⟨r₁, first, others⟩ := bind_eq_ok_iff.1 taken
    exact ih (awaiting_of_take first) others

theorem words_name (ready : r.awaiting = false) (name : ActionName) (rest : List String) :
    Reading.words Level.top r (name.word :: rest) = .ok (r, some (name, rest)) := by
  have named : ActionName.ofWord? name.word = some name := ActionName.ofWord?_eq_some_iff.2 rfl
  have help : (name.word == helpWord) = false := by cases name <;> decide
  rw [Reading.words, named, help, ready]
  rfl

theorem words_mark (level : Level) (r : Reading) (texts : List String) :
    Reading.words level r ("--" :: texts) = (r.takeTexts level texts).map (·, none) := by
  have from_ : words.wordsFrom level r "--" texts = (r.takeTexts level texts).map (·, none) := by
    rw [words.wordsFrom]
    exact if_pos rfl
  have unnamed : ActionName.ofWord? "--" = none := rfl
  have help : ("--" == helpWord) = false := by decide
  rw [Reading.words, unnamed, help]
  split <;> exact from_

/-- The words in front of the name of an action are read as options, and the others are handed on
with the name. -/
theorem words_front (os : List WrittenOption) (name : ActionName) (rest : List String) :
    Reading.words Level.top .start (os.flatMap WrittenOption.words ++ name.word :: rest) =
      ((os.map Argument.option).foldlM (Reading.take Level.top) .start).map
        (·, some (name, rest)) := by
  have words : os.flatMap WrittenOption.words =
      (os.map Argument.option).flatMap Argument.words := by
    rw [List.flatMap_map]
    rfl
  have options : ∀ a ∈ os.map Argument.option, a.text? = none := by
    intro a there
    obtain ⟨o, -, rfl⟩ := List.mem_map.1 there
    rfl
  rw [words, words_arguments Level.regular_top (fun _ => options) rfl]
  cases front : (os.map Argument.option).foldlM (Reading.take Level.top) .start with
  | error e => rfl
  | ok r => exact words_name (awaiting_of_foldlM rfl front) name rest

/-- Options in front of the name of an action are read exactly if they fit. -/
theorem front_iff : (∃ r, Reading.words Level.top .start
      (os.flatMap WrittenOption.words ++ name.word :: rest) = .ok (r, some (name, rest)) ∧
        r.settle = .ok q) ↔ Level.top.Fits os [] ∧ q = .of os [] := by
  have options : optionsOf (os.map Argument.option) = os := by
    simp [optionsOf, Argument.option?, Function.comp_def]
  have texts : textsOf (os.map Argument.option) = [] := by
    simp [textsOf, Argument.text?, Function.comp_def]
  have taken := settles_iff (r := .start) rfl Level.top.fits_nil (os.map Argument.option) (q := q)
  rw [options, texts] at taken
  refine Iff.trans ?_ taken
  rw [words_front]
  cases front : (os.map Argument.option).foldlM (Reading.take Level.top) .start <;>
    simp [Except.map]

theorem exists_options {as : List Argument} (options : ∀ a ∈ as, a.text? = none) :
    ∃ os : List WrittenOption, as.flatMap Argument.words = os.flatMap WrittenOption.words := by
  induction as with
  | nil => exact ⟨[], rfl⟩
  | cons a as ih =>
    obtain ⟨first, others⟩ := List.forall_mem_cons.1 options
    obtain ⟨os, words⟩ := ih others
    cases a with
    | option o => exact ⟨o :: os, by rw [List.flatMap_cons, List.flatMap_cons, words]; rfl⟩
    | text t => cases first

/-- What is read in front of the name of an action are options. -/
theorem exists_front {ws : List String} {r : Reading}
    (read : Reading.words Level.top .start ws = .ok (r, some (name, rest)))
    (settled : r.settle = .ok q) :
    ∃ os : List WrittenOption, ws = os.flatMap WrittenOption.words ++ name.word :: rest := by
  obtain ⟨as, tail, rfl, options, ends⟩ := isWritten_of_words Level.regular_top rfl read settled
  rw [words_arguments Level.regular_top options rfl] at read
  obtain ⟨r₁, front, read⟩ := bind_eq_ok_iff.1 read
  have ready : r₁.awaiting = false := awaiting_of_foldlM rfl front
  obtain ⟨os, words⟩ := exists_options (options rfl)
  refine ⟨os, ?_⟩
  rw [words]
  cases tail with
  | nil => simp [Reading.words] at read
  | cons word behind =>
    rcases ends with rfl | ⟨-, named⟩
    · rw [words_mark] at read
      obtain ⟨r₂, -, same⟩ := map_eq_ok_iff.1 read
      cases same
    · obtain ⟨name', named⟩ := Option.isSome_iff_exists.1 named
      obtain rfl : word = name'.word := ActionName.ofWord?_eq_some_iff.1 named
      rw [words_name ready] at read
      obtain ⟨-, rfl, rfl⟩ : r₁ = r ∧ name' = name ∧ behind = rest := by simpa using read
      rfl

end Reading

/-! ### What stands behind it -/

/-- What stands behind the name of an action: arguments, and texts behind a pair of dashes. -/
structure Behind where
  arguments : List Argument
  trailing : Option (List String)

namespace Behind

/-- The words behind the name of an action. -/
def words (b : Behind) : List String :=
  b.arguments.flatMap Argument.words ++ match b.trailing with
    | some texts => "--" :: texts
    | none => []

/-- The options behind the name of an action. -/
def options (b : Behind) : List WrittenOption :=
  optionsOf b.arguments

/-- The texts behind the name of an action. -/
def texts (b : Behind) : List String :=
  textsOf b.arguments ++ b.trailing.getD []

end Behind

namespace Reading

variable {name : ActionName} {q : Reading}

theorem actions_ofAction (name : ActionName) : (Level.ofAction name).actions = false := by
  cases name <;> rfl

/-- What stands behind the name of an action is read exactly if it fits. -/
theorem behind_iff {b : Behind} : (∃ r x, Reading.words (Level.ofAction name) .start b.words =
      .ok (r, x) ∧ r.settle = .ok q) ↔
    (Level.ofAction name).Fits b.options b.texts ∧ q = .of b.options b.texts := by
  obtain ⟨as, trailing⟩ := b
  have noActions : (Level.ofAction name).actions = true → ∀ a ∈ as, a.text? = none := by
    simp [actions_ofAction]
  have read (tail : List String) :=
    words_arguments (Level.regular_ofAction name) noActions (r := .start) rfl tail
  have taken {q : Reading} :=
    settles_iff (r := .start) rfl (Level.ofAction name).fits_nil as (q := q)
  simp only [List.nil_append] at taken
  simp only [Behind.words, Behind.options, Behind.texts, read]
  constructor
  · rintro ⟨r, x, accepted, settled⟩
    obtain ⟨r₁, front, rest⟩ := bind_eq_ok_iff.1 accepted
    cases trailing with
    | none =>
      obtain ⟨rfl, -⟩ : r₁ = r ∧ none = x := by simpa [Reading.words] using rest
      simpa using taken.1 ⟨r₁, front, settled⟩
    | some texts =>
      simp only [words_mark] at rest
      obtain ⟨r₂, last, same⟩ := map_eq_ok_iff.1 rest
      obtain ⟨rfl, -⟩ := Prod.mk.inj same
      obtain ⟨q₁, settled₁⟩ := exists_settled_of_takeTexts last settled
      obtain ⟨fits₁, rfl⟩ := taken.1 ⟨r₁, front, settled₁⟩
      exact (takeTexts_settles_iff settled₁ fits₁ texts).1 ⟨r₂, last, settled⟩
  · rintro ⟨fits, rfl⟩
    have fits₁ : (Level.ofAction name).Fits (optionsOf as) (textsOf as) :=
      fits.of_append_texts
    obtain ⟨r₁, front, settled₁⟩ := taken.2 ⟨fits₁, rfl⟩
    rw [front, Except.bind]
    cases trailing with
    | none => exact ⟨r₁, none, by rw [Reading.words], by simpa using settled₁⟩
    | some texts =>
      obtain ⟨r, last, settled⟩ := (takeTexts_settles_iff settled₁ fits₁ texts).2 ⟨fits, rfl⟩
      exact ⟨r, none, by simp only [words_mark, last, Except.map], settled⟩

/-- What is read behind the name of an action is arguments and texts. -/
theorem exists_behind {ws : List String} {r : Reading} {x : Option (ActionName × List String)}
    (read : Reading.words (Level.ofAction name) .start ws = .ok (r, x))
    (settled : r.settle = .ok q) : ∃ b : Behind, ws = b.words := by
  obtain ⟨as, tail, rfl, -, ends⟩ :=
    isWritten_of_words (Level.regular_ofAction name) rfl read settled
  cases tail with
  | nil => exact ⟨⟨as, none⟩, rfl⟩
  | cons word texts =>
    rcases ends with rfl | ⟨actions, -⟩
    · exact ⟨⟨as, some texts⟩, rfl⟩
    · simp [actions_ofAction] at actions

end Reading

end InspectionHost.CommandLine
