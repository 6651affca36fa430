import InspectionHost.Proofs.Settings.Timeout

/-!
# The last change decides

Settings change in steps. A document replaces all of them, also those that it does not mention,
unless it cannot be read; then it changes nothing. The environment overrides a program that it names
and, unless its time is refused, the time of a call. A reset brings back the defaults. So each
setting has the value that was written by the last change that wrote it, whatever the changes before
it did, and whether they were refused or not.

## Main definitions

* `Settings.Field` : the settings one by one.
* `Settings.Change`, `Settings.apply` : changes, and the settings behind them.
* `Settings.Change.Writes` : the values that a change writes.
* `Settings.Decides` : the last change that wrote a setting.

## Main results

* `Settings.get_apply`, `Settings.get_applyAll` : a setting behind one change, and behind several.
* `Settings.apply_environment_again` : to repeat what the environment overrides changes nothing.
* `Settings.last_change_decides` : each setting is decided by the last change that wrote it.
-/

namespace InspectionHost.Settings

open InspectionHost.Text InspectionHost.Toml

/-! ### Settings one by one -/

/-- One of the settings. -/
inductive Field where
  | serverProgram
  | clientProgram
  | commandTimeoutSecs
  | startServer
  | workingDirectory
  deriving DecidableEq, Repr

/-- The values of a setting. -/
abbrev Field.Value : Field → Type
  | serverProgram | clientProgram => String
  | commandTimeoutSecs => Option UInt64
  | startServer => Bool
  | workingDirectory => Option String

/-- The value of a setting. -/
def get (s : Settings) : (f : Field) → f.Value
  | .serverProgram => s.serverProgram
  | .clientProgram => s.clientProgram
  | .commandTimeoutSecs => s.commandTimeoutSecs
  | .startServer => s.startServer
  | .workingDirectory => s.workingDirectory

theorem eq_of_get {s s' : Settings} (same : ∀ f, s.get f = s'.get f) : s = s' := by
  obtain ⟨server, client, secs, start, directory⟩ := s
  obtain rfl : server = s'.serverProgram := same .serverProgram
  obtain rfl : client = s'.clientProgram := same .clientProgram
  obtain rfl : secs = s'.commandTimeoutSecs := same .commandTimeoutSecs
  obtain rfl : start = s'.startServer := same .startServer
  obtain rfl : directory = s'.workingDirectory := same .workingDirectory
  rfl

/-- The variable that a setting is overridden by, if it can be. -/
def Field.key? : Field → Option String
  | serverProgram => some serverProgramKey
  | clientProgram => some clientProgramKey
  | commandTimeoutSecs => some commandTimeoutKey
  | startServer | workingDirectory => none

/-- The value that a document gives to a setting, which is the default without its key. -/
def Field.ofTable (table : Table) : (f : Field) → f.Value
  | .serverProgram => (table.text? "server_program").getD "wr22-regex-server"
  | .clientProgram => (table.text? "client_program").getD "wr22-client"
  | .commandTimeoutSecs => table.seconds? "command_timeout_secs"
  | .startServer => (table.boolean? "start_server").getD true
  | .workingDirectory => table.text? "working_directory"

theorem get_of_ofTable? {table : Table} {s : Settings} (read : ofTable? table = some s)
    (f : Field) : s.get f = f.ofTable table := by
  obtain rfl := eq_of_ofTable? read
  cases f <;> rfl

/-! ### Changes -/

/-- A change of the settings. -/
inductive Change where
  /-- Replace them by those of a document. -/
  | document (text : String)
  /-- Override them by variables. -/
  | environment (lookup : String → Option String)
  /-- Bring back the defaults. -/
  | reset

/-- Why a change is refused. -/
inductive Change.Fault where
  /-- The document cannot be read as settings. -/
  | document
  | environment (error : HostError)

/-- The settings behind a change, and why it was refused if it was. -/
def apply (s : Settings) : Change → Settings × Option Change.Fault
  | .document text =>
    match ofText? text with
    | some new => (new, none)
    | none => (s, some .document)
  | .environment lookup =>
    ((s.withEnvironment lookup).1, (s.withEnvironment lookup).2.map .environment)
  | .reset => (standard, none)

/-- The settings behind several changes. -/
def applyAll (s : Settings) (changes : List Change) : Settings :=
  changes.foldl (fun s change => (s.apply change).1) s

namespace Change

/-- A change writes a value of a setting. A document that can be read and a reset write all of them.
The environment writes programs that are not blank, and a time that is a number of 64 bits. -/
inductive Writes : Change → (f : Field) → f.Value → Prop where
  | document {text : String} {table : Table} (tree : document? text.toList = some table)
      (typed : (ofTable? table).isSome) (f : Field) : Writes (.document text) f (f.ofTable table)
  | server {lookup : String → Option String} {program : String}
      (named : environmentProgram? lookup "RWP_SERVER_PROGRAM" = some program) :
      Writes (.environment lookup) .serverProgram program
  | client {lookup : String → Option String} {program : String}
      (named : environmentProgram? lookup "RWP_CLIENT_PROGRAM" = some program) :
      Writes (.environment lookup) .clientProgram program
  | seconds {lookup : String → Option String} {raw : String} {secs : UInt64}
      (given : lookup "RWP_COMMAND_TIMEOUT_SECS" = some raw) (tells : Tells raw secs.toNat) :
      Writes (.environment lookup) .commandTimeoutSecs (some secs)
  | reset (f : Field) : Writes .reset f (standard.get f)

/-- The number of seconds that the environment tells. -/
def seconds? (lookup : String → Option String) : Option UInt64 :=
  (lookup commandTimeoutKey).bind fun raw => Decimal.readUInt64? (trim raw.toList)

/-- The value that a change writes, if it writes any. -/
def write? : Change → (f : Field) → Option f.Value
  | .document text, f => (ofText? text).map fun new => new.get f
  | .environment lookup, .serverProgram => programOverride? lookup serverProgramKey
  | .environment lookup, .clientProgram => programOverride? lookup clientProgramKey
  | .environment lookup, .commandTimeoutSecs => (seconds? lookup).map some
  | .environment _, .startServer | .environment _, .workingDirectory => none
  | .reset, f => some (standard.get f)

variable {c : Change} {f : Field} {v : f.Value} {lookup : String → Option String}

theorem seconds?_eq_some_iff {secs : UInt64} : seconds? lookup = some secs ↔
    ∃ raw, lookup commandTimeoutKey = some raw ∧ Tells raw secs.toNat := by
  simp only [seconds?, Option.bind_eq_some_iff, Decimal.readUInt64?_eq_some_iff, tells_iff]

theorem ofText?_eq_some_iff {text : String} {s : Settings} : ofText? text = some s ↔
    ∃ table, document? text.toList = some table ∧ ofTable? table = some s := by
  simp [ofText?, Option.bind_eq_some_iff]

/-- What is written is what a change writes. -/
theorem write?_eq_some_iff : c.write? f = some v ↔ c.Writes f v := by
  constructor
  · intro written
    cases c with
    | document text =>
      obtain ⟨new, read, rfl⟩ := Option.map_eq_some_iff.1 written
      obtain ⟨table, tree, typed⟩ := ofText?_eq_some_iff.1 read
      rw [get_of_ofTable? typed]
      exact .document tree (Option.isSome_of_eq_some typed) f
    | environment lookup =>
      cases f with
      | serverProgram => exact .server ((programOverride?_eq ..).symm.trans written)
      | clientProgram => exact .client ((programOverride?_eq ..).symm.trans written)
      | commandTimeoutSecs =>
        obtain ⟨secs, told, rfl⟩ := Option.map_eq_some_iff.1 written
        obtain ⟨raw, given, tells⟩ := seconds?_eq_some_iff.1 told
        exact .seconds given tells
      | startServer | workingDirectory => cases written
    | reset =>
      obtain rfl := Option.some.inj written
      exact .reset f
  · intro writes
    cases writes with
    | document tree typed =>
      obtain ⟨new, typed⟩ := Option.isSome_iff_exists.1 typed
      rw [write?, ofText?_eq_some_iff.2 ⟨_, tree, typed⟩, Option.map_some, get_of_ofTable? typed]
    | server named => exact (programOverride?_eq ..).trans named
    | client named => exact (programOverride?_eq ..).trans named
    | seconds given tells =>
      exact congrArg (Option.map some) (seconds?_eq_some_iff.2 ⟨_, given, tells⟩)
    | reset => rfl

theorem write?_eq_none_iff : c.write? f = none ↔ ∀ v, ¬ c.Writes f v := by
  simp only [Option.eq_none_iff_forall_ne_some, ne_eq, write?_eq_some_iff]

end Change

/-! ### One change -/

section Apply

variable (s s' : Settings) (lookup : String → Option String)

theorem withEnvironment_fst : (s.withEnvironment lookup).1 = { s.withPrograms lookup with
    commandTimeoutSecs := (Change.seconds? lookup).or s.commandTimeoutSecs } := by
  cases given : lookup commandTimeoutKey with
  | none => simp [withEnvironment, Change.seconds?, given, withPrograms]
  | some raw =>
    cases read : Decimal.readUInt64? (trim raw.toList) <;>
      simp [withEnvironment, Change.seconds?, given, read, withPrograms]

theorem withEnvironment_snd_congr :
    (s.withEnvironment lookup).2 = (s'.withEnvironment lookup).2 := by
  cases given : lookup commandTimeoutKey with
  | none => simp only [withEnvironment, given]
  | some raw =>
    cases read : Decimal.readUInt64? (trim raw.toList) <;>
      simp only [withEnvironment, given, read]

/-- A setting behind a change is what the change writes, or else what it was. -/
theorem get_apply (c : Change) (f : Field) :
    (s.apply c).1.get f = (c.write? f).getD (s.get f) := by
  cases c with
  | document text =>
    cases read : ofText? text <;> simp [apply, Change.write?, read]
  | environment lookup =>
    rw [apply, withEnvironment_fst]
    cases f with
    | commandTimeoutSecs => cases told : Change.seconds? lookup <;> simp [get, Change.write?, told]
    | _ => rfl
  | reset => rfl

/-- To repeat what the environment overrides changes nothing, and is refused if it was. -/
theorem apply_environment_again :
    (s.apply (.environment lookup)).1.apply (.environment lookup) =
      s.apply (.environment lookup) := by
  refine Prod.ext (eq_of_get fun f => ?_) ?_
  · rw [get_apply, get_apply]
    cases (Change.environment lookup).write? f <;> rfl
  · exact congrArg (Option.map Change.Fault.environment) (withEnvironment_snd_congr ..)

end Apply

theorem Change.write?_environment {lookup : String → Option String} {f : Field}
    (unset : ∀ key ∈ f.key?, lookup key = none) : (environment lookup).write? f = none := by
  cases f with
  | serverProgram => simp [write?, programOverride?, unset serverProgramKey rfl]
  | clientProgram => simp [write?, programOverride?, unset clientProgramKey rfl]
  | commandTimeoutSecs => simp [write?, seconds?, unset commandTimeoutKey rfl]
  | startServer | workingDirectory => rfl

/-- Of two environments without a common variable at most one writes a setting. -/
theorem Change.write?_eq_none_or {lookup lookup' : String → Option String}
    (disjoint : ∀ key, lookup key = none ∨ lookup' key = none) (f : Field) :
    (environment lookup).write? f = none ∨ (environment lookup').write? f = none := by
  cases overridden : f.key? with
  | none => exact .inl (write?_environment (by simp [overridden]))
  | some key =>
    have only {l : String → Option String} (unset : l key = none) :
        (environment l).write? f = none :=
      write?_environment fun other same => by
        obtain rfl : key = other := Option.some.inj (overridden.symm.trans same)
        exact unset
    exact (disjoint key).imp only only

/-- Environments without a common variable override the same in either order. -/
theorem apply_environment_comm {lookup lookup' : String → Option String}
    (disjoint : ∀ key, lookup key = none ∨ lookup' key = none) (s : Settings) :
    ((s.apply (.environment lookup)).1.apply (.environment lookup')).1 =
      ((s.apply (.environment lookup')).1.apply (.environment lookup)).1 := by
  refine eq_of_get fun f => ?_
  rw [get_apply, get_apply, get_apply, get_apply]
  rcases Change.write?_eq_none_or disjoint f with silent | silent <;> rw [silent]
  · rfl
  · rfl

theorem exists_writes_document_iff (s : Settings) (text : String) (f : Field) :
    (∃ v, (Change.document text).Writes f v) ↔ (s.apply (.document text)).2 = none := by
  simp only [← Change.write?_eq_some_iff, ← Option.isSome_iff_exists, Change.write?]
  cases read : ofText? text <;> simp [apply, read]

theorem exists_writes_seconds_iff (s : Settings) (lookup : String → Option String) :
    (∃ v, (Change.environment lookup).Writes .commandTimeoutSecs v) ↔
      (lookup commandTimeoutKey).isSome ∧ (s.apply (.environment lookup)).2 = none := by
  simp only [← Change.write?_eq_some_iff, ← Option.isSome_iff_exists, Change.write?,
    Change.seconds?]
  cases given : lookup commandTimeoutKey with
  | none => simp
  | some raw =>
    cases read : Decimal.readUInt64? (trim raw.toList) <;>
      simp [apply, withEnvironment, given, read]

/-! ### Several changes -/

/-- A setting behind several changes is what the last of them writes that writes it. -/
theorem get_applyAll (s : Settings) (changes : List Change) (f : Field) :
    (s.applyAll changes).get f =
      (changes.reverse.findSome? fun c => c.write? f).getD (s.get f) := by
  induction changes using List.reverseRecOn with
  | nil => rfl
  | append_singleton before c ih =>
    rw [applyAll, List.foldl_concat, get_apply, List.reverse_concat, List.findSome?_cons]
    cases c.write? f with
    | none => exact ih
    | some v => rfl

/-- A setting behind changes of the defaults is decided by the last change that wrote it. -/
inductive Decides : List Change → (f : Field) → f.Value → Prop where
  /-- Without a change that wrote it, it has its default. -/
  | never {changes : List Change} {f : Field} (silent : ∀ c ∈ changes, ∀ v, ¬ c.Writes f v) :
    Decides changes f (standard.get f)
  | last {before after : List Change} {c : Change} {f : Field} {v : f.Value}
      (writes : c.Writes f v) (silent : ∀ later ∈ after, ∀ w, ¬ later.Writes f w) :
    Decides (before ++ c :: after) f v

theorem decides_iff {changes : List Change} {f : Field} {v : f.Value} :
    Decides changes f v ↔ (standard.applyAll changes).get f = v := by
  rw [get_applyAll]
  constructor
  · intro decided
    cases decided with
    | never silent =>
      have nothing : (changes.reverse.findSome? fun c => c.write? f) = none :=
        List.findSome?_eq_none_iff.2 fun c there =>
          Change.write?_eq_none_iff.2 (silent c (List.mem_reverse.1 there))
      rw [nothing]
      rfl
    | @last before after c f v writes silent =>
      have found : ((before ++ c :: after).reverse.findSome? fun c => c.write? f) = some v := by
        refine List.findSome?_eq_some_iff.2 ⟨after.reverse, c, before.reverse, by simp, ?_, ?_⟩
        · exact Change.write?_eq_some_iff.2 writes
        · exact fun later there =>
            Change.write?_eq_none_iff.2 (silent later (List.mem_reverse.1 there))
      rw [found]
      rfl
  · rintro rfl
    cases found : changes.reverse.findSome? fun c => c.write? f with
    | none =>
      refine .never fun c there => Change.write?_eq_none_iff.1 ?_
      exact List.findSome?_eq_none_iff.1 found c (List.mem_reverse.2 there)
    | some v =>
      obtain ⟨after, c, before, split, written, silent⟩ := List.findSome?_eq_some_iff.1 found
      obtain rfl : changes = before.reverse ++ c :: after.reverse := by
        rw [← List.reverse_reverse changes, split]
        simp
      refine .last (Change.write?_eq_some_iff.1 written) fun later there => ?_
      exact Change.write?_eq_none_iff.1 (silent later (List.mem_reverse.1 there))

/-- **The last change decides.** Let the defaults be changed by any documents, any variables of an
environment, and resets, in any order.

* Each setting is the value that was written by the last change that wrote it, and its default if
  none did.
* A document writes all settings or is refused and writes none. The environment writes a time
  exactly if it has one and is not refused.
* To repeat what the environment overrides changes nothing, and is refused if it was.
* Environments without a common variable can be applied in either order: the settings are the same,
  and each is refused or not as it would be alone. -/
theorem last_change_decides :
    (∀ changes f v, (standard.applyAll changes).get f = v ↔ Decides changes f v) ∧
    (∀ (s : Settings) text f,
      (∃ v, (Change.document text).Writes f v) ↔ (s.apply (.document text)).2 = none) ∧
    (∀ (s : Settings) lookup, (∃ v, (Change.environment lookup).Writes .commandTimeoutSecs v) ↔
      (lookup "RWP_COMMAND_TIMEOUT_SECS").isSome ∧ (s.apply (.environment lookup)).2 = none) ∧
    (∀ (s : Settings) lookup, (s.apply (.environment lookup)).1.apply (.environment lookup) =
      s.apply (.environment lookup)) ∧
    ∀ (s : Settings) lookup lookup', (∀ key, lookup key = none ∨ lookup' key = none) →
      ∃ both,
        (s.apply (.environment lookup)).1.apply (.environment lookup') =
          (both, (s.apply (.environment lookup')).2) ∧
        (s.apply (.environment lookup')).1.apply (.environment lookup) =
          (both, (s.apply (.environment lookup)).2) := by
  refine ⟨fun changes f v => decides_iff.symm, exists_writes_document_iff,
    exists_writes_seconds_iff, apply_environment_again, fun s lookup lookup' disjoint => ?_⟩
  have alone (s s' : Settings) (l : String → Option String) :
      (s.apply (.environment l)).2 = (s'.apply (.environment l)).2 :=
    congrArg (Option.map Change.Fault.environment) (withEnvironment_snd_congr s s' l)
  refine ⟨_, Prod.ext rfl (alone ..), Prod.ext ?_ (alone ..)⟩
  exact (apply_environment_comm disjoint s).symm

/-- One environment names the client and a time, and the other one the server. -/
theorem last_change_decides_disjoint :
    let lookup (key : String) : Option String :=
      if key = "RWP_CLIENT_PROGRAM" then some "c"
      else if key = "RWP_COMMAND_TIMEOUT_SECS" then some " 7 " else none
    let lookup' (key : String) : Option String :=
      if key = "RWP_SERVER_PROGRAM" then some "s" else none
    (∀ key, lookup key = none ∨ lookup' key = none) ∧
      ∃ both, (standard.apply (.environment lookup)).1.apply (.environment lookup') = (both, none) ∧
        (standard.apply (.environment lookup')).1.apply (.environment lookup) = (both, none) ∧
        both = ⟨"s", "c", some 7, true, none⟩ := by
  intro lookup lookup'
  have disjoint : ∀ key, lookup key = none ∨ lookup' key = none := by
    intro key
    by_cases server : key = "RWP_SERVER_PROGRAM"
    · exact .inl (by simp [lookup, server])
    · exact .inr (if_neg server)
  obtain ⟨both, forth, back⟩ :=
    last_change_decides.2.2.2.2 standard lookup lookup' disjoint
  have fine : (standard.apply (.environment lookup)).2 = none := by decide
  have fine' : (standard.apply (.environment lookup')).2 = none := by decide
  refine ⟨disjoint, both, fine' ▸ forth, fine ▸ back, ?_⟩
  exact (congrArg Prod.fst forth).symm.trans (by decide)

/-- A document brings back the defaults that the environment has overridden. One that cannot be read
changes nothing, and a time that is no number leaves the programs of its environment in place. -/
example : standard.applyAll
    [.environment fun _ => some "7", .document "client_program = \"c\"\n",
      .document "start_server = \"maybe\"\n",
      .environment (Environment.get?
        ⟨[("RWP_SERVER_PROGRAM", "s"), ("RWP_COMMAND_TIMEOUT_SECS", "soon")]⟩)] =
    ⟨"s", "c", none, true, none⟩ := by
  decide +kernel

end InspectionHost.Settings
