import InspectionHost.Proofs.Settings.Precedence
import InspectionHost.Proofs.Text.Trim

/-!
# The time of a call in the environment

The environment may tell how many seconds a client call may take. Blanks around the number do not
count. What is no number, or no number of 64 bits, is refused with the text as it stands, and then
the environment has overridden the programs as if it had told no time at all.

## Main definitions

* `Settings.Tells` : a text tells a number between blanks.
* `Settings.withoutTimeout` : the environment without the time of a call.

## Main results

* `Settings.tells_iff` : a text tells the number that is left when it is trimmed.
* `Settings.withEnvironment_of_tells`, `Settings.withEnvironment_of_not_tells` : what a text does to
  the settings.
* `Settings.timeout_of_environment` : the time of a call is exactly the number that is told.
-/

namespace InspectionHost.Settings

open InspectionHost.Text

/-- A text tells a number: ASCII digits behind at most one plus sign, between blanks. -/
def Tells (raw : String) (n : Nat) : Prop :=
  ∃ front body back, allBlank front = true ∧ allBlank back = true ∧
    raw.toList = front ++ body ++ back ∧ Decimal.Denotes body n

/-- The variables without the one that holds the time of a call. -/
def withoutTimeout (lookup : String → Option String) (key : String) : Option String :=
  if key = commandTimeoutKey then none else lookup key

variable {lookup : String → Option String} {raw : String} {n : Nat}

/-- A text tells the number that is left when it is trimmed. -/
theorem tells_iff : Tells raw n ↔ Decimal.Denotes (trim raw.toList) n := by
  constructor
  · rintro ⟨front, body, back, hfront, hback, hraw, denotes⟩
    have trimmed : IsTrimmed body :=
      ⟨fun c hc => denotes.solid c (List.mem_of_mem_head? hc),
        fun c hc => denotes.solid c (List.mem_of_mem_getLast? hc)⟩
    rwa [hraw, trimmed.trim_append hfront hback]
  · intro denotes
    obtain ⟨front, back, hfront, hback, hraw⟩ := exists_append_trim_append raw.toList
    exact ⟨front, _, back, hfront, hback, hraw, denotes⟩

theorem tells_print (n : Nat) : Tells (Decimal.print n) n := by
  refine ⟨[], Decimal.digits n, [], rfl, rfl, ?_, Decimal.denotes_digits n⟩
  rw [Decimal.print, String.toList_ofList, List.nil_append, List.append_nil]

theorem withEnvironment_withoutTimeout (s : Settings) (lookup : String → Option String) :
    s.withEnvironment (withoutTimeout lookup) = (s.withPrograms lookup, none) := by
  have server : withoutTimeout lookup serverProgramKey = lookup serverProgramKey :=
    if_neg (by decide)
  have client : withoutTimeout lookup clientProgramKey = lookup clientProgramKey :=
    if_neg (by decide)
  have timeout : withoutTimeout lookup commandTimeoutKey = none := if_pos rfl
  simp only [withEnvironment, timeout, withPrograms, programOverride?, server, client]

/-- A number of 64 bits that is told is the time of a call. -/
theorem withEnvironment_of_tells (given : lookup commandTimeoutKey = some raw) {secs : UInt64}
    (tells : Tells raw secs.toNat) (s : Settings) :
    s.withEnvironment lookup =
      ({ s.withPrograms lookup with commandTimeoutSecs := some secs }, none) := by
  have read := Decimal.readUInt64?_eq_some_iff.2 (tells_iff.1 tells)
  simp only [withEnvironment, given, read]

/-- A text that tells no number of 64 bits is refused. -/
theorem withEnvironment_of_not_tells (given : lookup commandTimeoutKey = some raw)
    (tells : ∀ n < 2 ^ 64, ¬ Tells raw n) (s : Settings) :
    s.withEnvironment lookup =
      (s.withPrograms lookup, some (.invalidEnv commandTimeoutKey raw)) :=
  withEnvironment_of_unusable
    ⟨given, fun secs denotes => tells _ secs.toNat_lt (tells_iff.2 denotes)⟩ s

/-- **The time of a call in the environment.** Let the environment hold a text as the time of a
call, for any settings and any other variables.

* The text is taken exactly if it tells a number of 64 bits between blanks: one or more ASCII digits
  behind at most one plus sign.
* Then the time of a call is that number, and everything else is as without the text.
* Otherwise the error has the key and the text as it stands, and all settings are as without the
  text.
* Without the text there is no error, and only the programs are overridden.
* What is written of a number of 64 bits makes it the time of a call. -/
theorem timeout_of_environment (s : Settings) (lookup : String → Option String) {raw : String}
    (given : lookup "RWP_COMMAND_TIMEOUT_SECS" = some raw) :
    let without := s.withEnvironment (withoutTimeout lookup)
    ((s.withEnvironment lookup).2 = none ↔ ∃ n < 2 ^ 64, Tells raw n) ∧
    (∀ n < 2 ^ 64, Tells raw n → ∃ secs : UInt64, secs.toNat = n ∧
      s.withEnvironment lookup = ({ without.1 with commandTimeoutSecs := some secs }, none)) ∧
    ((∀ n < 2 ^ 64, ¬ Tells raw n) → s.withEnvironment lookup =
      (without.1, some (.invalidEnv "RWP_COMMAND_TIMEOUT_SECS" raw))) ∧
    (without.2 = none ∧ without.1.commandTimeoutSecs = s.commandTimeoutSecs ∧
      without.1.startServer = s.startServer ∧ without.1.workingDirectory = s.workingDirectory) ∧
    ∀ secs : UInt64, raw = Decimal.print secs.toNat →
      s.withEnvironment lookup = ({ without.1 with commandTimeoutSecs := some secs }, none) := by
  intro without
  have bare : without = (s.withPrograms lookup, none) := withEnvironment_withoutTimeout s lookup
  have taken : ∀ n < 2 ^ 64, Tells raw n → ∃ secs : UInt64, secs.toNat = n ∧
      s.withEnvironment lookup =
        ({ s.withPrograms lookup with commandTimeoutSecs := some secs }, none) := by
    intro n fits tells
    have same : (UInt64.ofNat n).toNat = n := UInt64.toNat_ofNat_of_lt' fits
    exact ⟨.ofNat n, same, withEnvironment_of_tells given (same.symm ▸ tells) s⟩
  rw [bare]
  refine ⟨⟨fun fine => ?_, ?_⟩, taken, fun tells => ?_, ⟨rfl, rfl, rfl, rfl⟩, ?_⟩
  · by_contra nothing
    have refused :=
      withEnvironment_of_not_tells given (fun n fits tells => nothing ⟨n, fits, tells⟩) s
    rw [refused] at fine
    contradiction
  · rintro ⟨n, fits, tells⟩
    obtain ⟨secs, -, htaken⟩ := taken n fits tells
    rw [htaken]
  · exact withEnvironment_of_not_tells given tells s
  · rintro secs rfl
    exact withEnvironment_of_tells given (tells_print secs.toNat) s

/-- The greatest number with a sign, leading zeros and blanks is taken, and one more is refused. -/
theorem timeout_of_environment_greatest :
    let greatest : String → Option String := fun _ => some "\u2003+018446744073709551615\n"
    let more : String → Option String := fun _ => some "18446744073709551616"
    (standard.withEnvironment greatest).2 = none ∧
      (standard.withEnvironment greatest).1.commandTimeoutSecs = some 18446744073709551615 ∧
      (standard.withEnvironment more).2 =
        some (.invalidEnv "RWP_COMMAND_TIMEOUT_SECS" "18446744073709551616") := by
  intro greatest more
  have tells : Tells "\u2003+018446744073709551615\n" (18446744073709551615 : UInt64).toNat :=
    tells_iff.2 (Decimal.readUInt64?_eq_some_iff.1 (by decide))
  have tellsNot : ∀ n < 2 ^ 64, ¬ Tells "18446744073709551616" n := by
    intro n fits denotes
    have refused : Decimal.readUInt64? (trim "18446744073709551616".toList) = none := by decide
    refine Decimal.readUInt64?_eq_none_iff.1 refused (.ofNat n) ?_
    rw [UInt64.toNat_ofNat_of_lt' fits]
    exact tells_iff.1 denotes
  obtain ⟨taken, exact, -⟩ := timeout_of_environment standard greatest rfl
  obtain ⟨secs, hsecs, hgreatest⟩ := exact _ (UInt64.toNat_lt _) tells
  refine ⟨taken.2 ⟨_, UInt64.toNat_lt _, tells⟩, ?_, ?_⟩
  · rw [hgreatest]
    exact congrArg some (UInt64.toNat_inj.1 hsecs)
  · rw [(timeout_of_environment standard more rfl).2.2.1 tellsNot]

/-- Nothing, blanks, a sign alone, a minus sign, a blank inside and digits of another script tell
no number. -/
example : ∀ text ∈ ["", " \t", "+", "-1", "+ 1", "1 2", "٣", "0x1"],
    Decimal.readUInt64? (trim text.toList) = none := by
  decide

end InspectionHost.Settings
