import InspectionHost.Proofs.Call.GivingUp

/-!
# How many turns the looks of a call take

Between two looks a call waits for a tick, and the tick is shorter than the poll interval only when
less time is left. So each wait that is asked for before the time is over takes a whole poll
interval off the time that is left, or all of it, and there are at most as many looks as poll
intervals begin in that time. The deadline is the same for the client that has not ended and for the
output that has not, so the looks at both share this number.

## Main definitions

* `Limits.left`, `Limits.waits` : the time that is left, and how many waits fill a time.
* `CallPhase.stage?` : the stage of the look, while something is awaited.
* `LookStage.turnsLeft`, `CallPhase.turnsLeft` : how many turns of looks there may be from a stage
  and from a phase on.

## Main results

* `Limits.waits_lt_of_rest` : what a wait takes off the time.
* `LookStage.next_eq_ok` : where a look goes at which nothing is found.
* `CallPhase.turnsLeft_awaitExit`, `CallPhase.turnsLeft_awaitLines` : each turn of a look spends
  one.
-/

namespace InspectionHost

/-! ### Waits -/

namespace Limits

variable {l : Limits}

/-- The time that is left at a reading of the clock, if the time is limited. -/
def left (l : Limits) (now : Nat) : Nat :=
  match l.timeout with
  | some (_, deadline) => deadline - now
  | none => 0

/-- How many waits fill a time: the number of poll intervals that begin in it. -/
def waits (nanos : Nat) : Nat :=
  (nanos + (pollInterval - 1)) / pollInterval

theorem waits_mono {short long : Nat} (h : short ≤ long) : waits short ≤ waits long :=
  Nat.div_le_div_right (Nat.add_le_add_right h _)

theorem waits_pos {nanos : Nat} (h : 0 < nanos) : 0 < waits nanos := by
  simp only [waits, pollInterval]
  omega

theorem left_anti (l : Limits) {early late : Nat} (h : early ≤ late) :
    l.left late ≤ l.left early := by
  unfold left
  split
  · exact Nat.sub_le_sub_left h _
  · exact Nat.le_refl _

theorem tick_eq_min_left (limited : l.timeout.isSome) (now : Nat) :
    l.tick now = min (l.left now) pollInterval := by
  obtain ⟨⟨limit, deadline⟩, timed⟩ := Option.isSome_iff_exists.1 limited
  simp [tick, left, timed]

/-- A wait that is asked for later does not end earlier. -/
theorem add_tick_mono (l : Limits) {early late : Nat} (h : early ≤ late) :
    early + l.tick early ≤ late + l.tick late := by
  unfold tick
  split
  · omega
  · omega

/-- A wait that is asked for before the time is over takes a poll interval off what is left, or
leaves nothing. -/
theorem waits_lt_of_rest (limited : l.timeout.isSome) {asked now : Nat} (ahead : 0 < l.left asked)
    (rest : asked + l.tick asked ≤ now) : waits (l.left now) < waits (l.left asked) := by
  rw [tick_eq_min_left limited] at rest
  obtain ⟨⟨limit, deadline⟩, timed⟩ := Option.isSome_iff_exists.1 limited
  simp only [left, timed, waits, pollInterval] at *
  omega

/-- A look at the clock that does not give the call up finds time left. -/
theorem left_pos_of_checkClock (limited : l.timeout.isSome) {now : Nat}
    (h : l.checkClock now = none) : 0 < l.left now := by
  obtain ⟨⟨limit, deadline⟩, timed⟩ := Option.isSome_iff_exists.1 limited
  simp only [checkClock, timed, ite_eq_right_iff, reduceCtorEq, imp_false, Nat.not_le] at h
  rw [left, timed]
  exact Nat.sub_pos_of_lt h

end Limits

/-! ### Stages -/

namespace LookStage

/-- From when on the wait lasts that follows a turn at a stage. Only the clock is followed by
one. -/
def restsFrom (now : Nat) : LookStage → Option Nat
  | clock => some now
  | _ => none

/-- How many turns of looks there may be from a stage on. Behind a look that found nothing, the next
one begins when the wait is over. -/
def turnsLeft (l : Limits) (now : Nat) (since : Option Nat) : LookStage → Nat
  | event =>
    match since with
    | none => 3 + 3 * Limits.waits (l.left now)
    | some asked => 3 * Limits.waits (l.left asked)
  | token => 2 + 3 * Limits.waits (l.left now)
  | clock => 1 + 3 * Limits.waits (l.left now)

/-- The next look may begin: if a wait was asked for, it was asked for in time and has lasted. -/
def Due (l : Limits) (now : Nat) (since : Option Nat) : Prop :=
  ∀ asked ∈ since, 0 < l.left asked ∧ asked + l.tick asked ≤ now

variable {l : Limits} {g : Glance} {since : Option Nat}

/-- A look that may begin has all of its turns left, and those of the looks behind it. -/
theorem le_turnsLeft_event (limited : l.timeout.isSome) {now : Nat} (due : Due l now since) :
    3 + 3 * Limits.waits (l.left now) ≤ event.turnsLeft l now since := by
  cases since with
  | none => exact Nat.le_refl _
  | some asked =>
    obtain ⟨ahead, rest⟩ := due asked rfl
    have hlt := Limits.waits_lt_of_rest limited ahead rest
    simp only [turnsLeft]
    omega

/-- Some turn is left at every stage, if no wait was asked for too late. -/
theorem turnsLeft_pos {stage : LookStage} (now : Nat)
    (ahead : stage = .event → ∀ asked ∈ since, 0 < l.left asked) :
    0 < stage.turnsLeft l now since := by
  cases stage with
  | event =>
    cases since with
    | none => exact Nat.add_pos_left (by decide) _
    | some asked => exact Nat.mul_pos (by decide) (Limits.waits_pos (ahead rfl asked rfl))
  | token | clock => exact Nat.add_pos_left (by decide) _

theorem turnsLeft_anti (stage : LookStage) {early late : Nat} (h : early ≤ late) :
    stage.turnsLeft l late since ≤ stage.turnsLeft l early since := by
  have hwaits := Nat.mul_le_mul_left 3 (Limits.waits_mono (l.left_anti h))
  cases stage with
  | event =>
    cases since with
    | none => exact Nat.add_le_add_left hwaits 3
    | some asked => exact Nat.le_refl _
  | token | clock => exact Nat.add_le_add_left hwaits _

/-- A look at which nothing is found goes from stage to stage, and from the clock to the next look
if time is left. -/
theorem next_eq_ok {stage behind : LookStage} (limited : l.timeout.isSome)
    (h : stage.next l g = .ok behind) :
    (stage = .event ∧ behind = .token) ∨ (stage = .token ∧ behind = .clock) ∨
      (stage = .clock ∧ behind = .event ∧ 0 < l.left g.now) := by
  cases stage with
  | event =>
    have bounded : l.isUnbounded = false := by
      simp [Limits.isUnbounded, Option.isSome_iff_ne_none.1 limited]
    have htoken : token = behind := by simpa [next, bounded] using h
    exact .inl ⟨rfl, htoken.symm⟩
  | token =>
    simp only [next] at h
    split at h
    · cases h
    · exact .inr (.inl ⟨rfl, (Except.ok.inj h).symm⟩)
  | clock =>
    simp only [next] at h
    split at h
    · cases h
    · next ahead =>
      have hleft := Limits.left_pos_of_checkClock limited ahead
      exact .inr (.inr ⟨rfl, (Except.ok.inj h).symm, hleft⟩)

/-- A turn that goes on to the next stage is one turn less. -/
theorem turnsLeft_next {stage behind : LookStage} (limited : l.timeout.isSome)
    (due : stage = .event → Due l g.now since) (goesOn : stage.next l g = .ok behind) :
    behind.turnsLeft l g.now (stage.restsFrom g.now) + 1 ≤ stage.turnsLeft l g.now since := by
  rcases next_eq_ok limited goesOn with ⟨rfl, rfl⟩ | ⟨rfl, rfl⟩ | ⟨rfl, rfl, -⟩
  · have hevent := le_turnsLeft_event limited (due rfl)
    simp only [turnsLeft] at hevent ⊢
    omega
  · simp only [turnsLeft]
    omega
  · simp only [turnsLeft, restsFrom]
    omega

end LookStage

/-! ### Phases -/

namespace CallPhase

/-- The stage of the look, while something is awaited. -/
def stage? : CallPhase → Option LookStage
  | waiting stage | collecting _ stage => some stage
  | _ => none

theorem stage?_eq_some_iff {p : CallPhase} {stage : LookStage} :
    p.stage? = some stage ↔ p.AtStage stage := by
  cases p <;> simp [stage?, AtStage]

/-- How many turns of looks there may be from a phase on, for a call with a time limit. The look
that finds the client ended is not followed by a wait, so its turn comes on top. -/
def turnsLeft (limit : Duration) (l : Limits) (now : Nat) (since : Option Nat) : CallPhase → Nat
  | launching => 4 + 3 * Limits.waits limit.nanos
  | waiting stage => 1 + stage.turnsLeft l now since
  | collecting _ stage => stage.turnsLeft l now since
  | _ => 0

variable {l : Limits} {g : Glance} {since : Option Nat} {limit : Duration} {stage : LookStage}

theorem turnsLeft_anti (p : CallPhase) {early late : Nat} (h : early ≤ late) :
    p.turnsLeft limit l late since ≤ p.turnsLeft limit l early since := by
  cases p with
  | waiting stage => exact Nat.add_le_add_left (stage.turnsLeft_anti h) 1
  | collecting status stage => exact stage.turnsLeft_anti h
  | _ => exact Nat.le_refl _

/-- The launch of a client leaves the turns of the looks that its time limit has room for, and none
if no limits can be made. -/
theorem turnsLeft_ofLaunch (limit : Duration) (program : String) (launch : LaunchResult)
    (cancellable : Bool) (now : Nat) (other : Limits) :
    (ofLaunch program (Limits.starting (some limit) cancellable now) launch).turnsLeft limit
        ((Limits.starting (some limit) cancellable now).toOption.getD other) now none ≤
      4 + 3 * Limits.waits limit.nanos := by
  cases starts : Limits.starting (some limit) cancellable now with
  | error abort => cases launch <;> exact Nat.zero_le _
  | ok l =>
    cases launch with
    | started =>
      obtain ⟨rfl, -⟩ := Limits.starting_eq_ok_iff.1 starts
      have hleft : Limits.left ⟨some (limit, now + limit.nanos), cancellable⟩ now = limit.nanos :=
        Nat.add_sub_cancel_left ..
      simp only [ofLaunch, turnsLeft, LookStage.turnsLeft, Except.toOption, Option.getD_some,
        Option.map_some, hleft]
      omega
    | _ => exact Nat.zero_le _

/-- A turn while the end of the client is awaited is one turn less. -/
theorem turnsLeft_awaitExit (limited : l.timeout.isSome)
    (due : stage = .event → LookStage.Due l g.now since) :
    (awaitExit l stage g).turnsLeft limit l g.now (stage.restsFrom g.now) + 1 ≤
      1 + stage.turnsLeft l g.now since := by
  rcases awaitExit_cases l stage g with ⟨status, rfl, -, h⟩ | ⟨_, -, -, h⟩ |
    ⟨-, ⟨behind, goesOn, h⟩ | ⟨_, -, h⟩⟩
  · have hevent := LookStage.le_turnsLeft_event limited (due rfl)
    rw [h, Nat.add_comm]
    exact Nat.add_le_add_left hevent 1
  · rw [h]
    exact Nat.le_add_right 1 _
  · have hnext := LookStage.turnsLeft_next limited due goesOn
    rw [h, turnsLeft]
    omega
  · rw [h]
    exact Nat.le_add_right 1 _

/-- A turn while the output is awaited is one turn less. -/
theorem turnsLeft_awaitLines (limited : l.timeout.isSome) (status : ExitStatus)
    (ahead : stage = .event → ∀ asked ∈ since, 0 < l.left asked)
    (due : stage = .event → g.capture = .pending → LookStage.Due l g.now since) :
    (awaitLines l status stage g).turnsLeft limit l g.now (stage.restsFrom g.now) + 1 ≤
      stage.turnsLeft l g.now since := by
  have hpos := LookStage.turnsLeft_pos g.now ahead
  rcases awaitLines_cases l status stage g with ⟨_, -, -, h⟩ | ⟨_, -, -, -, h⟩ |
    ⟨nothing, ⟨behind, goesOn, h⟩ | ⟨_, -, h⟩⟩
  · rw [h]
    exact hpos
  · rw [h]
    exact hpos
  · rw [h]
    exact LookStage.turnsLeft_next limited (fun event => due event (nothing event)) goesOn
  · rw [h]
    exact hpos

/-- A step from a stage ends the looks, or finds the client ended, or goes on to the next stage. -/
theorem stage?_step {p : CallPhase} (awaits : p.stage? = some stage) :
    (p.step l g).stage? = none ∨ stage = .event ∧ (p.step l g).stage? = some .event ∨
      ∃ behind, stage.next l g = .ok behind ∧ (p.step l g).stage? = some behind := by
  rcases stage?_eq_some_iff.1 awaits with rfl | ⟨status, rfl⟩
  · simp only [step]
    rcases awaitExit_cases l stage g with ⟨_, event, -, h⟩ | ⟨_, -, -, h⟩ |
      ⟨-, ⟨behind, goesOn, h⟩ | ⟨_, -, h⟩⟩
    · exact .inr (.inl ⟨event, by rw [h]; rfl⟩)
    · exact .inl (by rw [h]; rfl)
    · exact .inr (.inr ⟨behind, goesOn, by rw [h]; rfl⟩)
    · exact .inl (by rw [h]; rfl)
  · simp only [step]
    rcases awaitLines_cases l status stage g with ⟨_, -, -, h⟩ | ⟨_, -, -, -, h⟩ |
      ⟨-, ⟨behind, goesOn, h⟩ | ⟨_, -, h⟩⟩
    · exact .inl (by rw [h]; rfl)
    · exact .inl (by rw [h]; rfl)
    · exact .inr (.inr ⟨behind, goesOn, by rw [h]; rfl⟩)
    · exact .inl (by rw [h]; rfl)

theorem stage?_step_eq_none {p : CallPhase} (ended : p.stage? = none) :
    (p.step l g).stage? = none := by
  cases p with
  | waiting _ | collecting _ _ => cases ended
  | reaping f =>
    simp only [step, awaitKilled]
    split <;> rfl
  | _ => rfl

end CallPhase

end InspectionHost
