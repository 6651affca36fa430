import InspectionHost.Proofs.Call.Pace

/-!
# A time limit ends a call

A call with a time limit ends, whatever its client does: if waits last, its looks take no more turns
than the limit has room for. Behind the deadline it ends even if they do not. The looks go forward
from stage to stage then, and the limits are checked once at most.

## Main definitions

* `CallPhase.order` : how far a call has come that looks at its limits once more at most.
* `CallScene.Late` : the time of a call is over.

## Main results

* `CallScene.countP_turnPhases_of_late`, `CallScene.Late.stage?_run_of_turns` : behind the deadline
  the limits are checked once at most, and the looks are soon over.
* `CallScene.timeout_ends_call` : a call with a time limit ends.
-/

namespace InspectionHost

/-! ### Phases in their order -/

namespace CallPhase

/-- How far a call has come that looks at its limits once more at most: both tokens count the same,
and so do both clocks. -/
def order : CallPhase → Nat
  | launching => 0
  | waiting .event => 1
  | collecting _ .event => 2
  | waiting .token | collecting _ .token => 3
  | waiting .clock | collecting _ .clock => 4
  | killing _ => 5
  | reaping _ => 6
  | finished _ | aborted _ => 7

variable {l : Limits} {g : Glance} {stage : LookStage}

theorem eq_launching_of_order {p : CallPhase} (first : p.order = 0) : p = launching := by
  cases p with
  | launching => rfl
  | waiting stage | collecting _ stage => cases stage <;> simp [order] at first
  | _ => simp [order] at first

theorem order_le_four {p : CallPhase} (awaits : p.stage?.isSome) : p.order ≤ 4 := by
  cases p with
  | waiting stage | collecting _ stage => cases stage <;> simp [order]
  | _ => cases awaits

theorem order_of_token {p : CallPhase} (h : p.stage? = some .token) : p.order = 3 := by
  rcases stage?_eq_some_iff.1 h with rfl | ⟨status, rfl⟩ <;> rfl

theorem order_of_clock {p : CallPhase} (h : p.stage? = some .clock) : p.order = 4 := by
  rcases stage?_eq_some_iff.1 h with rfl | ⟨status, rfl⟩ <;> rfl

/-- When no time is left, a look goes from stage to stage and not to the next look. -/
theorem order_lt_of_next {behind : LookStage} (limited : l.timeout.isSome)
    (late : l.left g.now = 0) (goesOn : stage.next l g = .ok behind) :
    (waiting stage).order < (waiting behind).order ∧
      ∀ status, (collecting status stage).order < (collecting status behind).order := by
  rcases LookStage.next_eq_ok limited goesOn with ⟨rfl, rfl⟩ | ⟨rfl, rfl⟩ | ⟨-, -, ahead⟩
  · simp [order]
  · simp [order]
  · omega

/-- When no time is left, a step does not lead back, and each step of a look leads forward. -/
theorem order_step {p : CallPhase}
    (late : p.stage?.isSome → l.timeout.isSome ∧ l.left g.now = 0) :
    p.order ≤ (p.step l g).order ∧ (p.stage?.isSome → p.order < (p.step l g).order) := by
  cases p with
  | waiting reached =>
    obtain ⟨limited, late⟩ := late rfl
    have hlook : (waiting reached).order ≤ 4 := order_le_four rfl
    suffices h : (waiting reached).order < (awaitExit l reached g).order from
      ⟨Nat.le_of_lt h, fun _ => h⟩
    rcases awaitExit_cases l reached g with ⟨_, rfl, -, h⟩ | ⟨_, -, -, h⟩ |
      ⟨-, ⟨behind, goesOn, h⟩ | ⟨_, -, h⟩⟩ <;> rw [h]
    · exact Nat.lt_succ_self 1
    · show _ < 7
      omega
    · exact (order_lt_of_next limited late goesOn).1
    · show _ < 5
      omega
  | collecting status reached =>
    obtain ⟨limited, late⟩ := late rfl
    have hlook : (collecting status reached).order ≤ 4 := order_le_four rfl
    suffices h : (collecting status reached).order < (awaitLines l status reached g).order from
      ⟨Nat.le_of_lt h, fun _ => h⟩
    rcases awaitLines_cases l status reached g with ⟨_, -, -, h⟩ | ⟨_, -, -, -, h⟩ |
      ⟨-, ⟨behind, goesOn, h⟩ | ⟨_, -, h⟩⟩ <;> rw [h]
    · show _ < 7
      omega
    · show _ < 7
      omega
    · exact (order_lt_of_next limited late goesOn).2 status
    · show _ < 7
      omega
  | reaping f => cases exit : g.exit <;> simp [step, awaitKilled, exit, order, stage?]
  | launching | killing _ | finished _ | aborted _ => simp [step, order, stage?]

end CallPhase

namespace CallScene

variable {s : CallScene} {limit : Duration} {since : Option Nat} {e : CallEvent}
  {events : List CallEvent} {fault : Option TurnFault} {stage : LookStage}

/-! ### Behind the deadline -/

/-- The time of a call is over, as far as the call looks at its limits. -/
structure Late (s : CallScene) : Prop where
  launched : s.call.phase ≠ .launching
  spent : s.call.phase.stage?.isSome → s.call.limits.timeout.isSome ∧ s.call.limits.left s.now = 0

/-- No turn leads a late call back, and each turn of a look leads it forward. -/
theorem Late.order_turn (late : s.Late) (fault : Option TurnFault) :
    s.call.phase.order ≤ (s.turn fault).call.phase.order ∧
      (s.call.phase.stage?.isSome → s.call.phase.order < (s.turn fault).call.phase.order) := by
  unfold CallScene.turn
  split
  · next fresh => exact (late.launched fresh).elim
  · next finished => simp [conclude, finished, CallPhase.stage?]
  · next aborted => simp [conclude, aborted, CallPhase.stage?]
  · exact CallPhase.order_step (g := s.glance fault) late.spent

theorem Late.turn (late : s.Late) (fault : Option TurnFault) : (s.turn fault).Late := by
  cases awaits : s.call.phase.stage? with
  | none =>
    have ended := stage?_turn_eq_none late.launched awaits fault
    refine ⟨fun fresh => ?_, fun looks => by simp [ended] at looks⟩
    have hforward := (late.order_turn fault).1
    rw [fresh] at hforward
    exact late.launched (CallPhase.eq_launching_of_order (Nat.le_zero.1 hforward))
  | some stage =>
    rw [turn_of_stage? awaits]
    exact ⟨CallPhase.step_ne_launching late.launched _ _, fun _ => late.spent (by rw [awaits]; rfl)⟩

theorem Late.apply (late : s.Late) (e : CallEvent) : (s.apply e).Late := by
  cases e with
  | turn fault => exact late.turn fault
  | passes nanos =>
    refine ⟨late.launched, fun looks => ?_⟩
    obtain ⟨limited, spent⟩ := late.spent looks
    exact ⟨limited, Nat.le_zero.1 <|
      spent ▸ s.call.limits.left_anti (Nat.le_add_right s.now nanos)⟩
  | _ => exact ⟨late.launched, late.spent⟩

/-- Behind the deadline no stage of a look comes twice, whether waits last or not: a call that has
left one behind does not come back to it. -/
theorem countP_turnPhases_of_late (late : s.Late) {p : CallPhase → Bool} {k : Nat}
    (stage : ∀ q, p q = true → q.stage?.isSome ∧ q.order = k) (events : List CallEvent) :
    (s.turnPhases events).countP p ≤ 1 ∧
      (k < s.call.phase.order → (s.turnPhases events).countP p = 0) := by
  induction events generalizing s with
  | nil => exact ⟨Nat.zero_le 1, fun _ => rfl⟩
  | cons e events ih =>
    obtain ⟨once, gone⟩ := ih (late.apply e)
    rw [turnPhases, List.countP_append]
    cases e with
    | turn fault =>
      obtain ⟨forward, further⟩ := late.order_turn fault
      rw [turnPhase?, Option.toList_some, List.countP_singleton]
      split
      · next here =>
        -- The turn is taken at the stage, and leaves it behind.
        obtain ⟨awaits, same⟩ := stage _ here
        have hfurther := further awaits
        have hgone := gone (by rw [← same]; exact hfurther)
        exact ⟨by omega, fun past => by omega⟩
      · rw [Nat.zero_add]
        exact ⟨once, fun past => gone (Nat.lt_of_lt_of_le past forward)⟩
    | _ =>
      simp only [turnPhase?, Option.toList_none, List.countP_nil, Nat.zero_add]
      exact ⟨once, gone⟩

theorem Late.stage?_run_eq_none (late : s.Late) (ended : s.call.phase.stage? = none)
    (events : List CallEvent) : (s.run events).call.phase.stage? = none := by
  induction events generalizing s with
  | nil => exact ended
  | cons e events ih =>
    refine ih (late.apply e) ?_
    cases e with
    | turn fault => exact stage?_turn_eq_none late.launched ended fault
    | _ => exact ended

/-- A late call that still looks has come forward with each turn. -/
theorem Late.order_run (late : s.Late) (awaits : (s.run events).call.phase.stage?.isSome) :
    s.call.phase.order + (s.turnPhases events).length ≤ (s.run events).call.phase.order := by
  induction events generalizing s with
  | nil => exact Nat.le_refl _
  | cons e events ih =>
    have hlater := ih (late.apply e) awaits
    rw [turnPhases, List.length_append, run_cons]
    cases e with
    | turn fault =>
      have hlooks : s.call.phase.stage?.isSome := by
        by_contra ended
        have hended := late.stage?_run_eq_none (by simpa using ended) (.turn fault :: events)
        rw [hended] at awaits
        cases awaits
      have hforward : s.call.phase.order < (s.apply (.turn fault)).call.phase.order :=
        (late.order_turn fault).2 hlooks
      simp only [turnPhase?, Option.toList_some, List.length_singleton]
      omega
    | _ =>
      simp only [turnPhase?, Option.toList_none, List.length_nil, Nat.zero_add]
      exact hlater

/-- Four turns behind the deadline, the looks are over. -/
theorem Late.stage?_run_of_turns (late : s.Late) (turns : 4 ≤ (s.turnPhases events).length) :
    (s.run events).call.phase.stage? = none := by
  by_contra awaits
  have hlooks : (s.run events).call.phase.stage?.isSome := Option.isSome_iff_ne_none.2 awaits
  have hrun := late.order_run hlooks
  have hlast := CallPhase.order_le_four hlooks
  have hfirst : s.call.phase.order ≠ 0 := mt CallPhase.eq_launching_of_order late.launched
  omega

/-! ### Calls with a time limit -/

theorem timed_start (answer : LaunchAnswer) {r : CallRequest}
    (timed : r.client.options.timeout = some limit) : (start answer r).Timed limit none :=
  ⟨timed, nofun, fun awaits => nomatch awaits⟩

theorem mortal_start (answer : LaunchAnswer) (r : CallRequest) : (start answer r).Mortal :=
  ⟨.launching rfl rfl rfl, fun _ reaping => nomatch reaping⟩

/-- The deadline of a call is its time limit behind its launch, if the clock can show it. -/
theorem timeout_run (answer : LaunchAnswer) {r : CallRequest}
    (timed : r.client.options.timeout = some limit) {launched : Nat}
    (h : ((start answer r).run events).record.launchedAt = some launched)
    (inside : launched + limit.nanos < Clock.limit) :
    ((start answer r).run events).call.limits.timeout = some (limit, launched + limit.nanos) := by
  have starts : Limits.starting r.client.options.timeout r.token.isSome launched =
      .ok ⟨some (limit, launched + limit.nanos), r.token.isSome⟩ := by
    rw [Limits.starting_eq_ok_iff, timed]
    exact ⟨rfl, by simpa using inside⟩
  rw [limits_run answer r events launched h _ starts]

theorem late_run (answer : LaunchAnswer) {r : CallRequest}
    (timed : r.client.options.timeout = some limit) {launched : Nat}
    (h : ((start answer r).run events).record.launchedAt = some launched)
    (spent : launched + limit.nanos ≤ ((start answer r).run events).now) :
    ((start answer r).run events).Late := by
  refine ⟨fun fresh => ?_, fun looks => ?_⟩
  · have hstanding : ((start answer r).run events).Standing True :=
      standing_run answer r fun _ _ => trivial
    simp [hstanding.of_launching fresh, CallRecord.blank] at h
  · obtain ⟨stage, awaits⟩ := Option.isSome_iff_exists.1 looks
    obtain ⟨launched', h', starts⟩ :=
      limits_of_atStage answer r (CallPhase.stage?_eq_some_iff.1 awaits)
    obtain rfl : launched' = launched := Option.some.inj (h'.symm.trans h)
    obtain ⟨limits, -⟩ := Limits.starting_eq_ok_iff.1 starts
    rw [limits, timed]
    exact ⟨rfl, Nat.sub_eq_zero_of_le spent⟩

/-- A time limit ends a call, with a token or without one, whatever the client does and whenever its
output comes to an end.

If the clock can show the end of the time, the tick lasts as long as time is left, and neither
longer than that nor longer than the poll interval. If waits last, the looks at the client and at
its output take no more turns than the poll intervals that begin in the time limit have room for. If
the system also kills the client when it is asked to, a call that gets so many turns, and a few
more, has its result. Once the deadline is reached, the looks are over after four turns, among which
is one check of the limits at most: one turn at the token, and one at the clock. A host looks at a
call for three turns at most before it lets time pass. -/
theorem timeout_ends_call (answer : LaunchAnswer) {r : CallRequest} {limit : Duration}
    (timed : r.client.options.timeout = some limit) (events : List CallEvent) :
    let s := start answer r
    (∀ launched, (s.run events).record.launchedAt = some launched →
      launched + limit.nanos < Clock.limit → ∀ now,
      let tick := (s.run events).call.limits.tick now
      (now < launched + limit.nanos → 0 < tick) ∧ tick ≤ launched + limit.nanos - now ∧
        tick ≤ Limits.pollInterval) ∧
    (s.Paced none events →
      (s.turnPhases events).countP (·.stage?.isSome) ≤ 4 + 3 * Limits.waits limit.nanos ∧
      (.turn (some .kill) ∉ events →
        8 + 3 * Limits.waits limit.nanos ≤ (s.turnPhases events).length →
          (s.run events).call.result.isSome)) ∧
    (∀ before after launched, events = before ++ after →
      (s.run before).record.launchedAt = some launched →
      launched + limit.nanos ≤ (s.run before).now →
        ((s.run before).turnPhases after).countP (·.stage? == some .token) ≤ 1 ∧
        ((s.run before).turnPhases after).countP (·.stage? == some .clock) ≤ 1 ∧
        (4 ≤ ((s.run before).turnPhases after).length →
          (s.run events).call.phase.stage? = none)) ∧
    ∃ turns ≤ 3, ((s.run events).run (List.replicate turns (.turn none))).call.phase =
      (s.run events).call.phase.look (s.run events).call.limits ((s.run events).glance none) := by
  intro s
  refine ⟨fun launched hlaunched inside now => ?_, fun pace => ⟨?_, fun obeyed enough => ?_⟩, ?_,
    (s.run events).exists_turns_of_look⟩
  · have htimeout := timeout_run answer timed hlaunched inside
    refine ⟨fun ahead => Limits.tick_pos ?_, ?_, Limits.tick_le_pollInterval ..⟩
    · simpa [s, htimeout] using ahead
    · rw [Limits.tick_eq_min_left (by rw [htimeout]; rfl), Limits.left, htimeout]
      exact Nat.min_le_left ..
  · exact countP_turnPhases_le (timed_start answer timed) pace
  · have hleft : s.stepsLeft limit none = 4 + 3 * Limits.waits limit.nanos + 4 := rfl
    exact isSome_result_run_of_paced (timed_start answer timed) (mortal_start answer r) pace
      obeyed (by omega)
  · rintro before after launched rfl hlaunched spent
    have hlate := late_run answer timed hlaunched spent
    refine ⟨(countP_turnPhases_of_late hlate (k := 3) (fun q here => ?_) after).1,
      (countP_turnPhases_of_late hlate (k := 4) (fun q here => ?_) after).1, fun turns => ?_⟩
    · have htoken : q.stage? = some .token := by simpa using here
      exact ⟨by rw [htoken]; rfl, CallPhase.order_of_token htoken⟩
    · have hclock : q.stage? = some .clock := by simpa using here
      exact ⟨by rw [hclock]; rfl, CallPhase.order_of_clock hclock⟩
    · rw [run_append]
      exact hlate.stage?_run_of_turns turns

/-- The client never ends. It is killed when its thirty nanoseconds are over. -/
theorem timeout_ends_call_of_endless_client :
    let r : CallRequest := ⟨.ofOptions ⟨"client", some ⟨30⟩, none⟩, .parse "a", .channel, none⟩
    let events := List.replicate 4 (.turn none) ++ .passes 30 :: List.replicate 7 (.turn none)
    (start (.running "client" (.ok ())) r).Paced none events ∧
      ((start (.running "client" (.ok ())) r).turnPhases events).countP (·.stage?.isSome) ≤ 7 ∧
      ((start (.running "client" (.ok ())) r).run events).call.result.isSome := by
  intro r events
  have timed : r.client.options.timeout = some ⟨30⟩ := rfl
  have hpace : (start (.running "client" (.ok ())) r).Paced none events := by decide +kernel
  have hwaits : Limits.waits 30 = 1 := by decide
  obtain ⟨-, waits, -, -⟩ :=
    timeout_ends_call (.running "client" (.ok ())) (r := r) timed events
  obtain ⟨looks, ends⟩ := waits hpace
  rw [hwaits] at looks ends
  exact ⟨hpace, looks, ends (by decide +kernel) (by decide +kernel)⟩

end CallScene

end InspectionHost
