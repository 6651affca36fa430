import InspectionHost.Proofs.Call.GivingUp

/-!
# Calls with and without limits

The same client can be called with limits and without. The call without limits waits for the end
of the client and then for its output, however long that takes. Along one course of events it is
never behind the call with limits, so an output that the call with limits collects is the output
that the call without limits collects. If the call with limits fails, then it was given up in a
turn that found a limit reached. A call whose turns find what they wait for is not given up,
whatever its limits are.

A course is the course of a client if the client ends with a given status, its output consists of
given lines, and the system always tells how its process is.

## Main definitions

* `CallRequest.unlimited` : the request without limits.
* `CallEvent.IsOf` : the event can happen to a client with the given status and output.
* `CallScene.Shows` : nothing but the status and the output of that client can be seen.
* `CallScene.Unhurried` : how a call without limits stands.
* `CallScene.Abreast` : a call without limits is not behind one with limits.

## Main results

* `CallScene.shows_run`, `CallScene.unhurried_run`, `CallScene.abreast_run` : what holds along
  every course of the client.
* `CallScene.phase_of_course` : how the call with limits ends, next to the call without.
-/

namespace InspectionHost

/-- The request without limits. -/
def CallRequest.unlimited (r : CallRequest) : CallRequest :=
  { r with
    client := { r.client with options := { r.client.options with timeout := none } }
    token := none }

/-- The event can happen to a client that ends with the given status and whose output consists of
the given lines, and the system tells how the client is. -/
def CallEvent.IsOf (status : ExitStatus) (lines : List String) : CallEvent → Prop
  | exits final => final = status
  | captures capture => capture = .lines lines
  | turn (some (.wait _)) => False
  | _ => True

namespace CallScene

variable {status : ExitStatus} {lines : List String} {path : String} {s b u : CallScene}
  {e : CallEvent} {events : List CallEvent} {fault : Option TurnFault}

/-! ### What can be seen of the client -/

/-- Nothing but the status and the output of the client can be seen, as long as the client is not
killed. -/
structure Shows (status : ExitStatus) (lines : List String) (s : CallScene) : Prop where
  exit : s.record.kills = 0 → ∀ final, s.process.bind ClientProcess.status? = some final →
    final = status
  capture : s.capture = .pending ∨ s.capture = .lines lines

/-- No event of the client shows anything else. -/
theorem Shows.apply (h : s.Shows status lines) (client : e.IsOf status lines) :
    (s.apply e).Shows status lines := by
  cases e with
  | exits final =>
    obtain rfl : final = status := client
    refine ⟨fun spared last hlast => ?_, h.capture⟩
    cases hp : s.process with
    | none => simp [CallScene.apply, hp] at hlast
    | some p =>
      cases hstatus : p.status? with
      | none => simpa [CallScene.apply, hp, hstatus, eq_comm] using hlast
      | some first =>
        exact h.exit spared last (by simpa [CallScene.apply, hp, hstatus] using hlast)
  | captures capture =>
    obtain rfl : capture = .lines lines := client
    refine ⟨h.exit, ?_⟩
    simp only [CallScene.apply]
    split
    · exact .inr rfl
    · exact h.capture
  | cancels | passes _ => exact ⟨h.exit, h.capture⟩
  | turn fault =>
    refine ⟨fun spared final hfinal => ?_, by simpa [CallScene.apply] using h.capture⟩
    obtain ⟨before, hkilling⟩ := spared_of_turn spared
    by_cases fresh : s.call.phase = .launching
    · simp only [CallScene.apply, CallScene.turn, fresh, launch] at hfinal
      split at hfinal <;> simp [ClientProcess.status?] at hfinal
    · rw [CallScene.apply, status?_turn fresh hkilling] at hfinal
      exact h.exit before final hfinal

/-- Along a course of the client, nothing but its status and its output can be seen. -/
theorem shows_run (answer : LaunchAnswer) (r : CallRequest)
    (client : ∀ e ∈ events, e.IsOf status lines) :
    ((start answer r).run events).Shows status lines := by
  induction events using List.reverseRecOn with
  | nil => exact ⟨fun _ _ h => by simp [start] at h, .inl rfl⟩
  | append_singleton events e ih =>
    rw [run_append, run_cons, run_nil]
    exact (ih fun e here => client e (List.mem_append_left _ here)).apply (client e (by simp))

/-! ### The call without limits -/

/-- How a call without limits stands: it waits, collects, and is completed. -/
inductive Unhurried (status : ExitStatus) (lines : List String) (s : CallScene) : Prop where
  | launching (phase : s.call.phase = .launching)
  | waiting (phase : s.call.phase = .waiting .event) (free : s.call.limits.isUnbounded = true)
  | collecting (phase : s.call.phase = .collecting status .event)
      (free : s.call.limits.isUnbounded = true)
  | completed (phase : s.call.phase = .finished (.completed status lines))

/-- A turn leads a call without limits from one way to stand to another. -/
theorem Unhurried.turn {r : CallRequest} (h : s.Unhurried status lines)
    (standing : s.Standing False) (shows : s.Shows status lines)
    (answer : s.answer = .running path (.ok ())) (asked : s.call.toCallRequest = r.unlimited)
    (told : ∀ error, fault ≠ some (.wait error)) : (s.turn fault).Unhurried status lines := by
  have hnext {g : Glance} {next : LookStage} (free : s.call.limits.isUnbounded = true)
      (h : LookStage.event.next s.call.limits g = .ok next) : next = .event := by
    simpa [LookStage.next, free, eq_comm] using h
  cases h with
  | launching phase =>
    have hturn : s.turn fault = s.launch := by simp [CallScene.turn, phase]
    rw [hturn]
    have limits : s.call.startingLimits s.now = .ok ⟨none, false⟩ := by
      rw [ActiveCall.startingLimits, asked]
      rfl
    refine .waiting (phase_launch_of_ok answer limits) ?_
    rw [launch, ActiveCall.launched, limits]
    rfl
  | waiting phase free =>
    have hturn : s.turn fault = s.step fault := by simp [CallScene.turn, phase]
    have hphase : (s.turn fault).call.phase =
        CallPhase.awaitExit s.call.limits .event (s.glance fault) := by
      rw [hturn, phase_step, phase]
      rfl
    rcases CallPhase.awaitExit_cases s.call.limits .event (s.glance fault) with
      ⟨final, -, hexit, hstep⟩ | ⟨error, -, hexit, -⟩ |
      ⟨-, ⟨stage, goesOn, hstep⟩ | ⟨f, hover, -⟩⟩
    · have hfinal : final = status := by
        obtain ⟨_, record, -⟩ := standing.of_waiting phase
        exact shows.exit (by rw [record]) final (status?_of_exit_glance hexit)
      exact .collecting (by rw [hphase, hstep, hfinal]) (by rw [hturn]; exact free)
    · exact (told error (fault_of_exit_glance hexit)).elim
    · obtain rfl := hnext free goesOn
      exact .waiting (hphase.trans hstep) (by rw [hturn]; exact free)
    · cases hover
  | collecting phase free =>
    have hturn : s.turn fault = s.step fault := by simp [CallScene.turn, phase]
    have hphase : (s.turn fault).call.phase =
        CallPhase.awaitLines s.call.limits status .event (s.glance fault) := by
      rw [hturn, phase_step, phase]
      rfl
    have hcapture : (s.glance fault).capture = .pending ∨ (s.glance fault).capture = .lines lines :=
      shows.capture
    rcases CallPhase.awaitLines_cases s.call.limits status .event (s.glance fault) with
      ⟨told', -, hlines, hstep⟩ | ⟨_, -, hfailed, -, -⟩ |
      ⟨-, ⟨stage, goesOn, hstep⟩ | ⟨f, hover, -⟩⟩
    · have htold : told' = lines := by simpa [hlines] using hcapture
      exact .completed (by rw [hphase, hstep, htold])
    · rcases hfailed with ⟨_, failed⟩ | failed <;> simp [failed] at hcapture
    · obtain rfl := hnext free goesOn
      exact .collecting (hphase.trans hstep) (by rw [hturn]; exact free)
    · cases hover
  | completed phase =>
    have hturn : s.turn fault = s.conclude := by simp [CallScene.turn, phase]
    exact .completed (by rw [hturn]; simp [conclude, phase])

/-- A call without limits waits, collects, and is completed. -/
theorem unhurried_run (r : CallRequest) (client : ∀ e ∈ events, e.IsOf status lines) :
    ((start (.running path (.ok ())) r.unlimited).run events).Unhurried status lines := by
  induction events using List.reverseRecOn with
  | nil => exact .launching rfl
  | append_singleton events e ih =>
    have hbefore : ∀ e ∈ events, e.IsOf status lines :=
      fun e here => client e (List.mem_append_left _ here)
    rw [run_append, run_cons, run_nil]
    cases e with
    | turn fault =>
      have hclient : (CallEvent.turn fault).IsOf status lines := client _ (by simp)
      refine (ih hbefore).turn (r := r) (standing_run _ _ fun error here => hbefore _ here)
        (shows_run _ _ hbefore) (answer_run ..) (request_run ..) fun error hfault => ?_
      rw [hfault] at hclient
      exact hclient
    | _ =>
      cases ih hbefore with
      | launching phase => exact .launching phase
      | waiting phase free => exact .waiting phase free
      | collecting phase free => exact .collecting phase free
      | completed phase => exact .completed phase

theorem Unhurried.spared (h : s.Unhurried status lines) (f : Failure) :
    s.call.phase ≠ .killing f := by
  cases h with
  | launching phase | waiting phase | collecting phase | completed phase => simp [phase]

/-! ### Both calls along one course -/

/-- Two calls of one client see the same of it, up to a kill by the first, and the second call is
not behind the first: it has found and collected whatever the first has. -/
structure Abreast (b u : CallScene) : Prop where
  capture : u.capture = b.capture
  started : u.process.isSome = b.process.isSome
  exit : b.record.kills = 0 →
    u.process.bind ClientProcess.status? = b.process.bind ClientProcess.status?
  found : b.record.found.isSome → u.record.found.isSome
  collected : b.record.collected.isSome → u.record.collected.isSome

section Turn

variable (h : Abreast b u) (hb : b.Standing False) (hu : u.Standing False)
  (free : u.Unhurried status lines)

include h hb hu free

/-- What a turn of the first call finds, a turn of the second finds, unless it has found it. -/
theorem Abreast.found_turn (told : ∀ error, fault ≠ some (.wait error))
    (launched : u.call.phase ≠ .launching) (now : (b.turn fault).record.found.isSome) :
    (u.turn fault).record.found.isSome := by
  rcases found_of_turn now with before | ⟨hphase, final, hexit⟩
  · exact CallScene.found_turn (h.found before) fault
  · obtain ⟨_, hrecord, -⟩ := hb.of_waiting hphase
    have hstatus : u.process.bind ClientProcess.status? = some final := by
      rw [h.exit (by rw [hrecord])]
      exact status?_of_exit_glance hexit
    cases free with
    | launching phase => exact (launched phase).elim
    | waiting phase =>
      simp [CallScene.turn, phase, record_step, CallRecord.after,
        exit_glance_of_status? told hstatus]
    | collecting phase =>
      obtain ⟨_, record, -⟩ := hu.of_collecting phase
      exact CallScene.found_turn (by rw [record]; rfl) fault
    | completed phase =>
      obtain ⟨-, -, _, record⟩ := hu.of_completed phase
      exact CallScene.found_turn (by rw [record]; rfl) fault

/-- What a turn of the first call collects, a turn of the second collects, unless it has. -/
theorem Abreast.collected_turn (now : (b.turn fault).record.collected.isSome) :
    (u.turn fault).record.collected.isSome := by
  rcases collected_of_turn now with before | ⟨⟨final, hphase⟩, told', hcapture⟩
  · exact CallScene.collected_turn (h.collected before) fault
  · obtain ⟨_, hrecord, -⟩ := hb.of_collecting hphase
    have hfound : u.record.found.isSome := h.found (by rw [hrecord]; rfl)
    have hlines : (u.glance fault).capture = .lines told' := h.capture.trans hcapture
    cases free with
    | launching phase => simp [hu.of_launching phase, CallRecord.blank] at hfound
    | waiting phase =>
      obtain ⟨_, record, -⟩ := hu.of_waiting phase
      simp [record] at hfound
    | collecting phase =>
      simp [CallScene.turn, phase, record_step, CallRecord.after, hlines]
    | completed phase =>
      obtain ⟨-, -, _, record⟩ := hu.of_completed phase
      exact CallScene.collected_turn (by rw [record]; rfl) fault

/-- A turn of both calls leaves the second not behind the first. -/
theorem Abreast.turn (told : ∀ error, fault ≠ some (.wait error))
    (hanswer : b.answer = .running path (.ok ()))
    (hanswer' : u.answer = .running path (.ok ())) :
    (b.turn fault).Abreast (u.turn fault) := by
  have hfresh : b.call.phase = .launching ↔ u.call.phase = .launching := by
    rw [hb.launching_iff (by rw [hanswer]; rfl), hu.launching_iff (by rw [hanswer']; rfl),
      ← Option.not_isSome_iff_eq_none, ← Option.not_isSome_iff_eq_none, h.started]
  by_cases fresh : b.call.phase = .launching
  · have hblaunch : b.turn fault = b.launch := by simp [CallScene.turn, fresh]
    have hulaunch : u.turn fault = u.launch := by simp [CallScene.turn, hfresh.1 fresh]
    rw [hblaunch, hulaunch]
    exact
      { capture := h.capture
        started := by simp [launch, hanswer, hanswer']
        exit := fun _ => by simp [launch, hanswer, hanswer']
        found := h.found
        collected := h.collected }
  · have fresh' : u.call.phase ≠ .launching := mt hfresh.2 fresh
    refine
      { capture := by simp [h.capture]
        started := ?_
        exit := fun spared => ?_
        found := h.found_turn hb hu free told fresh'
        collected := h.collected_turn hb hu free }
    · rw [isSome_process_turn fresh', isSome_process_turn fresh, h.started]
    · obtain ⟨before, hkilling⟩ := spared_of_turn spared
      rw [status?_turn fresh' free.spared, status?_turn fresh hkilling, h.exit before]

end Turn

theorem Abreast.frame (h : b.Abreast u) (quiet : ∀ fault, e ≠ .turn fault) :
    (b.apply e).Abreast (u.apply e) := by
  cases e with
  | turn fault => exact (quiet fault rfl).elim
  | captures capture =>
    exact { h with capture := by simp [CallScene.apply, h.capture, h.started] }
  | exits status =>
    refine { h with started := by simp [CallScene.apply, h.started], exit := fun spared => ?_ }
    have hstarted := h.started
    have hstatus := h.exit spared
    cases hb : b.process <;> cases hu : u.process <;> simp_all [CallScene.apply]
  | cancels | passes _ => exact { h with }

/-- Along a course of the client, the call without limits is never behind the call with limits. -/
theorem abreast_run (r : CallRequest) (client : ∀ e ∈ events, e.IsOf status lines) :
    ((start (.running path (.ok ())) r).run events).Abreast
      ((start (.running path (.ok ())) r.unlimited).run events) := by
  induction events using List.reverseRecOn with
  | nil => exact ⟨rfl, rfl, fun _ => rfl, id, id⟩
  | append_singleton events e ih =>
    have hbefore : ∀ e ∈ events, e.IsOf status lines :=
      fun e here => client e (List.mem_append_left _ here)
    have htold (error : IoError) : .turn (some (.wait error)) ∉ events := hbefore _
    rw [run_append, run_cons, run_nil, run_append, run_cons, run_nil]
    by_cases quiet : ∀ fault, e ≠ .turn fault
    · exact (ih hbefore).frame quiet
    · obtain ⟨fault, rfl⟩ := not_forall_not.1 quiet
      have hclient : (CallEvent.turn fault).IsOf status lines := client _ (by simp)
      refine (ih hbefore).turn (standing_run _ _ htold) (standing_run _ _ htold)
        (unhurried_run r hbefore) (fun error hfault => ?_) (answer_run ..) (answer_run ..)
      rw [hfault] at hclient
      exact hclient

/-! ### How both calls end -/

theorem phase_run_of_finished {ending : CallEnding} (finished : s.call.phase = .finished ending)
    (events : List CallEvent) : (s.run events).call.phase = .finished ending := by
  induction events generalizing s with
  | nil => exact finished
  | cons e events ih =>
    refine ih ?_
    cases e with
    | turn fault => simp [apply, turn, finished, conclude]
    | _ => exact finished

theorem call_run_of_quiet (quiet : ∀ fault, .turn fault ∉ events) :
    (s.run events).call = s.call := by
  induction events generalizing s with
  | nil => rfl
  | cons e events ih =>
    rw [run_cons, ih fun fault here => quiet fault (List.mem_cons_of_mem _ here)]
    exact call_apply_of_ne_turn fun fault he => quiet fault (by simp [he])

theorem phase_turn_of_ended (waits : s.call.phase = .waiting .event)
    (ended : (s.glance fault).exit = .ended status) :
    (s.turn fault).call.phase = .collecting status .event := by
  simp [turn, waits, phase_step, CallPhase.step, CallPhase.awaitExit, ended]

theorem phase_turn_of_lines (collects : s.call.phase = .collecting status .event)
    (told : s.capture = .lines lines) :
    (s.turn fault).call.phase = .finished (.completed status lines) := by
  simp [turn, collects, phase_step, CallPhase.step, CallPhase.awaitLines, glance, told]

/-- A call that finds the end of its client in one turn and its output in the next is completed,
whatever its limits are. -/
theorem phase_of_timely_turns {fault fault' : Option TurnFault} {between after : List CallEvent}
    (waits : s.call.phase = .waiting .event) (ended : (s.glance fault).exit = .ended status)
    (quiet : ∀ fault, .turn fault ∉ between)
    (told : (s.run (.turn fault :: between)).capture = .lines lines) :
    (s.run (.turn fault :: (between ++ .turn fault' :: after))).call.phase =
      .finished (.completed status lines) := by
  have hcollects : (s.run (.turn fault :: between)).call.phase = .collecting status .event := by
    rw [run_cons, call_run_of_quiet quiet]
    exact phase_turn_of_ended waits ended
  have hsplit : s.run (.turn fault :: (between ++ .turn fault' :: after)) =
      ((s.run (.turn fault :: between)).turn fault').run after := by
    rw [← List.cons_append, run_append, run_cons]
    rfl
  rw [hsplit]
  exact phase_run_of_finished (phase_turn_of_lines hcollects told) after

/-- **Calls with and without limits.** Let a client be launched whose output is read, let it end
with a status and write some lines, at any times, and let the system always tell how it is. Then
for every request and every course of events, next to the same course of the call without limits:

* If the call with limits is completed, then with the status and the lines of the client, and the
  call without limits is completed with the same. That call ends in no other way.
* If the call with limits fails, then it was cancelled in a turn that found its token cancelled,
  or it timed out in a turn that found its time over, behind a turn that did not find its token
  cancelled.
* If a turn finds that the client has ended and the output is there at the next turn, then the call
  is completed, also when its token is cancelled or its time is over. -/
theorem phase_of_course (r : CallRequest) (path : String) (status : ExitStatus)
    (lines : List String) (events : List CallEvent)
    (client : ∀ e ∈ events, e.IsOf status lines) :
    let s := start (.running path (.ok ())) r
    let u := start (.running path (.ok ())) r.unlimited
    (∀ final told, (s.run events).call.phase = .finished (.completed final told) →
      final = status ∧ told = lines ∧
        (u.run events).call.phase = .finished (.completed status lines)) ∧
    (∀ ending, (u.run events).call.phase = .finished ending →
      ending = .completed status lines) ∧
    (∀ f, (s.run events).call.phase = .finished (.failed f) →
      (f = .cancelled ∧ s.FoundCancelled events) ∨
        ∃ limit, f = .timedOut limit ∧ s.FoundLate events limit) ∧
    (∀ before fault between fault' after final told,
      events = before ++ .turn fault :: (between ++ .turn fault' :: after) →
      (s.run before).call.phase = .waiting .event →
      ((s.run before).glance fault).exit = .ended final → (∀ fault, .turn fault ∉ between) →
      (s.run (before ++ .turn fault :: between)).capture = .lines told →
      (s.run events).call.phase = .finished (.completed final told)) := by
  intro s u
  have htold (error : IoError) : .turn (some (.wait error)) ∉ events := client _
  have hs : (s.run events).Standing False := standing_run _ r htold
  have hu : (u.run events).Standing False := standing_run _ r.unlimited htold
  have hshows : (s.run events).Shows status lines := shows_run _ r client
  have hfree : (u.run events).Unhurried status lines := unhurried_run r client
  have habreast : (s.run events).Abreast (u.run events) := abreast_run r client
  refine ⟨fun final told finished => ?_, fun ending finished => ?_, fun f finished => ?_, ?_⟩
  · obtain ⟨hprocess, hcapture, time, hrecord⟩ := hs.of_completed finished
    have hfinal : final = status :=
      hshows.exit (by rw [hrecord]) final (by rw [hprocess]; rfl)
    have hlines : told = lines := by simpa [hcapture] using hshows.capture
    have hcollected : (u.run events).record.collected.isSome :=
      habreast.collected (by rw [hrecord]; rfl)
    refine ⟨hfinal, hlines, ?_⟩
    cases hfree with
    | launching phase => simp [hu.of_launching phase, CallRecord.blank] at hcollected
    | waiting phase =>
      obtain ⟨_, record, -⟩ := hu.of_waiting phase
      simp [record] at hcollected
    | collecting phase =>
      obtain ⟨_, record, -⟩ := hu.of_collecting phase
      simp [record] at hcollected
    | completed phase => exact phase
  · cases hfree with
    | launching phase | waiting phase | collecting phase => simp [phase] at finished
    | completed phase => simpa [phase, eq_comm] using finished
  · have hanswer : (s.run events).answer = .running path (.ok ()) := answer_run ..
    refine found_of_isGivenUp ?_ (.inr (.inr finished))
    rcases hs.of_failed finished with runs | (⟨_, _, other, -⟩ | ⟨-, limit⟩) | faulty | unread
    · rw [hanswer] at runs
      cases runs
    · rw [hanswer] at other
      cases other
    · exact limit
    · exact faulty.elim
    · rcases unread with ⟨_, failed⟩ | lost | limit
      · simpa [failed] using hshows.capture
      · simpa [lost] using hshows.capture
      · exact limit
  · rintro before fault between fault' after final told rfl waits ended quiet hcapture
    rw [run_append] at hcapture ⊢
    exact phase_of_timely_turns waits ended quiet hcapture

/-- A call is cancelled and its time is over before it looks at its client for the first time. The
client has ended and its output is there, so the call is completed. -/
theorem phase_of_course_cancelled_late :
    let r : CallRequest := ⟨.ofOptions ⟨"client", some ⟨30⟩, none⟩, .parse "a", .channel, some 0⟩
    let events : List CallEvent := [.turn none, .captures (.lines ["a"]), .cancels, .passes 50,
      .exits (.code 0), .turn none, .turn none]
    (∀ e ∈ events, e.IsOf (.code 0) ["a"]) ∧
      ((start (.running "client" (.ok ())) r).run events).call.phase =
        .finished (.completed (.code 0) ["a"]) := by
  intro r events
  have client : ∀ e ∈ events, e.IsOf (.code 0) ["a"] := by simp [events, CallEvent.IsOf]
  obtain ⟨-, -, -, timely⟩ := phase_of_course r "client" (.code 0) ["a"] events client
  refine ⟨client, timely (events.take 5) none [] none [] (.code 0) ["a"] ?_ rfl rfl (by simp) rfl⟩
  rfl

end CallScene

end InspectionHost
