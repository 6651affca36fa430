import InspectionHost.Proofs.Call.GivingUp
import InspectionHost.Proofs.Overlap.Scene

/-!
# Calls that overlap do not depend on each other

Of all that happens, some concerns one of the calls: the end of the process that is its own, the end
of its reader, the cancellation of its token, the clock, and its own turns. With that, the call
alone comes to the same phase and the same result as it does among the others, and it reports the
same.

What is received from the channel is told apart by a list in which each diagnostic stands beside the
call that has reported it.

## Main definitions

* `OverlapScene.hears` : what an event is for a call.
* `OverlapScene.view` : a call as it would be alone.
* `OverlapScene.hands` : what goes into the channel at an event, and for which call.

## Main results

* `CallScene.cancels_of_result` : a call that was cancelled has a token, which was cancelled.
* `OverlapScene.turn_cases` : what a turn of a call does, among others and alone.
* `OverlapScene.view_turn` : a turn of a call is a turn of the call alone.
* `OverlapScene.view_apply` : what happens to a call among others happens to it alone.
* `OverlapScene.exists_view_run` : a run is, for each call, a run of the call alone.
* `OverlapScene.independent_of_run` : calls that overlap.
-/

namespace InspectionHost

/-! ### Calls that were cancelled -/

namespace CallScene

/-- The token of a call is cancelled only if somebody has cancelled it. -/
theorem cancels_mem_of_cancelled {answer : LaunchAnswer} {r : CallRequest}
    {events : List CallEvent} (cancelled : ((start answer r).run events).cancelled = true) :
    .cancels ∈ events := by
  induction events using List.reverseRecOn with
  | nil => cases cancelled
  | append_singleton events e ih =>
    rw [run_append, run_cons, run_nil] at cancelled
    cases e with
    | cancels => simp
    | turn fault =>
      have before : ((start answer r).run events).cancelled = true := by
        simp only [apply, turn] at cancelled
        split at cancelled <;> exact cancelled
      exact List.mem_append_left _ (ih before)
    | exits status | captures capture | passes nanos =>
      exact List.mem_append_left _ (ih cancelled)

/-- A call that was cancelled has a token, and somebody has cancelled it. -/
theorem cancels_of_result {answer : LaunchAnswer} {r : CallRequest} {events : List CallEvent}
    (listens : r.sink ≠ .refusing) {f : Failure} (kind : f.kind = .cancelled)
    (returned : ((start answer r).run events).call.result = some (.ok (.failure f))) :
    r.token.isSome = true ∧ .cancels ∈ events := by
  obtain ⟨ending, phase, hresult, -⟩ := ending_of_result listens returned
  have outcome : ending.outcome = .failure f := hresult.symm
  have given : ((start answer r).run events).call.phase.IsGivenUp f := by
    cases ending with
    | completed status lines => cases outcome
    | failed g =>
      obtain rfl : g = f := Outcome.failure.inj outcome
      exact .inr (.inr phase)
  obtain ⟨before, fault, after, stage, rfl, -, stops⟩ :=
    exists_turn_of_isGivenUp (.inr kind) rfl given
  rcases LookStage.next_eq_error stops with ⟨-, -, -, cancelled⟩ | ⟨-, limit, -, -, -, rfl⟩
  · obtain ⟨token, flag⟩ := Bool.and_eq_true_iff.1 cancelled
    rw [request_run] at token
    exact ⟨token, List.mem_append_left _ (cancels_mem_of_cancelled flag)⟩
  · cases kind

end CallScene

theorem ActiveCall.conclude_withoutProcess (c : ActiveCall) :
    ({ c with process := none } : ActiveCall).conclude =
      (c.conclude.1, { c.conclude.2 with process := none }) := by
  unfold conclude
  split <;> simp_all

namespace OverlapScene

variable {n : Nat} {s t : OverlapScene n} {i j : Fin n} {fault : Option TurnFault}
  {ds : List Diagnostic}

/-! ### One of the calls -/

/-- What an event is for a call, if it concerns it. Behind a run it is known which process belongs
to which call. -/
def hears (s : OverlapScene n) (i : Fin n) : OverlapEvent n → Option CallEvent
  | .exits p status => if (s.parties i).call.process = some p then some (.exits status) else none
  | .captures j capture => if j = i then some (.captures capture) else none
  | .cancels token => if (s.parties i).call.token = some token then some .cancels else none
  | .passes nanos => some (.passes nanos)
  | .turn j fault => if j = i then some (.turn fault) else none
  | .receives => none

/-- What a call hears as the cancellation of its token is the cancellation of that token. -/
theorem exists_token_of_hears {e : OverlapEvent n} (heard : s.hears i e = some .cancels) :
    ∃ token, (s.parties i).call.token = some token ∧ e = .cancels token := by
  cases e with
  | cancels token =>
    obtain ⟨own, -⟩ := Option.ite_none_right_eq_some.1 heard
    exact ⟨token, own, rfl⟩
  | exits p status | captures j capture | turn j fault =>
    obtain ⟨-, heard⟩ := Option.ite_none_right_eq_some.1 heard
    cases heard
  | passes nanos | receives => cases heard

/-- A call as it would be alone, with what it has reported. -/
def view (s : OverlapScene n) (i : Fin n) (ds : List Diagnostic) : CallScene where
  answer := (s.parties i).answer
  process := s.process? (s.parties i)
  capture := (s.parties i).capture
  cancelled := s.isCancelled (s.parties i)
  now := s.now
  call := { (s.parties i).call with process := none }
  record := (s.parties i).record
  diagnostics := ds

/-- A call alone sees in its turn what it sees among others. -/
theorem glance_view (s : OverlapScene n) (i : Fin n) (ds : List Diagnostic)
    (fault : Option TurnFault) : (s.view i ds).glance fault = s.glance (s.parties i) fault := by
  have cancelled : ((s.parties i).call.token.isSome && s.isCancelled (s.parties i)) =
      s.isCancelled (s.parties i) := by
    unfold isCancelled
    cases (s.parties i).call.token <;> rfl
  exact congrArg (fun c => { s.glance (s.parties i) fault with cancelled := c }) cancelled

theorem view_launch (s : OverlapScene n) (i : Fin n) (ds : List Diagnostic) :
    (s.launch i).view i ds = (s.view i ds).launch := by
  have process : (s.launch i).process? ((s.launch i).parties i) =
      if (s.parties i).answer.runs then some .running else none := by
    cases runs : (s.parties i).answer.runs <;>
      simp [process?, launch, ActiveCall.launched, runs]
  simp only [view, process]
  simp only [launch, parties_withParty_self]
  rfl

theorem view_step (s : OverlapScene n) (i : Fin n) (ds : List Diagnostic)
    (fault : Option TurnFault) : (s.step i fault).view i ds = (s.view i ds).step fault := by
  have process : (s.step i fault).process? ((s.step i fault).parties i) =
      (s.process? (s.parties i)).map (·.after (s.parties i).call.phase
        (s.glance (s.parties i) fault) (fault == some .kill)) := by
    cases own : (s.parties i).call.process <;>
      simp [process?, step, ActiveCall.advance, own]
  simp only [CallScene.step, glance_view]
  simp only [view, process]
  simp only [step, parties_withParty_self]
  rfl

theorem view_conclude (s : OverlapScene n) (i : Fin n) (ds : List Diagnostic) :
    (s.conclude i).view i (ds ++ (s.parties i).call.conclude.1) = (s.view i ds).conclude := by
  have process : (s.conclude i).process? ((s.conclude i).parties i) =
      s.process? (s.parties i) := by
    simp [process?, conclude, withParty]
  have cancelled : (s.conclude i).isCancelled ((s.conclude i).parties i) =
      s.isCancelled (s.parties i) := by
    simp [isCancelled, conclude, withParty, ActiveCall.toCallRequest_conclude]
  simp only [CallScene.conclude, view, process, cancelled, ActiveCall.conclude_withoutProcess]
  simp only [conclude, parties_withParty_self]
  rfl

/-- A turn of a call is its launch, its end or a step, among others and alone. Only the end hands
something to the channel. -/
theorem turn_cases (s : OverlapScene n) (i : Fin n) (ds : List Diagnostic)
    (fault : Option TurnFault) :
    (s.turn i fault = s.launch i ∧ (s.view i ds).turn fault = (s.view i ds).launch ∧
        (s.view i ds).hands (.turn fault) = []) ∨
      (s.turn i fault = s.conclude i ∧ (s.view i ds).turn fault = (s.view i ds).conclude ∧
        (s.view i ds).hands (.turn fault) = (s.parties i).call.conclude.1) ∨
      (s.turn i fault = s.step i fault ∧
        (s.view i ds).turn fault = (s.view i ds).step fault ∧
        (s.view i ds).hands (.turn fault) = []) := by
  cases phase : (s.parties i).call.phase with
  | launching =>
    exact .inl ⟨by simp [turn, phase], by simp [CallScene.turn, view, phase],
      by simp [CallScene.hands, view, phase]⟩
  | finished ending =>
    have finished : (s.view i ds).call.phase = .finished ending := phase
    have reported := congrArg Prod.fst (s.parties i).call.conclude_withoutProcess
    refine .inr (.inl ⟨by simp [turn, phase], by simp [CallScene.turn, view, phase], ?_⟩)
    simp only [CallScene.hands, finished]
    exact reported
  | aborted abort =>
    have aborted : (s.view i ds).call.phase = .aborted abort := phase
    have reported := congrArg Prod.fst (s.parties i).call.conclude_withoutProcess
    refine .inr (.inl ⟨by simp [turn, phase], by simp [CallScene.turn, view, phase], ?_⟩)
    simp only [CallScene.hands, aborted]
    exact reported
  | _ =>
    exact .inr (.inr ⟨by simp [turn, phase], by simp [CallScene.turn, view, phase],
      by simp [CallScene.hands, view, phase]⟩)

/-- A turn of a call among others is a turn of the call alone. -/
theorem view_turn (s : OverlapScene n) (i : Fin n) (ds : List Diagnostic)
    (fault : Option TurnFault) :
    (s.turn i fault).view i (ds ++ (s.view i ds).hands (.turn fault)) =
      (s.view i ds).turn fault := by
  rcases s.turn_cases i ds fault with ⟨among, alone, hands⟩ | ⟨among, alone, hands⟩ |
    ⟨among, alone, hands⟩
  · rw [among, alone, hands, List.append_nil, view_launch]
  · rw [among, alone, hands, view_conclude]
  · rw [among, alone, hands, List.append_nil, view_step]

/-! ### What concerns other calls -/

theorem view_congr (party : t.parties i = s.parties i)
    (process : t.process? (s.parties i) = s.process? (s.parties i))
    (cancelled : t.isCancelled (s.parties i) = s.isCancelled (s.parties i))
    (now : t.now = s.now) : t.view i ds = s.view i ds := by
  simp only [view, party, process, cancelled, now]

theorem view_turn_of_ne (owned : s.Owned) (other : i ≠ j) (ds : List Diagnostic) :
    (s.turn j fault).view i ds = s.view i ds := by
  have unseen : (s.turn j fault).cancelled = s.cancelled ∧ (s.turn j fault).now = s.now := by
    unfold turn
    split <;> exact ⟨rfl, rfl⟩
  refine view_congr (parties_turn_of_ne other) ?_ (by rw [isCancelled, unseen.1]; rfl) unseen.2
  cases own : (s.parties i).call.process with
  | none => simp [process?, own]
  | some p =>
    simp only [process?, own, Option.bind_some]
    exact processes_turn (owned.there i p own) fun own' => other (owned.unique i j p own own')

/-- The end of a process is the end of the client of the call that owns it. -/
theorem view_exits (later : (s.parties i).GoesOn (t.parties i)) (p : Nat) (status : ExitStatus)
    (ds : List Diagnostic) : (s.apply (.exits p status)).view i ds =
      (s.view i ds).run (t.hears i (.exits p status)).toList := by
  cases own : (s.parties i).call.process with
  | none =>
    -- Whether the process will be that of the call or not, its end is nothing before its launch.
    have process : (s.apply (.exits p status)).process? (s.parties i) =
        s.process? (s.parties i) := by simp [process?, own]
    have same : (s.apply (.exits p status)).view i ds = s.view i ds :=
      view_congr rfl process rfl rfl
    have nothing : (s.view i ds).apply (.exits status) = s.view i ds := by
      simp [CallScene.apply, view, process?, own]
    rw [same, hears]
    split
    · exact nothing.symm
    · rfl
  | some q =>
    have still : (t.parties i).call.process = some q := later.process q own
    by_cases h : q = p
    · subst h
      simp only [hears, still, if_true, Option.toList_some, CallScene.run_cons, CallScene.run_nil]
      simp only [apply, CallScene.apply, view, process?, own, Option.bind_some,
        List.getElem?_modify_eq]
      rfl
    · have silent : t.hears i (.exits p status) = none := by simp [hears, still, h]
      have process : (s.apply (.exits p status)).process? (s.parties i) =
          s.process? (s.parties i) := by
        simp only [apply, process?, own, Option.bind_some]
        exact List.getElem?_modify_ne _ _ (Ne.symm h)
      rw [silent]
      exact view_congr rfl process rfl rfl

/-- The end of a reader is that of the reader of one call. -/
theorem view_captures (owned : s.Owned) (t : OverlapScene n) (j : Fin n) (capture : Capture)
    (ds : List Diagnostic) : (s.apply (.captures j capture)).view i ds =
      (s.view i ds).run (t.hears i (.captures j capture)).toList := by
  by_cases h : j = i
  · subst h
    have there : (s.process? (s.parties j)).isSome = (s.parties j).call.process.isSome := by
      cases own : (s.parties j).call.process with
      | none => simp [process?, own]
      | some p => simp [process?, own, owned.there j p own]
    have heard : t.hears j (.captures j capture) = some (.captures capture) := if_pos rfl
    rw [heard]
    simp only [Option.toList_some, CallScene.run_cons, CallScene.run_nil, CallScene.apply, view,
      there, apply, OverlapScene.capture, parties_withParty_self]
    rfl
  · have silent : t.hears i (.captures j capture) = none := if_neg h
    rw [silent]
    exact view_congr (parties_withParty_of_ne (Ne.symm h) _) rfl rfl rfl

/-- The cancellation of a token is that of the calls which have it. -/
theorem view_cancels (later : (s.parties i).GoesOn (t.parties i)) (token : Nat)
    (ds : List Diagnostic) : (s.apply (.cancels token)).view i ds =
      (s.view i ds).run (t.hears i (.cancels token)).toList := by
  have request : (t.parties i).call.token = (s.parties i).call.token := by rw [later.request]
  by_cases h : (s.parties i).call.token = some token
  · have heard : t.hears i (.cancels token) = some .cancels := by simp [hears, request, h]
    have cancelled : (s.apply (.cancels token)).isCancelled (s.parties i) = true := by
      simp [apply, isCancelled, h]
    rw [heard]
    exact congrArg (fun c => { s.view i ds with cancelled := c }) cancelled
  · have silent : t.hears i (.cancels token) = none := by simp [hears, request, h]
    have cancelled : (s.apply (.cancels token)).isCancelled (s.parties i) =
        s.isCancelled (s.parties i) := by
      cases own : (s.parties i).call.token with
      | none => simp [isCancelled, own]
      | some u =>
        have ne : u ≠ token := fun same => h (own.trans (congrArg some same))
        simp [apply, isCancelled, own, ne]
    rw [silent]
    exact view_congr rfl rfl cancelled rfl

/-! ### What is received -/

/-- What goes into the channel at an event, and for which call. -/
def hands (s : OverlapScene n) : OverlapEvent n → List (Fin n × Diagnostic)
  | .turn i fault => ((s.view i []).hands (.turn fault)).map (Prod.mk i)
  | .exits _ _ | .captures _ _ | .cancels _ | .passes _ | .receives => []

/-- The diagnostics of a call among those of all calls. -/
def part (i : Fin n) (tagged : List (Fin n × Diagnostic)) : List Diagnostic :=
  (tagged.filter (·.1 == i)).map Prod.snd

theorem part_append (i : Fin n) (tagged more : List (Fin n × Diagnostic)) :
    part i (tagged ++ more) = part i tagged ++ part i more := by
  simp [part]

theorem part_map_mk_self (i : Fin n) (ds : List Diagnostic) : part i (ds.map (Prod.mk i)) = ds := by
  simp [part, List.filter_map, Function.comp_def]

theorem part_map_mk_of_ne (other : j ≠ i) (ds : List Diagnostic) :
    part i (ds.map (Prod.mk j)) = [] := by
  simp [part, List.filter_map, Function.comp_def, other]

/-- What happens to a call among others happens to it alone. -/
theorem view_apply (owned : s.Owned) (later : (s.parties i).GoesOn (t.parties i))
    (e : OverlapEvent n) (ds : List Diagnostic) :
    (s.apply e).view i (ds ++ part i (s.hands e)) = (s.view i ds).run (t.hears i e).toList := by
  have quiet {e : OverlapEvent n} (none : s.hands e = []) :
      ds ++ part i (s.hands e) = ds := by
    rw [none]
    exact List.append_nil ds
  cases e with
  | exits p status =>
    rw [quiet rfl]
    exact view_exits later p status ds
  | captures j capture =>
    rw [quiet rfl]
    exact view_captures owned t j capture ds
  | cancels token =>
    rw [quiet rfl]
    exact view_cancels later token ds
  | passes nanos =>
    rw [quiet rfl]
    rfl
  | turn j fault =>
    by_cases h : j = i
    · subst h
      have heard : t.hears j (.turn j fault) = some (.turn fault) := if_pos rfl
      rw [heard, hands, part_map_mk_self]
      exact view_turn s j ds fault
    · have silent : t.hears i (.turn j fault) = none := if_neg h
      rw [silent, hands, part_map_mk_of_ne h, List.append_nil]
      exact view_turn_of_ne owned (Ne.symm h) ds
  | receives =>
    rw [quiet rfl]
    simp only [apply, receive]
    split <;> rfl

/-- What is handed to the channel comes behind what was handed before, and whatever is received is
the first that waits. -/
theorem received_apply (live : s.channel.receiving = true) (e : OverlapEvent n) :
    (s.apply e).channel.receiving = true ∧
      (s.apply e).received ++ (s.apply e).channel.waiting =
        s.received ++ s.channel.waiting ++ (s.hands e).map Prod.snd := by
  have still (same : s.hands e = []) : s.received ++ s.channel.waiting =
      s.received ++ s.channel.waiting ++ (s.hands e).map Prod.snd := by
    rw [same]
    exact (List.append_nil _).symm
  cases e with
  | exits p status | captures j capture | cancels token | passes nanos => exact ⟨live, still rfl⟩
  | turn i fault =>
    have handed : (s.hands (.turn i fault)).map Prod.snd = (s.view i []).hands (.turn fault) := by
      simp [hands, Function.comp_def]
    rw [handed]
    rcases s.turn_cases i [] fault with ⟨among, -, none⟩ | ⟨among, -, some⟩ | ⟨among, -, none⟩
    · rw [apply, among, none, List.append_nil]
      exact ⟨live, rfl⟩
    · rw [apply, among, some, List.append_assoc]
      exact ⟨(s.channel.receiving_foldl_report _ _).trans live,
        congrArg _ (s.channel.waiting_foldl_report _ _ live)⟩
    · rw [apply, among, none, List.append_nil]
      exact ⟨live, rfl⟩
  | receives =>
    cases waiting : s.channel.waiting with
    | nil =>
      cases handles : s.channel.handles.isEmpty <;>
        simp [apply, receive, DiagnosticChannel.tryReceive, hands, live, waiting, handles]
    | cons d rest =>
      simp [apply, receive, DiagnosticChannel.tryReceive, hands, live, waiting]

/-! ### Runs -/

/-- A run is, for each call, a run of the call alone, and what is received and what waits is put
together from what the calls have reported. -/
theorem exists_view_run (owned : s.Owned) (live : s.channel.receiving = true)
    (tagged : List (Fin n × Diagnostic))
    (told : tagged.map Prod.snd = s.received ++ s.channel.waiting)
    (events : List (OverlapEvent n)) :
    ∃ tagged', tagged'.map Prod.snd = (s.run events).received ++ (s.run events).channel.waiting ∧
      ∀ i, (s.run events).view i (part i tagged') =
        (s.view i (part i tagged)).run (events.filterMap ((s.run events).hears i)) := by
  -- The scene at the end stays the same in the induction, and with it what each call hears.
  induction events generalizing s tagged with
  | nil => exact ⟨tagged, told, fun _ => rfl⟩
  | cons e events ih =>
    obtain ⟨live', handed⟩ := received_apply live e
    have told' : (tagged ++ s.hands e).map Prod.snd =
        (s.apply e).received ++ (s.apply e).channel.waiting := by
      rw [handed, List.map_append, told]
    obtain ⟨tagged', later, views⟩ := ih (owned.apply e) live' _ told'
    refine ⟨tagged', later, fun i => ?_⟩
    have first := view_apply owned (owned.goesOn_run (e :: events) i) e (part i tagged)
    have split (f : OverlapEvent n → Option CallEvent) :
        (e :: events).filterMap f = (f e).toList ++ events.filterMap f := by
      cases heard : f e <;> simp [heard]
    rw [split, CallScene.run_append, ← first, ← part_append]
    exact views i

theorem view_start (client : Client) (asked : Fin n → Asked) (i : Fin n) :
    (start client asked).view i [] = .start (asked i).answer ((asked i).request client) := by
  have cancelled : (start client asked).isCancelled ((start client asked).parties i) = false := by
    change (asked i).token.any [].contains = false
    cases (asked i).token <;> rfl
  simp only [view, cancelled]
  rfl

/-- **Calls that overlap do not depend on each other.** Take any number of calls through clones of
one executor whose sink is a channel, with tokens of which some may be shared. Let the clients be
started or not, and let all steps of the calls, their clients and readers, the cancellations and the
receptions come in any order.

* A process that was started belongs to exactly one call. A call has a process, one of its own, as
  soon as it is launched, if the system starts its client.
* A call has the result that it has alone when its client and its reader come to the same end at
  the same time, and its token has the same history. It has the same phase, and has done the same.
* A call that ends as cancelled was given a token, and that token was cancelled.
* What was received and what waits to be received can be told apart into what each of the calls
  reports when it is alone. -/
theorem independent_of_run (client : Client) (asked : Fin n → Asked)
    (events : List (OverlapEvent n)) :
    let s := (start client asked).run events
    let alone (i : Fin n) : CallScene := (CallScene.start (asked i).answer
      ((asked i).request client)).run (events.filterMap (s.hears i))
    (∀ p, p < s.processes.length ↔ ∃! i, (s.parties i).call.process = some p) ∧
    (∀ i, (∃ p, (s.parties i).call.process = some p) ↔
      (s.parties i).call.phase ≠ .launching ∧ (asked i).answer.runs = true) ∧
    (∀ i, (s.parties i).call.result = (alone i).call.result ∧
      s.view i (alone i).diagnostics = alone i) ∧
    (∀ i f, (s.parties i).call.result = some (.ok (.failure f)) → f.kind = .cancelled →
      ∃ token, (asked i).token = some token ∧ .cancels token ∈ events) ∧
    ∃ tagged : List (Fin n × Diagnostic),
      tagged.map Prod.snd = s.received ++ s.channel.waiting ∧
        ∀ i, (tagged.filter (·.1 == i)).map Prod.snd = (alone i).diagnostics := by
  intro s alone
  have owned : s.Owned := owned_run (owned_start client asked) events
  obtain ⟨tagged, told, views⟩ :=
    exists_view_run (owned_start client asked) rfl [] rfl events
  have same (i : Fin n) : s.view i (part i tagged) = alone i := by
    rw [views i]
    exact congrArg (CallScene.run · _) (view_start client asked i)
  have parts (i : Fin n) : part i tagged = (alone i).diagnostics :=
    congrArg CallScene.diagnostics (same i)
  have result (i : Fin n) : (s.parties i).call.result = (alone i).call.result :=
    congrArg (·.call.result) (same i)
  refine ⟨fun p => ⟨fun there => ?_, ?_⟩, fun i => ?_, fun i => ⟨result i, ?_⟩,
    fun i f returned kind => ?_, tagged, told, parts⟩
  · obtain ⟨i, own⟩ := owned.exists_owner p there
    exact ⟨i, own, fun j own' => owned.unique j i p own' own⟩
  · rintro ⟨i, own, -⟩
    exact owned.there i p own
  · have answer : (s.parties i).answer = (asked i).answer := by
      have given : (s.parties i).answer = (alone i).answer := congrArg CallScene.answer (same i)
      rw [given, CallScene.answer_run]
      rfl
    rw [← Option.isSome_iff_exists, owned.started i, answer]
  · rw [← parts i]
    exact same i
  · rw [result i] at returned
    obtain ⟨-, cancelled⟩ := CallScene.cancels_of_result (by exact nofun) kind returned
    obtain ⟨e, happened, heard⟩ := List.mem_filterMap.1 cancelled
    obtain ⟨token, own, rfl⟩ := exists_token_of_hears heard
    have kept := (owned_start client asked).goesOn_run events i
    exact ⟨token, (congrArg CallRequest.token kept.request).symm.trans own, happened⟩

/-- Two of three calls share a token, which is cancelled while all clients run. One of the two ends
as cancelled and the other has not looked yet; the third call, which has no token, has its
output. -/
theorem independent_of_run_shared_token :
    let asked (i : Fin 3) : Asked :=
      ⟨.parse "a", if i = 2 then none else some 0, .direct, .running "client" (.ok ())⟩
    let events : List (OverlapEvent 3) := [.turn 0 none, .turn 1 none, .turn 2 none,
      .turn 0 none, .cancels 0, .turn 0 none, .turn 0 none, .exits 2 (.code 0), .turn 2 none,
      .captures 2 (.lines ["b"]), .turn 0 none, .turn 2 none, .turn 0 none, .turn 2 none, .receives]
    let s := (start (.ofOptions .standard) asked).run events
    ((s.parties 0).call.result = some (.ok (.failure .cancelled)) ∧
      (s.parties 1).call.result = none ∧
      (s.parties 2).call.result = some (.ok (.output "b")) ∧
      s.processes = [.reaped (.signal 9), .running, .reaped (.code 0)] ∧
      s.received = [Failure.cancelled.diagnostic]) ∧
      ∃ token, (asked 0).token = some token ∧ .cancels token ∈ events := by
  intro asked events s
  refine ⟨by decide +kernel, ?_⟩
  have returned : (s.parties 0).call.result = some (.ok (.failure .cancelled)) := by
    decide +kernel
  have same : (start (.ofOptions .standard) asked).run events = s := rfl
  obtain ⟨-, -, -, cancelled, -⟩ := independent_of_run (.ofOptions .standard) asked events
  rw [same] at cancelled
  -- The scene is not to be computed again.
  clear_value s
  exact cancelled 0 .cancelled returned rfl

end OverlapScene

end InspectionHost
