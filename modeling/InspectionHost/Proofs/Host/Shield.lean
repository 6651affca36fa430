import InspectionHost.Proofs.Host.Calls
import InspectionHost.Proofs.Machine.Paths

/-!
# Calls on another thread

A call can be run as a task of another thread. What the task brings is handed on as it is. If the
task is aborted, the call fails instead, and the failure is reported to the sink of the call.
Nothing shields the caller from that report: a sink that refuses it aborts the caller, and it may
be the sink whose refusal aborted the task.

The sinks of the host are of three kinds. Here a sink is any rule by which reports are taken or
refused, and the three kinds are such rules.

## Main definitions

* `TaskAbort` : what is left of a task that was aborted, and the failure that it becomes.
* `SinkRule` : a sink of any kind.
* `Told` : what a call has told such a sink.
* `SinkRule.conclude`, `SinkRule.shield` : the end of a call, and the end of its task.

## Main results

* `Sink.told_conclude`, `Sink.told_shielded` : the sinks of the host are such rules.
* `SinkRule.outcome_of_shield` : what a call on another thread brings, with any sink.
-/

namespace InspectionHost

variable {τ : Type}

/-! ### Sinks of any kind -/

/-- What is left of a task that was aborted: the text of the abort, if it has one. -/
structure TaskAbort where
  text : Option String
  deriving DecidableEq, Repr

/-- The failure of a call whose task was aborted. -/
def TaskAbort.failure (task : Nat) (abort : TaskAbort) : Failure :=
  .io ("client task failed: task " ++ Text.Decimal.print task ++ " panicked" ++
    match abort.text with
    | some text => " with message " ++ Text.Quoted.quote text
    | none => "")

/-- A sink of any kind. In each of its states it takes a diagnostic or aborts whoever reports it,
and goes on in some state. -/
structure SinkRule (τ : Type) where
  report : τ → Diagnostic → Except TaskAbort Unit × τ

/-- What a call has told a sink: its result unless its task was aborted, the diagnostics that the
sink took, and the state of the sink. -/
structure Told (τ : Type) where
  result : Except TaskAbort Outcome
  taken : List Diagnostic
  sink : τ

namespace SinkRule

variable (rule : SinkRule τ)

/-- An outcome that is handed on behind the report of a diagnostic. -/
def tell (s : τ) (d : Diagnostic) (outcome : Outcome) : Told τ :=
  match rule.report s d with
  | (.ok (), s) => ⟨.ok outcome, [d], s⟩
  | (.error abort, s) => ⟨.error abort, [], s⟩

/-- The end of a call: its diagnostic is reported, and its outcome handed on. -/
def conclude (ending : CallEnding) (program : String) (command : Command) (s : τ) : Told τ :=
  match ending.diagnostic? program command with
  | some d => rule.tell s d ending.outcome
  | none => ⟨.ok ending.outcome, [], s⟩

/-- The end of the task of a call: what it brings is handed on, and an abort becomes a failure,
which is reported. -/
def shield (task : Nat) (told : Told τ) : Told τ :=
  match told.result with
  | .ok _ => told
  | .error abort =>
    let again := rule.tell told.sink (abort.failure task).diagnostic
      (.failure (abort.failure task))
    { again with taken := told.taken ++ again.taken }

variable {rule}

/-- A call whose diagnostic is taken, if it has one, has its outcome. -/
theorem conclude_of_taken {ending : CallEnding} {program : String} {command : Command} {s : τ}
    (taken : ∀ d, ending.diagnostic? program command = some d → (rule.report s d).1 = .ok ()) :
    (rule.conclude ending program command s).result = .ok ending.outcome ∧
      (rule.conclude ending program command s).taken =
        (ending.diagnostic? program command).toList := by
  unfold conclude
  split
  · next d reported =>
    rcases answer : rule.report s d with ⟨abort | _, s'⟩
    · simpa [answer] using taken d reported
    · simp [tell, answer, reported]
  · next reported => simp [reported]

theorem shield_of_ok {told : Told τ} {outcome : Outcome} (brought : told.result = .ok outcome)
    (task : Nat) : rule.shield task told = told := by
  rw [shield, brought]

theorem shield_of_taken {told : Told τ} {abort : TaskAbort} {task : Nat} {s : τ}
    (aborted : told.result = .error abort)
    (taken : rule.report told.sink (abort.failure task).diagnostic = (.ok (), s)) :
    rule.shield task told = ⟨.ok (.failure (abort.failure task)),
      told.taken ++ [(abort.failure task).diagnostic], s⟩ := by
  rw [shield, aborted]
  simp [tell, taken]

theorem shield_of_refused {told : Told τ} {abort again : TaskAbort} {task : Nat} {s : τ}
    (aborted : told.result = .error abort)
    (refused : rule.report told.sink (abort.failure task).diagnostic = (.error again, s)) :
    rule.shield task told = ⟨.error again, told.taken, s⟩ := by
  rw [shield, aborted]
  simp [tell, refused]

end SinkRule

/-! ### The sinks of the host -/

/-- What is left of a task of the host that was aborted. -/
def Abort.left (abort : Abort) : TaskAbort :=
  ⟨some abort.message⟩

theorem Failure.ofAbort_eq (task : Nat) (abort : Abort) :
    Failure.ofAbort task abort = abort.left.failure task := by
  have words : " panicked with message " = " panicked" ++ " with message " := by decide
  simp only [Failure.ofAbort, TaskAbort.failure, Abort.left, words, String.append_assoc]

theorem Reported.shielded_of_error {call : Reported Outcome} {abort : Abort} {sink : Sink}
    {task : Nat} (aborted : call.result = .error abort) (goesOn : abort ≠ .unending) :
    let failure := Failure.ofAbort task abort
    let again := sink.report failure.diagnostic
    call.shielded sink task = ⟨call.diagnostics ++ again.diagnostics,
      again.result.map fun _ => .failure failure⟩ := by
  cases abort with
  | unending => contradiction
  | refused d | clockOverflow => simp only [shielded, aborted]

/-- The rule of a sink of the host, which has one state. -/
def Sink.rule : Sink → SinkRule Unit
  | .channel | .log => ⟨fun _ _ => (.ok (), ())⟩
  | .refusing => ⟨fun _ d => (.error (Abort.refused d).left, ())⟩

/-- What a call has told a sink of the host. -/
def Reported.told (call : Reported Outcome) : Told Unit where
  result := call.result.mapError Abort.left
  taken := call.diagnostics
  sink := ()

namespace Sink

theorem told_report (sink : Sink) (d : Diagnostic) (outcome : Outcome) :
    (sink.report d >>= fun _ => pure outcome : Reported Outcome).told =
      sink.rule.tell () d outcome := by
  cases sink <;> rfl

/-- A call ends with a sink of the host as it does with the rule of the sink. -/
theorem told_conclude (sink : Sink) (ending : CallEnding) (program : String) (command : Command) :
    (ending.conclude sink program command).told = sink.rule.conclude ending program command () := by
  cases reported : ending.diagnostic? program command with
  | none => simp only [CallEnding.conclude, SinkRule.conclude, reported]; rfl
  | some d =>
    simp only [CallEnding.conclude, SinkRule.conclude, reported]
    exact told_report sink d ending.outcome

/-- A task that ends is shielded with a sink of the host as with the rule of the sink. -/
theorem told_shielded (sink : Sink) {call : Reported Outcome}
    (ends : call.result ≠ .error .unending) (task : Nat) :
    (call.shielded sink task).told = sink.rule.shield task call.told := by
  obtain ⟨diagnostics, abort | outcome⟩ := call
  · have goesOn : abort ≠ .unending := fun unending => ends (congrArg Except.error unending)
    rw [Reported.shielded_of_error rfl goesOn, Failure.ofAbort_eq]
    cases sink <;> simp [Reported.told, SinkRule.shield, SinkRule.tell, rule, report,
      Except.mapError, Except.map]
  · rfl

end Sink

/-! ### Calls of the host -/

namespace Host

variable {h : Host} {client : Client} {sink : Sink} {command : Command} {abort : Abort}

theorem join_of_result {call : Nat} {result : Except Abort Outcome}
    (ended : h.callResult? call = some result) : (h.join call).1 = result := by
  rw [join, waitUntil_of_done (by rw [ended]; rfl), ended]
  rfl

theorem execute_of_begun {token : Option Nat} {result : Except Abort Outcome}
    (ended : (h.beginCall (.new ⟨client, command, sink, token⟩)).2.result = some result) :
    (h.execute client sink command token).1 = result := by
  rw [execute_eq]
  exact join_of_result (by simpa [callResult?, withCall] using ended)

/-- A call of a client that is not there is over when it is begun. -/
theorem result_beginCall_of_lost {r : CallRequest} (lost : lookUpProgram h.machine.files
      h.directory h.environment r.client.options.program = none) :
    (h.beginCall (.new r)).2.result =
      some ((CallEnding.failed (.notFound r.client.options.program)).conclude r.sink
        r.client.options.program r.command).result := by
  have launched : h.launchClient r.client r.command = (.notFound, none, h) := by
    simp only [launchClient, lost]
  simp only [beginCall, ActiveCall.new, launched]
  rfl

theorem executeShielded_of_not_aborted
    (ends : ∀ abort, (h.execute client sink command none).1 = .error abort → abort = .unending)
    (task : Nat) :
    h.executeShielded client sink command task = h.execute client sink command none := by
  rcases direct : h.execute client sink command none with ⟨abort | outcome, k⟩
  · obtain rfl := ends abort (by rw [direct])
    simp [executeShielded, direct, Reported.shielded]
  · simp [executeShielded, direct, Reported.shielded]

/-- A call on another thread whose task was aborted fails, and reports the failure. -/
theorem executeShielded_of_aborted
    (aborted : (h.execute client sink command none).1 = .error abort)
    (goesOn : abort ≠ .unending) (task : Nat) :
    let failure := Failure.ofAbort task abort
    let again := sink.report failure.diagnostic
    h.executeShielded client sink command task = (again.result.map fun _ => .failure failure,
      (h.execute client sink command none).2.deliverClient sink again.diagnostics) := by
  intro failure again
  rcases direct : h.execute client sink command none with ⟨result, k⟩
  obtain rfl : result = .error abort := by rw [direct] at aborted; exact aborted
  have shielded : Reported.shielded ⟨[], .error abort⟩ sink task =
      ⟨[] ++ again.diagnostics, again.result.map fun _ => .failure failure⟩ :=
    Reported.shielded_of_error rfl goesOn
  simp only [executeShielded, direct, shielded]
  rfl

end Host

/-- **What a call on another thread brings.** Let a sink be any rule.

* What the task of a call brings is handed on as it is, and nothing more is reported.
* If the task was aborted, for whatever reason, the call fails with a failure of the kind `io`,
  which is reported after what the task reported. A sink that takes that report does not reach the
  caller; a sink that refuses it aborts the caller.
* A call whose diagnostic is taken, or that has none, has the outcome and the diagnostic of its
  ending, whatever its ending is, and it has them on another thread as well.
* The sinks of the host are such rules, when a call ends and when its task ends. With a sink that
  takes diagnostics, a call of the host on another thread is the call itself, and brings an outcome
  unless the host gives up; but where the clock cannot show when the time of the call is over, its
  task is aborted, and the caller gets the failure that is reported. With a sink that refuses, the
  caller of a task that was aborted is aborted again. -/
theorem SinkRule.outcome_of_shield (rule : SinkRule τ) (task : Nat) :
    (∀ (told : Told τ) (outcome : Outcome),
      told.result = .ok outcome → rule.shield task told = told) ∧
    (∀ (told : Told τ) (abort : TaskAbort), told.result = .error abort →
      (abort.failure task).kind = .io ∧
      (∀ s, rule.report told.sink (abort.failure task).diagnostic = (.ok (), s) →
        rule.shield task told = ⟨.ok (.failure (abort.failure task)),
          told.taken ++ [(abort.failure task).diagnostic], s⟩) ∧
      (∀ again s, rule.report told.sink (abort.failure task).diagnostic = (.error again, s) →
        rule.shield task told = ⟨.error again, told.taken, s⟩)) ∧
    (∀ (ending : CallEnding) (program : String) (command : Command) (s : τ),
      (∀ d, ending.diagnostic? program command = some d → (rule.report s d).1 = .ok ()) →
      let direct := rule.conclude ending program command s
      direct.result = .ok ending.outcome ∧
        direct.taken = (ending.diagnostic? program command).toList ∧
        rule.shield task direct = direct) ∧
    (∀ (sink : Sink) (ending : CallEnding) (program : String) (command : Command),
      (ending.conclude sink program command).told =
        sink.rule.conclude ending program command ()) ∧
    (∀ (sink : Sink) (call : Reported Outcome), call.result ≠ .error .unending →
      (call.shielded sink task).told = sink.rule.shield task call.told) ∧
    ∀ (h : Host) (client : Client) (command : Command),
      (∀ sink, sink ≠ .refusing →
        let direct := h.execute client sink command none
        let shielded := h.executeShielded client sink command task
        (shielded = direct ∧ ((direct.1 = .error .unending ∧ h.Waited direct.2) ∨
          ∃ ending : CallEnding, direct.1 = .ok ending.outcome)) ∨
        (direct.1 = .error .clockOverflow ∧
          CallRequest.Overflows ⟨client, command, sink, none⟩ h.machine.now ∧
          shielded = (.ok (.failure (.ofAbort task .clockOverflow)),
            direct.2.deliverClient sink [(Failure.ofAbort task .clockOverflow).diagnostic]))) ∧
      (∀ abort, abort ≠ .unending →
        (h.execute client .refusing command none).1 = .error abort →
        h.executeShielded client .refusing command task =
          (.error (.refused (Failure.ofAbort task abort).diagnostic),
            (h.execute client .refusing command none).2)) ∧
      ((∀ abort, (h.execute client .refusing command none).1 = .error abort → abort = .unending) →
        h.executeShielded client .refusing command task =
          h.execute client .refusing command none) := by
  refine ⟨fun told outcome brought => shield_of_ok brought task, ?_, ?_, Sink.told_conclude, ?_, ?_⟩
  · intro told abort aborted
    exact ⟨rfl, fun s taken => shield_of_taken aborted taken,
      fun again s refused => shield_of_refused aborted refused⟩
  · intro ending program command s taken
    obtain ⟨brought, reported⟩ := conclude_of_taken taken
    exact ⟨brought, reported, shield_of_ok brought task⟩
  · exact fun sink call ends => sink.told_shielded ends task
  · intro h client command
    refine ⟨fun sink listens => ?_, fun abort goesOn aborted => ?_,
      fun ends => Host.executeShielded_of_not_aborted ends task⟩
    · rcases h.result_of_execute_of_listens listens client command none with
        ⟨unending, waited⟩ | ⟨ending, brought⟩ | ⟨aborted, overflows⟩
      · exact .inl ⟨Host.executeShielded_of_not_aborted (by simp [unending, eq_comm]) task,
          .inl ⟨unending, waited⟩⟩
      · exact .inl ⟨Host.executeShielded_of_not_aborted (by simp [brought]) task,
          .inr ⟨ending, brought⟩⟩
      · refine .inr ⟨aborted, overflows, ?_⟩
        rw [Host.executeShielded_of_aborted aborted nofun]
        cases sink with
        | channel | log => rfl
        | refusing => contradiction
    · rw [Host.executeShielded_of_aborted aborted goesOn]
      rfl

/-- A sink that refuses the first report and takes the others. The call of a client that is not
there is aborted by the first, and the caller gets the failure that the second report tells. -/
theorem SinkRule.outcome_of_shield_second_report :
    let rule : SinkRule Bool :=
      ⟨fun wary _ => if wary then (.error ⟨some "not now"⟩, false) else (.ok (), false)⟩
    let ending : CallEnding := .failed (.notFound "client")
    let direct := rule.conclude ending "client" (.parse "a") true
    let failure := TaskAbort.failure 7 ⟨some "not now"⟩
    direct.result = .error ⟨some "not now"⟩ ∧
      rule.shield 7 direct = ⟨.ok (.failure failure), [failure.diagnostic], false⟩ := by
  intro rule ending direct failure
  have aborted : direct.result = .error ⟨some "not now"⟩ := rfl
  obtain ⟨-, shielded, -⟩ := outcome_of_shield rule 7
  exact ⟨aborted, (shielded direct ⟨some "not now"⟩ aborted).2.1 false rfl⟩

/-- A sink of the host that refuses the report of its own abort: the caller of a client that is not
there is aborted. -/
theorem Host.executeShielded_refused_again :
    let h : Host := .new (.boot ⟨[]⟩ []) ⟨[]⟩ [] (.new "" none .log)
    let lost := Failure.notFound "c"
    (h.executeShielded (.ofOptions ⟨"c", none, none⟩) .refusing (.parse "a") 1).1 =
      .error (.refused (Failure.ofAbort 1 (.refused lost.diagnostic)).diagnostic) := by
  intro h lost
  have missing : h.machine.files.reaches h.directory "c" = false :=
    FileTree.reaches_eq_false_of_steps (by decide) rfl
  have gone : lookUpProgram h.machine.files h.directory h.environment "c" = none := by
    rw [lookUpProgram, missing]
    rfl
  have refused : (h.execute (.ofOptions ⟨"c", none, none⟩) .refusing (.parse "a") none).1 =
      .error (.refused lost.diagnostic) := execute_of_begun (result_beginCall_of_lost gone)
  exact congrArg Prod.fst (executeShielded_of_aborted refused (by simp) 1)

end InspectionHost
