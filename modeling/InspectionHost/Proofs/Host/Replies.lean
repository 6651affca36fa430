import InspectionHost.Proofs.Host.Calls

/-!
# What a client replies

To a host that asks it, a client replies with pieces of output, or the call fails. The output of a
call that is completed is seen as the lines of those pieces, so that the outcome of every call is
that of a reply, whatever the machine runs as the client.

## Main definitions

* `ClientReply` : what comes of a call.
* `ClientReply.outcome` : the outcome of a call with such a reply.
* `Host.Reads` : the outcomes of all calls of a host come from replies.

## Main results

* `ActiveCall.keeps_reads` : a call goes on to have the outcome of a reply.
* `Host.reads_new`, `Host.Reads.ask` : a host that asks the client gets the outcome of a reply.
-/

namespace InspectionHost

/-- What comes of a call of the client. -/
inductive ClientReply where
  /-- The client wrote pieces of output, and its end was seen. -/
  | wrote (pieces : List (List UInt8))
  /-- The call failed. -/
  | failed (failure : Failure)
  deriving DecidableEq, Repr

/-- The outcome of a call with a reply. -/
def ClientReply.outcome : ClientReply → Outcome
  | wrote pieces => .ofLines (readLines pieces)
  | failed failure => .failure failure

/-! ### One call -/

/-- If a phase is the end of a completed call, the lines are read from pieces of output. -/
def CallPhase.Reads (p : CallPhase) : Prop :=
  ∀ status lines, p = .finished (.completed status lines) → ∃ pieces, lines = readLines pieces

namespace CallPhase

variable {l : Limits} {p : CallPhase} {g : Glance}

/-- An ending that a phase can come to is that of a reply. -/
theorem Reads.exists_reply {ending : CallEnding} (reads : (finished ending).Reads) :
    ∃ reply : ClientReply, ending.outcome = reply.outcome := by
  cases ending with
  | completed status lines =>
    obtain ⟨pieces, rfl⟩ := reads status lines rfl
    exact ⟨.wrote pieces, rfl⟩
  | failed failure => exact ⟨.failed failure, rfl⟩

theorem reads_ofLaunch (program : String) (limits : Except Abort Limits) (launch : LaunchResult) :
    (ofLaunch program limits launch).Reads := by
  intro status lines completed
  cases launch <;> cases limits <;> simp [ofLaunch] at completed

theorem reads_awaitExit (l : Limits) (stage : LookStage) (g : Glance) :
    (awaitExit l stage g).Reads := by
  intro status lines completed
  obtain ⟨_, -, -, h⟩ | ⟨_, -, -, h⟩ | ⟨-, ⟨_, -, h⟩ | ⟨_, -, h⟩⟩ := awaitExit_cases l stage g <;>
    simp [h] at completed

theorem reads_awaitLines (seen : g.Reads) (l : Limits) (status : ExitStatus) (stage : LookStage) :
    (awaitLines l status stage g).Reads := by
  intro status' lines completed
  obtain ⟨_, -, captured, h⟩ | ⟨_, -, -, -, h⟩ | ⟨-, ⟨_, -, h⟩ | ⟨_, -, h⟩⟩ :=
    awaitLines_cases l status stage g
  · simp only [h, finished.injEq, CallEnding.completed.injEq] at completed
    exact seen lines (completed.2 ▸ captured)
  all_goals simp [h] at completed

theorem Reads.step (seen : g.Reads) (reads : p.Reads) : (p.step l g).Reads := by
  cases p with
  | launching => exact reads
  | waiting stage => exact reads_awaitExit l stage g
  | killing failure => exact nofun
  | reaping failure =>
    intro status lines completed
    simp only [CallPhase.step, awaitKilled] at completed
    split at completed <;> simp at completed
  | collecting status stage => exact reads_awaitLines seen l status stage
  | finished ending => exact reads
  | aborted abort => exact reads

end CallPhase

theorem CallEnding.outcome_of_conclude {ending : CallEnding} {sink : Sink} {program : String}
    {command : Command} {outcome : Outcome}
    (concluded : (ending.conclude sink program command).result = .ok outcome) :
    outcome = ending.outcome := by
  cases hd : ending.diagnostic? program command <;> cases sink <;>
    simp_all [conclude, Sink.reportAll, Sink.report, bind, Reported.bind, pure, Reported.pure]

/-- A call that is completed has read its lines, and the outcome of a call is that of a reply. -/
structure ActiveCall.Reads (c : ActiveCall) : Prop where
  phase : c.phase.Reads
  result : ∀ outcome, c.result = some (.ok outcome) → ∃ reply : ClientReply, outcome = reply.outcome

theorem ActiveCall.reads_new (r : CallRequest) : (new r).Reads :=
  ⟨nofun, nofun⟩

theorem ActiveCall.keeps_reads : Keeps Reads where
  launched launch _ _ _ reads := ⟨CallPhase.reads_ofLaunch _ _ launch, reads.result⟩
  advance seen reads := ⟨reads.phase.step seen, reads.result⟩
  look seen reads :=
    ⟨CallPhase.look_induction (motive := CallPhase.Reads) (fun _ kept => kept.step seen)
      reads.phase, reads.result⟩
  conclude {c} reads := by
    refine ⟨by rw [phase_conclude]; exact reads.phase, fun outcome given => ?_⟩
    unfold ActiveCall.conclude at given
    split at given
    · next ending _ finished =>
      have ended : (CallPhase.finished ending).Reads := finished ▸ reads.phase
      rw [CallEnding.outcome_of_conclude (Option.some.inj given)]
      exact ended.exists_reply
    · simp at given
    · exact reads.result outcome given

/-! ### All calls -/

/-- The outcomes of all calls of a host come from replies. -/
def Host.Reads (h : Host) : Prop :=
  ∀ c ∈ h.calls, c.Reads

namespace Host

variable {h : Host}

/-- A new host has no calls. -/
theorem reads_new (machine : Machine) (environment : Environment) (directory : Place)
    (supervisor : Supervisor) : (Host.new machine environment directory supervisor).Reads :=
  fun _ there => (List.not_mem_nil there).elim

/-- A host that asks the client gets the outcome of a reply, unless it is aborted. -/
theorem Reads.ask (reads : h.Reads) (f : Front) (command : Command) :
    (h.ask f command).2.Reads ∧ ∀ outcome, (h.ask f command).1 = .ok outcome →
      ∃ reply : ClientReply, outcome = reply.outcome := by
  obtain ⟨still, unending | ⟨c, readsToo, answered⟩⟩ :=
    ActiveCall.keeps_reads.ask reads f command (ActiveCall.reads_new _)
  · exact ⟨still, fun outcome given => by simp [unending] at given⟩
  · exact ⟨still, fun outcome given => readsToo.result outcome (by rw [answered, given])⟩

end Host

end InspectionHost
