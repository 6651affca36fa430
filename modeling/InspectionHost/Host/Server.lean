import InspectionHost.Host.Basic

/-!
# The server of the host

The supervisor starts its server once, on a thread of its own. Whoever holds the handle asks
whether the session has ended, or waits for its end.

## Main definitions

* `Host.startServer` : start the server.
* `Host.tryExit`, `Host.serverState` : what is known of the session.
* `Host.waitExit`, `Host.waitExitFor` : wait for the end of the session.
-/

namespace InspectionHost.Host

/-- Start the server. -/
def startServer (h : Host) : Except HostError Host :=
  h.supervisor.start.map fun supervisor =>
    { h.record (.supervisorStarted supervisor.program) with supervisor }

/-- Ask the handle something, if there is one. -/
def askHandle {α : Type} (h : Host) (ask : ServerHandle → α × ServerHandle) : Option α × Host :=
  match h.supervisor.handle with
  | none => (none, h)
  | some handle =>
    let (answer, handle) := ask handle
    (some answer, { h with supervisor := { h.supervisor with handle := some handle } })

/-- The end of the session if it is known, as far as there is a handle. -/
def tryExit (h : Host) : Option (Option ServerExit) × Host :=
  h.askHandle ServerHandle.tryExit

/-- Whether the server is there, as far as there is a handle. -/
def serverState (h : Host) : Option ServerState × Host :=
  h.askHandle ServerHandle.state

/-- Whether the handle knows the end of the session. -/
def exitKnown (h : Host) : Bool :=
  (h.supervisor.handle.bind fun handle => handle.tryExit.1).isSome

/-- Wait for the end of the session for at most so many ticks. -/
def waitExitFor (h : Host) (ticks : Nat) : Option (Option ServerExit) × Host :=
  match h.supervisor.handle with
  | none => (none, h)
  | some _ => (h.waitUntil exitKnown ticks).tryExit

/-- Wait for the end of the session. -/
def waitExit (h : Host) : Option (Option ServerExit) × Host :=
  h.waitExitFor h.patience

/-- Let time pass until the thread of the supervisor has ended. -/
def drainSupervisor (h : Host) : Host :=
  h.waitUntil (fun h => h.supervisor.supervision == .finished) h.patience

end InspectionHost.Host
