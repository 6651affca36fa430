import InspectionHost.Host.Basic

/-!
# Calls of the host

The caller of a client call waits until the call is over, or begins it in the background and
asks for its outcome later. A call can be cancelled through a token.

## Main definitions

* `Host.execute` : a call that the caller waits for.
* `Host.executeShielded` : the same on another thread, whose abort becomes a failure.
* `Host.executeLater` : a call in the background.
* `Host.join` : the outcome of a call that was begun before.
* `Host.newToken`, `Host.cancelLater` : tokens.
* `Host.awaitFile` : wait for a file.
-/

namespace InspectionHost.Host

/-- The outcome of a call that was begun before, once it is over. -/
def join (h : Host) (call : Nat) : Except Abort Outcome × Host :=
  let h := h.waitUntil (fun h => (h.callResult? call).isSome) h.patience
  ((h.callResult? call).getD (.error .unending), h)

/-- A call in the background, which begins in the next tick. -/
def executeLater (h : Host) (client : Client) (sink : Sink) (command : Command)
    (token : Option Nat) : Nat × Host :=
  h.addCall (.new ⟨client, command, sink, token⟩)

/-- A call that the caller waits for. -/
def execute (h : Host) (client : Client) (sink : Sink) (command : Command)
    (token : Option Nat) : Except Abort Outcome × Host :=
  let (h, c) := h.beginCall (.new ⟨client, command, sink, token⟩)
  let (call, h) := h.addCall c
  h.join call

/-- A call on another thread, whose task has the given number. An abort of the task becomes a
failure, which is reported in its turn. -/
def executeShielded (h : Host) (client : Client) (sink : Sink) (command : Command)
    (task : Nat) : Except Abort Outcome × Host :=
  let (result, h) := h.execute client sink command none
  let reported := Reported.shielded ⟨[], result⟩ sink task
  (reported.result, h.deliverClient sink reported.diagnostics)

/-- Make a token that is not cancelled. Its number is the number of tokens before it. -/
def newToken (h : Host) : Nat × Host :=
  (h.tokens.length, { h with tokens := h.tokens ++ [false] })

/-- Cancel a token after some milliseconds. -/
def cancelLater (h : Host) (token millis : Nat) : Host :=
  { h with alarms := h.alarms ++ [(h.machine.now + (Duration.ofMillis millis).nanos, token)] }

/-- Make sure that a file exists. -/
def touch (h : Host) (path : String) : Host :=
  { h with machine := h.machine.touch path }

/-- Wait for a file, for at most five seconds, and tell whether it exists. -/
def awaitFile (h : Host) (path : String) : Bool × Host :=
  let h := h.waitUntil (fun h => h.machine.fileExists path) 5000
  (h.machine.fileExists path, h)

/-- Receive the diagnostics of clients. -/
def receiveClient (h : Host) : List Diagnostic × Host :=
  let (ds, ch) := h.clientChannel.drain
  (ds.getD [], { h with clientChannel := ch })

/-- Receive the diagnostics of the server. -/
def receiveServer (h : Host) : List Diagnostic × Host :=
  let (ds, ch) := h.serverChannel.drain
  (ds.getD [], { h with serverChannel := ch })

end InspectionHost.Host
