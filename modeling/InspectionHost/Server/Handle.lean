import InspectionHost.Client.Client
import InspectionHost.ServerExit

/-!
# Handles of the engine server

The thread that supervises the server sends one message, the end of the session, and closes its
end of the mailbox. A handle takes the message out when it first sees it and keeps it in a cell
that is written once, so that later questions get the same answer. A mailbox that closes without
a message tells that the supervisor is lost.

## Main definitions

* `Mailbox` : where the end of the session arrives.
* `ServerHandle` : a mailbox and the cell.
* `ServerHandle.tryExit` : the end of the session, if it is known.
* `ServerHandle.dump` : the structure dump of a handle.

## Main results

* `tryExit_of_cell` : once the cell is written, every answer is the same.
-/

namespace InspectionHost

/-- Where the end of a session arrives. -/
structure Mailbox where
  /-- The message that waits. -/
  message : Option ServerExit
  /-- Whether the sender is still there. -/
  sending : Bool
  deriving DecidableEq, Repr

/-- What a look into a mailbox finds. -/
inductive Delivery where
  | message (exit : ServerExit)
  | nothing
  | closed
  deriving DecidableEq, Repr

namespace Mailbox

/-- A mailbox that nothing was sent to. -/
def new : Mailbox := ⟨none, true⟩

/-- The message is sent. -/
def send (m : Mailbox) (exit : ServerExit) : Mailbox := { m with message := some exit }

/-- The sender goes away. -/
def close (m : Mailbox) : Mailbox := { m with sending := false }

/-- Take the message out, without blocking. -/
def receive (m : Mailbox) : Delivery × Mailbox :=
  match m.message with
  | some exit => (.message exit, { m with message := none })
  | none => (if m.sending then .nothing else .closed, m)

end Mailbox

/-- Whether the server is there, as a handle tells. -/
inductive ServerState where
  | running
  | exited
  deriving DecidableEq, Repr

/-- A handle of the engine server. -/
structure ServerHandle where
  mailbox : Mailbox
  /-- The end of the session, once it has been taken out of the mailbox. -/
  cell : Option ServerExit
  deriving DecidableEq, Repr

namespace ServerHandle

/-- A handle of a server that has just been started. -/
def new : ServerHandle := ⟨.new, none⟩

/-- Write the cell unless it is written; the value of the cell counts from then on. -/
def settle (h : ServerHandle) (exit : ServerExit) : ServerExit × ServerHandle :=
  match h.cell with
  | some settled => (settled, h)
  | none => (exit, { h with cell := some exit })

theorem settle_of_cell {h : ServerHandle} {settled : ServerExit} (cell : h.cell = some settled)
    (exit : ServerExit) : h.settle exit = (settled, h) := by
  rw [settle, cell]

theorem settle_of_empty {h : ServerHandle} (cell : h.cell = none) (exit : ServerExit) :
    h.settle exit = (exit, { h with cell := some exit }) := by
  rw [settle, cell]

@[simp] theorem cell_settle (h : ServerHandle) (exit : ServerExit) :
    (h.settle exit).2.cell = some (h.settle exit).1 := by
  cases hcell : h.cell with
  | some settled => rw [settle_of_cell hcell, hcell]
  | none => rw [settle_of_empty hcell]

@[simp] theorem mailbox_settle (h : ServerHandle) (exit : ServerExit) :
    (h.settle exit).2.mailbox = h.mailbox := by
  cases hcell : h.cell with
  | some settled => rw [settle_of_cell hcell]
  | none => rw [settle_of_empty hcell]

/-- The end of the session, if it is known, without blocking. -/
def tryExit (h : ServerHandle) : Option ServerExit × ServerHandle :=
  match h.cell with
  | some exit => (some exit, h)
  | none =>
    match h.mailbox.receive with
    | (.message exit, mailbox) =>
      let (exit, h) := { h with mailbox }.settle exit
      (some exit, h)
    | (.closed, mailbox) =>
      let (exit, h) := { h with mailbox }.settle .lost
      (some exit, h)
    | (.nothing, mailbox) => (none, { h with mailbox })

/-- Whether the server is there. -/
def state (h : ServerHandle) : ServerState × ServerHandle :=
  match h.tryExit with
  | (some _, h) => (.exited, h)
  | (none, h) => (.running, h)

/-- Once the cell is written, the answer is the value of the cell. -/
theorem tryExit_of_cell {h : ServerHandle} {exit : ServerExit} (settled : h.cell = some exit) :
    h.tryExit = (some exit, h) := by
  simp [tryExit, settled]

/-- The structure dump of a handle. -/
def dump (h : ServerHandle) : String :=
  let cell := match h.cell with
    | none => "<uninit>"
    | some exit => exit.dump
  "ServerHandle \x7b exit_rx: Receiver \x7b .. \x7d, exit: OnceLock(" ++ cell ++ ") \x7d"

end ServerHandle

end InspectionHost
