import InspectionHost.CommandLine.Invocation
import InspectionHost.Host.Calls
import InspectionHost.Host.Server
import InspectionHost.Session.Loop

/-!
# What the command line does

Each action of the command line reads its input, calls clients and writes what they answer. An
error of an action is told by its exit code; a failed call writes an empty line, or the failure
as JSON, before it ends the action.

## Main definitions

* `Front` : what an action needs of its surroundings.
* `Host.ask` : ask the client.
* `Host.runCommand`, `Host.runMatch`, `Host.runSession`, `Host.runServer` : the actions.
* `Host.perform` : the action of a command line.
* `Host.writtenBefore` : what an action has written when it is aborted.
-/

namespace InspectionHost

/-- What an action needs of its surroundings. -/
structure Front where
  client : Client
  sink : Sink
  /-- Whether outcomes are written as JSON. -/
  json : Bool

namespace Host

/-- Ask the client, whose outcome is waited for. -/
def ask (f : Front) (h : Host) (command : Command) : Except Abort Outcome × Host :=
  h.execute f.client f.sink command none

/-- An action that ends before it does anything. -/
def refuse (h : Host) (error : HostError) (input : List UInt8) :
    Except Abort Exchange × Host :=
  (.ok ⟨"", 0, some (.host error), input⟩, h)

/-- One call, whose outcome is written. -/
def runCommand (h : Host) (f : Front) (command : Command) (input : List UInt8) :
    Except Abort Exchange × Host :=
  match Command.requirePattern? command.pattern with
  | none => h.refuse .emptyPattern input
  | some _ =>
    match h.ask f command with
    | (.error abort, h) => (.error abort, h)
    | (.ok outcome, h) =>
      (.ok ⟨outcome.line f.json, 1, outcome.failure?.map .call, input⟩, h)

/-- A loop over the candidates of the input. -/
def runCandidates (h : Host) (f : Front) (pattern : String) (input : List UInt8) :
    Except Abort Exchange × Host :=
  Session.serveCandidates (ask f) f.json pattern h input

/-- A match with one candidate, or with the candidates of the input. -/
def runMatch (h : Host) (f : Front) (pattern : String) (candidate : Option String)
    (input : List UInt8) : Except Abort Exchange × Host :=
  match Command.requirePattern? pattern, candidate with
  | none, _ => h.refuse .emptyPattern input
  | some pattern, some candidate => h.runCommand f (.matching pattern candidate) input
  | some pattern, none => h.runCandidates f pattern input

/-- Serve the requests of the input. -/
def serveRequests (h : Host) (f : Front) (input : List UInt8) : Except Abort Exchange × Host :=
  Session.serve (ask f) f.json h input

/-- A host whose supervisor has not started its server. -/
def withSupervisor (h : Host) (settings : Settings) (sink : Sink) : Host :=
  { h with supervisor := .new settings.serverProgram settings.workingDirectory sink }

/-- The host on which a session serves its requests: the server is started, unless none is
wanted. -/
def openSession (h : Host) (settings : Settings) (sink : Sink) (noServer : Bool) :
    Except HostError Host :=
  let h := h.withSupervisor settings sink
  if settings.startServer && !noServer then h.startServer else .ok h

/-- Start the server and serve the requests of the input, unless no server is wanted. The server
is left running. -/
def runSession (h : Host) (f : Front) (settings : Settings) (noServer : Bool)
    (input : List UInt8) : Except Abort Exchange × Host :=
  match h.openSession settings f.sink noServer with
  | .error error => h.refuse error input
  | .ok h => h.serveRequests f input

/-- Start the server and wait for its end. -/
def runServer (h : Host) (f : Front) (settings : Settings) (input : List UInt8) :
    Except Abort Exchange × Host :=
  let h := h.withSupervisor settings f.sink
  match h.startServer with
  | .error error => h.refuse error input
  | .ok h =>
    match h.waitExit with
    | (some (some exit), h) =>
      (.ok ⟨"", 0, if exit.isSuccess then none else some (.serverStopped exit), input⟩, h)
    | (_, h) => (.error .unending, h)

/-- What an action has written when it is aborted: a loop over the input what it has written up to
there, and one call nothing. -/
def writtenBefore (h : Host) (settings : Settings) (sink : Sink) (action : CommandLine.Action)
    (input : List UInt8) : String :=
  let front (json : Bool) : Front := ⟨.ofOptions settings.callOptions, sink, json⟩
  match action with
  | .matching pattern none json =>
    (Session.matchLoop (ask (front json)) json pattern (.start h)
      (Session.splitLines input)).progress.text
  | .session noServer json =>
    match h.openSession settings sink noServer with
    | .error _ => ""
    | .ok h =>
      (Session.serveLoop (ask (front json)) json (.start h)
        (Session.splitLines input)).progress.text
  | _ => ""

/-- The action of a command line. -/
def perform (h : Host) (settings : Settings) (sink : Sink) (action : CommandLine.Action)
    (input : List UInt8) : Except Abort Exchange × Host :=
  let front (json : Bool) : Front := ⟨.ofOptions settings.callOptions, sink, json⟩
  match action with
  | .parse pattern json => h.runCommand (front json) (.parse pattern) input
  | .explain pattern json => h.runCommand (front json) (.explain pattern) input
  | .matching pattern candidate json => h.runMatch (front json) pattern candidate input
  | .server => h.runServer (front false) settings input
  | .session noServer json => h.runSession (front json) settings noServer input

end Host

end InspectionHost
