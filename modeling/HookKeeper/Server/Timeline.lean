import HookKeeper.Controller
import HookKeeper.Server.Basic

/-!
# The controller in the course of time

A timeline runs the controller against a server second by second, together
with what others do to the server.  What others do at a second comes before
the cycle of that second.

The writes of the operator itself ask for no cycle: the watches show what others
do, and a cycle leaves its result to say when the next one comes.  A watch that
showed these writes too would only bring that cycle forward, and after a success
it would find everything as the last one left it.
-/

namespace HookKeeper

open HookKeeper.Json
open HookKeeper.Manifest

/-- The server, the controller and what its recorder remembers. -/
structure Timeline where
  server : Server
  controller : Controller := {}
  recorder : Recorder := {}
  deriving DecidableEq, Repr

namespace Timeline

/--
The controller after an action from outside that led from one store to another.
-/
def notified
    (settings : Settings)
    (before after : Server)
    (controller : Controller) : OutsideAction → Controller
  | .put path _ | .merge path _ =>
      match after.store.find? path with
      | some object => controller.written settings after.second path object
      | none => controller
  | .delete path =>
      match before.store.find? path with
      | some object => controller.deleted settings after.second path object
      | none => controller
  | .prepare _ => controller

def act
    (settings : Settings)
    (timeline : Timeline)
    (action : OutsideAction) : Timeline :=
  let server := timeline.server.suffer action
  { timeline with
    server := server
    controller :=
      notified settings timeline.server server timeline.controller action }

/-- The timeline after the cycle that is due at a second. -/
def runCycle
    (settings : Settings)
    (templates : Templates)
    (second : Nat)
    (timeline : Timeline) : Timeline :=
  match timeline.controller.known with
  | none =>
      { timeline with controller := { timeline.controller with due := none } }
  | some metadata =>
      let server := { timeline.server with second := second }
      let ((result, recorder), after) :=
        server.run
          (reconcile settings templates metadata.anyName timeline.recorder)
      { server := after
        controller := timeline.controller.finished second (.of settings result)
        recorder := recorder }

/-- The timeline after all cycles before a second, of at most a given number. -/
def runBefore
    (settings : Settings)
    (templates : Templates)
    (second : Nat) : Nat → Timeline → Timeline
  | 0, timeline => timeline
  | most + 1, timeline =>
      match timeline.controller.due with
      | none => timeline
      | some due =>
          if due < second then
            runBefore settings templates second most
              (runCycle settings templates due timeline)
          else timeline

/--
The timeline at a second, with every cycle before it run; time never turns back.
-/
def advance
    (settings : Settings)
    (templates : Templates)
    (timeline : Timeline)
    (second : Nat) : Timeline :=
  let after :=
    runBefore settings templates second (second - timeline.server.second + 2)
      timeline
  { after with server := { after.server with
    second := max second timeline.server.second } }

/-- The timeline of a controller that starts on a server. -/
def start (settings : Settings) (server : Server) : Timeline :=
  let path :=
    ClusterObject.collection OperatorResource "" ++ "/" ++ settings.operatorName
  { server := server, controller := .start (server.store.find? path) }

/--
The timeline after actions from outside, each at its second, and up to an end.
-/
def play
    (settings : Settings)
    (templates : Templates)
    (timeline : Timeline)
    (finish : Nat) : List (Nat × OutsideAction) → Timeline
  | [] => advance settings templates timeline finish
  | (second, action) :: rest =>
      play settings templates
        (act settings (advance settings templates timeline second) action)
        finish rest

end Timeline

end HookKeeper
