import HookKeeper.Api.Address
import HookKeeper.Cycle.Sync

/-!
# The controller

The controller watches the operator resource, the nodes, the Deployment and
the registration, and runs a cycle whenever one of them changes.  It knows the
operator resource from its own watch, and runs no cycle while it knows none.
At any time at most one cycle is due: a change asks for one at once, in place
of the one that was due before.
-/

namespace HookKeeper

open HookKeeper.Json
open HookKeeper.Manifest

/-! ## Watches -/

/-- A watched collection, as a whole or for one name. -/
structure Watch where
  collection : String
  name : Option String := none
  deriving DecidableEq, Repr

namespace Watch

/-- The text that selects the watched objects of a collection. -/
def selectorText (watch : Watch) : String :=
  match watch.name with
  | none => ""
  | some name => "metadata.name=" ++ name

def shows (watch : Watch) (path : String) : Bool :=
  Path.parent path == watch.collection &&
    match watch.name with
    | none => true
    | some name => Path.lastSegment path == name

/-- The watch on the operator resource. -/
def operator (settings : Settings) : Watch :=
  ⟨ClusterObject.collection OperatorResource "", some settings.operatorName⟩

def nodes : Watch := ⟨ClusterObject.collection Node "", none⟩

def deployment : Watch :=
  ⟨ClusterObject.collection Deployment Identity.deploymentNamespace,
    some Identity.deployment⟩

def registration : Watch :=
  ⟨ClusterObject.collection Registration "", some Identity.registration⟩

/-- All watches, in ascending order of their collections. -/
def all (settings : Settings) : List Watch :=
  [nodes, registration, deployment, operator settings]

end Watch

/-! ## What is known and what is due -/

/--
The operator resource that the controller knows, and when the next cycle is due.
-/
structure Controller where
  known : Option ObjectMeta := none
  due : Option Nat := none
  deriving DecidableEq, Repr

namespace Controller

/-- The metadata of the operator resource that a value describes. -/
def operatorMetadata? (object : Value) : Option ObjectMeta :=
  (OperatorResource.ofDatum? (Datum.ofValue object)).map (·.metadata)

/-- The controller that starts with the operator resource as it is stored. -/
def start (stored : Option Value) : Controller :=
  let known := stored.bind operatorMetadata?
  ⟨known, known.map fun _ => 0⟩

/--
Whether a value describes an object that a watch other than the one on the
operator shows.
-/
def isWatched (path : String) (object : Value) : Bool :=
  let datum := Datum.ofValue object
  (Watch.nodes.shows path && (Node.ofDatum? datum).isSome)
    || (Watch.deployment.shows path && (Deployment.ofDatum? datum).isSome)
    || (Watch.registration.shows path && (Registration.ofDatum? datum).isSome)

/-- Ask for a cycle of the operator resource of the configured name. -/
def ask
    (settings : Settings)
    (second : Nat)
    (controller : Controller) : Controller :=
  match controller.known with
  | none => { controller with due := some second }
  | some metadata =>
      if metadata.anyName = settings.operatorName then
        { controller with due := some second }
      else controller

def written
    (settings : Settings)
    (second : Nat)
    (path : String)
    (object : Value)
    (controller : Controller) : Controller :=
  if (Watch.operator settings).shows path then
    match operatorMetadata? object with
    | some metadata => ⟨some metadata, some second⟩
    | none => controller
  else if isWatched path object then controller.ask settings second
  else controller

def deleted
    (settings : Settings)
    (second : Nat)
    (path : String)
    (object : Value)
    (controller : Controller) : Controller :=
  if (Watch.operator settings).shows path then { controller with known := none }
  else if isWatched path object then controller.ask settings second
  else controller

def finished (second : Nat) (controller : Controller) : NextCycle → Controller
  | .after seconds => { controller with due := some (second + seconds) }
  | .onChange => { controller with due := none }

end Controller

end HookKeeper
