import HookKeeper.Text.Digits
import HookKeeper.Text.Utf8

/-!
# Names and settings of the operator

The names under which the operator acts on the cluster and reports on itself,
and those of the objects it keeps, are fixed.  The rest is configured by three
environment variables, whose values are bytes.  The image has to be given; the
name of the operator resource and the interval between cycles have defaults,
which also stand for values that are no text.
-/

/-! ## Names -/

namespace HookKeeper.Identity

/-- The start of the types of the conditions that the operator reports. -/
def controller : String := "CSISnapshotWebhookController"

/-- The name under which the operator writes objects and publishes events. -/
def operator : String := "csi-snapshot-webhook-operator"

/-- The label under which an object carries the hash of its content. -/
def hashKey : String := "operator.openshift.io/spec-hash"

def deploymentNamespace : String := "openshift-cluster-storage-operator"

/-- The name of the Deployment. -/
def deployment : String := "csi-snapshot-webhook"

/-- The name of the registration of admission hooks. -/
def registration : String := "snapshot.storage.k8s.io"

end HookKeeper.Identity

/-! ## Environment variables -/

namespace HookKeeper

open HookKeeper.Text

/-- The environment variables that configure the operator. -/
structure Environment where
  image : Option (List UInt8) := none
  operatorName : Option (List UInt8) := none
  resyncSeconds : Option (List UInt8) := none
  deriving DecidableEq, Repr

/-- Why a variable has no text. -/
inductive VariableFault where
  | absent
  | notText (bytes : List UInt8)
  deriving DecidableEq, Repr

def VariableFault.message : VariableFault → String
  | .absent => "environment variable not found"
  | .notText bytes =>
      "environment variable was not valid unicode: " ++ Utf8.quotedBytes bytes

def Environment.text (value : Option (List UInt8)) :
    Except VariableFault String :=
  match value with
  | none => .error .absent
  | some bytes =>
      match Utf8.decode? bytes with
      | none => .error (.notText bytes)
      | some text => .ok text

/-- Why the settings cannot be read. -/
inductive SettingsError where
  | imageMissing (cause : VariableFault)
  | intervalInvalid (value : String) (cause : Digits.Fault)
  deriving DecidableEq, Repr

namespace SettingsError

def message : SettingsError → String
  | .imageMissing _ => "WEBHOOK_IMAGE environment variable not set"
  | .intervalInvalid value _ =>
      "RESYNC_INTERVAL_SECS is not a number: " ++ value

def digitsMessage : Digits.Fault → String
  | .empty => "cannot parse integer from empty string"
  | .invalidDigit => "invalid digit found in string"
  | .tooLarge => "number too large to fit in target type"

/-- The texts of the causes of an error. -/
def causes : SettingsError → List String
  | .imageMissing cause => [cause.message]
  | .intervalInvalid _ cause => [digitsMessage cause]

end SettingsError

/-- The settings of the operator. -/
structure Settings where
  /-- The image that the webhook runs. -/
  image : String
  /-- The name of the operator resource. -/
  operatorName : String := "cluster"
  /-- The seconds between two cycles. -/
  resyncSeconds : UInt64 := 300
  deriving DecidableEq, Repr

/-- The interval that a variable asks for. -/
def Settings.interval (value : Option (List UInt8)) :
    Except SettingsError UInt64 :=
  match Environment.text value with
  | .error _ => .ok 300
  | .ok text =>
      match Digits.bounded (Nat.pow 2 64) text.toList with
      | .error cause => .error (.intervalInvalid text cause)
      | .ok seconds => .ok (UInt64.ofNat seconds)

/-- The settings that an environment asks for. -/
def Settings.ofEnvironment (environment : Environment) :
    Except SettingsError Settings := do
  let image ← (Environment.text environment.image).mapError .imageMissing
  let interval ← Settings.interval environment.resyncSeconds
  return {
    image := image
    operatorName :=
      match Environment.text environment.operatorName with
      | .ok name => name
      | .error _ => "cluster"
    resyncSeconds := interval }

end HookKeeper
