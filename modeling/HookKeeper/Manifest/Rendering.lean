import HookKeeper.Cluster.Deployment
import HookKeeper.Cluster.Metadata
import HookKeeper.Cluster.Registration
import HookKeeper.Digest
import HookKeeper.Json.Value
import HookKeeper.Manifest.Placeholder
import HookKeeper.Manifest.Templates
import HookKeeper.Settings
import HookKeeper.Text.Utf8
import HookKeeper.Yaml.Document

/-!
# Rendering the wanted objects

The Deployment is decoded from its filled-in template; the registration is
decoded from its template as it stands and carries the hash of its hooks.  A
rendered Deployment tells on which nodes its pods may run and takes the number
of its pods.

An object carries the hash of its wanted content as an annotation, so a change
of content shows as a change of metadata.  The hash is taken of the compact
JSON text of the content; content that is left out counts as null.

The webhook runs as one pod on a cluster with at most one suitable node, and
as two on any larger one.  A node is suitable when it carries every label of
the selector of the Deployment.
-/

/-! ## Content hashes -/

namespace HookKeeper.Manifest

open HookKeeper.Json
open HookKeeper.Text

def contentHash (content : Value) : String :=
  Digest.hexDigest (Utf8.encode content.compact)

def optionalContent (write : α → Value) (content : Option α) : Value :=
  (content.map write).getD .null

end HookKeeper.Manifest

namespace HookKeeper

open HookKeeper.Json
open HookKeeper.Manifest

/-- The metadata with a content hash in place of any earlier one. -/
def ObjectMeta.stamped (metadata : ObjectMeta) (hash : String) : ObjectMeta :=
  { metadata with
    annotations :=
      some ((metadata.annotations.getD .empty).insert Identity.hashKey hash) }

namespace Deployment

/-- The hash of the specification of a Deployment. -/
def specHash (deployment : Deployment) : String :=
  contentHash (optionalContent DeploymentSpec.toValue deployment.spec)

/-- The Deployment with the hash of its specification. -/
def stamped (deployment : Deployment) : Deployment :=
  { deployment with
    metadata := deployment.metadata.stamped deployment.specHash }

end Deployment

namespace Registration

def hooksHash (registration : Registration) : String :=
  contentHash (optionalContent (Value.list Hook.toValue) registration.webhooks)

/-- The registration with the hash of its hooks. -/
def stamped (registration : Registration) : Registration :=
  { registration with
    metadata := registration.metadata.stamped registration.hooksHash }

end Registration

end HookKeeper

/-! ## The number of pods -/

namespace HookKeeper

/-- Whether a node carries every label of a selector. -/
def Node.carries (node : Node) (selector : TextMap) : Bool :=
  selector.isSubmap (node.metadata.labels.getD .empty)

namespace Sizing

/-- The number of pods for a number of suitable nodes. -/
def replicasFor (suitable : Nat) : Int32 := if 1 < suitable then 2 else 1

/-- The number of pods for the nodes of a cluster. -/
def replicas (selector : TextMap) (nodes : List Node) : Int32 :=
  replicasFor (nodes.countP fun node => node.carries selector)

/--
The text by which a server is asked for the nodes with the labels of a selector.
-/
def selectorText (selector : TextMap) : String :=
  String.intercalate "," (selector.entries.map fun entry =>
    entry.1 ++ "=" ++ entry.2)

end Sizing

end HookKeeper

/-! ## Decoding templates -/

namespace HookKeeper.Manifest

/-- The object that a template describes. -/
def decode
    (asset : Asset)
    (read : Datum → Option α)
    (text : String) : Except OperatorError α :=
  match Yaml.datum? text with
  | none => .error (.templateDecode asset .malformed)
  | some datum =>
      match read datum with
      | none => .error (.templateDecode asset .mismatched)
      | some object => .ok object

/-- The Deployment that a template describes for an image and a log level. -/
def renderDeployment
    (template image : String)
    (logLevel : Option String) : Except OperatorError Deployment := do
  let text ← fillIn template image logLevel
  decode .deployment Deployment.ofDatum? text

/-- The registration that a template describes, with the hash of its hooks. -/
def renderRegistration (template : String) :
    Except OperatorError Registration := do
  let registration ← decode .registration Registration.ofDatum? template
  return registration.stamped

end HookKeeper.Manifest

namespace HookKeeper.Deployment

/-- The labels that a node must have to run the pods of a Deployment. -/
def nodeSelector (deployment : Deployment) : TextMap :=
  (deployment.spec.bind fun spec => spec.template.spec.bind fun pod =>
    pod.nodeSelector).getD .empty

/-- The Deployment with a number of pods. -/
def withReplicas (deployment : Deployment) (replicas : Int32) : Deployment :=
  { deployment with
    spec := some { deployment.spec.getD {} with replicas := some replicas } }

end HookKeeper.Deployment
