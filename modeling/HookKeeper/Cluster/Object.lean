import HookKeeper.Cluster.Deployment
import HookKeeper.Cluster.Metadata
import HookKeeper.Cluster.Registration
import HookKeeper.Operator.Resource

/-!
# Kinds of cluster objects

Every kind of object has a name, a version, a collection in which the cluster
keeps it, metadata, and a JSON form.
-/

namespace HookKeeper

open HookKeeper.Json

/-- A kind of objects that the cluster keeps. -/
class ClusterObject (α : Type) where
  kind : String
  apiVersion : String
  /--
  The path of the collection for a namespace; kinds without namespaces ignore
  it.
  -/
  collection : String → String
  metadata : α → ObjectMeta
  toValue : α → Value
  ofDatum? : Datum → Option α

instance : ClusterObject Deployment where
  kind := "Deployment"
  apiVersion := "apps/v1"
  collection := fun namespaceName =>
    "/apis/apps/v1/namespaces/" ++ namespaceName ++ "/deployments"
  metadata := Deployment.metadata
  toValue := Deployment.toValue
  ofDatum? := Deployment.ofDatum?

instance : ClusterObject Registration where
  kind := "ValidatingWebhookConfiguration"
  apiVersion := "admissionregistration.k8s.io/v1"
  collection := fun _ =>
    "/apis/admissionregistration.k8s.io/v1/validatingwebhookconfigurations"
  metadata := Registration.metadata
  toValue := Registration.toValue
  ofDatum? := Registration.ofDatum?

instance : ClusterObject Node where
  kind := "Node"
  apiVersion := "v1"
  collection := fun _ => "/api/v1/nodes"
  metadata := Node.metadata
  toValue := Node.toValue
  ofDatum? := Node.ofDatum?

instance : ClusterObject OperatorResource where
  kind := "CSISnapshotController"
  apiVersion := "operator.openshift.io/v1"
  collection := fun _ => "/apis/operator.openshift.io/v1/csisnapshotcontrollers"
  metadata := OperatorResource.metadata
  toValue := OperatorResource.toValue
  ofDatum? := OperatorResource.ofDatum?

end HookKeeper
