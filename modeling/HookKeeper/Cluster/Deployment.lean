import HookKeeper.Cluster.Pod

/-!
# Deployments

A Deployment: metadata, specification and the status that the cluster reports.

The specification and the status have all their fields.  Of a condition in the
status only its status and type are kept, without `lastTransitionTime`,
`lastUpdateTime`, `message` and `reason`, which nothing here reads.
-/

namespace HookKeeper

open HookKeeper.Json

def IntOrText.toValue : IntOrText → Value
  | .int value => .int32 value
  | .text value => .text value

/-- How many pods a rolling update may add and take away. -/
structure RollingUpdate where
  maxSurge : Option IntOrText := none
  maxUnavailable : Option IntOrText := none
  deriving DecidableEq, Repr

/-- The JSON form of the bounds of a rolling update. -/
def RollingUpdate.toValue (record : RollingUpdate) : Value :=
  .object (
    optionalField "maxSurge" IntOrText.toValue record.maxSurge ++
    optionalField "maxUnavailable" IntOrText.toValue record.maxUnavailable)

/-- Read the bounds of a rolling update; unknown fields are ignored. -/
def RollingUpdate.ofDatum? (datum : Datum) : Option RollingUpdate := do
  let fields ← datum.fields?
  return {
    maxSurge := ← fields.optional "maxSurge" Datum.intOrText?
    maxUnavailable := ← fields.optional "maxUnavailable" Datum.intOrText? }

/-- How a Deployment replaces its pods. -/
structure DeploymentStrategy where
  rollingUpdate : Option RollingUpdate := none
  type : Option String := none
  deriving DecidableEq, Repr

def DeploymentStrategy.toValue (record : DeploymentStrategy) : Value :=
  .object (
    optionalField "rollingUpdate" RollingUpdate.toValue record.rollingUpdate ++
    optionalField "type" .text record.type)

def DeploymentStrategy.ofDatum?
    (datum : Datum) : Option DeploymentStrategy := do
  let fields ← datum.fields?
  return {
    rollingUpdate := ← fields.optional "rollingUpdate" RollingUpdate.ofDatum?
    type := ← fields.optional "type" Datum.text? }

/-- What a Deployment is to run. -/
structure DeploymentSpec where
  minReadySeconds : Option Int32 := none
  paused : Option Bool := none
  progressDeadlineSeconds : Option Int32 := none
  replicas : Option Int32 := none
  revisionHistoryLimit : Option Int32 := none
  selector : LabelSelector := {}
  strategy : Option DeploymentStrategy := none
  template : PodTemplate := {}
  deriving DecidableEq, Repr

def DeploymentSpec.toValue (record : DeploymentSpec) : Value :=
  .object (
    optionalField "minReadySeconds" .int32 record.minReadySeconds ++
    optionalField "paused" .bool record.paused ++
    optionalField "progressDeadlineSeconds" .int32
      record.progressDeadlineSeconds ++
    optionalField "replicas" .int32 record.replicas ++
    optionalField "revisionHistoryLimit" .int32 record.revisionHistoryLimit ++
    field "selector" record.selector.toValue ++
    optionalField "strategy" DeploymentStrategy.toValue record.strategy ++
    field "template" record.template.toValue)

def DeploymentSpec.ofDatum? (datum : Datum) : Option DeploymentSpec := do
  let fields ← datum.fields?
  return {
    minReadySeconds := ← fields.optional "minReadySeconds" Datum.int32?
    paused := ← fields.optional "paused" Datum.bool?
    progressDeadlineSeconds := ← fields.optional "progressDeadlineSeconds"
      Datum.int32?
    replicas := ← fields.optional "replicas" Datum.int32?
    revisionHistoryLimit := ← fields.optional "revisionHistoryLimit"
      Datum.int32?
    selector := ← fields.defaulted "selector" LabelSelector.ofDatum? {}
    strategy := ← fields.optional "strategy" DeploymentStrategy.ofDatum?
    template := ← fields.defaulted "template" PodTemplate.ofDatum? {} }

/-- A condition that the cluster reports on a Deployment. -/
structure DeploymentCondition where
  status : String := ""
  type : String := ""
  deriving DecidableEq, Repr

def DeploymentCondition.toValue (record : DeploymentCondition) : Value :=
  .object (
    field "status" (.text record.status) ++
    field "type" (.text record.type))

def DeploymentCondition.ofDatum?
    (datum : Datum) : Option DeploymentCondition := do
  let fields ← datum.fields?
  return {
    status := ← fields.defaulted "status" Datum.text? ""
    type := ← fields.defaulted "type" Datum.text? "" }

/-- What the cluster reports on a Deployment. -/
structure DeploymentStatus where
  availableReplicas : Option Int32 := none
  collisionCount : Option Int32 := none
  conditions : Option (List DeploymentCondition) := none
  observedGeneration : Option Int64 := none
  readyReplicas : Option Int32 := none
  replicas : Option Int32 := none
  unavailableReplicas : Option Int32 := none
  updatedReplicas : Option Int32 := none
  deriving DecidableEq, Repr

def DeploymentStatus.toValue (record : DeploymentStatus) : Value :=
  .object (
    optionalField "availableReplicas" .int32 record.availableReplicas ++
    optionalField "collisionCount" .int32 record.collisionCount ++
    optionalField "conditions" (.list DeploymentCondition.toValue)
      record.conditions ++
    optionalField "observedGeneration" .int64 record.observedGeneration ++
    optionalField "readyReplicas" .int32 record.readyReplicas ++
    optionalField "replicas" .int32 record.replicas ++
    optionalField "unavailableReplicas" .int32 record.unavailableReplicas ++
    optionalField "updatedReplicas" .int32 record.updatedReplicas)

def DeploymentStatus.ofDatum? (datum : Datum) : Option DeploymentStatus := do
  let fields ← datum.fields?
  return {
    availableReplicas := ← fields.optional "availableReplicas" Datum.int32?
    collisionCount := ← fields.optional "collisionCount" Datum.int32?
    conditions := ← fields.optional "conditions"
      (Datum.listOf? DeploymentCondition.ofDatum?)
    observedGeneration := ← fields.optional "observedGeneration" Datum.int64?
    readyReplicas := ← fields.optional "readyReplicas" Datum.int32?
    replicas := ← fields.optional "replicas" Datum.int32?
    unavailableReplicas := ← fields.optional "unavailableReplicas" Datum.int32?
    updatedReplicas := ← fields.optional "updatedReplicas" Datum.int32? }

/-- A set of equal pods that the cluster keeps running. -/
structure Deployment where
  metadata : ObjectMeta := {}
  spec : Option DeploymentSpec := none
  status : Option DeploymentStatus := none
  deriving DecidableEq, Repr

def Deployment.toValue (record : Deployment) : Value :=
  .object (
    field "apiVersion" (.text "apps/v1") ++
    field "kind" (.text "Deployment") ++
    field "metadata" record.metadata.toValue ++
    optionalField "spec" DeploymentSpec.toValue record.spec ++
    optionalField "status" DeploymentStatus.toValue record.status)

def Deployment.ofDatum? (datum : Datum) : Option Deployment := do
  let fields ← datum.fields?
  fields.constant "apiVersion" "apps/v1"
  fields.constant "kind" "Deployment"
  return {
    metadata := ← fields.defaulted "metadata" ObjectMeta.ofDatum? {}
    spec := ← fields.optional "spec" DeploymentSpec.ofDatum?
    status := ← fields.optional "status" DeploymentStatus.ofDatum? }

end HookKeeper
