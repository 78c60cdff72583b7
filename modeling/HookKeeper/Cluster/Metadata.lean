import HookKeeper.Datum.Decode
import HookKeeper.Json.Build

/-!
# Metadata of cluster objects, and nodes

Every object carries metadata: its name, its labels and annotations, and what
the cluster records about its versions.  A field that has no value is left out
when it is written.  Of a node of the cluster only the metadata matters.

The records keep the fields that something here reads, writes or hands on, and
no others: metadata is without `deletionTimestamp`,
`deletionGracePeriodSeconds`, `managedFields` and `selfLink`, and a node is
without specification and status.  A field that is left out is passed over like
an unknown one when an object is read, so no statement about an object that is
written speaks of it.
-/

/-! ## Metadata -/

namespace HookKeeper

open HookKeeper.Json

/-- A reference to an object that owns another. -/
structure OwnerReference where
  apiVersion : String := ""
  blockOwnerDeletion : Option Bool := none
  controller : Option Bool := none
  kind : String := ""
  name : String := ""
  uid : String := ""
  deriving DecidableEq, Repr

def OwnerReference.toValue (record : OwnerReference) : Value :=
  .object (
    field "apiVersion" (.text record.apiVersion) ++
    optionalField "blockOwnerDeletion" .bool record.blockOwnerDeletion ++
    optionalField "controller" .bool record.controller ++
    field "kind" (.text record.kind) ++
    field "name" (.text record.name) ++
    field "uid" (.text record.uid))

def OwnerReference.ofDatum? (datum : Datum) : Option OwnerReference := do
  let fields ← datum.fields?
  return {
    apiVersion := ← fields.defaulted "apiVersion" Datum.text? ""
    blockOwnerDeletion := ← fields.optional "blockOwnerDeletion" Datum.bool?
    controller := ← fields.optional "controller" Datum.bool?
    kind := ← fields.defaulted "kind" Datum.text? ""
    name := ← fields.defaulted "name" Datum.text? ""
    uid := ← fields.defaulted "uid" Datum.text? "" }

/-- What the cluster keeps about every object. -/
structure ObjectMeta where
  annotations : Option TextMap := none
  creationTimestamp : Option Instant := none
  finalizers : Option (List String) := none
  /-- The start of a name that the cluster completes. -/
  generateName : Option String := none
  /-- A number that the cluster raises with each change of content. -/
  generation : Option Int64 := none
  labels : Option TextMap := none
  name : Option String := none
  namespaceName : Option String := none
  ownerReferences : Option (List OwnerReference) := none
  /-- The version of the object that this copy shows. -/
  resourceVersion : Option String := none
  uid : Option String := none
  deriving DecidableEq, Repr

def ObjectMeta.toValue (record : ObjectMeta) : Value :=
  .object (
    optionalField "annotations" .ofTextMap record.annotations ++
    optionalField "creationTimestamp" (fun moment => .text moment.text)
      record.creationTimestamp ++
    optionalField "finalizers" .texts record.finalizers ++
    optionalField "generateName" .text record.generateName ++
    optionalField "generation" .int64 record.generation ++
    optionalField "labels" .ofTextMap record.labels ++
    optionalField "name" .text record.name ++
    optionalField "namespace" .text record.namespaceName ++
    optionalField "ownerReferences" (.list OwnerReference.toValue)
      record.ownerReferences ++
    optionalField "resourceVersion" .text record.resourceVersion ++
    optionalField "uid" .text record.uid)

def ObjectMeta.ofDatum? (datum : Datum) : Option ObjectMeta := do
  let fields ← datum.fields?
  return {
    annotations := ← fields.optional "annotations" Datum.textMap?
    creationTimestamp := ← fields.optional "creationTimestamp" Datum.instant?
    finalizers := ← fields.optional "finalizers" (Datum.listOf? Datum.text?)
    generateName := ← fields.optional "generateName" Datum.text?
    generation := ← fields.optional "generation" Datum.int64?
    labels := ← fields.optional "labels" Datum.textMap?
    name := ← fields.optional "name" Datum.text?
    namespaceName := ← fields.optional "namespace" Datum.text?
    ownerReferences := ← fields.optional "ownerReferences"
      (Datum.listOf? OwnerReference.ofDatum?)
    resourceVersion := ← fields.optional "resourceVersion" Datum.text?
    uid := ← fields.optional "uid" Datum.text? }

/-- A condition on one label. -/
structure LabelRequirement where
  key : String := ""
  operator : String := ""
  values : Option (List String) := none
  deriving DecidableEq, Repr

/-- The JSON form of a condition on one label. -/
def LabelRequirement.toValue (record : LabelRequirement) : Value :=
  .object (
    field "key" (.text record.key) ++
    field "operator" (.text record.operator) ++
    optionalField "values" .texts record.values)

/-- Read a condition on one label; unknown fields are ignored. -/
def LabelRequirement.ofDatum? (datum : Datum) : Option LabelRequirement := do
  let fields ← datum.fields?
  return {
    key := ← fields.defaulted "key" Datum.text? ""
    operator := ← fields.defaulted "operator" Datum.text? ""
    values := ← fields.optional "values" (Datum.listOf? Datum.text?) }

/-- A condition on labels. -/
structure LabelSelector where
  matchExpressions : Option (List LabelRequirement) := none
  matchLabels : Option TextMap := none
  deriving DecidableEq, Repr

def LabelSelector.toValue (record : LabelSelector) : Value :=
  .object (
    optionalField "matchExpressions" (.list LabelRequirement.toValue)
      record.matchExpressions ++
    optionalField "matchLabels" .ofTextMap record.matchLabels)

def LabelSelector.ofDatum? (datum : Datum) : Option LabelSelector := do
  let fields ← datum.fields?
  return {
    matchExpressions :=
      ← fields.optional "matchExpressions"
        (Datum.listOf? LabelRequirement.ofDatum?)
    matchLabels := ← fields.optional "matchLabels" Datum.textMap? }

end HookKeeper

/-! ## Nodes -/

namespace HookKeeper

open HookKeeper.Json

/-- A node of the cluster. -/
structure Node where
  metadata : ObjectMeta := {}
  deriving DecidableEq, Repr

def Node.toValue (record : Node) : Value :=
  .object (
    field "apiVersion" (.text "v1") ++
    field "kind" (.text "Node") ++
    field "metadata" record.metadata.toValue)

def Node.ofDatum? (datum : Datum) : Option Node := do
  let fields ← datum.fields?
  fields.constant "apiVersion" "v1"
  fields.constant "kind" "Node"
  return {
    metadata := ← fields.defaulted "metadata" ObjectMeta.ofDatum? {} }

end HookKeeper
