import HookKeeper.Cluster.Metadata

/-!
# Registrations of admission hooks

A registration lists admission hooks; each has an address, rules for the
requests it is called for, and the certificates it is trusted by.  Hooks have
all their fields; what is left out of metadata is left out here too.
-/

namespace HookKeeper

open HookKeeper.Json
open HookKeeper.Text

/-- An expression that a request has to satisfy. -/
structure HookCondition where
  expression : String := ""
  name : String := ""
  deriving DecidableEq, Repr

/-- The JSON form of a condition on requests. -/
def HookCondition.toValue (record : HookCondition) : Value :=
  .object (
    field "expression" (.text record.expression) ++
    field "name" (.text record.name))

/-- Read a condition on requests; unknown fields are ignored. -/
def HookCondition.ofDatum? (datum : Datum) : Option HookCondition := do
  let fields ← datum.fields?
  return {
    expression := ← fields.defaulted "expression" Datum.text? ""
    name := ← fields.defaulted "name" Datum.text? "" }

/-- A service inside the cluster. -/
structure ServiceReference where
  name : String := ""
  namespaceName : String := ""
  path : Option String := none
  port : Option Int32 := none
  deriving DecidableEq, Repr

def ServiceReference.toValue (record : ServiceReference) : Value :=
  .object (
    field "name" (.text record.name) ++
    field "namespace" (.text record.namespaceName) ++
    optionalField "path" .text record.path ++
    optionalField "port" .int32 record.port)

def ServiceReference.ofDatum? (datum : Datum) : Option ServiceReference := do
  let fields ← datum.fields?
  return {
    name := ← fields.defaulted "name" Datum.text? ""
    namespaceName := ← fields.defaulted "namespace" Datum.text? ""
    path := ← fields.optional "path" Datum.text?
    port := ← fields.optional "port" Datum.int32? }

/-- How an admission hook is reached. -/
structure HookAddress where
  /-- The certificates that the hook is trusted by. -/
  caBundle : Option (List UInt8) := none
  service : Option ServiceReference := none
  url : Option String := none
  deriving DecidableEq, Repr

def HookAddress.toValue (record : HookAddress) : Value :=
  .object (
    optionalField "caBundle" (fun bytes => .text (Base64.encode bytes))
      record.caBundle ++
    optionalField "service" ServiceReference.toValue record.service ++
    optionalField "url" .text record.url)

def HookAddress.ofDatum? (datum : Datum) : Option HookAddress := do
  let fields ← datum.fields?
  return {
    caBundle := ← fields.optional "caBundle" Datum.bytes?
    service := ← fields.optional "service" ServiceReference.ofDatum?
    url := ← fields.optional "url" Datum.text? }

/-- The operations on resources that a hook is called for. -/
structure HookRule where
  apiGroups : Option (List String) := none
  apiVersions : Option (List String) := none
  operations : Option (List String) := none
  resources : Option (List String) := none
  scope : Option String := none
  deriving DecidableEq, Repr

def HookRule.toValue (record : HookRule) : Value :=
  .object (
    optionalField "apiGroups" .texts record.apiGroups ++
    optionalField "apiVersions" .texts record.apiVersions ++
    optionalField "operations" .texts record.operations ++
    optionalField "resources" .texts record.resources ++
    optionalField "scope" .text record.scope)

def HookRule.ofDatum? (datum : Datum) : Option HookRule := do
  let fields ← datum.fields?
  return {
    apiGroups := ← fields.optional "apiGroups" (Datum.listOf? Datum.text?)
    apiVersions := ← fields.optional "apiVersions" (Datum.listOf? Datum.text?)
    operations := ← fields.optional "operations" (Datum.listOf? Datum.text?)
    resources := ← fields.optional "resources" (Datum.listOf? Datum.text?)
    scope := ← fields.optional "scope" Datum.text? }

/-- An admission hook. -/
structure Hook where
  admissionReviewVersions : List String := []
  clientConfig : HookAddress := {}
  failurePolicy : Option String := none
  matchConditions : Option (List HookCondition) := none
  matchPolicy : Option String := none
  name : String := ""
  namespaceSelector : Option LabelSelector := none
  objectSelector : Option LabelSelector := none
  rules : Option (List HookRule) := none
  sideEffects : String := ""
  timeoutSeconds : Option Int32 := none
  deriving DecidableEq, Repr

def Hook.toValue (record : Hook) : Value :=
  .object (
    field "admissionReviewVersions" (.texts record.admissionReviewVersions) ++
    field "clientConfig" record.clientConfig.toValue ++
    optionalField "failurePolicy" .text record.failurePolicy ++
    optionalField "matchConditions" (.list HookCondition.toValue)
      record.matchConditions ++
    optionalField "matchPolicy" .text record.matchPolicy ++
    field "name" (.text record.name) ++
    optionalField "namespaceSelector" LabelSelector.toValue
      record.namespaceSelector ++
    optionalField "objectSelector" LabelSelector.toValue
      record.objectSelector ++
    optionalField "rules" (.list HookRule.toValue) record.rules ++
    field "sideEffects" (.text record.sideEffects) ++
    optionalField "timeoutSeconds" .int32 record.timeoutSeconds)

def Hook.ofDatum? (datum : Datum) : Option Hook := do
  let fields ← datum.fields?
  return {
    admissionReviewVersions :=
      ← fields.defaulted "admissionReviewVersions" (Datum.listOf? Datum.text?)
        []
    clientConfig := ← fields.defaulted "clientConfig" HookAddress.ofDatum? {}
    failurePolicy := ← fields.optional "failurePolicy" Datum.text?
    matchConditions := ← fields.optional "matchConditions"
      (Datum.listOf? HookCondition.ofDatum?)
    matchPolicy := ← fields.optional "matchPolicy" Datum.text?
    name := ← fields.defaulted "name" Datum.text? ""
    namespaceSelector := ← fields.optional "namespaceSelector"
      LabelSelector.ofDatum?
    objectSelector := ← fields.optional "objectSelector" LabelSelector.ofDatum?
    rules := ← fields.optional "rules" (Datum.listOf? HookRule.ofDatum?)
    sideEffects := ← fields.defaulted "sideEffects" Datum.text? ""
    timeoutSeconds := ← fields.optional "timeoutSeconds" Datum.int32? }

/-- A registration of admission hooks. -/
structure Registration where
  metadata : ObjectMeta := {}
  webhooks : Option (List Hook) := none
  deriving DecidableEq, Repr

def Registration.toValue (record : Registration) : Value :=
  .object (
    field "apiVersion" (.text "admissionregistration.k8s.io/v1") ++
    field "kind" (.text "ValidatingWebhookConfiguration") ++
    field "metadata" record.metadata.toValue ++
    optionalField "webhooks" (.list Hook.toValue) record.webhooks)

def Registration.ofDatum? (datum : Datum) : Option Registration := do
  let fields ← datum.fields?
  fields.constant "apiVersion" "admissionregistration.k8s.io/v1"
  fields.constant "kind" "ValidatingWebhookConfiguration"
  return {
    metadata := ← fields.defaulted "metadata" ObjectMeta.ofDatum? {}
    webhooks := ← fields.optional "webhooks" (Datum.listOf? Hook.ofDatum?) }

end HookKeeper
