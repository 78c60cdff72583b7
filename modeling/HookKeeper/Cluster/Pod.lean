import HookKeeper.Cluster.Metadata

/-!
# Pods

The part of a Deployment that describes its pods: containers, volumes and
placement.

As with metadata, fields that nothing here uses are left out.  An environment
variable has a value but no `valueFrom`, and `envFrom` is not there.  Resources
are without `claims`, mounts without `mountPropagation`, `recursiveReadOnly` and
`subPathExpr`.  Containers are without probes, `lifecycle`, `securityContext`
and `volumeDevices`, without the policies for resizing, restarts and termination
messages, and without `stdin`.  Of the sources of a volume there is only the
secret, without `items`.  Placement keeps the anti-affinity between pods by
labels and topology alone, without `nodeAffinity`, `podAffinity` and the choice
of namespaces and label keys.  Pods are without `initContainers`,
`securityContext`, `restartPolicy`, `serviceAccount`,
`topologySpreadConstraints` and the other fields that the template does not set.
-/

namespace HookKeeper

open HookKeeper.Json

/-- An environment variable of a container. -/
structure EnvVar where
  name : String := ""
  value : Option String := none
  deriving DecidableEq, Repr

/-- The JSON form of an environment variable. -/
def EnvVar.toValue (record : EnvVar) : Value :=
  .object (
    field "name" (.text record.name) ++
    optionalField "value" .text record.value)

/-- Read an environment variable; unknown fields are ignored. -/
def EnvVar.ofDatum? (datum : Datum) : Option EnvVar := do
  let fields ← datum.fields?
  return {
    name := ← fields.defaulted "name" Datum.text? ""
    value := ← fields.optional "value" Datum.text? }

/-- A port that a container opens. -/
structure ContainerPort where
  containerPort : Int32 := 0
  hostIP : Option String := none
  hostPort : Option Int32 := none
  name : Option String := none
  protocol : Option String := none
  deriving DecidableEq, Repr

def ContainerPort.toValue (record : ContainerPort) : Value :=
  .object (
    field "containerPort" (.int32 record.containerPort) ++
    optionalField "hostIP" .text record.hostIP ++
    optionalField "hostPort" .int32 record.hostPort ++
    optionalField "name" .text record.name ++
    optionalField "protocol" .text record.protocol)

def ContainerPort.ofDatum? (datum : Datum) : Option ContainerPort := do
  let fields ← datum.fields?
  return {
    containerPort := ← fields.defaulted "containerPort" Datum.int32? 0
    hostIP := ← fields.optional "hostIP" Datum.text?
    hostPort := ← fields.optional "hostPort" Datum.int32?
    name := ← fields.optional "name" Datum.text?
    protocol := ← fields.optional "protocol" Datum.text? }

/-- The resources that a container asks for and may use. -/
structure ResourceNeeds where
  limits : Option TextMap := none
  requests : Option TextMap := none
  deriving DecidableEq, Repr

def ResourceNeeds.toValue (record : ResourceNeeds) : Value :=
  .object (
    optionalField "limits" .ofTextMap record.limits ++
    optionalField "requests" .ofTextMap record.requests)

def ResourceNeeds.ofDatum? (datum : Datum) : Option ResourceNeeds := do
  let fields ← datum.fields?
  return {
    limits := ← fields.optional "limits" Datum.textMap?
    requests := ← fields.optional "requests" Datum.textMap? }

/-- A volume in the file tree of a container. -/
structure VolumeMount where
  mountPath : String := ""
  name : String := ""
  readOnly : Option Bool := none
  subPath : Option String := none
  deriving DecidableEq, Repr

def VolumeMount.toValue (record : VolumeMount) : Value :=
  .object (
    field "mountPath" (.text record.mountPath) ++
    field "name" (.text record.name) ++
    optionalField "readOnly" .bool record.readOnly ++
    optionalField "subPath" .text record.subPath)

def VolumeMount.ofDatum? (datum : Datum) : Option VolumeMount := do
  let fields ← datum.fields?
  return {
    mountPath := ← fields.defaulted "mountPath" Datum.text? ""
    name := ← fields.defaulted "name" Datum.text? ""
    readOnly := ← fields.optional "readOnly" Datum.bool?
    subPath := ← fields.optional "subPath" Datum.text? }

/-- A container of a pod. -/
structure Container where
  args : Option (List String) := none
  command : Option (List String) := none
  env : Option (List EnvVar) := none
  image : Option String := none
  imagePullPolicy : Option String := none
  name : String := ""
  ports : Option (List ContainerPort) := none
  resources : Option ResourceNeeds := none
  tty : Option Bool := none
  volumeMounts : Option (List VolumeMount) := none
  workingDir : Option String := none
  deriving DecidableEq, Repr

def Container.toValue (record : Container) : Value :=
  .object (
    optionalField "args" .texts record.args ++
    optionalField "command" .texts record.command ++
    optionalField "env" (.list EnvVar.toValue) record.env ++
    optionalField "image" .text record.image ++
    optionalField "imagePullPolicy" .text record.imagePullPolicy ++
    field "name" (.text record.name) ++
    optionalField "ports" (.list ContainerPort.toValue) record.ports ++
    optionalField "resources" ResourceNeeds.toValue record.resources ++
    optionalField "tty" .bool record.tty ++
    optionalField "volumeMounts" (.list VolumeMount.toValue)
      record.volumeMounts ++
    optionalField "workingDir" .text record.workingDir)

def Container.ofDatum? (datum : Datum) : Option Container := do
  let fields ← datum.fields?
  return {
    args := ← fields.optional "args" (Datum.listOf? Datum.text?)
    command := ← fields.optional "command" (Datum.listOf? Datum.text?)
    env := ← fields.optional "env" (Datum.listOf? EnvVar.ofDatum?)
    image := ← fields.optional "image" Datum.text?
    imagePullPolicy := ← fields.optional "imagePullPolicy" Datum.text?
    name := ← fields.defaulted "name" Datum.text? ""
    ports := ← fields.optional "ports" (Datum.listOf? ContainerPort.ofDatum?)
    resources := ← fields.optional "resources" ResourceNeeds.ofDatum?
    tty := ← fields.optional "tty" Datum.bool?
    volumeMounts := ← fields.optional "volumeMounts"
      (Datum.listOf? VolumeMount.ofDatum?)
    workingDir := ← fields.optional "workingDir" Datum.text? }

/-- A taint of nodes that a pod puts up with. -/
structure Toleration where
  effect : Option String := none
  key : Option String := none
  operator : Option String := none
  tolerationSeconds : Option Int64 := none
  value : Option String := none
  deriving DecidableEq, Repr

def Toleration.toValue (record : Toleration) : Value :=
  .object (
    optionalField "effect" .text record.effect ++
    optionalField "key" .text record.key ++
    optionalField "operator" .text record.operator ++
    optionalField "tolerationSeconds" .int64 record.tolerationSeconds ++
    optionalField "value" .text record.value)

def Toleration.ofDatum? (datum : Datum) : Option Toleration := do
  let fields ← datum.fields?
  return {
    effect := ← fields.optional "effect" Datum.text?
    key := ← fields.optional "key" Datum.text?
    operator := ← fields.optional "operator" Datum.text?
    tolerationSeconds := ← fields.optional "tolerationSeconds" Datum.int64?
    value := ← fields.optional "value" Datum.text? }

/-- A group of pods, and the nodes that count as one place. -/
structure PodGroup where
  labelSelector : Option LabelSelector := none
  topologyKey : String := ""
  deriving DecidableEq, Repr

def PodGroup.toValue (record : PodGroup) : Value :=
  .object (
    optionalField "labelSelector" LabelSelector.toValue record.labelSelector ++
    field "topologyKey" (.text record.topologyKey))

def PodGroup.ofDatum? (datum : Datum) : Option PodGroup := do
  let fields ← datum.fields?
  return {
    labelSelector := ← fields.optional "labelSelector" LabelSelector.ofDatum?
    topologyKey := ← fields.defaulted "topologyKey" Datum.text? "" }

/-- A group of pods with the weight of staying away from it. -/
structure WeightedPodGroup where
  podAffinityTerm : PodGroup := {}
  weight : Int32 := 0
  deriving DecidableEq, Repr

def WeightedPodGroup.toValue (record : WeightedPodGroup) : Value :=
  .object (
    field "podAffinityTerm" record.podAffinityTerm.toValue ++
    field "weight" (.int32 record.weight))

def WeightedPodGroup.ofDatum? (datum : Datum) : Option WeightedPodGroup := do
  let fields ← datum.fields?
  return {
    podAffinityTerm := ← fields.defaulted "podAffinityTerm" PodGroup.ofDatum? {}
    weight := ← fields.defaulted "weight" Datum.int32? 0 }

/-- The pods that a pod stays away from. -/
structure PodAntiAffinity where
  preferred : Option (List WeightedPodGroup) := none
  required : Option (List PodGroup) := none
  deriving DecidableEq, Repr

namespace PodAntiAffinity

/-- The field of the pods to stay away from if that is possible. -/
def preferredField : String := "preferredDuringSchedulingIgnoredDuringExecution"

/-- The field of the pods to stay away from in any case. -/
def requiredField : String := "requiredDuringSchedulingIgnoredDuringExecution"

def toValue (record : PodAntiAffinity) : Value :=
  .object (
    optionalField preferredField (.list WeightedPodGroup.toValue)
      record.preferred ++
    optionalField requiredField (.list PodGroup.toValue) record.required)

def ofDatum? (datum : Datum) : Option PodAntiAffinity := do
  let fields ← datum.fields?
  return {
    preferred := ← fields.optional preferredField
      (Datum.listOf? WeightedPodGroup.ofDatum?)
    required := ← fields.optional requiredField
      (Datum.listOf? PodGroup.ofDatum?) }

end PodAntiAffinity

/-- Where a pod prefers to run. -/
structure Affinity where
  podAntiAffinity : Option PodAntiAffinity := none
  deriving DecidableEq, Repr

def Affinity.toValue (record : Affinity) : Value :=
  .object (
    optionalField "podAntiAffinity" PodAntiAffinity.toValue
      record.podAntiAffinity)

def Affinity.ofDatum? (datum : Datum) : Option Affinity := do
  let fields ← datum.fields?
  return {
    podAntiAffinity := ← fields.optional "podAntiAffinity"
      PodAntiAffinity.ofDatum? }

/-- A secret that fills a volume. -/
structure SecretSource where
  defaultMode : Option Int32 := none
  isOptional : Option Bool := none
  secretName : Option String := none
  deriving DecidableEq, Repr

def SecretSource.toValue (record : SecretSource) : Value :=
  .object (
    optionalField "defaultMode" .int32 record.defaultMode ++
    optionalField "optional" .bool record.isOptional ++
    optionalField "secretName" .text record.secretName)

def SecretSource.ofDatum? (datum : Datum) : Option SecretSource := do
  let fields ← datum.fields?
  return {
    defaultMode := ← fields.optional "defaultMode" Datum.int32?
    isOptional := ← fields.optional "optional" Datum.bool?
    secretName := ← fields.optional "secretName" Datum.text? }

/-- A volume of a pod. -/
structure Volume where
  name : String := ""
  secret : Option SecretSource := none
  deriving DecidableEq, Repr

def Volume.toValue (record : Volume) : Value :=
  .object (
    field "name" (.text record.name) ++
    optionalField "secret" SecretSource.toValue record.secret)

def Volume.ofDatum? (datum : Datum) : Option Volume := do
  let fields ← datum.fields?
  return {
    name := ← fields.defaulted "name" Datum.text? ""
    secret := ← fields.optional "secret" SecretSource.ofDatum? }

/-- What a pod runs and where. -/
structure PodSpec where
  affinity : Option Affinity := none
  containers : List Container := []
  dnsPolicy : Option String := none
  hostNetwork : Option Bool := none
  nodeSelector : Option TextMap := none
  priorityClassName : Option String := none
  serviceAccountName : Option String := none
  terminationGracePeriodSeconds : Option Int64 := none
  tolerations : Option (List Toleration) := none
  volumes : Option (List Volume) := none
  deriving DecidableEq, Repr

def PodSpec.toValue (record : PodSpec) : Value :=
  .object (
    optionalField "affinity" Affinity.toValue record.affinity ++
    field "containers" (.list Container.toValue record.containers) ++
    optionalField "dnsPolicy" .text record.dnsPolicy ++
    optionalField "hostNetwork" .bool record.hostNetwork ++
    optionalField "nodeSelector" .ofTextMap record.nodeSelector ++
    optionalField "priorityClassName" .text record.priorityClassName ++
    optionalField "serviceAccountName" .text record.serviceAccountName ++
    optionalField "terminationGracePeriodSeconds" .int64
      record.terminationGracePeriodSeconds ++
    optionalField "tolerations" (.list Toleration.toValue) record.tolerations ++
    optionalField "volumes" (.list Volume.toValue) record.volumes)

def PodSpec.ofDatum? (datum : Datum) : Option PodSpec := do
  let fields ← datum.fields?
  return {
    affinity := ← fields.optional "affinity" Affinity.ofDatum?
    containers := ← fields.defaulted "containers"
      (Datum.listOf? Container.ofDatum?) []
    dnsPolicy := ← fields.optional "dnsPolicy" Datum.text?
    hostNetwork := ← fields.optional "hostNetwork" Datum.bool?
    nodeSelector := ← fields.optional "nodeSelector" Datum.textMap?
    priorityClassName := ← fields.optional "priorityClassName" Datum.text?
    serviceAccountName := ← fields.optional "serviceAccountName" Datum.text?
    terminationGracePeriodSeconds := ← fields.optional
      "terminationGracePeriodSeconds" Datum.int64?
    tolerations := ← fields.optional "tolerations"
      (Datum.listOf? Toleration.ofDatum?)
    volumes := ← fields.optional "volumes" (Datum.listOf? Volume.ofDatum?) }

/-- The pods that a Deployment creates. -/
structure PodTemplate where
  metadata : Option ObjectMeta := none
  spec : Option PodSpec := none
  deriving DecidableEq, Repr

def PodTemplate.toValue (record : PodTemplate) : Value :=
  .object (
    optionalField "metadata" ObjectMeta.toValue record.metadata ++
    optionalField "spec" PodSpec.toValue record.spec)

def PodTemplate.ofDatum? (datum : Datum) : Option PodTemplate := do
  let fields ← datum.fields?
  return {
    metadata := ← fields.optional "metadata" ObjectMeta.ofDatum?
    spec := ← fields.optional "spec" PodSpec.ofDatum? }

end HookKeeper
