import HookKeeper.Proofs.Decoding
import HookKeeper.Proofs.Template

/-!
# Reading the template of the Deployment

The Deployment is read level by level: each record on the path to the image
takes what is read at the next one, and nothing else of it depends on the image.
So the tokens that stand where the image stands settle the image of the
Deployment, or refuse it.
-/

namespace HookKeeper

/-! ## One field of a record -/

/-- The result of a mapping that succeeds has the image of each member. -/
theorem mem_of_mapM
    {α β : Type}
    {f : α → Option β}
    {members : List α}
    {results : List β}
    (mapped : members.mapM f = some results)
    {member : α}
    {image : β}
    (listed : member ∈ members)
    (same : f member = some image) : image ∈ results := by
  induction members generalizing results with
  | nil => exact absurd listed List.not_mem_nil
  | cons first members ih =>
      rw [List.mapM_cons] at mapped
      rcases Option.bind_eq_some_iff.1 mapped with ⟨here, read, more⟩
      rcases Option.bind_eq_some_iff.1 more with ⟨others, later, made⟩
      cases made
      rcases List.mem_cons.1 listed with rfl | further
      · rw [same] at read
        cases read
        exact List.mem_cons_self
      · exact List.mem_cons_of_mem _ (ih later further)

namespace Datum.Fields

variable {α : Type} {key name : String} {before after fields : Fields}
  {read : Datum → Option α} {datum : Datum}

/-- A field does not matter under another name. -/
theorem optional_of_ne
    (other : key ≠ name)
    (datum : Datum)
    (before after : Fields)
    (read : Datum → Option α) :
    optional (before ++ (key, datum) :: after) name read =
      optional (before ++ after) name read := by
  simp only [optional, List.foldlM_append, List.foldlM_cons, if_neg other]
  rfl

theorem defaulted_of_ne
    (other : key ≠ name)
    (datum : Datum)
    (before after : Fields)
    (read : Datum → Option α)
    (absent : α) :
    defaulted (before ++ (key, datum) :: after) name read absent =
      defaulted (before ++ after) name read absent := by
  rw [defaulted, optional_of_ne other, defaulted]

/-- A field that stands once is read by itself, and is absent without it. -/
theorem optional_self
    (fresh : key ∉ (before ++ after).map Prod.fst)
    (datum : Datum)
    (read : Datum → Option α) :
    optional (before ++ (key, datum) :: after) key read =
        Datum.optional read datum ∧
      optional (before ++ after) key read = some none := by
  rw [List.map_append, List.mem_append, not_or] at fresh
  constructor
  · simp only [optional, List.foldlM_append, List.foldlM_cons,
      foldlM_absent fresh.1, if_true, Option.bind_eq_bind, Option.bind_some]
    cases Datum.optional read datum with
    | none => rfl
    | some found => exact foldlM_absent fresh.2 found
  · simp only [optional, List.foldlM_append, foldlM_absent fresh.1]
    exact foldlM_absent fresh.2 none

/-- Every occurrence of a field is read. -/
theorem optional_eq_none_of_mem
    (member : (name, datum) ∈ fields)
    (fault : Datum.optional read datum = none) :
    optional fields name read = none := by
  rcases List.append_of_mem member with ⟨before, after, rfl⟩
  simp [optional, List.foldlM_append, List.foldlM_cons, fault]

end Datum.Fields

open HookKeeper.Datum

/-- The datum of a record whose keys are plain text. -/
def recordDatum (fields : Fields) : Datum :=
  .map (fields.map fun field =>
    (.scalar (Yaml.scalarReading field.1 .plain none), field.2))

theorem fields?_recordDatum (fields : Fields) :
    (recordDatum fields).fields? = some fields := by
  rw [recordDatum, fields?, List.mapM_map]
  induction fields with
  | nil => rfl
  | cons first rest ih =>
      rw [List.mapM_cons, ih]
      rfl

theorem optional_recordDatum
    {α : Type}
    (read : Datum → Option α)
    (fields : Fields) :
    Datum.optional read (recordDatum fields) =
      (read (recordDatum fields)).map some := rfl

section

variable {α β γ δ : Type} {part other : Option α}

/-- What is read beside a part of a record is read alike without that part. -/
theorem bind_beside
    {whole : α → Option γ}
    {rest : α → Option β}
    {change : β → Option γ}
    (apart : part = other)
    (same : ∀ value, whole value = (rest value).bind change) :
    part.bind whole = (other.bind rest).bind change := by
  rw [apart]
  cases other with
  | none => rfl
  | some value => exact same value

/-- A part of a record may be read last. -/
theorem bind_part
    {whole : α → Option γ}
    {rest : Option β}
    {put : α → β → γ}
    (same : ∀ value, whole value = rest.bind fun record =>
      some (put value record)) :
    part.bind whole =
      rest.bind fun record => part.map fun value => put value record := by
  cases part with
  | none => exact (Option.bind_fun_none _).symm
  | some value => exact same value

theorem bind_defaulted
    {get : α → δ}
    {whole : δ → Option γ}
    {rest : Option β}
    {put : α → β → γ}
    (same : ∀ value, whole (get value) = rest.bind fun record =>
      some (put value record)) :
    (part.map get).bind whole =
      rest.bind fun record => part.map fun value => put value record :=
  (Option.bind_map ..).trans (bind_part same)

end

section

variable {before after : Fields}

theorem Container.ofDatum?_image
    (fresh : "image" ∉ (before ++ after).map Prod.fst)
    (datum : Datum) :
    ofDatum? (recordDatum (before ++ ("image", datum) :: after)) =
      (ofDatum? (recordDatum (before ++ after))).bind fun container =>
        (Datum.optional text? datum).map fun image =>
          { container with image := image } := by
  rcases Fields.optional_self fresh datum text? with ⟨here, absent⟩
  have apart {α : Type} (name : String) (read : Datum → Option α)
      (other : "image" ≠ name) :=
    Fields.optional_of_ne other datum before after read
  have named := Fields.defaulted_of_ne (show "image" ≠ "name" by decide) datum
    before after text? ""
  rw [ofDatum?, ofDatum?, fields?_recordDatum, fields?_recordDatum,
    Option.bind_eq_bind, Option.bind_some, Option.bind_some]
  refine bind_beside (apart "args" _ (by decide)) fun _ =>
    bind_beside (apart "command" _ (by decide)) fun _ =>
    bind_beside (apart "env" _ (by decide)) fun _ => ?_
  rw [here, absent, Option.bind_eq_bind, Option.bind_some]
  exact bind_part fun _ =>
    bind_beside (apart "imagePullPolicy" _ (by decide)) fun _ =>
    bind_beside named fun _ =>
    bind_beside (apart "ports" _ (by decide)) fun _ =>
    bind_beside (apart "resources" _ (by decide)) fun _ =>
    bind_beside (apart "tty" _ (by decide)) fun _ =>
    bind_beside (apart "volumeMounts" _ (by decide)) fun _ =>
    bind_beside (apart "workingDir" _ (by decide)) fun _ => rfl

theorem PodSpec.ofDatum?_containers
    (fresh : "containers" ∉ (before ++ after).map Prod.fst)
    (datum : Datum) :
    ofDatum? (recordDatum (before ++ ("containers", datum) :: after)) =
      (ofDatum? (recordDatum (before ++ after))).bind fun pod =>
        (Datum.optional (listOf? Container.ofDatum?) datum).map
          fun containers => { pod with containers := containers.getD [] } := by
  rcases Fields.optional_self fresh datum (listOf? Container.ofDatum?) with
    ⟨here, absent⟩
  have apart {α : Type} (name : String) (read : Datum → Option α)
      (other : "containers" ≠ name) :=
    Fields.optional_of_ne other datum before after read
  rw [ofDatum?, ofDatum?, fields?_recordDatum, fields?_recordDatum,
    Option.bind_eq_bind, Option.bind_some, Option.bind_some]
  refine bind_beside (apart "affinity" _ (by decide)) fun _ => ?_
  rw [Fields.defaulted, here, Fields.defaulted, absent, Option.map_some,
    Option.bind_eq_bind, Option.bind_some]
  exact bind_defaulted fun _ =>
    bind_beside (apart "dnsPolicy" _ (by decide)) fun _ =>
    bind_beside (apart "hostNetwork" _ (by decide)) fun _ =>
    bind_beside (apart "nodeSelector" _ (by decide)) fun _ =>
    bind_beside (apart "priorityClassName" _ (by decide)) fun _ =>
    bind_beside (apart "serviceAccountName" _ (by decide)) fun _ =>
    bind_beside (apart "terminationGracePeriodSeconds" _ (by decide)) fun _ =>
    bind_beside (apart "tolerations" _ (by decide)) fun _ =>
    bind_beside (apart "volumes" _ (by decide)) fun _ => rfl

theorem PodTemplate.ofDatum?_spec
    (fresh : "spec" ∉ (before ++ after).map Prod.fst)
    (datum : Datum) :
    ofDatum? (recordDatum (before ++ ("spec", datum) :: after)) =
      (ofDatum? (recordDatum (before ++ after))).bind fun template =>
        (Datum.optional PodSpec.ofDatum? datum).map fun spec =>
          { template with spec := spec } := by
  rcases Fields.optional_self fresh datum PodSpec.ofDatum? with ⟨here, absent⟩
  have described := Fields.optional_of_ne (show "spec" ≠ "metadata" by decide)
    datum before after ObjectMeta.ofDatum?
  rw [ofDatum?, ofDatum?, fields?_recordDatum, fields?_recordDatum,
    Option.bind_eq_bind, Option.bind_some, Option.bind_some]
  refine bind_beside described fun _ => ?_
  rw [here, absent, Option.bind_eq_bind, Option.bind_some]
  exact bind_part fun _ => rfl

theorem DeploymentSpec.ofDatum?_template
    (fresh : "template" ∉ (before ++ after).map Prod.fst)
    (datum : Datum) :
    ofDatum? (recordDatum (before ++ ("template", datum) :: after)) =
      (ofDatum? (recordDatum (before ++ after))).bind fun spec =>
        (Datum.optional PodTemplate.ofDatum? datum).map fun template =>
          { spec with template := template.getD {} } := by
  rcases Fields.optional_self fresh datum PodTemplate.ofDatum? with
    ⟨here, absent⟩
  have apart {α : Type} (name : String) (read : Datum → Option α)
      (other : "template" ≠ name) :=
    Fields.optional_of_ne other datum before after read
  have selected :=
    Fields.defaulted_of_ne (show "template" ≠ "selector" by decide) datum
      before after LabelSelector.ofDatum? {}
  rw [ofDatum?, ofDatum?, fields?_recordDatum, fields?_recordDatum,
    Option.bind_eq_bind, Option.bind_some, Option.bind_some]
  refine bind_beside (apart "minReadySeconds" _ (by decide)) fun _ =>
    bind_beside (apart "paused" _ (by decide)) fun _ =>
    bind_beside (apart "progressDeadlineSeconds" _ (by decide)) fun _ =>
    bind_beside (apart "replicas" _ (by decide)) fun _ =>
    bind_beside (apart "revisionHistoryLimit" _ (by decide)) fun _ =>
    bind_beside selected fun _ =>
    bind_beside (apart "strategy" _ (by decide)) fun _ => ?_
  rw [Fields.defaulted, here, Fields.defaulted, absent, Option.map_some,
    Option.bind_eq_bind, Option.bind_some]
  exact bind_defaulted fun _ => rfl

theorem Deployment.ofDatum?_spec
    (fresh : "spec" ∉ (before ++ after).map Prod.fst)
    (datum : Datum) :
    ofDatum? (recordDatum (before ++ ("spec", datum) :: after)) =
      (ofDatum? (recordDatum (before ++ after))).bind fun deployment =>
        (Datum.optional DeploymentSpec.ofDatum? datum).map fun spec =>
          { deployment with spec := spec } := by
  rcases Fields.optional_self fresh datum DeploymentSpec.ofDatum? with
    ⟨here, absent⟩
  have constant (name expected : String) (other : "spec" ≠ name) :
      Fields.constant (before ++ ("spec", datum) :: after) name expected =
        Fields.constant (before ++ after) name expected := by
    have passed : ("spec" != name) = true := bne_iff_ne.2 other
    simp only [Fields.constant, List.all_append, List.all_cons, passed,
      Bool.true_or, Bool.true_and]
  have described := Fields.defaulted_of_ne (show "spec" ≠ "metadata" by decide)
    datum before after ObjectMeta.ofDatum? {}
  have reported := Fields.optional_of_ne (show "spec" ≠ "status" by decide)
    datum before after DeploymentStatus.ofDatum?
  rw [ofDatum?, ofDatum?, fields?_recordDatum, fields?_recordDatum,
    Option.bind_eq_bind, Option.bind_some, Option.bind_some]
  refine bind_beside (constant "apiVersion" _ (by decide)) fun _ =>
    bind_beside (constant "kind" _ (by decide)) fun _ =>
    bind_beside described fun _ => ?_
  rw [here, absent, Option.bind_eq_bind, Option.bind_some]
  exact bind_part fun _ => bind_beside reported fun _ => rfl

end

/-- A record is read only where one of its fields is. -/
def NeedsField
    {α β : Type}
    (read : Datum → Option α)
    (name : String)
    (part : Datum → Option β) : Prop :=
  ∀ datum,
    (∀ fields, datum.fields? = some fields →
      fields.optional name part = none) →
      read datum = none

theorem Container.needsField_image :
    NeedsField ofDatum? "image" text? := fun datum fault => by
  cases found : datum.fields? with
  | none => simp [ofDatum?, found]
  | some fields => simp [ofDatum?, found, fault fields found]

theorem PodSpec.needsField_containers :
    NeedsField ofDatum? "containers" (listOf? Container.ofDatum?) :=
  fun datum fault => by
    cases found : datum.fields? with
    | none => simp [ofDatum?, found]
    | some fields =>
        simp [ofDatum?, Fields.defaulted, found, fault fields found]

theorem PodTemplate.needsField_spec :
    NeedsField ofDatum? "spec" PodSpec.ofDatum? := fun datum fault => by
  cases found : datum.fields? with
  | none => simp [ofDatum?, found]
  | some fields => simp [ofDatum?, found, fault fields found]

theorem DeploymentSpec.needsField_template :
    NeedsField ofDatum? "template" PodTemplate.ofDatum? :=
  fun datum fault => by
    cases found : datum.fields? with
    | none => simp [ofDatum?, found]
    | some fields =>
        simp [ofDatum?, Fields.defaulted, found, fault fields found]

theorem Deployment.needsField_spec :
    NeedsField ofDatum? "spec" DeploymentSpec.ofDatum? := fun datum fault => by
  cases found : datum.fields? with
  | none => simp [ofDatum?, found]
  | some fields => simp [ofDatum?, found, fault fields found]

namespace Yaml

/-! ## Data of nodes on a path -/

namespace Outline

/-- The datum of a node, which has no aliases. -/
def datum (outline : Outline) : Datum := outline.node.datum []

/-- The data of entries. -/
def fields (entries : List (String × Outline)) : Fields :=
  entries.map fun entry => (entry.1, entry.2.datum)

mutual

theorem datum_node
    (slots : SlotData)
    (outline : Outline) :
    outline.node.datum slots = outline.datum := by
  cases outline with
  | leaf text style => rfl
  | list items =>
      rw [datum, node, Node.datum, Node.datum, itemData_itemNodes slots items,
        itemData_itemNodes [] items]
  | record entries =>
      rw [datum, node, Node.datum, Node.datum,
        entryData_entryNodes slots entries, entryData_entryNodes [] entries]

theorem itemData_itemNodes
    (slots : SlotData)
    (items : List Outline) :
    Node.itemData slots (itemNodes items) = items.map datum := by
  cases items with
  | nil => rfl
  | cons item items =>
      rw [itemNodes, Node.itemData, datum_node slots item,
        itemData_itemNodes slots items]
      rfl

theorem entryData_entryNodes
    (slots : SlotData)
    (entries : List (String × Outline)) :
    Node.entryData slots (entryNodes entries) =
      (fields entries).map fun field =>
        (.scalar (scalarReading field.1 .plain none), field.2) := by
  cases entries with
  | nil => rfl
  | cons entry entries =>
      rcases entry with ⟨key, value⟩
      rw [entryNodes, Node.entryData, datum_node slots value,
        entryData_entryNodes slots entries]
      rfl

end

end Outline

namespace Frame

open Outline

variable {before after : List (String × Outline)} {key : String}
  {value whole : Node} {slots : SlotData}

theorem entryData_append (first rest : List (Node × Node)) :
    Node.entryData slots (first ++ rest) =
      Node.entryData slots first ++ Node.entryData slots rest := by
  induction first with
  | nil => rfl
  | cons entry first ih =>
      rcases entry with ⟨name, node⟩
      rw [List.cons_append, Node.entryData, ih]
      rfl

/-- A record with a value at its place. -/
theorem datum_plug
    (before after : List (String × Outline))
    (key : String)
    (value : Node)
    (slots : SlotData) :
    ((entry before key after).plug value).datum slots =
      recordDatum
        (fields before ++ (key, value.datum slots) :: fields after) := by
  rw [plug, Node.datum, entryData_append, Node.entryData, recordDatum,
    List.map_append, List.map_cons, entryData_entryNodes,
    entryData_entryNodes]
  rfl

/-- A record that needs a field is refused with its value. -/
theorem read_of_holds
    {α β : Type}
    {read : Datum → Option α}
    {part : Datum → Option β}
    (needs : NeedsField read key part)
    (holds : (entry before key after).Holds value whole)
    (fault : Datum.optional part (value.datum slots) = none) :
    read (whole.datum slots) = none := by
  rcases holds with ⟨later, rfl⟩
  refine needs _ fun fields found => ?_
  rw [Node.datum, entryData_append, Node.entryData] at found
  have member : (key, value.datum slots) ∈ fields :=
    mem_of_mapM found (List.mem_append_right _ List.mem_cons_self) rfl
  exact Fields.optional_eq_none_of_mem member fault

/-- A sequence is refused with its first item. -/
theorem listOf?_of_holds
    {α : Type}
    {read : Datum → Option α}
    (holds : (item [] []).Holds value whole)
    (fault : read (value.datum slots) = none) :
    Datum.optional (listOf? read) (whole.datum slots) = none := by
  rcases holds with ⟨later, rfl⟩
  show Option.map some (List.mapM read
    (value.datum slots :: Node.itemData slots later)) = none
  rw [List.mapM_cons, fault]
  rfl

theorem optional_of_holds
    {α : Type}
    {read : Datum → Option α}
    (holds : (entry before key after).Holds value whole)
    (fault : read (whole.datum slots) = none) :
    Datum.optional read (whole.datum slots) = none := by
  rcases holds with ⟨later, rfl⟩
  exact congrArg (Option.map some) fault

end Frame

end Yaml

namespace Manifest

open HookKeeper.Yaml

/-! ## Reading the Deployment -/

/-- The labels of the Deployment and its pods. -/
def appLabels : TextMap := .ofList [("app", "csi-snapshot-webhook")]

/-- The Deployment without its specification. -/
def deploymentFrame : Deployment where
  metadata := {
    name := some "csi-snapshot-webhook"
    namespaceName := some "openshift-cluster-storage-operator"
    labels := some appLabels }

/-- The specification without the pods. -/
def specFrame : DeploymentSpec where
  replicas := some 1
  selector := { matchLabels := some appLabels }
  strategy := some {
    type := some "RollingUpdate"
    rollingUpdate := some {
      maxUnavailable := some (.int 1)
      maxSurge := some (.int 0) } }

/-- The pods without their specification. -/
def templateFrame : PodTemplate where
  metadata := some { labels := some appLabels }

/-- A pod without its container. -/
def podFrame : PodSpec where
  serviceAccountName := some "csi-snapshot-webhook"
  priorityClassName := some "system-cluster-critical"
  nodeSelector := some (.ofList [("node-role.kubernetes.io/master", "")])
  tolerations := some [{
    key := some "node-role.kubernetes.io/master"
    operator := some "Exists"
    effect := some "NoSchedule" }]
  affinity := some {
    podAntiAffinity := some {
      preferred := some [{
        weight := 100
        podAffinityTerm := {
          labelSelector := some { matchLabels := some appLabels }
          topologyKey := "kubernetes.io/hostname" } }] } }
  volumes := some [{
    name := "certs"
    secret := some { secretName := some "csi-snapshot-webhook-secret" } }]

/-- The container without its image. -/
def containerFrame (level : LogLevel) : Container where
  name := "webhook"
  args := some [
    "--tls-cert-file=/etc/snapshot-validation-webhook/certs/tls.crt",
    "--tls-private-key-file=/etc/snapshot-validation-webhook/certs/tls.key",
    verbosityArgument level,
    "--port=8443"]
  ports := some [{ name := some "webhook", containerPort := 8443 }]
  resources := some {
    requests := some (.ofList [("cpu", "10m"), ("memory", "20Mi")]) }
  volumeMounts := some [{
    name := "certs"
    mountPath := "/etc/snapshot-validation-webhook/certs"
    readOnly := some true }]

/-- The Deployment with a container. -/
def deploymentOf (container : Container) : Deployment :=
  { deploymentFrame with
    spec := some { specFrame with
      template := { templateFrame with
        spec := some { podFrame with containers := [container] } } } }

/-- The Deployment that the template describes with an image. -/
def templateDeployment
    (image : Option String)
    (level : LogLevel) : Deployment :=
  deploymentOf { containerFrame level with image := image }

/-- The Deployment takes what its container is read as. -/
theorem ofDatum?_containerPath
    (container : Yaml.Node)
    (slots : SlotData) :
    Deployment.ofDatum? ((containerPath.plug container).datum slots) =
      (Container.ofDatum? (container.datum slots)).map deploymentOf := by
  have deployment : Deployment.ofDatum? (recordDatum
      (Outline.fields fieldsBeforeSpec ++ Outline.fields [])) =
        some deploymentFrame := rfl
  have spec : DeploymentSpec.ofDatum? (recordDatum
      (Outline.fields fieldsBeforeTemplate ++ Outline.fields [])) =
        some specFrame := rfl
  have template : PodTemplate.ofDatum? (recordDatum
      (Outline.fields fieldsBeforePod ++ Outline.fields [])) =
        some templateFrame := rfl
  have pod : PodSpec.ofDatum? (recordDatum
      (Outline.fields fieldsBeforeContainers ++
        Outline.fields fieldsAfterContainers)) = some podFrame := rfl
  have containers : Datum.optional (listOf? Container.ofDatum?)
      (((Frame.item [] []).plug container).datum slots) =
        (Container.ofDatum? (container.datum slots)).map fun container =>
          some [container] := by
    show Option.map some (List.mapM Container.ofDatum?
      [container.datum slots]) = _
    rw [List.mapM_cons, List.mapM_nil]
    cases Container.ofDatum? (container.datum slots) <;> rfl
  simp only [containerPath, Path.plug, Frame.datum_plug]
  rw [Deployment.ofDatum?_spec (by decide), deployment, Option.bind_some,
    optional_recordDatum, DeploymentSpec.ofDatum?_template (by decide), spec,
    Option.bind_some, optional_recordDatum,
    PodTemplate.ofDatum?_spec (by decide), template, Option.bind_some,
    optional_recordDatum, PodSpec.ofDatum?_containers (by decide), pod,
    Option.bind_some, containers]
  cases Container.ofDatum? (container.datum slots) <;> rfl

/-- The container takes what the value of its image is read as. -/
theorem ofDatum?_image
    (level : LogLevel)
    (value : Yaml.Node)
    (slots : SlotData) :
    Deployment.ofDatum?
        (((imagePath (fieldsAfterImage level)).plug value).datum slots) =
      (Datum.optional text? (value.datum slots)).map fun image =>
        templateDeployment image level := by
  have container : Container.ofDatum? (recordDatum
      (Outline.fields fieldsBeforeImage ++
        Outline.fields (fieldsAfterImage level))) =
          some (containerFrame level) := by
    cases level <;> rfl
  have fresh : "image" ∉ (Outline.fields fieldsBeforeImage ++
      Outline.fields (fieldsAfterImage level)).map Prod.fst := by
    cases level <;> decide
  rw [imagePath, Path.plug, ofDatum?_containerPath, Frame.datum_plug,
    Container.ofDatum?_image fresh, container, Option.bind_some,
    Option.map_map]
  rfl

/-- A Deployment whose image cannot be read is refused, whatever follows. -/
theorem ofDatum?_of_holds
    {after : List (String × Outline)}
    {value root : Yaml.Node}
    {slots : SlotData}
    (holds : (imagePath after).Holds value root)
    (fault : Datum.optional text? (value.datum slots) = none) :
    Deployment.ofDatum? (root.datum slots) = none := by
  rcases holds with ⟨_, image, _, items, _, inPod, _, inTemplate, _, inSpec, _,
    inDeployment, rfl⟩
  have container := Frame.read_of_holds Container.needsField_image image fault
  have pod := Frame.read_of_holds PodSpec.needsField_containers inPod
    (Frame.listOf?_of_holds items container)
  have template := Frame.read_of_holds PodTemplate.needsField_spec inTemplate
    (Frame.optional_of_holds inPod pod)
  have spec := Frame.read_of_holds DeploymentSpec.needsField_template inSpec
    (Frame.optional_of_holds inTemplate template)
  exact Frame.read_of_holds Deployment.needsField_spec inDeployment
    (Frame.optional_of_holds inSpec spec)

/-! ## From tokens to the Deployment -/

theorem datum_of_root
    {document : Yaml.Document}
    {root : Yaml.Node}
    (found : document.root = some root) :
    ∃ slots, document.datum = root.datum slots := by
  rw [Yaml.Document.datum, found]
  dsimp only
  split
  · exact ⟨_, rfl⟩
  · exact ⟨_, rfl⟩

theorem optional_text?_of_isCollection
    {value : Yaml.Node}
    (collection : value.IsCollection)
    (slots : SlotData) :
    Datum.optional text? (value.datum slots) = none := by
  cases value with
  | sequence items => rfl
  | mapping entries => rfl
  | _ => exact collection.elim

/-- Text in an optional position is the text of the scalar, or none. -/
theorem eq_of_optional_text?
    {text found : String}
    {style : Style}
    {tag : Option String}
    (read : Datum.optional text? (.scalar (scalarReading text style tag)) =
        some (some found)) :
    found = text := by
  rw [Datum.optional] at read
  split at read
  · exact absurd read nofun
  · exact absurd read nofun
  · exact (Option.some.inj (Option.some.inj read)).symm

/-- Whether plain text stands for no value in an optional position. -/
def isNoValue (text : String) : Bool := text == "" || isNullWord text

/-- The value that plain text stands for in an optional position. -/
def valueOf (text : String) : Option String :=
  if isNoValue text then none else some text

/-- What an image on a line is read as. -/
def readImage (image : List Char) : Option String :=
  valueOf (String.ofList (PlainText.heard image))

theorem valueOf_eq_some_iff {text value : String} :
    valueOf text = some value ↔ text = value ∧ isNoValue value = false := by
  rw [valueOf]
  cases empty : isNoValue text with
  | true =>
      refine ⟨nofun, fun ⟨same, given⟩ => ?_⟩
      rw [same, given] at empty
      exact absurd empty nofun
  | false =>
      refine ⟨fun same => ?_, fun ⟨same, _⟩ => congrArg some same⟩
      have equal : text = value := Option.some.inj same
      exact ⟨equal, equal ▸ empty⟩

theorem readImage_eq_some_iff {image : String} :
    readImage image.toList = some image ↔
      PlainText.heard image.toList = image.toList ∧
        isNoValue image = false := by
  have spelled : String.ofList (PlainText.heard image.toList) = image ↔
      PlainText.heard image.toList = image.toList :=
    ⟨fun same => by
      rw [← String.toList_ofList (l := PlainText.heard image.toList), same],
      fun same => by rw [same, String.ofList_toList]⟩
  rw [readImage, valueOf_eq_some_iff, spelled]

theorem optional_text?_plain (text : String) :
    Datum.optional text? (.scalar (scalarReading text .plain none)) =
      some (valueOf text) := by
  rw [valueOf]
  cases empty : isNoValue text with
  | true =>
      have absent : (scalarReading text .plain none).presence = .absent :=
        if_pos empty
      rw [Datum.optional, absent]
      rfl
  | false =>
      have given : (scalarReading text .plain none).presence = .given :=
        if_neg (Bool.eq_false_iff.1 empty)
      rw [Datum.optional, given]
      rfl

/-- Reading a document starts with no anchors. -/
def freshReading : Reading := ⟨[], Document.defaultHandles, Anchors.empty⟩

theorem length_opening (after : List (String × Outline)) :
    (imagePath after).opening.length = 118 := rfl

theorem depth_imagePath (after : List (String × Outline)) :
    (imagePath after).depth = 28 := rfl

/--
A document that starts as the template is read up to the value of the image.
-/
theorem ofTokens?_opening
    {after : List (String × Outline)}
    (cheap : ∀ part ∈ imagePath after, part.cost ≤ 400)
    (rest : List Token) :
    ∃ fuel,
      (∀ part ∈ imagePath after, part.cost ≤ fuel) ∧
        Document.ofTokens? ((imagePath after).opening ++ rest) =
          ((Reading.entryValue? fuel (freshReading.withTokens rest)).bind
            fun (value, reading) =>
              (imagePath after).rest? fuel value reading).bind
            fun (root, reading) =>
              if Document.isDone reading.tokens then
                some ⟨some root, reading.anchors⟩
              else none := by
  have steps : 400 + (imagePath after).depth ≤
      Document.stepsFor ((imagePath after).opening ++ rest) := by
    rw [Document.stepsFor, List.length_append, length_opening, depth_imagePath]
    omega
  obtain ⟨more, total⟩ := Nat.exists_eq_add_of_le steps
  have enough : ∀ part ∈ imagePath after, part.cost ≤ 400 + more :=
    fun part member => Nat.le_add_right_of_le (cheap part member)
  obtain ⟨others, starts⟩ :
      ∃ others, (imagePath after).opening = .blockMappingStart :: others :=
    ⟨_, rfl⟩
  have body : Document.ofTokens? ((imagePath after).opening ++ rest) =
      Document.body? Document.defaultHandles
        ((imagePath after).opening ++ rest) := by
    rw [starts]
    rfl
  have read := Path.node?_opening enough false freshReading rest
  refine ⟨400 + more, enough, ?_⟩
  rw [body, Document.body?, total, Nat.add_right_comm]
  exact congrArg (Option.bind · _) read

section

variable {after : List (String × Outline)} {leaves rest : List Token}
  {next : Token} {document : Yaml.Document} {deployment : Deployment}

/--
Whatever stands for the image, where a Deployment is read it is a scalar, which
is no longer than the text of its tokens and goes up to the next key.
-/
theorem exists_scalar
    (cheap : ∀ part ∈ imagePath after, part.cost ≤ 400)
    (leafy : ∀ token ∈ leaves, token.isLeaf = true)
    (ends : next.isBracket = true ∨ next.isBlockPart = true)
    (found : Document.ofTokens?
      ((imagePath after).opening ++ (leaves ++ next :: rest)) = some document)
    (read : Deployment.ofDatum? document.datum = some deployment) :
    next.isBlockPart = true ∧
      ∃ text style tag,
        text.length ≤ Token.textLength leaves ∧
          ∃ fuel middle last root slots,
            (∀ part ∈ imagePath after, part.cost ≤ fuel) ∧
              middle.tokens = next :: rest ∧
                (imagePath after).rest? fuel (.scalar text style tag) middle =
                    some (root, last) ∧
                  document.datum = root.datum slots := by
  rcases ofTokens?_opening cheap (leaves ++ next :: rest) with
    ⟨fuel, enough, whole⟩
  rw [whole] at found
  rcases Option.bind_eq_some_iff.1 found with ⟨⟨root, last⟩, parts, ended⟩
  rcases Option.bind_eq_some_iff.1 parts with ⟨⟨value, middle⟩, here, later⟩
  dsimp only at ended later
  split at ended
  · cases ended
    have rooted : (Yaml.Document.mk (some root) last.anchors).root =
        some root := rfl
    rcases datum_of_root rooted with ⟨slots, same⟩
    rcases Option.bind_eq_some_iff.1 later with ⟨⟨container, left⟩, goesOn, -⟩
    rcases Option.map_eq_some_iff.1 goesOn with ⟨entries, continued, -⟩
    rcases Reading.entryValue?_leaves leafy ends rfl here _ continued with
      collection | ⟨text, style, tag, rfl, part, unread, short⟩
    · have holds := Path.holds_of_rest? later
      rw [same, ofDatum?_of_holds holds
        (optional_text?_of_isCollection collection slots)] at read
      exact absurd read nofun
    · exact ⟨part, text, style, tag, short, fuel, middle, last, root, slots,
        enough, unread, later, same⟩
  · exact absurd ended nofun

theorem cheap_imagePath (level : LogLevel) :
    ∀ part ∈ imagePath (fieldsAfterImage level), part.cost ≤ 400 := by
  cases level <;> decide

/-- After the image comes a further key of the container. -/
theorem closing_eq_cons (level : LogLevel) :
    ∃ others,
      (imagePath (fieldsAfterImage level)).closing = .key :: others :=
  ⟨_, rfl⟩

/-- Whatever stands for the image, nothing else of the Deployment changes. -/
theorem exists_image_of_ofTokens?
    (level : LogLevel)
    (leafy : ∀ token ∈ leaves, token.isLeaf = true)
    (found : Document.ofTokens? ((imagePath (fieldsAfterImage level)).opening ++
      (leaves ++ (imagePath (fieldsAfterImage level)).closing)) = some document)
    (read : Deployment.ofDatum? document.datum = some deployment) :
    ∃ image,
      deployment = templateDeployment image level ∧
        ∀ text ∈ image, text.length ≤ Token.textLength leaves := by
  rcases closing_eq_cons level with ⟨others, closing⟩
  rw [closing] at found
  rcases exists_scalar (cheap_imagePath level) leafy (.inr rfl) found read with
    ⟨-, text, style, tag, short, fuel, middle, last, root, slots, enough,
      unread, later, same⟩
  have whole : middle = middle.withTokens
      ((imagePath (fieldsAfterImage level)).closing ++ []) := by
    rw [List.append_nil, closing, ← unread]
    rfl
  rw [whole, Path.rest?_closing enough] at later
  cases later
  rw [same, ofDatum?_image] at read
  rcases Option.map_eq_some_iff.1 read with ⟨image, here, rfl⟩
  refine ⟨image, rfl, fun found member => ?_⟩
  rw [Option.mem_def.1 member] at here
  rw [eq_of_optional_text? here]
  exact short

theorem cheap_imagePath_nil : ∀ part ∈ imagePath [], part.cost ≤ 400 := by
  decide

/-- From a bracket in the place of the image on nothing is read. -/
theorem ofDatum?_of_bracket
    {tokens : List Token}
    (leafy : ∀ token ∈ leaves, token.isLeaf = true)
    (bracket : next.isBracket = true)
    (starts : imageMargin.newestFirst.reverse ++ leaves ++ [next] <+: tokens)
    (found : Document.ofTokens? tokens = some document) :
    Deployment.ofDatum? document.datum = none := by
  rcases starts with ⟨rest, rfl⟩
  rw [opening_imagePath [], List.append_assoc, List.append_assoc] at found
  cases read : Deployment.ofDatum? document.datum with
  | none => rfl
  | some deployment =>
      have part := (exists_scalar cheap_imagePath_nil leafy (.inl bracket)
        found read).1
      cases next <;>
        first
        | exact absurd bracket Bool.false_ne_true
        | exact absurd part Bool.false_ne_true

/-- An alias in the place of the image has no anchor. -/
theorem ofTokens?_of_alias
    {tokens : List Token}
    {name : String}
    (starts : imageMargin.newestFirst.reverse ++ [.alias name] <+: tokens) :
    Document.ofTokens? tokens = none := by
  rcases starts with ⟨rest, rfl⟩
  rw [opening_imagePath [], List.append_assoc]
  rcases ofTokens?_opening cheap_imagePath_nil ([.alias name] ++ rest) with
    ⟨fuel, -, whole⟩
  rw [whole]
  cases fuel with
  | zero => rfl
  | succ fuel => rfl

/-- The tokens of plain text are read back as it, or as nothing. -/
theorem entryValue?_ending
    (image : List Char)
    {fuel : Nat}
    (enough : 2 ≤ fuel)
    (others : List Token) :
    Reading.entryValue? fuel (freshReading.withTokens
        (Ending.tokens (.plain (' ' :: image)) ++ .key :: others)) =
      some (.scalar (String.ofList (PlainText.heard image)) .plain none,
        freshReading.withTokens (.key :: others)) := by
  have same : PlainText.heard (' ' :: image) = PlainText.heard image := rfl
  rw [Ending.tokens, same]
  cases PlainText.heard image with
  | nil => rfl
  | cons first text =>
      exact Reading.node?_tokens (plain (String.ofList (first :: text))) enough
        true freshReading (.key :: others)

/-- Plain text in the place of the image is read as it is. -/
theorem exists_document_of_value
    (cheap : ∀ part ∈ imagePath after, part.cost ≤ 400)
    {others : List Token}
    (further : (imagePath after).closing = .key :: others)
    (image : List Char) :
    ∃ document slots,
      Document.ofTokens?
          ((imagePath after).opening ++
            (Ending.tokens (.plain (' ' :: image)) ++
              (imagePath after).closing)) = some document ∧
        document.datum = ((imagePath after).plug
          (.scalar (String.ofList (PlainText.heard image)) .plain
            none)).datum slots := by
  rcases ofTokens?_opening cheap (Ending.tokens (.plain (' ' :: image)) ++
    (imagePath after).closing) with ⟨fuel, enough, whole⟩
  have least := enough _ List.mem_cons_self
  have closed := Path.rest?_closing enough
    (.scalar (String.ofList (PlainText.heard image)) .plain none)
    freshReading []
  rw [List.append_nil] at closed
  rw [whole, further, entryValue?_ending image
    (Nat.le_trans (Nat.le_add_left 2 _) least), ← further, Option.bind_some]
  exact ⟨_, [], (congrArg (Option.bind · _) closed).trans rfl, rfl⟩

/-- The image of the Deployment is what its plain text is read as. -/
theorem ofDatum?_plain
    (level : LogLevel)
    (image : List Char)
    (slots : SlotData) :
    Deployment.ofDatum? (((imagePath (fieldsAfterImage level)).plug
      (.scalar (String.ofList (PlainText.heard image)) .plain
        none)).datum slots) =
      some (templateDeployment (readImage image) level) := by
  have read : Datum.optional text? (Yaml.Node.datum slots
      (.scalar (String.ofList (PlainText.heard image)) .plain none)) =
        some (readImage image) := optional_text?_plain _
  rw [ofDatum?_image, read]
  rfl

end

end Manifest

end HookKeeper
