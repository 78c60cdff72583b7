import HookKeeper.Cluster.Deployment
import HookKeeper.Cluster.Registration
import HookKeeper.Manifest.Rendering
import HookKeeper.Proofs.Calendar

/-!
# Hashes that tell contents apart

A record is written member by member, and a member that is left out is told
from one that is given because no later one has its key.  So every record of a
Deployment or a registration is written faithfully: its numbers are whole, and
it is recovered from its value, times in whole seconds.  Two contents with one
hash are then one content, unless the digest collides on their texts.
-/

namespace HookKeeper

open HookKeeper.Json
open HookKeeper.Text

namespace Json

/-! ## Members -/

attribute [simp] lookup_append lookup_field lookup_optionalField

@[simp]
theorem field_inj
    {key : String}
    {first second : Value} :
    field key first = field key second ↔ first = second := by
  simp [field]

@[simp]
theorem field_append_inj
    {key : String}
    {first second : Value}
    {rest others : Members} :
    field key first ++ rest = field key second ++ others ↔
        first = second ∧ rest = others := by
  simp [field]

@[simp]
theorem optionalField_inj
    {key : String}
    {write : α → Value}
    {first second : Option α} :
    optionalField key write first = optionalField key write second ↔
      first.map write = second.map write := by
  cases first <;> cases second <;> simp

/--
A member that may be left out is told from later ones, which have other keys.
-/
@[simp]
theorem optionalField_append_inj
    {key : String}
    {write : α → Value}
    {first second : Option α}
    {rest others : Members}
    (fresh : Value.lookup key rest = none)
    (apart : Value.lookup key others = none) :
    optionalField key write first ++ rest = optionalField key write second ++
      others ↔
      first.map write = second.map write ∧ rest = others := by
  cases first with
  | none =>
      cases second with
      | none => simp
      | some value =>
          refine ⟨fun same => ?_, fun same => by cases same.1⟩
          simp only [optionalField_none, List.nil_append] at same
          simp [same, Value.lookup] at fresh
  | some value =>
      cases second with
      | none =>
          refine ⟨fun same => ?_, fun same => by cases same.1⟩
          simp only [optionalField_none, List.nil_append] at same
          simp [← same, Value.lookup] at apart
      | some other => simp

namespace Value

theorem itemsWhole_eq (items : List Value) :
    itemsWhole items = items.all isWhole := by
  induction items with
  | nil => rfl
  | cons item rest ih => rw [itemsWhole, ih, List.all_cons]

theorem membersWhole_eq (members : Members) :
    membersWhole members = members.all fun entry => entry.2.isWhole := by
  induction members with
  | nil => rfl
  | cons entry rest ih => rw [membersWhole, ih, List.all_cons]

@[simp]
theorem isWhole_text (value : String) : isWhole (.text value) = true := rfl

@[simp]
theorem isWhole_object_append (first second : Members) :
    isWhole (.object (first ++ second)) =
      (isWhole (.object first) && isWhole (.object second)) := by
  simp only [isWhole, membersWhole_eq, List.all_append]

@[simp]
theorem isWhole_object_field
    (key : String)
    (value : Value) :
    isWhole (.object (field key value)) = value.isWhole := by
  rw [field, isWhole, membersWhole, membersWhole, Bool.and_true]

end Value

end Json

/-! ## Faithful writers -/

/--
A writer whose values hold whole numbers only, and are one for two items exactly
when the items are one in a view of them.
-/
structure Faithful (view : α → β) (write : α → Value) : Prop where
  whole (item : α) : (write item).isWhole = true
  inj {first second : α} : write first = write second ↔ view first = view second

namespace Faithful

theorem optionalField
    {view : α → β}
    {write : α → Value}
    (faithful : Faithful view write)
    (key : String)
    (content : Option α) :
    Value.isWhole (.object (optionalField key write content)) = true := by
  cases content with
  | none => rfl
  | some item => exact (Bool.and_true _).trans (faithful.whole item)

theorem map_inj
    {view : α → β}
    {write : α → Value}
    (faithful : Faithful view write)
    {first second : Option α} :
    first.map write = second.map write ↔ first.map view = second.map view := by
  cases first <;> cases second <;> simp [faithful.inj]

variable {write : α → Value}

@[simp]
theorem whole_optionalField
    (faithful : Faithful id write)
    (key : String)
    (content : Option α) :
    Value.isWhole (.object (Json.optionalField key write content)) = true :=
  faithful.optionalField key content

@[simp]
theorem map_inj_iff
    (faithful : Faithful id write)
    {first second : Option α} :
    first.map write = second.map write ↔ first = second := by
  simpa using faithful.map_inj

@[simp]
theorem list (faithful : Faithful id write) :
    Faithful id (Value.list write) where
  whole items := by
    simp [Value.list, Value.isWhole, Value.itemsWhole_eq, faithful.whole]
  inj {first second} := by
    simp only [Value.list, Value.array.injEq]
    exact List.map_inj_right fun _ _ => faithful.inj.1

end Faithful

@[simp]
theorem faithful_text : Faithful id Value.text := ⟨fun _ => rfl, by simp⟩

@[simp]
theorem faithful_texts : Faithful id Value.texts := faithful_text.list

@[simp]
theorem faithful_bool : Faithful id Value.bool := ⟨fun _ => rfl, by simp⟩

@[simp]
theorem faithful_int32 : Faithful id Value.int32 :=
  ⟨fun _ => rfl, by simp [Value.int32, Value.int, Int32.toInt_inj]⟩

@[simp]
theorem faithful_int64 : Faithful id Value.int64 :=
  ⟨fun _ => rfl, by simp [Value.int64, Value.int, Int64.toInt_inj]⟩

@[simp]
theorem faithful_bytes : Faithful id fun bytes => .text (Base64.encode bytes) :=
  ⟨fun _ => rfl, by simp [Base64.encode_inj]⟩

theorem faithful_instant :
    Faithful Instant.shown fun moment => .text moment.text :=
  ⟨fun _ => rfl, by simp [Instant.text_inj]⟩

@[simp]
theorem faithful_ofTextMap : Faithful id Value.ofTextMap where
  whole map := by simp [Value.ofTextMap, Value.isWhole, Value.membersWhole_eq]
  inj {first second} := by
    simp only [Value.ofTextMap, Value.object.injEq, id_eq, TextMap.ext_iff]
    exact List.map_inj_right fun _ _ same => by simpa [Prod.ext_iff] using same

/-! ## Records -/

@[simp]
theorem OwnerReference.faithful : Faithful id OwnerReference.toValue where
  whole record := by simp [toValue]
  inj {first second} := by
    rcases first with ⟨⟩
    rcases second with ⟨⟩
    simp [toValue]

@[simp]
theorem LabelRequirement.faithful : Faithful id LabelRequirement.toValue where
  whole record := by simp [toValue]
  inj {first second} := by
    rcases first with ⟨⟩
    rcases second with ⟨⟩
    simp [toValue]

@[simp]
theorem LabelSelector.faithful : Faithful id LabelSelector.toValue where
  whole record := by simp [toValue]
  inj {first second} := by
    rcases first with ⟨⟩
    rcases second with ⟨⟩
    simp [toValue]

@[simp]
theorem EnvVar.faithful : Faithful id EnvVar.toValue where
  whole record := by simp [toValue]
  inj {first second} := by
    rcases first with ⟨⟩
    rcases second with ⟨⟩
    simp [toValue]

@[simp]
theorem ContainerPort.faithful : Faithful id ContainerPort.toValue where
  whole record := by simp [toValue, faithful_int32.whole]
  inj {first second} := by
    rcases first with ⟨⟩
    rcases second with ⟨⟩
    simp [toValue, faithful_int32.inj]

@[simp]
theorem ResourceNeeds.faithful : Faithful id ResourceNeeds.toValue where
  whole record := by simp [toValue]
  inj {first second} := by
    rcases first with ⟨⟩
    rcases second with ⟨⟩
    simp [toValue]

@[simp]
theorem VolumeMount.faithful : Faithful id VolumeMount.toValue where
  whole record := by simp [toValue]
  inj {first second} := by
    rcases first with ⟨⟩
    rcases second with ⟨⟩
    simp [toValue]

@[simp]
theorem Container.faithful : Faithful id Container.toValue where
  whole record := by simp [toValue]
  inj {first second} := by
    rcases first with ⟨⟩
    rcases second with ⟨⟩
    simp [toValue]

@[simp]
theorem Toleration.faithful : Faithful id Toleration.toValue where
  whole record := by simp [toValue]
  inj {first second} := by
    rcases first with ⟨⟩
    rcases second with ⟨⟩
    simp [toValue]

@[simp]
theorem PodGroup.faithful : Faithful id PodGroup.toValue where
  whole record := by simp [toValue]
  inj {first second} := by
    rcases first with ⟨⟩
    rcases second with ⟨⟩
    simp [toValue]

@[simp]
theorem WeightedPodGroup.faithful : Faithful id WeightedPodGroup.toValue where
  whole record := by
    simp [toValue, PodGroup.faithful.whole, faithful_int32.whole]
  inj {first second} := by
    rcases first with ⟨⟩
    rcases second with ⟨⟩
    simp [toValue, PodGroup.faithful.inj, faithful_int32.inj]

@[simp]
theorem PodAntiAffinity.faithful : Faithful id PodAntiAffinity.toValue where
  whole record := by simp [toValue]
  inj {first second} := by
    rcases first with ⟨⟩
    rcases second with ⟨⟩
    simp [toValue, preferredField, requiredField]

@[simp]
theorem Affinity.faithful : Faithful id Affinity.toValue where
  whole record := by simp [toValue]
  inj {first second} := by
    rcases first with ⟨⟩
    rcases second with ⟨⟩
    simp [toValue]

@[simp]
theorem SecretSource.faithful : Faithful id SecretSource.toValue where
  whole record := by simp [toValue]
  inj {first second} := by
    rcases first with ⟨⟩
    rcases second with ⟨⟩
    simp [toValue]

@[simp]
theorem Volume.faithful : Faithful id Volume.toValue where
  whole record := by simp [toValue]
  inj {first second} := by
    rcases first with ⟨⟩
    rcases second with ⟨⟩
    simp [toValue]

@[simp]
theorem PodSpec.faithful : Faithful id PodSpec.toValue where
  whole record := by simp [toValue, Container.faithful.list.whole]
  inj {first second} := by
    rcases first with ⟨⟩
    rcases second with ⟨⟩
    simp [toValue, Container.faithful.list.inj]

@[simp]
theorem IntOrText.faithful : Faithful id IntOrText.toValue where
  whole bound := by cases bound <;> rfl
  inj {first second} := by
    cases first <;> cases second <;>
      simp [toValue, Value.int32, Value.int, Int32.toInt_inj]

@[simp]
theorem RollingUpdate.faithful : Faithful id RollingUpdate.toValue where
  whole record := by simp [toValue]
  inj {first second} := by
    rcases first with ⟨⟩
    rcases second with ⟨⟩
    simp [toValue]

@[simp]
theorem DeploymentStrategy.faithful :
    Faithful id DeploymentStrategy.toValue where
  whole record := by simp [toValue]
  inj {first second} := by
    rcases first with ⟨⟩
    rcases second with ⟨⟩
    simp [toValue]

@[simp]
theorem HookCondition.faithful : Faithful id HookCondition.toValue where
  whole record := by simp [toValue]
  inj {first second} := by
    rcases first with ⟨⟩
    rcases second with ⟨⟩
    simp [toValue]

@[simp]
theorem ServiceReference.faithful : Faithful id ServiceReference.toValue where
  whole record := by simp [toValue]
  inj {first second} := by
    rcases first with ⟨⟩
    rcases second with ⟨⟩
    simp [toValue]

@[simp]
theorem HookAddress.faithful : Faithful id HookAddress.toValue where
  whole record := by simp [toValue]
  inj {first second} := by
    rcases first with ⟨⟩
    rcases second with ⟨⟩
    simp [toValue]

@[simp]
theorem HookRule.faithful : Faithful id HookRule.toValue where
  whole record := by simp [toValue]
  inj {first second} := by
    rcases first with ⟨⟩
    rcases second with ⟨⟩
    simp [toValue]

@[simp]
theorem Hook.faithful : Faithful id Hook.toValue where
  whole record := by
    simp [toValue, faithful_texts.whole, HookAddress.faithful.whole]
  inj {first second} := by
    rcases first with ⟨⟩
    rcases second with ⟨⟩
    simp [toValue, faithful_texts.inj, HookAddress.faithful.inj]

/-! ## Times in whole seconds -/

/-- The metadata with its time as texts show it. -/
def ObjectMeta.inWholeSeconds (metadata : ObjectMeta) : ObjectMeta :=
  { metadata with
    creationTimestamp := metadata.creationTimestamp.map Instant.shown }

/-- The pods with the times of their metadata as texts show them. -/
def PodTemplate.inWholeSeconds (template : PodTemplate) : PodTemplate :=
  { template with metadata := template.metadata.map ObjectMeta.inWholeSeconds }

/-- The specification with the times of its pods as texts show them. -/
def DeploymentSpec.inWholeSeconds (spec : DeploymentSpec) : DeploymentSpec :=
  { spec with template := spec.template.inWholeSeconds }

theorem ObjectMeta.faithful : Faithful inWholeSeconds ObjectMeta.toValue where
  whole record := by simp [toValue, faithful_instant.optionalField]
  inj {first second} := by
    rcases first with ⟨⟩
    rcases second with ⟨⟩
    simp [toValue, inWholeSeconds, faithful_instant.map_inj]

theorem PodTemplate.faithful : Faithful inWholeSeconds PodTemplate.toValue where
  whole record := by simp [toValue, ObjectMeta.faithful.optionalField]
  inj {first second} := by
    rcases first with ⟨⟩
    rcases second with ⟨⟩
    simp [toValue, inWholeSeconds, ObjectMeta.faithful.map_inj]

theorem DeploymentSpec.faithful :
    Faithful inWholeSeconds DeploymentSpec.toValue where
  whole record := by
    simp [toValue, LabelSelector.faithful.whole, PodTemplate.faithful.whole]
  inj {first second} := by
    rcases first with ⟨⟩
    rcases second with ⟨⟩
    simp [toValue, inWholeSeconds, LabelSelector.faithful.inj,
      PodTemplate.faithful.inj]

/-! ## Hashes of contents -/

/-- The hash of content that an object carries. -/
def ObjectMeta.stamp? (metadata : ObjectMeta) : Option String :=
  (metadata.annotations.getD .empty).find? Identity.hashKey

@[simp]
theorem ObjectMeta.stamp?_stamped
    (metadata : ObjectMeta)
    (hash : String) :
    (metadata.stamped hash).stamp? = some hash := by
  simp [stamp?, stamped]

/-- Two messages are one if they have one digest. -/
def Digest.CollisionFree (first second : List UInt8) : Prop :=
  sha256 first = sha256 second → first = second

namespace Manifest

/-- The message that the hash of a content is the digest of. -/
def contentBytes (content : Value) : List UInt8 := Utf8.encode content.compact

theorem contentHash_inj
    {first second : Value}
    (whole : first.isWhole = true)
    (other : second.isWhole = true)
    (collisionFree : Digest.CollisionFree (contentBytes first)
        (contentBytes second)) :
    contentHash first = contentHash second ↔ first = second := by
  refine ⟨fun same => ?_, congrArg contentHash⟩
  have messages := collisionFree (Hex.text_inj.1 same)
  exact Value.compact_inj whole other (Utf8.encode_inj.1 messages)

theorem isWhole_optionalContent
    {view : α → β}
    {write : α → Value}
    (faithful : Faithful view write)
    (content : Option α) :
    (optionalContent write content).isWhole = true := by
  cases content with
  | none => rfl
  | some item => exact faithful.whole item

/-- Content that is left out is told from content that is never null. -/
theorem optionalContent_inj
    {view : α → β}
    {write : α → Value}
    (faithful : Faithful view write)
    (given : ∀ item, write item ≠ .null)
    {first second : Option α} :
    optionalContent write first = optionalContent write second ↔
      first.map view = second.map view := by
  cases first <;> cases second <;>
    simp [optionalContent, given, faithful.inj, (given _).symm]

end Manifest

open HookKeeper.Manifest

/-- The message that the hash of a specification is the digest of. -/
def Deployment.specBytes (deployment : Deployment) : List UInt8 :=
  contentBytes (optionalContent DeploymentSpec.toValue deployment.spec)

/-- The message that the hash of hooks is the digest of. -/
def Registration.hooksBytes (registration : Registration) : List UInt8 :=
  contentBytes (optionalContent (Value.list Hook.toValue) registration.webhooks)

/--
Two Deployments have one hash exactly when their specifications agree in whole
seconds.
-/
theorem Deployment.specHash_inj
    {first second : Deployment}
    (collisionFree : Digest.CollisionFree first.specBytes second.specBytes) :
    first.specHash = second.specHash ↔
      first.spec.map DeploymentSpec.inWholeSeconds =
        second.spec.map DeploymentSpec.inWholeSeconds :=
  (contentHash_inj (isWhole_optionalContent DeploymentSpec.faithful _)
    (isWhole_optionalContent DeploymentSpec.faithful _) collisionFree).trans
    (optionalContent_inj DeploymentSpec.faithful fun _ =>
      by simp [DeploymentSpec.toValue])

/-- Two registrations have one hash exactly when they have the same hooks. -/
theorem Registration.hooksHash_inj
    {first second : Registration}
    (collisionFree : Digest.CollisionFree first.hooksBytes second.hooksBytes) :
    first.hooksHash = second.hooksHash ↔ first.webhooks = second.webhooks := by
  have hooks : optionalContent (Value.list Hook.toValue) first.webhooks =
      optionalContent (Value.list Hook.toValue) second.webhooks ↔
        first.webhooks = second.webhooks := by
    simpa using optionalContent_inj Hook.faithful.list fun _ => by
      simp [Value.list]
  exact (contentHash_inj (isWhole_optionalContent Hook.faithful.list _)
    (isWhole_optionalContent Hook.faithful.list _) collisionFree).trans hooks

end HookKeeper
