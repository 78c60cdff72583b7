import HookKeeper.Proofs.Document

/-!
# Versions of documents

A stored document names its version in its metadata.  An object that is read
from it has this version, and a body that is written of the object names it
again, so a store can tell whether a write was made from what it still keeps.
-/

namespace HookKeeper

open HookKeeper.Datum
open HookKeeper.Json
open HookKeeper.Json.Value

/-- The kinds of objects that the operator reads one by one. -/
inductive ReadSingly : (α : Type) → [ClusterObject α] → Prop where
  | operator : ReadSingly OperatorResource
  | deployment : ReadSingly Deployment
  | registration : ReadSingly Registration

/-- An exchange is a read that was answered with an object. -/
def Exchange.Shows
    (exchange : Exchange)
    (α : Type)
    [ClusterObject α]
    (object : α) : Prop :=
  exchange.channel = .objects ∧ exchange.request.method = .get ∧
    exchange.answer.decode ClusterObject.ofDatum? = .ok object

/-! ## Versions that are read -/

theorem Datum.optional_ofValue
    (read : Datum → Option α)
    (value : Value) :
    Datum.optional read (ofValue value) =
      if value = .null then some none else (read (ofValue value)).map some := by
  cases value with
  | number number =>
      cases number <;> simp [ofValue, Datum.optional, Scalar.ofNumber,
        Scalar.ofInt, Scalar.unreadable]
  | _ =>
      simp [ofValue, Datum.optional, Datum.null, Datum.text, Scalar.null,
        Scalar.ofText, Scalar.ofBool, Scalar.unreadable]

theorem Datum.text?_ofValue (value : Value) :
    (ofValue value).text? = value.text? := by
  cases value with
  | number number =>
      cases number <;> simp [ofValue, Datum.text?, Value.text?, Scalar.ofNumber,
        Scalar.ofInt, Scalar.unreadable]
  | _ =>
      simp [ofValue, Datum.text?, Value.text?, Datum.null, Datum.text,
        Scalar.null, Scalar.ofText, Scalar.ofBool, Scalar.unreadable]

theorem ObjectMeta.resourceVersion_of_read
    {value : Value}
    {metadata : ObjectMeta}
    (ascending : Ascending value.members)
    (read : ofDatum? (ofValue value) = some metadata) :
    (value.member? "resourceVersion").bind Value.text? =
        metadata.resourceVersion := by
  rcases Option.bind_eq_some_iff.1 read with ⟨fields, given, _⟩
  rcases object_of_fields? given with ⟨members, rfl⟩
  have version : optionalMember members "resourceVersion" Datum.text? =
      some metadata.resourceVersion :=
    version_of_read ascending.nodup read
  rw [optionalMember] at version
  rw [member?]
  cases here : lookup "resourceVersion" members with
  | none =>
      rw [here] at version
      exact Option.some.inj version
  | some written =>
      rw [here, Option.elim_some, Datum.optional_ofValue,
        Datum.text?_ofValue] at version
      rw [Option.bind_some]
      split at version
      -- A null in the place of the version is read as if it was absent.
      next absent =>
        rw [absent]
        exact Option.some.inj version
      next =>
        rcases Option.map_eq_some_iff.1 version with ⟨text, found, equal⟩
        rw [found, equal]

namespace Document

variable {document : Document}

/-- The version of a document is that of the metadata that are read from it. -/
theorem version_of_metadata
    {found : Option ObjectMeta}
    (read : optionalMember document.members "metadata" ObjectMeta.ofDatum? =
        some found) :
    document.value.version? = (found.getD {}).resourceVersion := by
  rw [optionalMember] at read
  rw [version?, metadataMember?, value, member?]
  cases here : lookup "metadata" document.members with
  | none =>
      rw [here] at read
      cases read
      rfl
  | some metadata =>
      rw [here, Option.elim_some, Datum.optional_ofValue] at read
      split at read
      next absent =>
        cases read
        rw [absent]
        rfl
      next =>
        rcases Option.map_eq_some_iff.1 read with ⟨metadata, decoded, rfl⟩
        exact ObjectMeta.resourceVersion_of_read (ascending_of_lookup here)
          decoded

/-- A document is read as an object. -/
def Shows
    (document : Document)
    (α : Type)
    [ClusterObject α]
    (object : α) : Prop :=
  ClusterObject.ofDatum? (ofValue document.value) = some object

theorem version_of_defaulted
    {metadata : ObjectMeta}
    (read : (fieldsOf document.members).defaulted "metadata" ObjectMeta.ofDatum?
        {} = some metadata) :
    document.value.version? = metadata.resourceVersion := by
  rw [Fields.defaulted,
    optional_of_nodup ((keys_fieldsOf _).symm ▸ document.ascending.nodup),
    lookup_fieldsOf] at read
  rcases Option.map_eq_some_iff.1 read with ⟨found, decoded, rfl⟩
  refine version_of_metadata ?_
  rw [← decoded, optionalMember]
  cases lookup "metadata" document.members <;> rfl

/-- An object that a document is read as has the version of the document. -/
theorem Shows.version
    {α : Type}
    [ClusterObject α]
    {object : α}
    (shows : document.Shows α object)
    (kind : ReadSingly α) :
    document.value.version? =
        (ClusterObject.metadata object).resourceVersion := by
  cases kind with
  | operator =>
      have read :
          OperatorResource.ofDatum? (ofValue (.object document.members)) =
          some object :=
        shows
      rw [OperatorResource.ofDatum?_object document.ascending.nodup] at read
      rcases Option.bind_eq_some_iff.1 read with ⟨metadata, metadataRead, read⟩
      rcases Option.bind_eq_some_iff.1 read with ⟨spec, _, read⟩
      rcases Option.bind_eq_some_iff.1 read with ⟨status, _, made⟩
      cases made
      rcases Option.bind_eq_some_iff.1 metadataRead with
        ⟨written, found, decoded⟩
      rw [version?, metadataMember?, value, member?, found, Option.getD_some]
      exact ObjectMeta.resourceVersion_of_read (ascending_of_lookup found)
        decoded
  | deployment =>
      have read : Deployment.ofDatum? (ofValue (.object document.members)) =
        some object := shows
      rw [Deployment.ofDatum?, fields?_ofValue, Option.bind_eq_bind,
        Option.bind_some] at read
      rcases Option.bind_eq_some_iff.1 read with ⟨_, _, read⟩
      rcases Option.bind_eq_some_iff.1 read with ⟨_, _, read⟩
      rcases Option.bind_eq_some_iff.1 read with ⟨metadata, metadataRead, read⟩
      rcases Option.bind_eq_some_iff.1 read with ⟨spec, _, read⟩
      rcases Option.bind_eq_some_iff.1 read with ⟨status, _, made⟩
      cases made
      exact version_of_defaulted metadataRead
  | registration =>
      have read : Registration.ofDatum? (ofValue (.object document.members)) =
        some object := shows
      rw [Registration.ofDatum?, fields?_ofValue, Option.bind_eq_bind,
        Option.bind_some] at read
      rcases Option.bind_eq_some_iff.1 read with ⟨_, _, read⟩
      rcases Option.bind_eq_some_iff.1 read with ⟨_, _, read⟩
      rcases Option.bind_eq_some_iff.1 read with ⟨metadata, metadataRead, read⟩
      rcases Option.bind_eq_some_iff.1 read with ⟨hooks, _, made⟩
      cases made
      exact version_of_defaulted metadataRead

end Document

/-! ## Versions that are written -/

/-- What a request carries, in order. -/
def Request.content (request : Request) : Value :=
  (request.body.getD .null).sorted

theorem Request.content_of_body
    {request : Request}
    {body : Value}
    (carried : request.body = some body) : request.content = body.sorted := by
  rw [content, carried, Option.getD_some]

theorem Json.Value.text?_sorted (value : Value) :
    value.sorted.text? = value.text? := by
  cases value <;> simp [sorted, Value.text?]

theorem Json.Value.member?_sorted
    {value : Value}
    (distinct : (value.members.map Prod.fst).Nodup)
    (key : String) :
    value.sorted.member? key = (value.member? key).map sorted := by
  cases value with
  | object members =>
      rw [sorted, member?, member?]
      exact lookup_sortedMembers distinct key
  | _ => simp [sorted, member?]

/-- In order a body names the version that it named before. -/
theorem Json.Value.version?_sorted
    {body metadata : Value}
    (distinct : (body.members.map Prod.fst).Nodup)
    (found : body.member? "metadata" = some metadata)
    (inner : (metadata.members.map Prod.fst).Nodup) :
    body.sorted.version? = body.version? := by
  rw [version?, version?, metadataMember?, metadataMember?,
    member?_sorted distinct, found, Option.map_some, Option.getD_some,
    Option.getD_some, member?_sorted inner]
  cases metadata.member? "resourceVersion" with
  | none => rfl
  | some version => exact text?_sorted version

theorem keys_optionalField
    (key : String)
    (write : α → Value)
    (value : Option α) :
    ((optionalField key write value).map Prod.fst).Sublist [key] := by
  cases value with
  | none => exact List.nil_sublist _
  | some value => exact List.Sublist.refl _

theorem ObjectMeta.nodup_toValue (metadata : ObjectMeta) :
    (metadata.toValue.members.map Prod.fst).Nodup := by
  have keys :
      (metadata.toValue.members.map Prod.fst).Sublist
        ["annotations", "creationTimestamp", "finalizers", "generateName",
          "generation", "labels", "name", "namespace", "ownerReferences",
          "resourceVersion", "uid"] := by
    simp only [toValue, members, List.map_append]
    exact ((((((((((keys_optionalField _ _ _).append
      (keys_optionalField _ _ _)).append (keys_optionalField _ _ _)).append
      (keys_optionalField _ _ _)).append
      (keys_optionalField _ _ _)).append (keys_optionalField _ _ _)).append
      (keys_optionalField _ _ _)).append (keys_optionalField _ _ _)).append
      (keys_optionalField _ _ _)).append (keys_optionalField _ _ _)).append
      (keys_optionalField _ _ _)
  exact keys.nodup (by decide)

theorem ObjectMeta.version_toValue (metadata : ObjectMeta) :
    (metadata.toValue.member? "resourceVersion").bind Value.text? =
        metadata.resourceVersion := by
  have text (value : Option String) : (value.map Value.text).bind Value.text? =
      value := by
    cases value <;> rfl
  simp [toValue, member?, lookup_append, lookup_optionalField, text]

/-- The body of an object names the version of the object. -/
theorem version_body
    {α : Type}
    [ClusterObject α]
    (kind : ReadSingly α)
    (object : α) :
    (ClusterObject.toValue object).sorted.version? =
      (ClusterObject.metadata object).resourceVersion := by
  have head (name : String) (value : Value) :
      ((field name value).map Prod.fst).Sublist [name] :=
    List.Sublist.refl _
  have shape :
      ∃ names : List String, names.Nodup ∧
        ((ClusterObject.toValue object).members.map Prod.fst).Sublist names ∧
          (ClusterObject.toValue object).member? "metadata" =
            some (ClusterObject.metadata object).toValue := by
    cases kind with
    | operator =>
        refine ⟨["apiVersion", "kind", "metadata", "spec", "status"], by decide,
          ?_, rfl⟩
        simp only [ClusterObject.toValue, OperatorResource.toValue, members,
          List.map_append]
        exact ((((head _ _).append (head _ _)).append (head _ _)).append
          (head _ _)).append (keys_optionalField _ _ _)
    | deployment =>
        refine ⟨["apiVersion", "kind", "metadata", "spec", "status"], by decide,
          ?_, rfl⟩
        simp only [ClusterObject.toValue, Deployment.toValue, members,
          List.map_append]
        exact ((((head _ _).append (head _ _)).append (head _ _)).append
          (keys_optionalField _ _ _)).append (keys_optionalField _ _ _)
    | registration =>
        refine ⟨["apiVersion", "kind", "metadata", "webhooks"], by decide,
          ?_, rfl⟩
        simp only [ClusterObject.toValue, Registration.toValue, members,
          List.map_append]
        exact (((head _ _).append (head _ _)).append (head _ _)).append
          (keys_optionalField _ _ _)
  rcases shape with ⟨names, distinct, keys, found⟩
  rw [version?_sorted (keys.nodup distinct) found (ObjectMeta.nodup_toValue _),
    version?, metadataMember?, found, Option.getD_some]
  exact ObjectMeta.version_toValue _

/-- The patch of a status names the version that the resource was read at. -/
theorem OperatorResource.version_statusPatch
    (operator : OperatorResource)
    (status : OperatorStatus) :
    (operator.statusPatch status).sorted.version? =
        operator.metadata.resourceVersion := by
  rw [sorted_statusPatch]
  cases operator.metadata.resourceVersion <;> rfl

end HookKeeper
