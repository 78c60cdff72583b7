import HookKeeper.Cycle.Sync
import HookKeeper.Proofs.Decoding
import HookKeeper.Proofs.Request
import HookKeeper.Proofs.Trace
import HookKeeper.Server.Basic

/-!
# What a status patch does to a stored document

The patch that writes a status names the version of the document and carries
the status; members without a value are left out of it.  Merging it into the
document that was read gives a document with just this status, in which every
member that the patch does not name is what it was, whatever else the stored
status holds.  A change that changes nothing sends no patch.
-/

namespace HookKeeper

open HookKeeper.Datum
open HookKeeper.Json
open HookKeeper.Json.Value

/-! ## The status -/

theorem OperatorStatus.toValue_eq (status : OperatorStatus) :
    ∃ members,
      status.toValue = .object members ∧
        (members.map Prod.fst).Nodup ∧
        (∀ key, key ∉ ["observedGeneration", "conditions", "generations"] →
          lookup key members = none) ∧
        lookup "observedGeneration" members =
          status.observedGeneration.map Value.int64 ∧
        lookup "conditions" members =
          some (.list OperatorCondition.toValue status.conditions) ∧
        lookup "generations" members =
          some (.list GenerationRecord.toValue status.generations) := by
  refine ⟨_, rfl, ?_⟩
  rcases status with ⟨observed, conditions, generations⟩
  cases observed with
  | none =>
      refine ⟨by simp [field], fun key unknown =>
        lookup_eq_none ?_, rfl, rfl, rfl⟩
      simp only [List.mem_cons, not_or] at unknown
      simpa [field] using unknown.2
  | some generation =>
      refine ⟨by simp [field], fun key unknown =>
        lookup_eq_none ?_, rfl, rfl, rfl⟩
      simpa [field] using unknown

/--
A status that is merged into a stored one is read as itself, if the stored one
shows no generation where the status has none.
-/
theorem OperatorStatus.ofDatum?_mergePatch
    {target : Value}
    {status : OperatorStatus}
    (ascending : Ascending target.members)
    (observed : status.observedGeneration = none →
        optionalMember target.members "observedGeneration" int64? = some none) :
    ofDatum? (ofValue (mergePatch target status.toValue)) = some status := by
  rcases status.toValue_eq with
    ⟨members, written, distinct, _, first, second, third⟩
  have firstRead :
      optionalMember (mergeMembers target.members members) "observedGeneration"
        int64? =
        some status.observedGeneration := by
    rw [optionalMember, lookup_mergeMembers distinct, first]
    cases known : status.observedGeneration with
    | none => exact observed known
    | some generation =>
        rw [Option.map_some,
          patched_replacement (by simp [Value.int64, Value.int])
          (by simp [Value.int64, Value.int])]
        simp
  have secondRead :
      defaultedMember (mergeMembers target.members members) "conditions"
          (Datum.listOf? OperatorCondition.ofDatum?) [] =
        some status.conditions := by
    rw [defaultedMember, lookup_mergeMembers distinct, second,
      patched_replacement (by simp [Value.list]) (by simp [Value.list])]
    exact listOf?_ofValue OperatorCondition.ofDatum?_ofValue status.conditions
  have thirdRead :
      defaultedMember (mergeMembers target.members members) "generations"
          (Datum.listOf? GenerationRecord.ofDatum?) [] =
        some status.generations := by
    rw [defaultedMember, lookup_mergeMembers distinct, third,
      patched_replacement (by simp [Value.list]) (by simp [Value.list])]
    exact listOf?_ofValue GenerationRecord.ofDatum?_ofValue status.generations
  rw [written, mergePatch_object,
    ofDatum?_object (ascending.mergeMembers members).nodup, firstRead,
    secondRead, thirdRead]
  rfl

theorem OperatorStatus.observed_of_read
    {value : Value}
    {found : Option OperatorStatus}
    (read : Datum.optional OperatorStatus.ofDatum? (ofValue value) = some found)
    (ascending : Ascending value.members)
    (absent : (found.getD {}).observedGeneration = none) :
    optionalMember value.members "observedGeneration" int64? = some none := by
  cases value with
  | object members =>
      have distinct : (members.map Prod.fst).Nodup := ascending.nodup
      rw [optional_object] at read
      rcases Option.map_eq_some_iff.1 read with ⟨status, decoded, rfl⟩
      rw [OperatorStatus.ofDatum?_object distinct] at decoded
      rcases Option.bind_eq_some_iff.1 decoded with ⟨observed, first, decoded⟩
      rcases Option.bind_eq_some_iff.1 decoded with ⟨conditions, _, decoded⟩
      rcases Option.bind_eq_some_iff.1 decoded with ⟨generations, _, decoded⟩
      cases decoded
      rw [← absent]
      exact first
  | _ => rfl

/-! ## The metadata -/

theorem ObjectMeta.version_of_read
    {members : Members}
    {metadata : ObjectMeta}
    (distinct : (members.map Prod.fst).Nodup)
    (read : ofDatum? (ofValue (.object members)) = some metadata) :
    optionalMember members "resourceVersion" text? =
        some metadata.resourceVersion := by
  simp only [ofDatum?, fields?_ofValue, Option.bind_eq_bind, Option.bind_some,
    Option.bind_eq_some_iff] at read
  rcases read with
    ⟨_, _, _, _, _, _, _, _, _, _, _, _, _, _, _, _, _, _, version, found, _,
      _, made⟩
  cases made
  rw [optional_of_nodup ((keys_fieldsOf members).symm ▸ distinct),
    lookup_fieldsOf] at found
  rw [← found, optionalMember]
  cases Value.lookup "resourceVersion" members <;> rfl

/--
Metadata that are merged with the version they were read at are read as before.
-/
theorem ObjectMeta.ofDatum?_mergePatch
    {value : Value}
    {metadata : ObjectMeta}
    (read : ofDatum? (ofValue value) = some metadata)
    (ascending : Ascending value.members) :
    ofDatum? (ofValue (mergePatch value (.object (field "resourceVersion"
      ((metadata.resourceVersion.map Value.text).getD .null))))) =
          some metadata := by
  rcases Option.bind_eq_some_iff.1 read with ⟨fields, given, _⟩
  rcases object_of_fields? given with ⟨members, rfl⟩
  have distinct : (members.map Prod.fst).Nodup := ascending.nodup
  have version := version_of_read distinct read
  have single (change : Value) :
      (([("resourceVersion", change)] : Members).map Prod.fst).Nodup := by
    simp
  rw [mergePatch_object, ← read]
  refine ofDatum?_congr (ascending.mergeMembers _).nodup distinct ?_ ?_
  · rw [version, optionalMember, Value.members, field,
      lookup_mergeMembers (single _)]
    cases metadata.resourceVersion with
    | none => rfl
    | some written =>
        have here :
            lookup "resourceVersion" [("resourceVersion", Value.text written)] =
              some (Value.text written) := rfl
        rw [Option.map_some, Option.getD_some, here,
          patched_replacement (by simp) (by simp)]
        simp
  · intro name other
    have unnamed (change : Value) : lookup name [("resourceVersion", change)] =
        none :=
      lookup_eq_none (by simpa using other)
    rw [Value.members, field, lookup_mergeMembers (single _), unnamed]
    rfl

/-! ## The document -/

theorem OperatorResource.statusPatch_eq
    (operator : OperatorResource)
    (status : OperatorStatus) :
    operator.statusPatch status =
      .object [("metadata", .object (field "resourceVersion"
        ((operator.metadata.resourceVersion.map Value.text).getD .null))),
        ("status", status.toValue)] := rfl

theorem member?_mergePatch
    (members version status : Members)
    (key : String) :
    (mergePatch (.object members)
        (.object [("metadata", .object version),
          ("status", .object status)])).member? key =
      if key = "metadata" then
        some (mergePatch ((lookup "metadata" members).getD .null)
          (.object version))
      else if key = "status" then
        some (mergePatch ((lookup "status" members).getD .null)
          (.object status))
      else lookup key members := by
  have distinct :
      (([("metadata", .object version), ("status", .object status)] :
        Members).map Prod.fst).Nodup := by
    simp
  rw [mergePatch_object, member?, lookup_mergeMembers distinct, Value.members]
  by_cases metadata : key = "metadata"
  · subst metadata
    rw [if_pos rfl]
    exact patched_some (by simp) _
  · by_cases status : key = "status"
    · subst status
      rw [if_neg (by decide), if_pos rfl]
      exact patched_some (by simp) _
    · have unnamed :
          key ∉ ([("metadata", .object version),
            ("status", .object ‹Members›)] : Members).map
            Prod.fst := by
        simp [metadata, status]
      rw [if_neg metadata, if_neg status, lookup_eq_none unnamed]
      rfl

/-- What a document shows of an object that it holds under a key. -/
def nested? (outer inner : String) (document : Value) : Option Value :=
  (document.member? outer).bind fun value => value.member? inner

/--
A patch lands a status in a document: the document that it is merged into is
read with just this status, and keeps what the patch does not name.
-/
structure Lands
    (document : Value)
    (operator : OperatorResource)
    (status : OperatorStatus)
    (patch : Value) : Prop where
  reads :
    OperatorResource.ofDatum? (ofValue (mergePatch document patch)) =
      some { operator with status := some status }
  members : ∀ key, key ≠ "metadata" → key ≠ "status" →
    (mergePatch document patch).member? key = document.member? key
  metadata : ∀ key, key ≠ "resourceVersion" →
    nested? "metadata" key (mergePatch document patch) =
      nested? "metadata" key document
  status : ∀ key, key ∉ ["observedGeneration", "conditions", "generations"] →
    nested? "status" key (mergePatch document patch) =
      nested? "status" key document

/--
The patch for a status that keeps a known generation lands it in the document.
-/
theorem OperatorResource.lands_statusPatch
    {document : Value}
    {members : Members}
    {operator : OperatorResource}
    {status : OperatorStatus}
    (object : document = .object members)
    (canonical : document.sorted = document)
    (read : OperatorResource.ofDatum? (ofValue document) = some operator)
    (keeps : status.observedGeneration = none →
        (operator.status.getD {}).observedGeneration = none) :
    Lands document operator status (operator.statusPatch status) := by
  subst object
  have ascending : Ascending members := ascending_of_sorted canonical
  have inner {key : String} {value : Value}
      (found : lookup key members = some value) :
      Ascending value.members := by
    rcases sorted_of_lookup canonical found with ⟨written, rfl⟩
    cases shape : written.sorted with
    | object members => exact ascending_of_sorted shape
    | _ => exact ascending_nil
  rw [OperatorResource.ofDatum?_object ascending.nodup] at read
  rcases Option.bind_eq_some_iff.1 read with ⟨metadata, metadataRead, read⟩
  rcases Option.bind_eq_some_iff.1 read with ⟨spec, specRead, read⟩
  rcases Option.bind_eq_some_iff.1 read with ⟨stored, storedRead, made⟩
  cases made
  rcases Option.bind_eq_some_iff.1 metadataRead with
    ⟨metadataValue, metadataFound, metadataRead⟩
  rcases status.toValue_eq with ⟨statusMembers, written, distinct, unknown, _⟩
  have observed (absent : status.observedGeneration = none) :
      optionalMember ((lookup "status" members).getD .null).members
        "observedGeneration" int64? =
        some none := by
    rw [optionalMember] at storedRead
    cases here : lookup "status" members with
    | none => rfl
    | some value =>
        rw [here] at storedRead
        exact OperatorStatus.observed_of_read storedRead (inner here)
          (keeps absent)
  have storedAscending :
      Ascending ((lookup "status" members).getD .null).members := by
    cases here : lookup "status" members with
    | none => exact ascending_nil
    | some value => exact inner here
  have changed (key : String) :=
    member?_mergePatch members (field "resourceVersion"
      ((metadata.resourceVersion.map Value.text).getD .null)) statusMembers key
  rw [statusPatch_eq, written]
  constructor
  case reads =>
    have whole :
        ∃ merged,
          mergePatch (.object members)
              (.object
                [("metadata",
                  .object (field "resourceVersion"
                    ((metadata.resourceVersion.map Value.text).getD .null))),
              ("status", .object statusMembers)]) = .object merged ∧
                  Ascending merged :=
      ⟨_, mergePatch_object _ _, ascending.mergeMembers _⟩
    rcases whole with ⟨merged, equal, mergedAscending⟩
    rw [equal] at changed
    have found (key : String) : lookup key merged =
      (Value.object merged).member? key := rfl
    rw [equal, OperatorResource.ofDatum?_object mergedAscending.nodup,
      optionalMember, found "metadata", found "spec", found "status", changed,
      changed, changed, if_pos rfl, if_neg (by decide), if_neg (by decide),
      if_neg (by decide), if_pos rfl, specRead, metadataFound, Option.getD_some,
      Option.bind_some,
      ObjectMeta.ofDatum?_mergePatch metadataRead (inner metadataFound),
      Option.elim_some, mergePatch_object,
      optional_object, ← mergePatch_object, ← written,
      OperatorStatus.ofDatum?_mergePatch storedAscending observed]
    rfl
  case members =>
    intro key other another
    rw [changed, if_neg other, if_neg another]
    rfl
  case metadata =>
    intro key other
    rw [nested?, nested?, changed, if_pos rfl, member?, metadataFound,
      Option.bind_some, Option.bind_some, Option.getD_some, field]
    exact member?_mergePatch_absent (by simp)
      (lookup_eq_none (by simpa using other)) metadataValue
  case status =>
    intro key other
    rw [nested?, nested?, changed, if_neg (by decide), if_pos rfl,
      Option.bind_some, member?_mergePatch_absent distinct (unknown key other),
      member?]
    cases lookup "status" members <;> rfl

/-! ## Sending the patch -/

/--
The exchanges of a write of the status: one patch, if the change has to be
written.
-/
theorem exchanges_writeStatus (host : Host σ) (state : σ) (name : String)
    (operator : OperatorResource) (change : StatusChange) :
    (writeStatus name operator change).exchanges host state =
      if change.after = change.before then []
      else
        match Request.patchStatus (ClusterObject.collection OperatorResource "")
          name (operator.statusPatch change.after) with
        | .error _ => []
        | .ok patch =>
            [⟨.objects, patch, (host.answer state .objects patch).1⟩] := by
  by_cases same : change.after = change.before
  · have unwritten : change.isWritten = false := by
      simp [StatusChange.isWritten, same]
    simp only [writeStatus, unwritten, same, if_true, Bool.false_eq_true,
      if_false]
    rfl
  · have written : change.isWritten = true := by
      simp [StatusChange.isWritten, same]
    simp only [writeStatus, written, same, if_true, if_false,
      Client.patchStatus, Client.send]
    cases Request.patchStatus (ClusterObject.collection OperatorResource "")
        name (operator.statusPatch change.after) with
    | error fault => rfl
    | ok patch =>
        simp only [Program.bind_eq, Program.bind, Program.exchanges]
        split <;> rfl

/--
The exchanges of a change of the status, when the resource is read as it is
stored.
-/
theorem exchanges_updateStatus
    {host : Host σ}
    {state : σ}
    {name : String}
    {edit : String → OperatorStatus → OperatorStatus}
    {request : Request}
    {operator : OperatorResource}
    (built : Request.read (ClusterObject.collection OperatorResource "") name =
      .ok request)
    (found :
        (host.answer state .objects request).1.decode
        OperatorResource.ofDatum? = .ok operator) :
    (updateStatus name edit).exchanges host state =
      ⟨.objects, request, (host.answer state .objects request).1⟩ ::
        (writeStatus name operator (operator.statusChange
          (edit (host.clock
            (host.answer state .objects request).2).instant.text))).exchanges
            host (host.answer state .objects request).2 := by
  have asked :
      Client.find? OperatorResource "" name =
        .ask .objects request fun answer =>
          .done (Client.presence
              (answer.decode OperatorResource.ofDatum?)) := by
    show (Client.send (Request.read _ name) _).bind _ = _
    rw [built]
    rfl
  simp only [updateStatus, asked, Program.bind_eq, Program.bind,
    Program.exchanges, found, Client.presence]
  rfl

/--
An operator resource that can be read can be patched, unless its name is very
long.
-/
theorem patchStatus_of_name
    {name : String}
    {request : Request}
    (built : Request.read (ClusterObject.collection OperatorResource "") name =
      .ok request)
    (change : Value) :
    (∃ patch,
      Request.patchStatus (ClusterObject.collection OperatorResource "") name
        change =
        .ok patch) ∨
      (Request.patchStatus (ClusterObject.collection OperatorResource "") name
        change =
        .error .tooLong ∧ 65000 < name.utf8ByteSize) := by
  rcases Request.patchStatus_of_read built change with sent | ⟨tooLong, bytes⟩
  · exact Or.inl sent
  · have collection :
        (ClusterObject.collection OperatorResource "" ++ "/" ++
          name).utf8ByteSize =
          54 + name.utf8ByteSize := by
      rw [String.utf8ByteSize_append]
      rfl
    rw [collection, Address.longest] at bytes
    exact Or.inr ⟨tooLong, by omega⟩

/--
Let the operator resource be read as a stored document, and let an edit keep a
generation that was observed.  Then a patch follows exactly when the edit
changes the status, if only the name leaves room for its address.  There is one
such patch, and it lands the edited status in the document.
-/
theorem status_patch_lands
    (host : Host σ)
    (state : σ)
    (name : String)
    (edit : String → OperatorStatus → OperatorStatus)
    (document : Value)
    (members : Members)
    (operator : OperatorResource)
    (request : Request)
    (code : Nat)
    (object : document = .object members)
    (canonical : document.sorted = document)
    (read : OperatorResource.ofDatum? (ofValue document) = some operator)
    (keeps : ∀ now status, status.observedGeneration ≠ none →
      (edit now status).observedGeneration ≠ none)
    (built : Request.read (ClusterObject.collection OperatorResource "") name =
      .ok request)
    (served : (host.answer state .objects request).1 = .reply
      ⟨code, .json document⟩)
    (accepted : (⟨code, .json document⟩ : Reply).refuses = false) :
    ∃ before after rest,
      before = operator.status.getD {} ∧
      after =
        edit (host.clock (host.answer state .objects request).2).instant.text
        before ∧
      (updateStatus name edit).exchanges host state =
        ⟨.objects, request, .reply ⟨code, .json document⟩⟩ :: rest ∧
      (after = before → rest = []) ∧
      (after ≠ before →
        rest.length = 1 ∨
          (rest = [] ∧ 65000 < name.utf8ByteSize ∧
            Request.patchStatus (ClusterObject.collection OperatorResource "")
              name (operator.statusPatch after) = .error .tooLong)) ∧
      ∀ exchange ∈ rest,
        exchange.channel = .objects ∧
          Request.patchStatus (ClusterObject.collection OperatorResource "")
            name (operator.statusPatch after) = .ok exchange.request ∧
          exchange.request.method = .patch ∧
          ∃ body, exchange.request.body = some body ∧
              Lands document operator after body := by
  have found :
      (host.answer state .objects request).1.decode OperatorResource.ofDatum? =
          .ok operator := by
    rw [served, Answer.decode, accepted]
    simp only [Bool.false_eq_true, if_false, Body.decode, Body.datum?, read]
  have sent : (updateStatus name edit).exchanges host state = _ :=
    exchanges_updateStatus built found
  rw [served, exchanges_writeStatus] at sent
  generalize made : operator.statusChange
    (edit (host.clock (host.answer state .objects request).2).instant.text) =
      change at sent
  have before : change.before = operator.status.getD {} := by rw [← made]; rfl
  have after : change.after =
      edit (host.clock (host.answer state .objects request).2).instant.text
          change.before := by
    rw [← made]
    rfl
  refine ⟨change.before, change.after, _, before, after, sent, ?_, ?_, ?_⟩
  · intro same
    exact if_pos same
  · intro differs
    rcases patchStatus_of_name built (operator.statusPatch change.after) with
      ⟨patch, given⟩ | ⟨tooLong, bytes⟩
    · rw [if_neg differs, given]
      exact Or.inl rfl
    · rw [if_neg differs, tooLong]
      exact Or.inr ⟨rfl, bytes, rfl⟩
  · intro exchange member
    split at member
    · cases member
    · split at member
      next => cases member
      next patch given =>
        rcases List.mem_singleton.1 member with rfl
        rcases Request.of_patchStatus given with ⟨method, body⟩
        refine ⟨rfl, given, method, _, body,
          OperatorResource.lands_statusPatch object canonical read fun absent =>
          ?_⟩
        refine Decidable.byContradiction fun known => ?_
        rw [← before] at known
        exact keeps _ _ known (after ▸ absent)

/-- A stored operator resource with members that the operator does not know. -/
def storedDocument : Value :=
  .object [("apiVersion", .text "operator.openshift.io/v1"),
    ("kind", .text "CSISnapshotController"),
    ("metadata", .object [("labels", .object [("team", .text "storage")]),
      ("name", .text "cluster"), ("resourceVersion", .text "7")]),
    ("spec", .object [("managementState", .text "Managed")]),
    ("status",
      .object [("generations", .array []), ("observedGeneration", .int 3),
        ("readyReplicas", .int 1)])]

def storedOperator : OperatorResource where
  metadata := {
    labels := some (TextMap.empty.insert "team" "storage")
    name := some "cluster"
    resourceVersion := some "7" }
  spec := {}
  status := some { observedGeneration := some 3 }

def storingServer : Server where
  store := {
    objects :=
      [("/apis/operator.openshift.io/v1/csisnapshotcontrollers/cluster",
        storedDocument)]
    revision := 7 }
  clock := ⟨1700000000000000000⟩

/--
Marking the stored resource as degraded lands the condition beside the unknown
members.
-/
theorem status_patch_lands_degraded :
    ∃ after exchange body,
      after = OperatorStatus.setCondition { observedGeneration := some 3 }
        (Health.degraded (some "no webhook")) "2023-11-14T22:13:20Z" ∧
      exchange ∈
        (updateCondition "cluster"
          (Health.degraded (some "no webhook"))).exchanges Server.host
          storingServer ∧
      exchange.request.body = some body ∧
          Lands storedDocument storedOperator after body := by
  rcases
    status_patch_lands Server.host storingServer "cluster"
      (fun now status =>
        status.setCondition (Health.degraded (some "no webhook")) now)
      storedDocument _ storedOperator _ 200 rfl (by decide +kernel)
        (by decide +kernel)
      (fun _ _ known => known) rfl (by decide +kernel) rfl with
    ⟨before, after, rest, beforeEqual, afterEqual, sent, _, changed, each⟩
  have differs : after ≠ before := by
    rw [afterEqual, beforeEqual]
    decide +kernel
  rcases changed differs with single | ⟨_, long, _⟩
  · rcases List.length_eq_one_iff.1 single with ⟨exchange, rfl⟩
    rcases each exchange List.mem_cons_self with ⟨_, _, _, body, carried, lands⟩
    refine ⟨after, exchange, body, ?_, ?_, carried, lands⟩
    · rw [afterEqual, beforeEqual]
      decide +kernel
    · rw [updateCondition, sent]
      exact List.mem_cons_of_mem _ List.mem_cons_self
  · exact absurd long (by decide)

end HookKeeper
