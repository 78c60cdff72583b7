import HookKeeper.Proofs.Canonical
import HookKeeper.Proofs.StatusPatch

/-!
# Stored documents

A store keeps every object as a document: a JSON object with its members in
order at every depth, so a look-up says everything about it.  A body that is
sent is put in order before it is stored or merged, and that changes nothing of
what is read from it.  What a document says about the status of the operator is
read from one of its members, so documents with the same member under the status
say the same.  The main statement says what is read after the patch of a status
was merged into the document that the patch was made for.
-/

namespace HookKeeper

open HookKeeper.Datum
open HookKeeper.Json
open HookKeeper.Json.Value

/-! ## Values in order -/

namespace Json.Value

theorem lookup_sortedMembers_append
    {members : Members}
    (distinct : (members.map Prod.fst).Nodup)
    (key : String)
    (done : Members) :
    lookup key (sortedMembers done members) =
      ((lookup key members).map sorted).or (lookup key done) := by
  induction members generalizing done with
  | nil => simp [sortedMembers, lookup]
  | cons first rest ih =>
      rcases first with ⟨own, value⟩
      rcases List.nodup_cons.1 distinct with ⟨fresh, restDistinct⟩
      rw [sortedMembers, ih restDistinct, lookup_insertMember]
      by_cases same : key = own
      · subst same
        rw [lookup_eq_none fresh, if_pos rfl]
        simp [lookup]
      · have differs : (key == own) = false := by simpa using same
        rw [if_neg same]
        simp [lookup, List.lookup_cons, differs]

/-- In order a look-up finds what it found before, in order. -/
theorem lookup_sortedMembers
    {members : Members}
    (distinct : (members.map Prod.fst).Nodup)
    (key : String) :
    lookup key (sortedMembers [] members) =
        (lookup key members).map sorted := by
  rw [lookup_sortedMembers_append distinct]
  exact Option.or_none

theorem sorted_list
    (write : α → Value)
    (items : List α) :
    (list write items).sorted =
        list (fun item => (write item).sorted) items := by
  rw [list, list, sorted]
  congr 1
  induction items with
  | nil => rfl
  | cons first rest ih => rw [List.map_cons, sortedItems, ih, List.map_cons]

/--
In order, members without objects and sequences in them are found as before.
-/
theorem lookup_sortedMembers_of_plain
    {members : Members}
    (distinct : (members.map Prod.fst).Nodup)
    (plain : ∀ entry ∈ members, entry.2.sorted = entry.2)
    (key : String) :
    lookup key (sortedMembers [] members) = lookup key members := by
  rw [lookup_sortedMembers distinct]
  cases found : lookup key members with
  | none => rfl
  | some value => exact congrArg some (plain _ (mem_of_lookup found))

end Json.Value

/-! ## Reading values in order -/

/--
What is read by looking members up is read of plain members in order as well.
-/
theorem read_sorted_of_plain
    {read : Datum → Option α}
    {value : Value}
    {object : α}
    (shape : ∃ members, value = .object members ∧ (members.map Prod.fst).Nodup ∧
      ∀ entry ∈ members, entry.2.sorted = entry.2)
    (looks : ∀ members others : Members, (members.map Prod.fst).Nodup →
      (others.map Prod.fst).Nodup →
      (∀ key, lookup key members = lookup key others) →
      read (ofValue (.object members)) = read (ofValue (.object others)))
    (reads : read (ofValue value) = some object) :
    read (ofValue value.sorted) = some object := by
  rcases shape with ⟨members, rfl, distinct, plain⟩
  rw [sorted, ← reads]
  exact looks _ _ (ascending_sortedMembers ascending_nil members).nodup distinct
    (lookup_sortedMembers_of_plain distinct plain)

theorem GenerationRecord.ofDatum?_sorted (record : GenerationRecord) :
    ofDatum? (ofValue record.toValue.sorted) = some record := by
  refine read_sorted_of_plain ?shape ?looks (ofDatum?_ofValue record)
  case shape =>
    rcases record with ⟨key, generation, hash⟩
    cases hash <;>
      exact ⟨_, rfl, by simp [field],
        by simp [field, sorted, Value.int64, Value.int]⟩
  case looks =>
    intro members others distinct apart same
    rw [ofDatum?, ofDatum?, closed?_ofValue _ _ distinct,
      closed?_ofValue _ _ apart]
    simp only [Option.bind_eq_bind, Option.bind_some, Closed.required_fieldsOf,
      Closed.defaulted_fieldsOf, Closed.optional_fieldsOf, same]

theorem OperatorCondition.ofDatum?_sorted (condition : OperatorCondition) :
    ofDatum? (ofValue condition.toValue.sorted) = some condition := by
  refine read_sorted_of_plain ?shape ?looks (ofDatum?_ofValue condition)
  case shape =>
    rcases condition with ⟨type, status, time, reason, message⟩
    cases time <;> cases reason <;> cases message <;>
      exact ⟨_, rfl, by simp [field], by simp [field, sorted]⟩
  case looks =>
    intro members others distinct apart same
    rw [ofDatum?, ofDatum?, closed?_ofValue _ _ distinct,
      closed?_ofValue _ _ apart]
    simp only [Option.bind_eq_bind, Option.bind_some, Closed.required_fieldsOf,
      Closed.optional_fieldsOf, same]

theorem OperatorResource.sorted_statusPatch
    (operator : OperatorResource)
    (status : OperatorStatus) :
    (operator.statusPatch status).sorted =
      .object [("metadata", .object (field "resourceVersion"
        ((operator.metadata.resourceVersion.map Value.text).getD .null))),
        ("status", status.toValue.sorted)] := by
  have single (key : String) (value : Value) :
      sortedMembers [] [(key, value)] = [(key, value.sorted)] := by
    rw [sortedMembers, sortedMembers, insertMember]
  have version :
      ((operator.metadata.resourceVersion.map Value.text).getD .null).sorted =
        (operator.metadata.resourceVersion.map Value.text).getD .null := by
    cases operator.metadata.resourceVersion <;> simp [sorted]
  have above (metadata : Value) : ∀ entry ∈ [("metadata", metadata)],
      entry.1 < "status" :=
    fun entry member => by
      rcases List.mem_singleton.1 member with rfl
      exact (by decide : "metadata" < "status")
  rw [statusPatch_eq, sorted, sortedMembers, sortedMembers, sortedMembers,
    insertMember, insertMember_of_above (above _), sorted, field, single,
    version]
  rfl

/--
A status that is merged in order into a stored one is read as itself, with the
generation that the stored one shows where the status has none.
-/
theorem OperatorStatus.ofDatum?_mergePatch_sorted
    {target : Value}
    {status : OperatorStatus}
    (ascending : Ascending target.members)
    {stored : Option Int64}
    (observed : optionalMember target.members "observedGeneration" int64? =
        some stored) :
    ofDatum? (ofValue (mergePatch target status.toValue.sorted)) =
      some { status with
          observedGeneration := status.observedGeneration.or stored } := by
  rcases status.toValue_eq with
    ⟨members, written, distinct, _, first, second, third⟩
  have ordered : ((sortedMembers [] members).map Prod.fst).Nodup :=
    (ascending_sortedMembers ascending_nil members).nodup
  have merged (key : String) :
      lookup key (mergeMembers target.members (sortedMembers [] members)) =
        patched (lookup key target.members)
            ((lookup key members).map sorted) := by
    rw [lookup_mergeMembers ordered, lookup_sortedMembers distinct]
  have firstRead :
      optionalMember (mergeMembers target.members (sortedMembers [] members))
          "observedGeneration" int64? =
        some (status.observedGeneration.or stored) := by
    rw [optionalMember, merged, first]
    cases status.observedGeneration with
    | none => exact observed
    | some generation =>
        have plain : (Value.int64 generation).sorted = .int64 generation := by
          simp [Value.int64, Value.int, sorted]
        rw [Option.map_some, Option.map_some, plain,
          patched_replacement (by simp [Value.int64, Value.int])
            (by simp [Value.int64, Value.int])]
        simp
  have secondRead :
      defaultedMember (mergeMembers target.members (sortedMembers [] members))
          "conditions" (Datum.listOf? OperatorCondition.ofDatum?) [] =
        some status.conditions := by
    rw [defaultedMember, merged, second, Option.map_some, sorted_list,
      patched_replacement (by simp [Value.list]) (by simp [Value.list])]
    exact listOf?_ofValue OperatorCondition.ofDatum?_sorted status.conditions
  have thirdRead :
      defaultedMember (mergeMembers target.members (sortedMembers [] members))
          "generations" (Datum.listOf? GenerationRecord.ofDatum?) [] =
        some status.generations := by
    rw [defaultedMember, merged, third, Option.map_some, sorted_list,
      patched_replacement (by simp [Value.list]) (by simp [Value.list])]
    exact listOf?_ofValue GenerationRecord.ofDatum?_sorted status.generations
  rw [written, sorted, mergePatch_object,
    ofDatum?_object (ascending.mergeMembers _).nodup, firstRead, secondRead,
    thirdRead]
  rfl

/--
The generation that stands in a status is the one that is read, if any can stand
there.
-/
theorem OperatorStatus.generation_of_read
    {value : Value}
    {found : Option OperatorStatus}
    (read : Datum.optional OperatorStatus.ofDatum? (ofValue value) = some found)
    (ascending : Ascending value.members) :
    ∃ stored, optionalMember value.members "observedGeneration" int64? =
      some stored ∧
      (stored = none ∨ stored = (found.getD {}).observedGeneration) := by
  cases value with
  | object members =>
      have distinct : (members.map Prod.fst).Nodup := ascending.nodup
      rw [optional_object] at read
      rcases Option.map_eq_some_iff.1 read with ⟨status, decoded, rfl⟩
      rw [OperatorStatus.ofDatum?_object distinct] at decoded
      rcases Option.bind_eq_some_iff.1 decoded with ⟨observed, first, decoded⟩
      rcases Option.bind_eq_some_iff.1 decoded with ⟨conditions, _, decoded⟩
      rcases Option.bind_eq_some_iff.1 decoded with ⟨generations, _, decoded⟩
      cases decoded
      exact ⟨observed, first, .inr rfl⟩
  | _ => exact ⟨none, rfl, .inl rfl⟩

/--
What is stored of an edited status.  A member without a value is left out of
the patch, so a generation that the edit took away may stay.
-/
def OperatorStatus.LandsAs (edited before landed : OperatorStatus) : Prop :=
  landed = edited ∨
    edited.observedGeneration = none ∧
      landed = { edited with observedGeneration := before.observedGeneration }

theorem OperatorStatus.LandsAs.eq_of_keeps
    {edited before landed : OperatorStatus}
    (lands : edited.LandsAs before landed)
    (keeps : edited.observedGeneration = none →
        before.observedGeneration = none) :
    landed = edited := by
  rcases lands with same | ⟨absent, kept⟩
  · exact same
  · rcases edited with ⟨observed, conditions, generations⟩
    rw [kept, keeps absent, ← absent]

/-! ## Documents -/

/-- Whatever object an answer carries is what a document is read as. -/
def Answer.Reflects
    (answer : Answer)
    (read : Datum → Option α)
    (document : Value) : Prop :=
  ∀ object, answer.decode read = .ok object →
    read (ofValue document) = some object

theorem Answer.reflects_json
    (code : Nat)
    (document : Value)
    (read : Datum → Option α) :
    (Answer.reply ⟨code, .json document⟩).Reflects read document := by
  intro object decoded
  rw [decode] at decoded
  split at decoded
  · cases decoded
  · cases found : read (ofValue document) with
    | none => simp [Body.decode, Body.datum?, found] at decoded
    | some other =>
        simp only [Body.decode, Body.datum?, found, Except.ok.injEq] at decoded
        rw [decoded]

/--
The status that a member is read as; a member without a value stands for an
empty one.
-/
def OperatorStatus.ofMember? (member : Option Value) : Option OperatorStatus :=
  (member.elim (some none) fun value =>
    Datum.optional OperatorStatus.ofDatum? (ofValue value)).map (·.getD {})

/-- A stored document: a JSON object with its members in order. -/
structure Document where
  members : Members
  canonical : (Value.object members).sorted = .object members

namespace Document

variable (document : Document)

def value : Value := .object document.members

/-- What is stored under the status of a document. -/
def status? : Option Value := lookup "status" document.members

/-- The status of the operator that a document shows. -/
def report? : Option OperatorStatus := OperatorStatus.ofMember? document.status?

theorem ascending : Ascending document.members :=
  ascending_of_sorted document.canonical

variable {document} {operator : OperatorResource}

theorem ascending_of_lookup
    {key : String}
    {value : Value}
    (found : lookup key document.members = some value) :
    Ascending value.members := by
  rcases sorted_of_lookup document.canonical found with ⟨written, rfl⟩
  cases shape : written.sorted with
  | object members => exact ascending_of_sorted shape
  | _ => exact ascending_nil

theorem report?_congr
    {other : Document}
    (same : document.status? = other.status?) :
    document.report? = other.report? := by
  rw [report?, report?, same]

theorem status_of_read
    (read : OperatorResource.ofDatum? (ofValue document.value) =
        some operator) :
    optionalMember document.members "status" OperatorStatus.ofDatum? =
        some operator.status := by
  rw [value, OperatorResource.ofDatum?_object document.ascending.nodup] at read
  rcases Option.bind_eq_some_iff.1 read with ⟨metadata, _, read⟩
  rcases Option.bind_eq_some_iff.1 read with ⟨spec, _, read⟩
  rcases Option.bind_eq_some_iff.1 read with ⟨status, statusRead, made⟩
  cases made
  exact statusRead

theorem report?_of_read
    (read : OperatorResource.ofDatum? (ofValue document.value) =
        some operator) :
    document.report? = some (operator.status.getD {}) := by
  have statusRead := status_of_read read
  rw [optionalMember] at statusRead
  rw [report?, status?, OperatorStatus.ofMember?, statusRead]
  rfl

/--
After a status was merged in order into that of a document, what lands of it is
shown.
-/
theorem report_of_status
    (read : OperatorResource.ofDatum? (ofValue document.value) = some operator)
    (edited : OperatorStatus) :
    ∃ landed,
      OperatorStatus.ofMember?
          (some (mergePatch (document.status?.getD .null)
            edited.toValue.sorted)) = some landed ∧
        edited.LandsAs (operator.status.getD {}) landed := by
  have statusRead := status_of_read read
  have standing :
      ∃ target : Value,
        target = document.status?.getD .null ∧ Ascending target.members ∧
          ∃ stored, optionalMember target.members "observedGeneration" int64? =
            some stored ∧
            (stored = none ∨
                stored = (operator.status.getD {}).observedGeneration) := by
    refine ⟨_, rfl, ?_⟩
    rw [status?]
    cases here : lookup "status" document.members with
    | none => exact ⟨ascending_nil, none, rfl, .inl rfl⟩
    | some value =>
        rw [optionalMember, here] at statusRead
        exact ⟨ascending_of_lookup here,
          OperatorStatus.generation_of_read statusRead
            (ascending_of_lookup here)⟩
  rcases standing with
    ⟨target, targetEqual, targetAscending, stored, storedRead, origin⟩
  rcases edited.toValue_eq with ⟨members, written, _⟩
  have merged :=
    @OperatorStatus.ofDatum?_mergePatch_sorted target edited targetAscending
      stored storedRead
  refine ⟨{ edited with
    observedGeneration := edited.observedGeneration.or stored }, ?_, ?_⟩
  · rw [written, sorted] at merged
    rw [← targetEqual, written, sorted, OperatorStatus.ofMember?,
      Option.elim_some, mergePatch_object, optional_object, ← mergePatch_object,
      merged]
    rfl
  · rcases edited with ⟨observed, conditions, generations⟩
    cases observed with
    | some generation => exact .inl rfl
    | none =>
        rcases origin with rfl | rfl
        · exact .inl rfl
        · exact .inr ⟨rfl, rfl⟩

/--
After the patch of a status was merged in order into the document that the
patch was made for, the document shows what lands of this status.
-/
theorem report_of_statusPatch
    (read : OperatorResource.ofDatum? (ofValue document.value) = some operator)
    (edited : OperatorStatus) :
    ∃ landed,
      OperatorStatus.ofMember?
          ((mergePatch document.value
            (operator.statusPatch edited).sorted).member? "status") =
        some landed ∧ edited.LandsAs (operator.status.getD {}) landed := by
  rcases edited.toValue_eq with ⟨members, written, _⟩
  have shown := report_of_status read edited
  rw [written, sorted] at shown
  rw [OperatorResource.sorted_statusPatch, written, sorted, value,
    member?_mergePatch, if_neg (by decide), if_pos rfl]
  exact shown

end Document

end HookKeeper
