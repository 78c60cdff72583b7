import HookKeeper.Operator.Resource
import HookKeeper.Proofs.MergePatch

/-!
# Reading back what was written

A record is read through look-ups: an object with distinct keys gives each
field the reading of the value under its name, whatever the order of its
members and whatever else it holds.  The main statements say that maps of texts,
the status of the operator resource, its conditions and its records are read
back as they were written.
-/

namespace HookKeeper

open HookKeeper.Json

namespace TextMap

theorem insertEntry_of_above
    {key value : String}
    {entries : List (String × String)}
    (above : ∀ entry ∈ entries, entry.1 < key) :
    insertEntry key value entries = entries ++ [(key, value)] := by
  induction entries with
  | nil => rfl
  | cons first rest ih =>
      have below : first.1 < key := above first List.mem_cons_self
      have notSmaller : ¬ key < first.1 := String.lt_asymm below
      have different : ¬ key = first.1 := fun same =>
        String.lt_irrefl key (same ▸ below)
      rw [insertEntry, if_neg notSmaller, if_neg different,
        ih fun entry member => above entry (List.mem_cons_of_mem _ member)]
      rfl

/--
Ascending entries that are put one after another after others follow them.
-/
theorem entries_foldl_insert
    {entries : List (String × String)}
    {map : TextMap}
    (ordered : (map.entries ++ entries).Pairwise fun left right =>
        left.1 < right.1) :
    (entries.foldl (fun map entry => map.insert entry.1 entry.2) map).entries =
      map.entries ++ entries := by
  induction entries generalizing map with
  | nil => simp
  | cons first rest ih =>
      have above : ∀ entry ∈ map.entries, entry.1 < first.1 :=
        fun entry member =>
        (List.pairwise_append.1 ordered).2.2 entry member first
          List.mem_cons_self
      have inserted : (map.insert first.1 first.2).entries = map.entries ++
          [first] :=
        insertEntry_of_above above
      rw [List.foldl_cons, ih] <;> rw [inserted, List.append_assoc]
      · rfl
      · exact ordered

theorem ofList_entries (map : TextMap) : ofList map.entries = map :=
  TextMap.ext (@entries_foldl_insert map.entries empty map.ordered)

end TextMap

namespace Datum

/-- The fields of members of a JSON object. -/
def fieldsOf (members : Members) : Fields := members.map fun entry =>
    (entry.1, ofValue entry.2)

theorem ofMembers_eq (members : List (String × Value)) :
    ofMembers members = members.map fun entry =>
        (text entry.1, ofValue entry.2) := by
  induction members with
  | nil => simp [ofMembers]
  | cons first rest ih =>
      rcases first with ⟨key, value⟩
      rw [ofMembers, ih]
      rfl

theorem ofItems_eq (items : List Value) :
    ofItems items = items.map ofValue := by
  induction items with
  | nil => simp [ofItems]
  | cons first rest ih => rw [ofItems, ih, List.map_cons]

theorem ofValue_object (members : Members) :
    ofValue (.object members) =
      .map (members.map fun entry => (text entry.1, ofValue entry.2)) := by
  rw [ofValue, ofMembers_eq]

theorem ofValue_array (items : List Value) :
    ofValue (.array items) = .list (items.map ofValue) := by
  rw [ofValue, ofItems_eq]

@[simp]
theorem ofValue_text (value : String) : ofValue (.text value) = text value := by
  rw [ofValue]

theorem fields?_ofValue (members : Members) :
    (ofValue (.object members)).fields? = some (fieldsOf members) := by
  rw [ofValue_object, fields?, List.mapM_map]
  induction members with
  | nil => rfl
  | cons first rest ih =>
      rw [List.mapM_cons, ih]
      rfl

theorem object_of_fields?
    {value : Value}
    {fields : Fields}
    (given : (ofValue value).fields? = some fields) :
    ∃ members, value = .object members := by
  cases value with
  | object members => exact ⟨members, rfl⟩
  | null =>
      simp [ofValue, null, Scalar.null, Scalar.unreadable, fields?] at given
  | bool truth =>
      simp [ofValue, Scalar.ofBool, Scalar.unreadable, fields?] at given
  | number number =>
      cases number <;>
        simp [ofValue, Scalar.ofNumber, Scalar.ofInt, Scalar.unreadable,
          fields?] at given
  | text written =>
      simp [ofValue, text, Scalar.ofText, Scalar.unreadable, fields?] at given
  | array items => simp [ofValue, fields?] at given

theorem lookup_fieldsOf
    (members : Members)
    (name : String) :
    (fieldsOf members).lookup name =
        (Value.lookup name members).map ofValue := by
  unfold Value.lookup
  induction members with
  | nil => rfl
  | cons first rest ih =>
      rcases first with ⟨key, value⟩
      simp only [fieldsOf, List.map_cons, List.lookup_cons] at ih ⊢
      split
      · rfl
      · exact ih

theorem keys_fieldsOf (members : Members) :
    (fieldsOf members).map Prod.fst = members.map Prod.fst := by
  simp [fieldsOf]

/-! ## Closed records -/

theorem repeats_of_nodup
    (names : List String)
    {fields : Fields}
    (distinct : (fields.map Prod.fst).Nodup) :
    repeats names fields = false := by
  rw [repeats, List.any_eq_false]
  intro name _
  have single : (fields.map Prod.fst).count name ≤ 1 :=
    List.nodup_iff_count.1 distinct name
  rw [List.count, List.countP_map, List.countP_eq_length_filter] at single
  simpa [Function.comp_def] using single

/-- An object with distinct keys is a closed record of its members. -/
theorem closed?_ofValue
    (names : List String)
    (least : Nat)
    {members : Members}
    (distinct : (members.map Prod.fst).Nodup) :
    (ofValue (.object members)).closed? names least =
        some ⟨fieldsOf members⟩ := by
  have fields := fields?_ofValue members
  rw [ofValue_object] at fields ⊢
  simp [closed?, fields,
    repeats_of_nodup names ((keys_fieldsOf members).symm ▸ distinct)]

namespace Closed

theorem required_fieldsOf
    (members : Members)
    (name : String)
    (read : Datum → Option α) :
    (Closed.mk (fieldsOf members)).required name read =
      (Value.lookup name members).bind fun value => read (ofValue value) := by
  rw [required, lookup_fieldsOf, Option.bind_map]
  rfl

theorem defaulted_fieldsOf
    (members : Members)
    (name : String)
    (read : Datum → Option α)
    (absent : α) :
    (Closed.mk (fieldsOf members)).defaulted name read absent =
      (Value.lookup name members).elim (some absent) fun value =>
          read (ofValue value) := by
  rw [defaulted, lookup_fieldsOf]
  cases Value.lookup name members <;> rfl

theorem optional_fieldsOf
    (members : Members)
    (name : String)
    (read : Datum → Option α) :
    (Closed.mk (fieldsOf members)).optional name read =
      (Value.lookup name members).elim (some none) fun value =>
        Datum.optional read (ofValue value) := by
  rw [optional, lookup_fieldsOf]
  cases Value.lookup name members <;> rfl

end Closed

/-! ## Open records -/

theorem foldlM_absent
    {name : String}
    {read : Datum → Option α}
    {fields : Fields}
    (absent : name ∉ fields.map Prod.fst)
    (found : Option α) :
    fields.foldlM
        (fun found field => if field.1 = name then Datum.optional read field.2
          else some found)
        found =
      some found := by
  induction fields with
  | nil => rfl
  | cons first rest ih =>
      rcases List.ne_and_not_mem_of_not_mem_cons absent with ⟨other, later⟩
      rw [List.foldlM_cons, if_neg (Ne.symm other)]
      exact ih later

/-- A field of an open record with distinct keys is read where it is found. -/
theorem optional_of_nodup
    {fields : Fields}
    (distinct : (fields.map Prod.fst).Nodup)
    (name : String)
    (read : Datum → Option α) :
    fields.optional name read =
      (fields.lookup name).elim (some none) fun datum =>
          Datum.optional read datum := by
  unfold Fields.optional
  induction fields with
  | nil => rfl
  | cons first rest ih =>
      rcases first with ⟨key, datum⟩
      rcases List.nodup_cons.1 distinct with ⟨fresh, restDistinct⟩
      rw [List.foldlM_cons, List.lookup_cons]
      by_cases same : key = name
      · subst same
        simp only [if_true, beq_self_eq_true, Option.elim_some]
        cases Datum.optional read datum with
        | none => rfl
        | some found => exact foldlM_absent fresh found
      · have differs : (name == key) = false := by simpa using Ne.symm same
        rw [if_neg same, differs]
        exact ih restDistinct

/-! ## Scalars and lists -/

@[simp]
theorem text?_text (value : String) : (text value).text? = some value := rfl

@[simp]
theorem optional_text
    (read : Datum → Option α)
    (value : String) :
    Datum.optional read (text value) = (read (text value)).map some := rfl

theorem optional_object
    (read : Datum → Option α)
    (members : Members) :
    Datum.optional read (ofValue (.object members)) =
      (read (ofValue (.object members))).map some := by
  rw [ofValue_object]
  rfl

@[simp]
theorem name?_text
    (read : String → Option α)
    (value : String) : name? read (text value) = read value := rfl

@[simp]
theorem int64?_ofValue (value : Int64) :
    (ofValue (.int64 value)).int64? = some value := by
  have lower := Int64.le_toInt value
  have upper := Int64.toInt_lt value
  have range : -9223372036854775808 ≤ value.toInt ∧
      value.toInt ≤ 9223372036854775807 := by
    constructor <;> omega
  rw [Value.int64, Value.int, ofValue]
  show (some value.toInt).bind Scalar.int64? = some value
  rw [Option.bind_some, Scalar.int64?, if_pos range, Int64.ofInt_toInt]

@[simp]
theorem optional_int64
    (read : Datum → Option α)
    (value : Int64) :
    Datum.optional read (ofValue (.int64 value)) =
        (read (ofValue (.int64 value))).map some := by
  rw [Value.int64, Value.int, ofValue]
  rfl

/-- A sequence of values that are read back is read back. -/
theorem listOf?_ofValue
    {read : Datum → Option α}
    {write : α → Value}
    (lawful : ∀ item, read (ofValue (write item)) = some item)
    (items : List α) :
    listOf? read (ofValue (.list write items)) = some items := by
  rw [Value.list, ofValue_array, listOf?, List.map_map, List.mapM_map]
  induction items with
  | nil => rfl
  | cons first rest ih =>
      rw [List.mapM_cons, ih]
      simp only [Function.comp_apply, lawful first]
      rfl

theorem textMap?_ofValue (map : TextMap) :
    textMap? (ofValue (.ofTextMap map)) = some map := by
  have texts (entries : List (String × String)) :
      ((fieldsOf (entries.map fun entry => (entry.1, Value.text entry.2))).mapM
          fun field =>
        (field.2.text?).map (field.1, ·)) = some entries := by
    induction entries with
    | nil => rfl
    | cons first rest ih =>
        rw [List.map_cons, fieldsOf, List.map_cons, List.mapM_cons]
        rw [fieldsOf] at ih
        rw [ih]
        simp
  rw [textMap?, Value.ofTextMap, fields?_ofValue]
  simp only [Option.bind_eq_bind, Option.bind_some, texts,
    TextMap.ofList_entries]

end Datum

/-! ## The status of the operator resource -/

open Datum

theorem GenerationRecord.ofDatum?_ofValue (record : GenerationRecord) :
    ofDatum? (ofValue record.toValue) = some record := by
  rcases record with ⟨⟨group, resource, namespaceName, name⟩, generation, hash⟩
  cases hash <;>
    simp [toValue, ofDatum?, field, closed?_ofValue, Closed.required_fieldsOf,
      Closed.defaulted_fieldsOf, Closed.optional_fieldsOf, Value.lookup,
        List.lookup_cons]

theorem OperatorCondition.ofDatum?_ofValue (condition : OperatorCondition) :
    ofDatum? (ofValue condition.toValue) = some condition := by
  rcases condition with ⟨type, status, time, reason, message⟩
  cases time <;> cases reason <;> cases message <;>
    simp [toValue, ofDatum?, field, closed?_ofValue, Closed.required_fieldsOf,
      Closed.optional_fieldsOf, Value.lookup, List.lookup_cons]

/-- What an optional member of an object reads as. -/
def optionalMember
    (members : Members)
    (name : String)
    (read : Datum → Option α) : Option (Option α) :=
  (Value.lookup name members).elim (some none) fun value =>
    Datum.optional read (ofValue value)

/-- What a member that is left out for its default reads as. -/
def defaultedMember
    (members : Members)
    (name : String)
    (read : Datum → Option α)
    (absent : α) : Option α :=
  (Value.lookup name members).elim (some absent) fun value =>
    read (ofValue value)

theorem OperatorStatus.ofDatum?_object
    {members : Members}
    (distinct : (members.map Prod.fst).Nodup) :
    ofDatum? (ofValue (.object members)) = do
      return {
        observedGeneration := ← optionalMember members "observedGeneration"
          Datum.int64?
        conditions :=
          ← defaultedMember members "conditions"
            (Datum.listOf? OperatorCondition.ofDatum?) []
        generations :=
          ← defaultedMember members "generations"
            (Datum.listOf? GenerationRecord.ofDatum?) []
        } := by
  rw [ofDatum?, closed?_ofValue _ _ distinct]
  simp only [Option.bind_eq_bind, Option.bind_some, Closed.optional_fieldsOf,
    Closed.defaulted_fieldsOf]
  rfl

theorem OperatorResource.ofDatum?_object
    {members : Members}
    (distinct : (members.map Prod.fst).Nodup) :
    ofDatum? (ofValue (.object members)) = do
      return {
        metadata :=
          ← (Value.lookup "metadata" members).bind fun value =>
            ObjectMeta.ofDatum? (ofValue value)
        spec :=
          ← (Value.lookup "spec" members).bind fun value =>
            OperatorSpec.ofDatum? (ofValue value)
        status := ← optionalMember members "status"
            OperatorStatus.ofDatum? } := by
  rw [ofDatum?, closed?_ofValue _ _ distinct]
  simp only [Option.bind_eq_bind, Option.bind_some, Closed.required_fieldsOf,
    Closed.optional_fieldsOf]
  rfl

/--
Metadata are read member by member: the same look-ups give the same reading.
-/
theorem ObjectMeta.ofDatum?_congr
    {members others : Members}
    (distinct : (members.map Prod.fst).Nodup)
    (othersDistinct : (others.map Prod.fst).Nodup)
    (version : optionalMember members "resourceVersion" text? =
      optionalMember others "resourceVersion" text?)
    (same : ∀ name, name ≠ "resourceVersion" →
        Value.lookup name members = Value.lookup name others) :
    ofDatum? (ofValue (.object members)) =
        ofDatum? (ofValue (.object others)) := by
  have optional (name : String) {α : Type} (read : Datum →
      Option α) {members : Members} (distinct : (members.map Prod.fst).Nodup) :
      (fieldsOf members).optional name read =
          optionalMember members name read := by
    rw [optional_of_nodup ((keys_fieldsOf members).symm ▸ distinct),
      lookup_fieldsOf, optionalMember]
    cases Value.lookup name members <;> rfl
  have versions : (fieldsOf members).optional "resourceVersion" text? =
      (fieldsOf others).optional "resourceVersion" text? := by
    rw [optional _ _ distinct, version, optional _ _ othersDistinct]
  have other (name : String) (differs : name ≠ "resourceVersion") {α : Type}
      (read : Datum → Option α) :
      (fieldsOf members).optional name read =
          (fieldsOf others).optional name read := by
    rw [optional _ _ distinct, optional _ _ othersDistinct, optionalMember,
      optionalMember, same name differs]
  rw [ofDatum?, ofDatum?, fields?_ofValue, fields?_ofValue, Option.bind_eq_bind,
    Option.bind_eq_bind, Option.bind_some, Option.bind_some, versions]
  simp (disch := decide) only [other]

end HookKeeper
