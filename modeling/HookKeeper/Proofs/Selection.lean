import HookKeeper.Proofs.Account
import HookKeeper.Proofs.Decoding
import HookKeeper.Proofs.Detection
import HookKeeper.Proofs.Spelling

/-!
# Counting suitable nodes

A server is asked for nodes by a printed selector, and the nodes that it shows
are matched once more by their labels.  Here the server reads the printed text
on its own: terms between commas, a label and its value around the first equals
sign.  Both ways accept the same nodes, so the number of pods follows from the
nodes of the whole cluster, as long as the printed selector fits into the
address of a request.
-/

namespace HookKeeper.Sizing

open HookKeeper.Json
open HookKeeper.Text

/-! ## Selectors as a server reads them -/

/-- The label and the value that one term asks for. -/
def term (part : List Char) : String × String :=
  (String.ofList (part.takeWhile (· != '=')),
    String.ofList ((part.dropWhile (· != '=')).drop 1))

/-- The terms of a selector text. -/
def terms (text : String) : List (String × String) :=
  (text.toList.splitOn ',').map term

/--
Whether a node is shown for a selector text; where there is none, all nodes are.
-/
def shows : Option String → Node → Bool
  | none, _ => true
  | some text, node =>
      (terms text).all fun entry =>
        (node.metadata.labels.getD .empty).find? entry.1 == some entry.2

/-- The selector text that goes with a request for nodes. -/
def sentText (selector : TextMap) : Option String :=
  if selector.isEmpty then none else some (selectorText selector)

/-- Keys and values of a selector are free of the marks that part its terms. -/
def IsSeparable (selector : TextMap) : Prop :=
  ∀ entry ∈ selector.entries, ∀ text ∈ [entry.1, entry.2],
    ',' ∉ text.toList ∧ '=' ∉ text.toList

instance (selector : TextMap) : Decidable (IsSeparable selector) :=
  inferInstanceAs
    (Decidable (∀ entry ∈ selector.entries, ∀ text ∈ [entry.1, entry.2],
      ',' ∉ text.toList ∧ '=' ∉ text.toList))

theorem term_pair
    {key : String}
    (value : String)
    (unmarked : '=' ∉ key.toList) :
    term (key.toList ++ '=' :: value.toList) = (key, value) := by
  have passes : ∀ character ∈ key.toList, (character != '=') = true :=
    fun character member =>
    bne_iff_ne.2 fun same => unmarked (same ▸ member)
  simp [term, List.takeWhile_append_of_pos passes,
    List.dropWhile_append_of_pos passes]

/-- A printed selector is read back as its entries. -/
theorem terms_selectorText
    {selector : TextMap}
    (given : selector.entries ≠ [])
    (separable : IsSeparable selector) :
    terms (selectorText selector) = selector.entries := by
  have whole : ∀ part ∈ selector.entries.map fun entry =>
      entry.1.toList ++ '=' :: entry.2.toList, ',' ∉ part := by
    intro part member
    rcases List.mem_map.1 member with ⟨entry, inside, rfl⟩
    have key := (separable entry inside entry.1 (by simp)).1
    have value := (separable entry inside entry.2 (by simp)).1
    simp [key, value]
  have printed : (selectorText selector).toList = [','].intercalate
      (selector.entries.map fun entry =>
          entry.1.toList ++ '=' :: entry.2.toList) := by
    simp [selectorText, Function.comp_def]
  rw [terms, printed, List.splitOn_intercalate ',' whole (by simpa using given),
    List.map_map]
  refine (List.map_congr_left fun entry inside => ?_).trans (List.map_id _)
  exact term_pair entry.2 (separable entry inside entry.1 (by simp)).2

/-- A server shows the nodes that carry every label of the selector. -/
theorem shows_sentText
    {selector : TextMap}
    (separable : IsSeparable selector)
    (node : Node) :
    shows (sentText selector) node = node.carries selector := by
  by_cases empty : selector.entries = []
  · simp [sentText, TextMap.isEmpty, shows, Node.carries,
      TextMap.isSubmap, empty]
  · have sent : sentText selector = some (selectorText selector) := by
      simp [sentText, TextMap.isEmpty, empty]
    rw [sent, shows, terms_selectorText empty separable]
    rfl

/-! ## Requests for nodes -/

def nodesParameters (selector : TextMap) : List (String × String) :=
  if selector.isEmpty then [] else [("labelSelector", selectorText selector)]

/-- The number of bytes of the address of a request for nodes. -/
def addressLength (selector : TextMap) : Nat :=
  "/api/v1/nodes".utf8ByteSize +
    (Address.addedLength (nodesParameters selector) + 1)

theorem lookup_nodesParameters (selector : TextMap) :
    (nodesParameters selector).lookup "labelSelector" = sentText selector := by
  rw [nodesParameters, sentText]
  split <;> rfl

theorem nodesRequest_of_fits
    {selector : TextMap}
    (fits : addressLength selector ≤ Address.longest) :
    nodesRequest selector =
      .ok ⟨.get, ⟨"/api/v1/nodes", nodesParameters selector⟩, none⟩ :=
  Request.list_plain (by decide) fits

theorem nodesRequest_of_overlong
    {selector : TextMap}
    (overlong : Address.longest < addressLength selector) :
    nodesRequest selector = .error .tooLong := by
  have address : Address.ofTarget "/api/v1/nodes"
    (some (nodesParameters selector)) =
      .error .tooLong := by
    rw [Address.ofTarget]
    exact if_pos overlong
  show Address.ofTarget "/api/v1/nodes"
    (some (nodesParameters selector)) >>= _ = _
  rw [address]
  rfl

theorem formLength_append (front rest : String) :
    Address.formLength (front ++ rest) = Address.formLength front +
        Address.formLength rest := by
  have bytes : Utf8.encode (front ++ rest) = Utf8.encode front ++
      Utf8.encode rest := by
    simp [Utf8.encode_eq]
  have counted (costs : List Nat) (start : Nat) :
      costs.foldl (· + ·) start = start + costs.foldl (· + ·) 0 := by
    induction costs generalizing start with
    | nil => rfl
    | cons cost costs ih =>
        rw [List.foldl_cons, List.foldl_cons, ih, ih (0 + cost), Nat.zero_add,
          Nat.add_assoc]
  simp only [Address.formLength, bytes, List.map_append, List.foldl_append]
  exact counted _ _

/-! ## Listing and counting -/

/-- The number of pods for the nodes that a listing finds. -/
def sized (selector : TextMap) : Program (Except ApiError Int32) := do
  let listed ← listNodes selector
  return listed.map (replicas selector)

/--
A host lists those of some nodes that the selector text of a request shows, in
any order.
-/
def Serves (host : Host σ) (nodes : List Node) : Prop :=
  ∀ state parameters, ∃ listed,
    (host.answer state .objects ⟨.get, ⟨"/api/v1/nodes", parameters⟩,
        none⟩).1.decode (Client.itemsOfDatum? Node.ofDatum?) = .ok listed ∧
      listed.Perm (nodes.filter (shows (parameters.lookup "labelSelector")))

theorem replicasFor_mono
    {few many : Nat}
    (more : few ≤ many) : replicasFor few ≤ replicasFor many := by
  rw [replicasFor, replicasFor]
  split
  · rw [if_pos (by omega)]
    decide
  · split <;> decide

/--
Only how many nodes are suitable matters, not which others are among them.
-/
theorem replicas_filter
    (selector : TextMap)
    (nodes : List Node) :
    replicas selector (nodes.filter (·.carries selector)) =
        replicas selector nodes := by
  simp [replicas, List.countP_filter]

theorem replicas_perm
    {selector : TextMap}
    {nodes others : List Node}
    (same : nodes.Perm others) :
    replicas selector nodes = replicas selector others := by
  rw [replicas, replicas, same.countP_eq]

section

variable {σ : Type} {host : Host σ} {nodes : List Node} {selector : TextMap}

theorem run_sized_of_fits
    (serves : Serves host nodes)
    (separable : IsSeparable selector)
    (fits : addressLength selector ≤ Address.longest)
    (state : σ) :
    ((sized selector).run host state).1 = .ok (replicas selector nodes) := by
  rcases serves state (nodesParameters selector) with ⟨listed, decoded, shown⟩
  have accepted : nodes.filter (shows (sentText selector)) = nodes.filter
      (·.carries selector) :=
    List.filter_congr fun node _ => shows_sentText separable node
  rw [lookup_nodesParameters, accepted] at shown
  have listing : listNodes selector =
      Client.send (nodesRequest selector)
        (Client.itemsOfDatum? Node.ofDatum?) := rfl
  have counted : replicas selector listed = replicas selector nodes :=
    (replicas_perm shown).trans (replicas_filter selector nodes)
  simp only [sized, listing, nodesRequest_of_fits fits, Client.send,
    Program.bind_eq, Program.bind, Program.pure_eq, Program.run, decoded,
    Except.map, counted]

theorem sized_of_overlong
    (overlong : Address.longest < addressLength selector) :
    sized selector = .done (.error (.unbuildable .tooLong)) := by
  have listing : listNodes selector =
      Client.send (nodesRequest selector)
        (Client.itemsOfDatum? Node.ofDatum?) := rfl
  simp only [sized, listing, nodesRequest_of_overlong overlong, Client.send,
    Program.bind_eq, Program.bind, Program.pure_eq, Except.map]

end

/--
A selector that fits into an address gives two pods when two nodes of the whole
cluster carry all of its labels, and one pod otherwise; no request is sent for
a longer selector.  The server and the count accept the same nodes.
-/
theorem sized_counts_suitable
    {σ : Type}
    {host : Host σ}
    {nodes : List Node}
    (serves : Serves host nodes)
    {selector : TextMap}
    (separable : IsSeparable selector)
    (state : σ) :
    (addressLength selector ≤ Address.longest →
      ((sized selector).run host state).1 =
        .ok (if 2 ≤ nodes.countP (·.carries selector) then 2 else 1)) ∧
    (Address.longest < addressLength selector →
      sized selector = .done (.error (.unbuildable .tooLong))) ∧
    (∀ node, shows (sentText selector) node = node.carries selector) ∧
    (∀ node : Node, node.carries selector = true ↔
      ∀ key value, selector.find? key = some value →
        (node.metadata.labels.getD .empty).find? key = some value) ∧
    (selector = .empty →
      ((sized selector).run host state).1 = .ok (if 2 ≤ nodes.length then 2
        else 1)) ∧
    (∀ (τ : Type) (other : Host τ) (others : List Node) (later : τ),
      Serves other others →
      (nodes.Perm others →
        ((sized selector).run other later).1 =
          ((sized selector).run host state).1) ∧
      (∀ node few many, others.Perm (node :: nodes) →
        ((sized selector).run host state).1 = .ok few →
        ((sized selector).run other later).1 = .ok many → few ≤ many)) := by
  refine ⟨fun fits => run_sized_of_fits serves separable fits state,
    sized_of_overlong, shows_sentText separable, fun node =>
    TextMap.isSubmap_iff _ _, ?_, ?_⟩
  · rintro rfl
    have all : nodes.countP (·.carries .empty) = nodes.length :=
      List.countP_eq_length.2 fun node _ => rfl
    rw [run_sized_of_fits serves separable (by decide +kernel) state,
      replicas, all]
    rfl
  · intro τ other others later servesOthers
    by_cases fits : addressLength selector ≤ Address.longest
    · rw [run_sized_of_fits serves separable fits state,
        run_sized_of_fits servesOthers separable fits later]
      refine ⟨fun same => congrArg _ (replicas_perm same).symm, ?_⟩
      rintro node few many more ⟨rfl⟩ ⟨rfl⟩
      rw [replicas_perm more]
      refine replicasFor_mono ?_
      rw [List.countP_cons]
      exact Nat.le_add_right _ _
    · rw [sized_of_overlong (Nat.lt_of_not_le fits)]
      exact ⟨fun _ => rfl, fun _ _ _ _ failed _ => nomatch failed⟩

/-! ## Servers of labelled nodes -/

/-- A node of which only the labels are known. -/
def labelled (labels : TextMap) : Node :=
  { metadata := { labels := some labels } }

theorem ofDatum?_labelled (labels : TextMap) :
    Node.ofDatum? (Datum.ofValue (labelled labels).toValue) =
        some (labelled labels) := by
  have map : Datum.optional Datum.textMap? (Datum.ofValue (.ofTextMap labels)) =
      some (some labels) := by
    have entries := Datum.textMap?_ofValue labels
    rw [Value.ofTextMap] at entries ⊢
    rw [Datum.optional_object, entries]
    rfl
  have metadata : ObjectMeta.ofDatum?
    (Datum.ofValue (labelled labels).metadata.toValue) =
      some (labelled labels).metadata := by
    show ObjectMeta.ofDatum?
      (Datum.ofValue (.object [("labels", .ofTextMap labels)])) = _
    simp only [ObjectMeta.ofDatum?, Datum.fields?_ofValue]
    simp [Datum.Fields.optional, Datum.fieldsOf, map]
    rfl
  have given : Datum.optional ObjectMeta.ofDatum?
      (Datum.ofValue (labelled labels).metadata.toValue) =
          some (labelled labels).metadata := by
    rw [ObjectMeta.toValue, Datum.optional_object, ← ObjectMeta.toValue,
      metadata]
    rfl
  simp only [Node.toValue, field, Node.ofDatum?, Datum.fields?_ofValue]
  simp [Datum.Fields.constant, Datum.Fields.defaulted, Datum.Fields.optional,
    Datum.fieldsOf, given]

/--
A server whose nodes have these labels, and which lists the last of them first.
-/
def labelServer (cluster : List TextMap) : Host Unit where
  answer := fun _ _ request =>
    let shown := cluster.filter fun labels =>
      shows (request.address.query.lookup "labelSelector") (labelled labels)
    (.reply ⟨200, .json (.object [("items",
      .list (fun labels => (labelled labels).toValue) shown.reverse)])⟩, ())
  clock := fun _ => ⟨0⟩
  wait := fun _ _ => ()

theorem itemsOfDatum?_labelled (shown : List TextMap) :
    Client.itemsOfDatum? Node.ofDatum? (Datum.ofValue (.object [("items",
      .list (fun labels => (labelled labels).toValue) shown)])) =
          some (shown.map labelled) := by
  have items : Datum.listOf? Node.ofDatum?
      (Datum.ofValue (.list (fun labels => (labelled labels).toValue) shown)) =
        some (shown.map labelled) := by
    rw [Value.list, Datum.ofValue_array, Datum.listOf?, List.map_map,
      List.mapM_map]
    induction shown with
    | nil => rfl
    | cons first rest ih =>
        rw [List.mapM_cons, ih]
        simp only [Function.comp_apply, ofDatum?_labelled]
        rfl
  have given : Datum.optional (Datum.listOf? Node.ofDatum?)
      (Datum.ofValue (.list (fun labels => (labelled labels).toValue) shown)) =
        some (some (shown.map labelled)) := by
    rw [Value.list, Datum.ofValue_array] at items ⊢
    exact congrArg (Option.map some) items
  simp only [Client.itemsOfDatum?, Datum.fields?_ofValue]
  simp [Datum.Fields.defaulted, Datum.Fields.optional, Datum.fieldsOf, given]

theorem serves_labelServer (cluster : List TextMap) :
    Serves (labelServer cluster) (cluster.map labelled) := by
  intro state parameters
  refine ⟨((cluster.map labelled).filter
    (shows (parameters.lookup "labelSelector"))).reverse, ?_,
    List.reverse_perm _⟩
  have accepted (body : Body) : (⟨200, body⟩ : Reply).refuses = false := rfl
  rw [List.filter_map, ← List.map_reverse]
  simp only [labelServer, Answer.decode, accepted, Body.decode, Body.datum?,
    itemsOfDatum?_labelled]
  rfl

/-- A cluster with two nodes in one zone and a third one in another. -/
theorem sized_counts_suitable_zone :
    ((sized (TextMap.empty.insert "zone" "a")).run
      (labelServer [TextMap.empty.insert "zone" "a",
        TextMap.empty.insert "zone" "b",
        (TextMap.empty.insert "disk" "").insert "zone" "a"]) ()).1 = .ok 2 :=
  (sized_counts_suitable (serves_labelServer _) (by decide) ()).1
    (by decide +kernel)

/--
A selector of one label with a long value; each slash takes three bytes of an
address.
-/
def stretched (count : Nat) : TextMap :=
  TextMap.empty.insert "k" (String.ofList (List.replicate count '/'))

theorem isSeparable_stretched (count : Nat) :
    IsSeparable (stretched count) := by
  have entries : (stretched count).entries =
      [("k", String.ofList (List.replicate count '/'))] := rfl
  simp [IsSeparable, entries, List.mem_replicate]

theorem lt_addressLength_stretched (count : Nat) :
    3 * count < addressLength (stretched count) := by
  have slashes : Address.formLength (String.ofList (List.replicate count '/')) =
      3 * count := by
    induction count with
    | zero => decide +kernel
    | succ count ih =>
        have one : Address.formLength (String.ofList ['/']) = 3 := by
          decide +kernel
        rw [List.replicate_succ', String.ofList_append, formLength_append,
          ih, one]
        rfl
  have printed : selectorText (stretched count) =
      "k=" ++ String.ofList (List.replicate count '/') :=
        String.intercalate_singleton
  have added : Address.addedLength (nodesParameters (stretched count)) =
      0 + (Address.formLength "labelSelector" +
        Address.formLength (selectorText (stretched count)) + 2) := rfl
  rw [addressLength, added, printed, formLength_append, slashes]
  omega

/--
No pods are counted where the value of a label takes more than an address may.
-/
theorem sized_fails_for_stretched :
    Serves (labelServer []) [] ∧ IsSeparable (stretched 21845) ∧
      ((sized (stretched 21845)).run (labelServer []) ()).1 ≠
        .ok (if 2 ≤ ([] : List Node).countP (·.carries (stretched 21845)) then 2
            else 1) := by
  have beyond : Address.longest < addressLength (stretched 21845) :=
    Nat.lt_trans (by decide) (lt_addressLength_stretched 21845)
  refine ⟨serves_labelServer [], isSeparable_stretched 21845, ?_⟩
  rw [sized_of_overlong beyond]
  exact nofun

end HookKeeper.Sizing
