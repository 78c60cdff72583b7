import HookKeeper.Proofs.Version
import Mathlib.Logic.Function.Basic

/-!
# Stores that give versions

A store gives each document that is written a version that it never gave
before.  It refuses a write that names another version than the stored one, and
the creation of what is already there.  So a version that was once stored stands
for one document at one path for ever.  The store of the server is such a store.
-/

namespace HookKeeper

open HookKeeper.Datum
open HookKeeper.Json
open HookKeeper.Json.Value

/-! ## Stores -/

/--
What a store keeps: documents by path, and the versions that it has given so
far.
-/
structure Stock where
  documents : String → Option Document
  given : String → Prop
  versioned : ∀ path document, documents path = some document →
    ∃ version, document.value.version? = some version ∧ given version
  distinct : ∀ path other document another,
    documents path = some document → documents other = some another →
      document.value.version? = another.value.version? → path = other

namespace Stock

/-- The status that is shown at a path. -/
def report? (stock : Stock) (path : String) : Option OperatorStatus :=
  (stock.documents path).bind Document.report?

/-- A document with a new version is put at a path. -/
structure Puts
    (before : Stock)
    (path : String)
    (document : Document)
    (after : Stock) : Prop where
  fresh : ∀ version, document.value.version? = some version →
    ¬ before.given version
  documents : after.documents = Function.update before.documents path
    (some document)
  given : ∀ version, before.given version → after.given version

/-- Another party writes a document, or deletes one. -/
inductive Suffers (before after : Stock) : Prop where
  | written
      (path : String)
      (document : Document)
      (puts : before.Puts path document after)
  | deleted
      (path : String)
      (documents : after.documents = Function.update before.documents path none)
      (given : ∀ version, before.given version → after.given version)

/--
A write takes effect at a path.  What is created was not there; a replacement
and a patch do not name another version than the stored one.
-/
inductive Commits
    (before : Stock)
    (request : Request)
    (path : String)
    (after : Stock) : Prop where
  | created
      (name : String)
      (document : Document)
      (method : request.method = .post)
      (target : path = request.address.path ++ "/" ++ name)
      (absent : before.documents path = none)
      (puts : before.Puts path document after)
  | replaced
      (stored document : Document)
      (method : request.method = .put)
      (target : path = request.address.path)
      (present : before.documents path = some stored)
      (current : Store.isStale stored.value request.content = false)
      (puts : before.Puts path document after)
  | patched
      (stored document : Document)
      (method : request.method = .patch)
      (target : Path.lastSegment request.address.path = "status" ∧
        path = Path.parent request.address.path)
      (present : before.documents path = some stored)
      (current : Store.isStale stored.value request.content = false)
      (merged : ∀ status, request.content.member? "status" =
        some (.object status) →
        document.status? =
          some (mergePatch (stored.status?.getD .null) (.object status)))
      (puts : before.Puts path document after)

/--
A store serves a request.  A read shows what is stored.  A write takes effect,
and is not refused then, or leaves everything as it is: it is refused or lost,
or changes nothing.
-/
inductive Serves (before : Stock) : Exchange → Stock → Prop where
  | told
      (request : Request)
      (answer : Answer) :
      Serves before ⟨.events, request, answer⟩ before
  | read
      (request : Request)
      (answer : Answer)
      (method : request.method = .get)
      (shows : ∀ (α : Type) [ClusterObject α], ReadSingly α → ∀ object : α,
        answer.decode ClusterObject.ofDatum? = .ok object →
          ∃ path document, before.documents path = some document ∧
              document.Shows α object) :
      Serves before ⟨.objects, request, answer⟩ before
  | unwritten
      (request : Request)
      (answer : Answer)
      (writes : request.method ≠ .get) :
      Serves before ⟨.objects, request, answer⟩ before
  | committed
      (request : Request)
      (answer : Answer)
      (path : String)
      (after : Stock)
      (commits : before.Commits request path after)
      (accepted : ∀ reply, answer = .reply reply → reply.refuses = false) :
      Serves before ⟨.objects, request, answer⟩ after

end Stock

/-! ## Writes that take effect -/

namespace Stock

variable {before after : Stock} {path : String} {request : Request}
  {exchange : Exchange}

theorem Commits.puts (commits : before.Commits request path after) :
    ∃ document, before.Puts path document after := by
  cases commits with
  | created _ document _ _ _ puts => exact ⟨document, puts⟩
  | replaced _ document _ _ _ _ puts => exact ⟨document, puts⟩
  | patched _ document _ _ _ _ _ puts => exact ⟨document, puts⟩

theorem Commits.method_ne_get (commits : before.Commits request path after) :
    request.method ≠ .get := by
  cases commits with
  | created _ _ method | replaced _ _ method | patched _ _ method =>
      simp [method]

theorem Commits.elsewhere
    (commits : before.Commits request path after)
    {other : String}
    (apart : other ≠ path) :
    after.documents other = before.documents other := by
  rcases commits.puts with ⟨document, puts⟩
  rw [puts.documents, Function.update_of_ne apart]

/-- A write that takes effect leaves another document than the one it found. -/
theorem Commits.changes (commits : before.Commits request path after) :
    after.documents path ≠ before.documents path := by
  rcases commits.puts with ⟨document, puts⟩
  intro same
  rw [puts.documents, Function.update_self] at same
  rcases before.versioned path document same.symm with ⟨version, named, given⟩
  exact puts.fresh version named given

/--
A write that creates nothing takes effect only while the version that it names
is stored.
-/
theorem Commits.stored
    (commits : before.Commits request path after)
    (replaces : request.method ≠ .post)
    {version : String}
    (named : request.content.version? = some version) :
    ∃ stored, before.documents path = some stored ∧
        stored.value.version? = some version := by
  have same {stored : Document}
      (current : Store.isStale stored.value request.content = false) :
      stored.value.version? = some version := by
    rw [Store.isStale, named] at current
    simpa using current
  cases commits with
  | created _ _ method => exact absurd method replaces
  | replaced stored _ _ _ present current =>
      exact ⟨stored, present, same current⟩
  | patched stored _ _ _ present current =>
      exact ⟨stored, present, same current⟩

/--
Whatever is served, either nothing changes or a write takes effect that is not
refused.
-/
theorem Serves.outcome (serves : before.Serves exchange after) :
    after = before ∨
      ∃ path, before.Commits exchange.request path after ∧
        ∀ reply, exchange.answer = .reply reply → reply.refuses = false := by
  cases serves with
  | told | read | unwritten => exact .inl rfl
  | committed request answer path _ commits accepted =>
      exact .inr ⟨path, commits, accepted⟩

/-- Only a request about objects takes effect. -/
theorem Serves.about_objects
    (serves : before.Serves exchange after)
    (commits : before.Commits exchange.request path after) :
    exchange.channel = .objects := by
  cases serves with
  | told => exact absurd rfl commits.changes
  | read | unwritten | committed => rfl

/-- A read shows what is stored. -/
theorem Serves.shows
    (serves : before.Serves exchange after)
    {α : Type}
    [ClusterObject α]
    (kind : ReadSingly α)
    {object : α}
    (read : exchange.Shows α object) :
    ∃ path document, before.documents path = some document ∧
        document.Shows α object := by
  rcases read with ⟨about, method, decoded⟩
  cases serves with
  | told => cases about
  | read _ _ _ shows => exact shows α kind object decoded
  | unwritten _ _ writes => exact absurd method writes
  | committed _ _ _ _ commits => exact absurd method commits.method_ne_get

end Stock

/-! ## What a version stands for -/

/-- A version was given, and whatever has it is one document at one path. -/
structure Stock.Knows
    (stock : Stock)
    (path : String)
    (document : Document) : Prop where
  given : ∃ version, document.value.version? = some version ∧
    stock.given version
  unique : ∀ other another, stock.documents other = some another →
    another.value.version? = document.value.version? →
      other = path ∧ another = document

namespace Stock.Knows

variable {before after : Stock} {path : String} {document : Document}

theorem of_stored (stored : before.documents path = some document) :
    before.Knows path document := by
  refine ⟨before.versioned path document stored,
    fun other another found same => ?_⟩
  obtain rfl := before.distinct other path another document found stored same
  exact ⟨rfl, Option.some.inj (found.symm.trans stored)⟩

/--
What a version stands for stays the same while documents come with new versions
only.
-/
theorem step
    (knows : before.Knows path document)
    (given : ∀ version, before.given version → after.given version)
    (kept : ∀ other another, after.documents other = some another →
        before.documents other = some another ∨
        ∀ version, another.value.version? = some version →
        ¬ before.given version) :
    after.Knows path document := by
  rcases knows with ⟨⟨version, named, known⟩, unique⟩
  refine ⟨⟨version, named, given version known⟩,
    fun other another found same => ?_⟩
  rcases kept other another found with old | new
  · exact unique other another old same
  · exact absurd known (new version (same.trans named))

theorem puts
    (knows : before.Knows path document)
    {other : String}
    {written : Document}
    (puts : before.Puts other written after) : after.Knows path document := by
  refine knows.step puts.given fun place another found => ?_
  rw [puts.documents, Function.update_apply] at found
  split at found
  · cases found
    exact .inr puts.fresh
  · exact .inl found

theorem suffers
    (knows : before.Knows path document)
    (suffers : before.Suffers after) : after.Knows path document := by
  cases suffers with
  | written other written puts => exact knows.puts puts
  | deleted other documents given =>
      refine knows.step given fun place another found => ?_
      rw [documents, Function.update_apply] at found
      split at found
      · cases found
      · exact .inl found

theorem serves
    (knows : before.Knows path document)
    {exchange : Exchange}
    (serves : before.Serves exchange after) : after.Knows path document := by
  rcases serves.outcome with rfl | ⟨other, commits, _⟩
  · exact knows
  · rcases commits.puts with ⟨written, puts⟩
    exact knows.puts puts

end Stock.Knows

/-! ## The store of the server -/

/-- The document that a value is: an object with its members in order. -/
def Json.Value.document? : Value → Option Document
  | .object members =>
      if canonical : (Value.object members).sorted = .object members then
        some ⟨members, canonical⟩
      else none
  | _ => none

theorem Json.Value.document?_eq_some_iff
    {value : Value}
    {document : Document} :
    value.document? = some document ↔ value = document.value := by
  constructor
  · intro found
    cases value with
    | object members =>
        rw [document?] at found
        split at found
        · cases found
          rfl
        · cases found
    | _ => cases found
  · rintro rfl
    rw [Document.value, document?, dif_pos document.canonical]

namespace Store

/--
The objects of a store are documents with versions that it gave, all of them
different.
-/
structure Orderly (store : Store) : Prop where
  document : ∀ path value, store.find? path = some value →
    ∃ document : Document, value = document.value
  versioned : ∀ path value, store.find? path = some value →
    ∃ number ≤ store.revision,
      value.version? = some (Text.Digits.natText number)
  distinct : ∀ path other value another,
    store.find? path = some value → store.find? other = some another →
      value.version? = another.version? → path = other

theorem find?_of_document
    {store : Store}
    {path : String}
    {document : Document} :
    (store.find? path).bind Value.document? = some document ↔
      store.find? path = some document.value := by
  constructor
  · intro found
    rcases Option.bind_eq_some_iff.1 found with ⟨value, here, is⟩
    rw [here, document?_eq_some_iff.1 is]
  · intro found
    rw [found, Option.bind_some, document?_eq_some_iff]

/-- What the store of the server keeps. -/
def stock (store : Store) (orderly : store.Orderly) : Stock where
  documents path := (store.find? path).bind Value.document?
  given version := ∃ number ≤ store.revision,
    version = Text.Digits.natText number
  versioned path document found := by
    rcases orderly.versioned path _ (find?_of_document.1 found) with
      ⟨number, least, named⟩
    exact ⟨_, named, number, least, rfl⟩
  distinct path other document another found stored same :=
    orderly.distinct path other _ _ (find?_of_document.1 found)
      (find?_of_document.1 stored) same

theorem report?_stock
    (store : Store)
    (orderly : store.Orderly)
    (path : String) :
    (store.stock orderly).report? path =
      ((store.find? path).bind Value.document?).bind Document.report? := rfl

end Store

/-! ## Members that are set -/

namespace Json.Value

variable {object other : Value}

theorem member?_withMember
    (object : Value)
    (key name : String)
    (value : Value) :
    (object.withMember key value).member? name =
      if name = key then some value else object.member? name := by
  rw [withMember, member?, lookup_insertMember, member?_eq]

theorem sorted_withMember
    (sorted : object.sorted = object)
    (key : String)
    {value : Value}
    (plain : value.sorted = value) :
    (object.withMember key value).sorted = object.withMember key value :=
  ((canonical_members sorted).insertMember key plain).sorted

theorem sorted_member?
    (sorted : object.sorted = object)
    (key : String) :
    ((object.member? key).getD .null).sorted =
        (object.member? key).getD .null := by
  refine sorted_getD fun given found => ?_
  rw [member?_eq] at found
  exact (canonical_members sorted).lookup found

theorem sorted_withMetadata
    (sorted : object.sorted = object)
    (key : String)
    {value : Value}
    (plain : value.sorted = value) :
    (object.withMetadata key value).sorted = object.withMetadata key value :=
  sorted_withMember sorted "metadata"
    (sorted_withMember (sorted_member? sorted _) key plain)

theorem sorted_withStatusOf
    (sorted : object.sorted = object)
    (ordered : other.sorted = other) :
    (object.withStatusOf other).sorted = object.withStatusOf other := by
  rw [withStatusOf]
  split
  next status found =>
    rw [member?_eq] at found
    exact sorted_withMember sorted "status"
      ((canonical_members ordered).lookup found)
  next => exact ((canonical_members sorted).eraseMember "status").sorted

end Json.Value

namespace Store

variable {store : Store}

theorem version?_stamped
    (store : Store)
    (object : Value) :
    (store.stamped object).version? =
        some (Text.Digits.natText (store.revision + 1)) := by
  rw [stamped, version?, metadataMember?, withMetadata, member?_withMember,
    if_pos rfl, Option.getD_some, member?_withMember, if_pos rfl]
  rfl

theorem Orderly.write
    (orderly : store.Orderly)
    (path : String)
    {object : Value}
    (sorted : object.sorted = object) : (store.write path object).Orderly := by
  have stampedSorted : (store.stamped object).sorted = store.stamped object :=
    sorted_withMetadata sorted _ (by simp [Value.sorted])
  have apart {other : String} {value : Value}
      (found : store.find? other = some value) :
      value.version? ≠ (store.stamped object).version? := by
    rcases orderly.versioned other value found with ⟨number, least, named⟩
    rw [named, version?_stamped]
    intro same
    have equal := Text.Digits.natText_inj.1 (Option.some.inj same)
    omega
  constructor
  case document =>
    intro other value found
    rw [find?_write] at found
    split at found
    · cases found
      exact ⟨⟨_, stampedSorted⟩, rfl⟩
    · exact orderly.document other value found
  case versioned =>
    intro other value found
    rw [find?_write] at found
    split at found
    · cases found
      exact ⟨store.revision + 1, Nat.le_refl _, version?_stamped store object⟩
    · rcases orderly.versioned other value found with ⟨number, least, named⟩
      exact ⟨number, Nat.le_succ_of_le least, named⟩
  case distinct =>
    intro first second value another found stored same
    rw [find?_write] at found stored
    -- Only the written path has the new version; apart from it all is as
    -- before.
    split at found <;> split at stored
    next here there => exact here.trans there.symm
    next =>
      cases found
      exact absurd same.symm (apart stored)
    next =>
      cases stored
      exact absurd same (apart found)
    next => exact orderly.distinct first second value another found stored same

/--
A write puts the object at its path, with a new version and otherwise as it is.
-/
theorem puts_write
    (orderly : store.Orderly)
    (path : String)
    {object : Value}
    (sorted : object.sorted = object) :
    ∃ document : Document,
      document.status? = object.member? "status" ∧
        (store.stock orderly).Puts path document
          ((store.write path object).stock (orderly.write path sorted)) := by
  have stampedSorted : (store.stamped object).sorted = store.stamped object :=
    sorted_withMetadata sorted _ (by simp [Value.sorted])
  refine ⟨⟨_, stampedSorted⟩, ?_, ?_⟩
  · show (store.stamped object).member? "status" = _
    rw [stamped, withMetadata, member?_withMember, if_neg (by decide)]
  constructor
  case fresh =>
    rintro version named ⟨number, least, rfl⟩
    have new : (store.stamped object).version? =
      some (Text.Digits.natText number) := named
    rw [version?_stamped] at new
    have equal := Text.Digits.natText_inj.1 (Option.some.inj new)
    omega
  case documents =>
    funext other
    rw [Function.update_apply]
    show ((store.write path object).find? other).bind _ = _
    rw [find?_write]
    split
    · rw [Option.bind_some, document?_eq_some_iff]
      rfl
    · rfl
  case given =>
    rintro version ⟨number, least, rfl⟩
    exact ⟨number, Nat.le_succ_of_le least, rfl⟩

/--
The reply to a request, with the store after it, is one of a store that gives
versions.
-/
def Answers
    (orderly : store.Orderly)
    (request : Request)
    (served : Reply × Store) : Prop :=
  ∃ left : served.2.Orderly,
    (store.stock orderly).Serves ⟨.objects, request, .reply served.1⟩
      (served.2.stock left)

theorem answers_unwritten
    (orderly : store.Orderly)
    {request : Request}
    (writes : request.method ≠ .get)
    (reply : Reply) :
    store.Answers orderly request (reply, store) :=
  ⟨orderly, .unwritten request _ writes⟩

theorem answers_accept
    (orderly : store.Orderly)
    {request : Request}
    {code : Nat}
    (accepted : code < 400)
    {path : String}
    {object : Value}
    (sorted : object.sorted = object)
    (commits : ∀ document after, document.status? = object.member? "status" →
        (store.stock orderly).Puts path document after →
        (store.stock orderly).Commits request path after) :
    store.Answers orderly request (store.accept code path object) := by
  rcases puts_write orderly path sorted with ⟨document, status, puts⟩
  refine ⟨orderly.write path sorted, ?_⟩
  refine .committed request _ path _ (commits document _ status puts)
    fun reply same => ?_
  cases same
  have small : ¬ 400 ≤ code := Nat.not_le.2 accepted
  show (decide (400 ≤ code) && decide (code ≤ 599)) = false
  simp [small]

theorem answers_post
    (orderly : store.Orderly)
    {request : Request}
    (posts : request.method = .post) :
    store.Answers orderly request
        (store.post request.address.path request.content) := by
  rw [post]
  split
  next => exact answers_unwritten orderly (by simp [posts]) _
  next absent =>
    refine answers_accept orderly (by decide)
      (sorted_withMetadata (sorted_sorted _) _
        (by simp [Value.int, Value.sorted]))
      fun document after _ puts => ?_
    exact .created _ document posts rfl
      (by show (store.find? _).bind _ = _; rw [absent]; rfl) puts

theorem answers_put
    (orderly : store.Orderly)
    {request : Request}
    (puts : request.method = .put) :
    store.Answers orderly request
        (store.put request.address.path request.content) := by
  rw [put]
  split
  next => exact answers_unwritten orderly (by simp [puts]) _
  next value found =>
    rcases orderly.document _ value found with ⟨stored, rfl⟩
    split
    · exact answers_unwritten orderly (by simp [puts]) _
    next current =>
      refine answers_accept orderly
        (by decide) ?_ fun document after _ written => ?_
      · exact sorted_withMetadata
          (sorted_withStatusOf (sorted_sorted _) stored.canonical) _
          (by simp [Value.int, Value.sorted])
      · exact .replaced stored document puts rfl (find?_of_document.2 found)
          (Bool.eq_false_iff.2 current) written

theorem answers_patch
    (orderly : store.Orderly)
    {request : Request}
    (patches : request.method = .patch) :
    store.Answers orderly request
        (store.patch request.address.path request.content) := by
  rw [patch]
  split
  next last =>
    split
    next => exact answers_unwritten orderly (by simp [patches]) _
    next value found =>
      rcases orderly.document _ value found with ⟨stored, rfl⟩
      split
      · exact answers_unwritten orderly (by simp [patches]) _
      next current =>
        have single (status : Value) : lookup "status" [("status", status)] =
          some status := rfl
        refine answers_accept orderly
          (by decide) ?_ fun document after status puts => ?_
        -- Of the body only the status is merged into what is stored.
        · have change : Canonical
              [("status", (request.content.member? "status").getD .null)] :=
            canonical_nil.insertMember "status"
              (sorted_member? (sorted_sorted _) "status")
          exact sorted_mergePatch (canonical_members stored.canonical) _
            change.sorted
        · refine .patched stored document patches ⟨last, rfl⟩
            (find?_of_document.2 found) (Bool.eq_false_iff.2 current)
            (fun change given => ?_) puts
          rw [status, given, Option.getD_some, mergePatch_object, member?,
            lookup_mergeMembers (by simp), single, patched_some (by simp)]
          rfl
  next => exact answers_unwritten orderly (by simp [patches]) _

/-- A list is read as no single object. -/
theorem ofDatum?_listing
    (store : Store)
    (path : String)
    {α : Type}
    [ClusterObject α]
    (kind : ReadSingly α) :
    (ClusterObject.ofDatum? (ofValue (store.listing path)) : Option α) =
        none := by
  cases kind with
  | operator =>
      show OperatorResource.ofDatum? (ofValue (.object _)) = none
      rw [OperatorResource.ofDatum?_object (by simp)]
      simp [lookup, List.lookup_cons]
  | deployment =>
      show Deployment.ofDatum? (ofValue (.object _)) = none
      rw [Deployment.ofDatum?, fields?_ofValue]
      simp [fieldsOf, Fields.constant]
  | registration =>
      show Registration.ofDatum? (ofValue (.object _)) = none
      rw [Registration.ofDatum?, fields?_ofValue]
      simp [fieldsOf, Fields.constant]

theorem answers_get
    (orderly : store.Orderly)
    {request : Request}
    (reads : request.method = .get) :
    store.Answers orderly request (store.get request.address.path, store) := by
  refine ⟨orderly, .read request _ reads fun α _ kind object decoded => ?_⟩
  rw [get] at decoded
  split at decoded
  · have read := Answer.reflects_json _ _ _ object decoded
    rw [ofDatum?_listing store _ kind] at read
    cases read
  · split at decoded
    next value found =>
      rcases orderly.document _ value found with ⟨stored, rfl⟩
      exact ⟨_, stored, find?_of_document.2 found,
        Answer.reflects_json _ _ _ object decoded⟩
    next => cases decoded

/--
The store of the server serves requests about objects as a store that gives
versions.
-/
theorem answers_handle
    (orderly : store.Orderly)
    (request : Request)
    (objects : Path.isEvent request.address.path = false) :
    store.Answers orderly request (store.handle request) := by
  rw [handle, objects, if_neg (by decide)]
  cases method : request.method with
  | get => exact answers_get orderly method
  | post => exact answers_post orderly method
  | put => exact answers_put orderly method
  | patch => exact answers_patch orderly method

end Store

end HookKeeper
