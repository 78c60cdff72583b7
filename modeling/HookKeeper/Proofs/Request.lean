import HookKeeper.Api.Request
import HookKeeper.Cluster.Object

/-!
# Requests that were built

A request that can be built has the method and the body of its kind, and its
path begins as its collection does, so requests about objects of other kinds
never go to the operator resource.
-/

namespace HookKeeper.Request

open HookKeeper.Json

theorem ok_of_bind
    {ε α β : Type}
    {first : Except ε α}
    {next : α → Except ε β}
    {value : β}
    (equal : first >>= next = .ok value) :
    ∃ given, first = .ok given ∧ next given = .ok value := by
  cases first with
  | error error => cases equal
  | ok given => exact ⟨given, rfl, equal⟩

theorem of_read
    {collection name : String}
    {request : Request}
    (built : read collection name = .ok request) :
    request.method = .get ∧ request.body = none := by
  rcases ok_of_bind built with ⟨target, _, built⟩
  rcases ok_of_bind built with ⟨address, _, built⟩
  cases built
  exact ⟨rfl, rfl⟩

theorem of_list
    {collection : String}
    {parameters : List (String × String)}
    {request : Request}
    (built : list collection parameters = .ok request) :
    request.method = .get ∧ request.body = none := by
  rcases ok_of_bind built with ⟨address, _, built⟩
  cases built
  exact ⟨rfl, rfl⟩

theorem of_create
    {collection : String}
    {parameters : List (String × String)}
    {object : Value}
    {request : Request}
    (built : create collection parameters object = .ok request) :
    request.method = .post ∧ request.body = some object := by
  rcases ok_of_bind built with ⟨address, _, built⟩
  cases built
  exact ⟨rfl, rfl⟩

theorem of_replace
    {collection name : String}
    {object : Value}
    {request : Request}
    (built : replace collection name object = .ok request) :
    request.method = .put ∧ request.body = some object := by
  rcases ok_of_bind built with ⟨target, _, built⟩
  rcases ok_of_bind built with ⟨address, _, built⟩
  cases built
  exact ⟨rfl, rfl⟩

theorem of_patchStatus
    {collection name : String}
    {change : Value}
    {request : Request}
    (built : patchStatus collection name change = .ok request) :
    request.method = .patch ∧ request.body = some change := by
  rcases ok_of_bind built with ⟨target, _, built⟩
  rcases ok_of_bind built with ⟨address, _, built⟩
  cases built
  exact ⟨rfl, rfl⟩

/-! ## Addresses -/

/--
Characters that pass a test are taken with what is before them, or not at all.
-/
theorem takeWhile_append
    {test : Char → Bool}
    {suffix : List Char}
    (passes : ∀ character ∈ suffix, test character = true)
    (characters : List Char) :
    ∃ rest, (rest = [] ∨ rest = suffix) ∧
      (characters ++ suffix).takeWhile test = characters.takeWhile test ++
          rest := by
  induction characters with
  | nil =>
      have whole : (suffix ++ []).takeWhile test =
          suffix ++ [].takeWhile test :=
        List.takeWhile_append_of_pos passes
      exact ⟨suffix, Or.inr rfl, by simpa using whole⟩
  | cons first others ih =>
      rcases ih with ⟨rest, kind, equal⟩
      cases taken : test first with
      | true => exact ⟨rest, kind, by simp [taken, equal]⟩
      | false => exact ⟨[], Or.inl rfl, by simp [taken]⟩

/-- Characters that pass a test are kept only after one that does not. -/
theorem dropWhile_append
    {test : Char → Bool}
    {suffix : List Char}
    (passes : ∀ character ∈ suffix, test character = true)
    (characters : List Char) :
    (characters ++ suffix).dropWhile test = [] ∨
      (characters.dropWhile test ≠ [] ∧
        (characters ++ suffix).dropWhile test = characters.dropWhile test ++
            suffix) := by
  induction characters with
  | nil =>
      have whole : (suffix ++ []).dropWhile test = [].dropWhile test :=
        List.dropWhile_append_of_pos passes
      exact Or.inl (by simpa using whole)
  | cons first others ih =>
      cases dropped : test first with
      | true => simpa [dropped] using ih
      | false => exact Or.inr (by simp [dropped])

/-- Whether an address may contain the characters of a target. -/
def Admits (characters : List Char) : Prop :=
  let shown := characters.takeWhile (· != '#')
  (shown.takeWhile (· != '?')).all Address.isPathChar = true ∧
    ((shown.dropWhile (· != '?')).drop 1).all Address.isQueryChar = true

/--
Characters that may stand anywhere in an address may follow those of a target.
-/
theorem Admits.append
    {characters suffix : List Char}
    (admits : Admits characters)
    (shown : suffix.all (· != '#') = true)
    (unmarked : suffix.all (· != '?') = true)
    (path : suffix.all Address.isPathChar = true)
    (query : suffix.all Address.isQueryChar = true) :
    Admits (characters ++ suffix) := by
  rcases admits with ⟨pathAdmits, queryAdmits⟩
  rcases takeWhile_append (List.all_eq_true.1 shown) characters with
    ⟨rest, kind, equal⟩
  have restUnmarked : ∀ character ∈ rest, (character != '?') = true := by
    rcases kind with rfl | rfl
    · exact List.forall_mem_nil _
    · exact List.all_eq_true.1 unmarked
  have restPath : rest.all Address.isPathChar = true := by
    rcases kind with rfl | rfl
    · rfl
    · exact path
  have restQuery : rest.all Address.isQueryChar = true := by
    rcases kind with rfl | rfl
    · rfl
    · exact query
  constructor
  · rw [equal]
    rcases takeWhile_append restUnmarked (characters.takeWhile (· != '#')) with
      ⟨taken, takenKind, takenEqual⟩
    rw [takenEqual, List.all_append, pathAdmits]
    rcases takenKind with rfl | rfl
    · rfl
    · exact restPath
  · rw [equal]
    rcases dropWhile_append restUnmarked (characters.takeWhile (· != '#')) with
      none | ⟨some, dropEqual⟩
    · rw [none]
      rfl
    · rw [dropEqual, List.drop_append_of_le_length (List.length_pos_iff.2 some),
        List.all_append, queryAdmits, restQuery]
      rfl

/--
The longer target of the status of an object has an address, or is too long for
one.
-/
theorem status_address
    {target : String}
    {address : Address}
    (built : Address.ofTarget target none = .ok address) :
    (∃ longer, Address.ofTarget (target ++ "/status") (some []) = .ok longer) ∨
      (Address.ofTarget (target ++ "/status") (some []) = .error .tooLong ∧
        Address.longest < target.utf8ByteSize + 8) := by
  have bytes : (target ++ "/status").utf8ByteSize = target.utf8ByteSize +
      7 := by
    rw [String.utf8ByteSize_append]
    rfl
  have admits : Admits target.toList := by
    unfold Address.ofTarget at built
    dsimp only at built
    split at built
    · cases built
    · split at built
      next => cases built
      next valid => simpa [Admits] using valid
  have longer : Admits (target ++ "/status").toList := by
    rw [String.toList_append]
    exact admits.append (by decide) (by decide) (by decide) (by decide)
  unfold Address.ofTarget
  dsimp only
  rw [bytes]
  split
  next tooLong =>
    refine Or.inr ⟨rfl, ?_⟩
    exact tooLong
  next =>
    split
    next invalid =>
        rcases longer with ⟨path, query⟩
        rw [path, query] at invalid
        cases invalid
    next => exact Or.inl ⟨_, rfl⟩

theorem patchStatus_of_read
    {collection name : String}
    {request : Request}
    (built : read collection name = .ok request)
    (change : Value) :
    (∃ patch, patchStatus collection name change = .ok patch) ∨
      (patchStatus collection name change = .error .tooLong ∧
        Address.longest < (collection ++ "/" ++ name).utf8ByteSize + 8) := by
  rcases ok_of_bind built with ⟨target, named, built⟩
  rcases ok_of_bind built with ⟨address, addressed, _⟩
  have equal : target = collection ++ "/" ++ name := by
    unfold Request.target at named
    split at named
    · cases named
    · exact (Except.ok.inj named).symm
  unfold patchStatus
  rw [named]
  subst equal
  rcases status_address addressed with ⟨longer, given⟩ | ⟨tooLong, bytes⟩
  · refine Or.inl ⟨⟨.patch, longer, some change⟩, ?_⟩
    show Address.ofTarget _ _ >>= _ = _
    rw [given]
    rfl
  · refine Or.inr ⟨?_, bytes⟩
    show Address.ofTarget _ _ >>= _ = _
    rw [tooLong]
    rfl

/-- The path of an address begins as its target does, up to a mark. -/
theorem path_begins
    {target : String}
    {added : Option (List (String × String))}
    {address : Address}
    (built : Address.ofTarget target added = .ok address)
    {start : List Char}
    (begins : start <+: target.toList)
    (plain : start.all fun c => c != '#' && c != '?') :
    start <+: address.path.toList := by
  have shown : ∀ character ∈ start, (character != '#') = true :=
    fun character member =>
    (Bool.and_eq_true_iff.1 (List.all_eq_true.1 plain character member)).1
  have unmarked : ∀ character ∈ start, (character != '?') = true :=
    fun character member =>
    (Bool.and_eq_true_iff.1 (List.all_eq_true.1 plain character member)).2
  rcases begins with ⟨rest, whole⟩
  unfold Address.ofTarget at built
  dsimp only at built
  split at built
  · cases built
  · split at built
    · cases built
    · cases built
      rw [← whole, List.takeWhile_append_of_pos shown,
        List.takeWhile_append_of_pos unmarked, String.toList_ofList]
      exact List.prefix_append _ _

/-- The target of an object begins as its collection does. -/
theorem target_begins
    {collection name whole : String}
    (named : target collection name = .ok whole)
    {start : List Char}
    (begins : start <+: collection.toList) : start <+: whole.toList := by
  unfold target at named
  split at named
  · cases named
  · cases named
    refine begins.trans ?_
    rw [String.toList_append, String.toList_append, List.append_assoc]
    exact List.prefix_append _ _

theorem create_begins
    {collection : String}
    {parameters : List (String × String)}
    {object : Value}
    {request : Request}
    (built : create collection parameters object = .ok request)
    {start : List Char}
    (begins : start <+: collection.toList)
    (plain : start.all fun c => c != '#' && c != '?') :
    start <+: request.address.path.toList := by
  rcases ok_of_bind built with ⟨address, addressed, built⟩
  cases built
  exact path_begins addressed begins plain

theorem replace_begins
    {collection name : String}
    {object : Value}
    {request : Request}
    (built : replace collection name object = .ok request)
    {start : List Char}
    (begins : start <+: collection.toList)
    (plain : start.all fun c => c != '#' && c != '?') :
    start <+: request.address.path.toList := by
  rcases ok_of_bind built with ⟨target, named, built⟩
  rcases ok_of_bind built with ⟨address, addressed, built⟩
  cases built
  exact path_begins addressed (target_begins named begins) plain

theorem read_begins
    {collection name : String}
    {request : Request}
    (built : read collection name = .ok request)
    {start : List Char}
    (begins : start <+: collection.toList)
    (plain : start.all fun c => c != '#' && c != '?') :
    start <+: request.address.path.toList := by
  rcases ok_of_bind built with ⟨target, named, built⟩
  rcases ok_of_bind built with ⟨address, addressed, built⟩
  cases built
  exact path_begins addressed (target_begins named begins) plain

theorem list_begins
    {collection : String}
    {parameters : List (String × String)}
    {request : Request}
    (built : list collection parameters = .ok request)
    {start : List Char}
    (begins : start <+: collection.toList)
    (plain : start.all fun c => c != '#' && c != '?') :
    start <+: request.address.path.toList := by
  rcases ok_of_bind built with ⟨address, addressed, built⟩
  cases built
  exact path_begins addressed begins plain

/-! ## Objects of other kinds -/

/-- A request goes to the operator resource, or to what lies under it. -/
def IsAboutOperator (request : Request) : Prop :=
  (ClusterObject.collection OperatorResource "").toList <+:
    request.address.path.toList

/--
A collection parts from that of the operator resource before any name can
follow.
-/
def IsForeign (collection : String) : Prop :=
  ∃ start : List Char, start <+: collection.toList ∧
    (start.all fun c => c != '#' && c != '?') = true ∧
      ¬ start <+: (ClusterObject.collection OperatorResource "").toList ∧
        ¬ (ClusterObject.collection OperatorResource "").toList <+: start

theorem isForeign_deployments (namespaceName : String) :
    IsForeign (ClusterObject.collection Deployment namespaceName) := by
  refine ⟨"/apis/apps/v1/namespaces/".toList, ?_, by decide, by decide,
    by decide⟩
  simp only [ClusterObject.collection, String.toList_append, List.append_assoc]
  exact List.prefix_append _ _

theorem isForeign_registrations (namespaceName : String) :
    IsForeign (ClusterObject.collection Registration namespaceName) :=
  ⟨"/apis/admissionregistration.k8s.io/v1/validatingwebhookconfigurations".toList,
    List.prefix_rfl, by decide, by decide, by decide⟩

theorem isForeign_nodes (namespaceName : String) :
    IsForeign (ClusterObject.collection Node namespaceName) :=
  ⟨"/api/v1/nodes".toList, List.prefix_rfl, by decide, by decide, by decide⟩

/-- A path that begins as a foreign collection leads to no operator resource. -/
theorem IsForeign.not_prefix
    {collection : String}
    (foreign : IsForeign collection)
    {path : List Char}
    (begins : ∀ start : List Char, start <+: collection.toList →
        (start.all fun c => c != '#' && c != '?') = true → start <+: path) :
    ¬ (ClusterObject.collection OperatorResource "").toList <+: path := by
  rcases foreign with ⟨start, within, plain, apart, otherwise⟩
  intro about
  rcases List.prefix_or_prefix_of_prefix (begins start within plain) about with
    shorter | longer
  · exact apart shorter
  · exact otherwise longer

theorem IsForeign.not_isAboutOperator
    {collection : String}
    (foreign : IsForeign collection)
    {request : Request}
    (begins : ∀ start : List Char, start <+: collection.toList →
        (start.all fun c => c != '#' && c != '?') = true →
        start <+: request.address.path.toList) :
    ¬ request.IsAboutOperator :=
  foreign.not_prefix begins

end HookKeeper.Request
