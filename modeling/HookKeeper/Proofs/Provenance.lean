import HookKeeper.Proofs.Account
import HookKeeper.Proofs.Version

/-!
# Where the writes of a call come from

An instance of the operator makes calls: a cycle, a change of the status, or an
apply of an object.  Whatever is answered, each write of a call is made from an
object that the same call has read before, by an edit or a merge that is its
own, and a write that is refused ends the call with a failure that says which
write it was.
-/

namespace HookKeeper

open HookKeeper.Json
open HookKeeper.Manifest

/-- A call of an instance of the operator. -/
inductive Task where
  | sync (settings : Settings) (templates : Templates)
  | updateStatus
      (name : String)
      (edit : String → OperatorStatus → OperatorStatus)
  | applyDeployment (wanted : Deployment) (recorded : Option Int64)
  | applyRegistration (wanted : Registration) (recorded : Option Int64)

namespace Task

/-- What a call does, whatever it gives in the end. -/
def step : Task → Step Unit
  | .sync settings templates => do let _ ← Step.sync settings templates
  | .updateStatus name edit =>
      do let _ ← Step.ofProgram (HookKeeper.updateStatus name edit)
  | .applyDeployment wanted recorded =>
      do let _ ← Step.applyDeployment wanted recorded
  | .applyRegistration wanted recorded =>
      do let _ ← Step.applyRegistration wanted recorded

/-! ## What a call is out to write -/

/--
The edits that a call makes of the status of the operator resource of a name.
-/
inductive Edits :
    Task → String → (String → OperatorStatus → OperatorStatus) → Prop where
  | sync
      (settings : Settings)
      (templates : Templates)
      (deployment : Deployment)
      (registration : Registration) :
      Edits (.sync settings templates) settings.operatorName
        (statusAfter deployment registration)
  | updateStatus
      (name : String)
      (edit : String → OperatorStatus → OperatorStatus) :
      Edits (.updateStatus name edit) name edit

/--
The objects that a call applies, with their namespaces and the ways to merge
them.
-/
inductive Applies :
    Task → (α : Type) → [ClusterObject α] → String → (α → α → α) → α →
        Prop where
  | deployment
      (wanted : Deployment)
      (recorded : Option Int64) :
      Applies (.applyDeployment wanted recorded) Deployment
        (wanted.metadata.namespaceName.getD "") Deployment.merged wanted.stamped
  | registration
      (wanted : Registration)
      (recorded : Option Int64) :
      Applies (.applyRegistration wanted recorded) Registration ""
        Registration.merged wanted
  | syncDeployment
      (settings : Settings)
      (templates : Templates)
      (wanted : Deployment) :
      Applies (.sync settings templates) Deployment
        (wanted.metadata.namespaceName.getD "") Deployment.merged wanted.stamped
  | syncRegistration
      (settings : Settings)
      (templates : Templates)
      (wanted : Registration) :
      Applies (.sync settings templates) Registration ""
        Registration.merged wanted

section Applies

variable {task : Task} {α : Type} [ClusterObject α] {namespaceName : String}
  {merge : α → α → α} {wanted : α}

theorem Applies.readSingly
    (applies : task.Applies α namespaceName merge wanted) : ReadSingly α := by
  cases applies with
  | deployment | syncDeployment => exact .deployment
  | registration | syncRegistration => exact .registration

theorem Applies.isForeign
    (applies : task.Applies α namespaceName merge wanted) :
    Request.IsForeign (ClusterObject.collection α namespaceName) := by
  cases applies with
  | deployment | syncDeployment => exact Request.isForeign_deployments _
  | registration | syncRegistration => exact Request.isForeign_registrations _

/-- A merge keeps the version of the live object. -/
theorem Applies.version_merge
    (applies : task.Applies α namespaceName merge wanted)
    (live : α) :
    (ClusterObject.metadata (merge live wanted)).resourceVersion =
      (ClusterObject.metadata live).resourceVersion := by
  cases applies <;> rfl

end Applies

/-- A write of a call, made from an object that is shown. -/
inductive Makes
    (task : Task)
    (Shown : (α : Type) → [ClusterObject α] → α → Prop) : Request → Prop where
  | status
      (name : String)
      (edit : String → OperatorStatus → OperatorStatus)
      (operator : OperatorResource)
      (now : String)
      (request : Request)
      (edits : task.Edits name edit)
      (shown : Shown OperatorResource operator)
      (built : Request.patchStatus
        (ClusterObject.collection OperatorResource "") name
        (operator.statusPatch (edit now (operator.status.getD {}))) =
        .ok request) :
      Makes task Shown request
  | replacement
      (α : Type)
      [ClusterObject α]
      (namespaceName : String)
      (merge : α → α → α)
      (wanted live : α)
      (request : Request)
      (applies : task.Applies α namespaceName merge wanted)
      (shown : Shown α live)
      (built : Request.replace (ClusterObject.collection α namespaceName)
        (ClusterObject.metadata wanted).anyName
          (ClusterObject.toValue (merge live wanted)) =
          .ok request) :
      Makes task Shown request
  | creation
      (α : Type)
      [ClusterObject α]
      (namespaceName : String)
      (merge : α → α → α)
      (wanted : α)
      (request : Request)
      (applies : task.Applies α namespaceName merge wanted)
      (built :
        Request.create (ClusterObject.collection α namespaceName) Request.author
        (ClusterObject.toValue wanted) = .ok request) :
      Makes task Shown request

/--
A write that creates nothing names the version of the object that it is made
from.
-/
theorem Makes.source
    {task : Task}
    {Shown : (α : Type) → [ClusterObject α] → α → Prop}
    {request : Request}
    (makes : task.Makes Shown request)
    (replaces : request.method ≠ .post) :
    ∃ (α : Type) (_ : ClusterObject α) (object : α),
      ReadSingly α ∧ Shown α object ∧
        request.content.version? =
          (ClusterObject.metadata object).resourceVersion ∧
          ∀ Other : (α : Type) → [ClusterObject α] → α → Prop,
            Other α object → task.Makes Other request := by
  cases makes with
  | status name edit operator now request edits shown built =>
      refine ⟨OperatorResource, inferInstance, operator, .operator, shown, ?_,
        fun _ another =>
          .status name edit operator now request edits another built⟩
      rw [Request.content_of_body (Request.of_patchStatus built).2]
      exact operator.version_statusPatch _
  | replacement α namespaceName merge wanted live request applies shown built =>
      refine ⟨α, inferInstance, live, applies.readSingly, shown, ?_,
          fun _ another =>
        .replacement α namespaceName merge wanted live request applies
          another built⟩
      rw [Request.content_of_body (Request.of_replace built).2]
      exact (version_body applies.readSingly _).trans
        (applies.version_merge live)
  | creation α namespaceName merge wanted request applies built =>
      exact absurd (Request.of_create built).1 replaces

/-- How a call fails of a write of some method. -/
inductive FailsBy
    (task : Task)
    (cause : ApiError) : Method → OperatorError → Prop where
  | status
      (name : String)
      (edit : String → OperatorStatus → OperatorStatus)
      (edits : task.Edits name edit) :
      FailsBy task cause .patch (.statusUpdate (.notWritten name cause))
  | replacement
      (α : Type)
      [ClusterObject α]
      (namespaceName : String)
      (merge : α → α → α)
      (wanted : α)
      (applies : task.Applies α namespaceName merge wanted) :
      FailsBy task cause .put
        (.apply (ClusterObject.kind α) (ClusterObject.metadata wanted).anyName
          cause)
  | creation
      (α : Type)
      [ClusterObject α]
      (namespaceName : String)
      (merge : α → α → α)
      (wanted : α)
      (applies : task.Applies α namespaceName merge wanted) :
      FailsBy task cause .post
        (.apply (ClusterObject.kind α) (ClusterObject.metadata wanted).anyName
          cause)

end Task

/-! ## Provenance -/

/-- An object was read in one of some exchanges. -/
def ShownIn
    (exchanges : List Exchange)
    (α : Type)
    [ClusterObject α]
    (object : α) : Prop :=
  ∃ exchange ∈ exchanges, exchange.Shows α object

theorem ShownIn.later
    {exchanges : List Exchange}
    {α : Type}
    [ClusterObject α]
    {object : α}
    (shown : ShownIn exchanges α object)
    (earlier : List Exchange) : ShownIn (earlier ++ exchanges) α object := by
  rcases shown with ⟨exchange, member, shows⟩
  exact ⟨exchange, List.mem_append_right _ member, shows⟩

/-- A reply that refuses is read as its refusal. -/
theorem Reply.decode_of_refuses
    {reply : Reply}
    (refuses : reply.refuses = true)
    (read : Datum → Option α) :
    (Answer.reply reply).decode read = .error (.refused reply.refusal) := by
  rw [Answer.decode, if_pos refuses]

/-- The failure of a result, if it is one. -/
def failure? : Except OperatorError α → Option OperatorError
  | .ok _ => none
  | .error error => some error

/--
Of the exchanges of a call that come after earlier ones, each write is made
from what was shown before it, and if it is refused the call fails of it.
-/
inductive Provenance
    (task : Task)
    (failure : Option OperatorError) :
    List Exchange → List Exchange → Prop where
  | done (earlier : List Exchange) : Provenance task failure earlier []
  | other
      {exchange : Exchange}
      (harmless : exchange.channel = .objects → exchange.request.method = .get)
      (rest : Provenance task failure (earlier ++ [exchange]) later) :
      Provenance task failure earlier (exchange :: later)
  | write
      {request : Request}
      {answer : Answer}
      (makes : task.Makes (ShownIn earlier) request)
      (fails : ∀ reply,
        answer = .reply reply → reply.refuses = true →
        ∃ error, failure = some error ∧
          task.FailsBy (.refused reply.refusal) request.method error)
      (rest : Provenance task failure (earlier ++ [⟨.objects, request, answer⟩])
          later) :
      Provenance task failure earlier (⟨.objects, request, answer⟩ :: later)

namespace Provenance

variable {task : Task} {failure : Option OperatorError}
  {earlier : List Exchange}

/-- Without a failure nothing was refused. -/
theorem of_none
    {exchanges : List Exchange}
    (provenance : Provenance task none earlier exchanges)
    (failure : Option OperatorError) :
    Provenance task failure earlier exchanges := by
  induction provenance with
  | done earlier => exact .done earlier
  | other harmless _ ih => exact .other harmless ih
  | write makes fails _ ih =>
      refine .write makes (fun reply answered refuses => ?_) ih
      rcases fails reply answered refuses with ⟨error, impossible, _⟩
      cases impossible

theorem append
    {first second : List Exchange}
    (before : Provenance task failure earlier first)
    (after : Provenance task failure (earlier ++ first) second) :
    Provenance task failure earlier (first ++ second) := by
  induction before with
  | done earlier => simpa using after
  | other harmless _ ih => exact .other harmless (ih (by simpa using after))
  | write makes fails _ ih =>
      exact .write makes fails (ih (by simpa using after))

/-- Exchanges without writes need no provenance. -/
theorem of_harmless
    {exchanges : List Exchange}
    (harmless : ∀ exchange ∈ exchanges, exchange.channel = .objects →
        exchange.request.method = .get) :
    Provenance task failure earlier exchanges := by
  induction exchanges generalizing earlier with
  | nil => exact .done earlier
  | cons exchange rest ih =>
      rcases List.forall_mem_cons.1 harmless with ⟨first, others⟩
      exact .other first (ih others)

/-- What the provenance of exchanges says of a write among them. -/
theorem of_write
    {before after : List Exchange}
    {exchange : Exchange}
    (provenance : Provenance task failure earlier (before ++ exchange :: after))
    (about : exchange.channel = .objects)
    (writes : exchange.request.method ≠ .get) :
    task.Makes (ShownIn (earlier ++ before)) exchange.request ∧
      ∀ reply, exchange.answer = .reply reply → reply.refuses = true →
        ∃ error, failure = some error ∧
          task.FailsBy (.refused reply.refusal) exchange.request.method
              error := by
  induction before generalizing earlier with
  | nil =>
      cases provenance with
      | other harmless => exact absurd (harmless about) writes
      | write makes fails => exact ⟨by simpa using makes, fails⟩
  | cons first rest ih =>
      have later : Provenance task failure (earlier ++ [first])
          (rest ++ exchange :: after) := by
        cases provenance with
        | other _ later => exact later
        | write _ _ later => exact later
      simpa using ih later

end Provenance

/-! ## Careful steps -/

namespace Task

/--
After earlier exchanges of its call, the writes of a step have their provenance.
-/
def Careful (task : Task) (earlier : List Exchange) (step : Step α) : Prop :=
  ∀ exchanges result, step.Traces exchanges result →
    Provenance task (failure? result) earlier exchanges

namespace Careful

variable {task : Task} {earlier : List Exchange}

theorem pure (value : α) : task.Careful earlier (pure value : Step α) := by
  intro exchanges result trace
  rcases Step.traces_pure_iff.1 trace with ⟨rfl, rfl⟩
  exact .done earlier

theorem ofExcept (value : Except OperatorError α) :
    task.Careful earlier (Step.ofExcept value) := by
  intro exchanges result trace
  rcases Step.traces_ofExcept_iff.1 trace with ⟨rfl, rfl⟩
  exact .done earlier

theorem bind
    {step : Step α}
    {follow : α → Step β}
    (first : task.Careful earlier step)
    (second : ∀ value exchanges, step.Traces exchanges (.ok value) →
        task.Careful (earlier ++ exchanges) (follow value)) :
    task.Careful earlier (step >>= follow) := by
  intro exchanges result trace
  rcases trace.of_bind with
    ⟨error, rfl, failed⟩ | ⟨value, before, after, rfl, passed, next⟩
  · exact first _ _ failed
  · exact ((first _ _ passed).of_none _).append
      (second value before passed _ _ next)

end Careful

/-! ## Reads -/

theorem harmless_of_call
    {request : Except RequestFault Request}
    {read : Datum → Option β}
    {sent : Option Exchange}
    {outcome : Except ApiError β}
    (call : Call request read sent outcome)
    (reads : ∀ built, request = .ok built → built.method = .get) :
    ∀ exchange ∈ sent.toList, exchange.channel = .objects →
        exchange.request.method = .get := by
  cases call with
  | unbuildable => simp
  | answered built answer given => simpa using reads built given

section Kinds

variable {task : Task} {earlier : List Exchange} {α : Type} [ClusterObject α]

theorem shownIn_of_call
    {request : Except RequestFault Request}
    {sent : Option Exchange}
    {object : α}
    (call : Call request (ClusterObject.ofDatum? : Datum → Option α) sent
      (.ok object))
    (reads : ∀ built, request = .ok built → built.method = .get) :
    ShownIn sent.toList α object := by
  generalize found : (Except.ok object : Except ApiError α) = outcome at call
  cases call with
  | unbuildable => cases found
  | answered built answer given =>
      exact ⟨_, List.mem_singleton_self _, rfl, reads built given, found.symm⟩

theorem careful_find?
    (wrap : ApiError → OperatorError)
    (namespaceName name : String) :
    task.Careful earlier
        (Step.request wrap (Client.find? α namespaceName name)) := by
  intro exchanges result trace
  rcases Step.traces_request_iff.1 trace with ⟨outcome, looked, rfl⟩
  rcases Client.traces_find?_iff.1 looked with ⟨sent, found, call, rfl, rfl⟩
  exact .of_harmless (harmless_of_call call fun built given =>
    (Request.of_read given).1)

theorem shownIn_of_find?
    {wrap : ApiError → OperatorError}
    {namespaceName name : String}
    {exchanges : List Exchange}
    {object : α}
    (trace : (Step.request wrap (Client.find? α namespaceName name)).Traces
        exchanges (.ok (some object))) :
    ShownIn exchanges α object := by
  rcases Step.traces_request_iff.1 trace with ⟨outcome, looked, equal⟩
  rcases Client.traces_find?_iff.1 looked with ⟨sent, found, call, rfl, rfl⟩
  have decoded : found = .ok object := by
    rw [← Client.presence_eq_some_iff]
    cases answered : Client.presence found with
    | ok present =>
        rw [answered] at equal
        cases equal
        rfl
    | error cause =>
        rw [answered] at equal
        cases equal
  subst decoded
  exact shownIn_of_call call fun built given => (Request.of_read given).1

/-! ## Applies -/

theorem careful_commit
    {write : Write}
    {name : String}
    {object : α}
    {request : Except RequestFault Request}
    (makes : ∀ built, request = .ok built → task.Makes (ShownIn earlier) built)
    (fails : ∀ built, request = .ok built →
        ∀ cause, task.FailsBy cause built.method
        (.apply (ClusterObject.kind α) name cause)) :
    task.Careful earlier
      (Step.commit write name object
          (Client.send request ClusterObject.ofDatum?)) := by
  intro exchanges result trace
  rcases trace.of_commit with ⟨sent, outcome, told, call, events, rfl, rfl⟩
  -- What follows the write is only the event that tells of it.
  have silent (earlier : List Exchange) (failure : Option OperatorError) :
      Provenance task failure earlier told :=
    .of_harmless fun exchange member about => by
      cases about.symm.trans (events exchange member)
  cases call with
  | unbuildable => exact silent _ _
  | answered built answer given =>
      refine .write (makes built given) (fun reply answered refuses => ?_)
        (silent _ _)
      rw [answered, Reply.decode_of_refuses refuses]
      exact ⟨_, rfl, fails built given _⟩

/-- An apply is careful about the object that its call is out to apply. -/
theorem careful_apply
    {namespaceName : String}
    {merge : α → α → α}
    {wanted : α}
    (applies : task.Applies α namespaceName merge wanted)
    (recorded : Option Int64) :
    task.Careful earlier (Step.apply namespaceName merge wanted recorded) := by
  refine (careful_find? _ _ _).bind fun found exchanges trace => ?_
  cases found with
  | none =>
      refine careful_commit (fun built given => ?_) fun built given cause => ?_
      · exact .creation α namespaceName merge wanted built applies given
      · rw [(Request.of_create given).1]
        exact .creation α namespaceName merge wanted applies
  | some live =>
      have shown : ShownIn (earlier ++ exchanges) α live :=
        (shownIn_of_find? trace).later earlier
      rw [ApplyPlan.of]
      split
      · refine careful_commit (fun built given => ?_) fun built given cause =>
          ?_
        · exact .replacement α namespaceName merge wanted live built applies
            shown given
        · rw [(Request.of_replace given).1]
          exact .replacement α namespaceName merge wanted applies
      · exact .pure _

end Kinds

/-! ## Changes of the status -/

theorem careful_updateStatus
    {task : Task}
    {earlier : List Exchange}
    {name : String}
    {edit : String → OperatorStatus → OperatorStatus}
    (edits : task.Edits name edit) :
    task.Careful earlier
        (Step.ofProgram (HookKeeper.updateStatus name edit)) := by
  intro exchanges result trace
  rcases traces_updateStatus_iff.1 (Step.traces_ofProgram_iff.1 trace) with
    ⟨sent, found, rest, call, rfl, last⟩
  have reads (built : Request)
      (given :
          Request.read (ClusterObject.collection OperatorResource "") name =
          .ok built) :
      built.method = .get :=
    (Request.of_read given).1
  refine (Provenance.of_harmless (harmless_of_call call reads)).append ?_
  cases found with
  | error cause =>
      rcases currentOf_presence_error name cause with ⟨error, failed⟩
      rw [failed] at last
      rw [last.1]
      exact .done _
  | ok operator =>
      rcases last with ⟨moment, last⟩
      have shape := traces_writeStatus_iff.1 last
      split at shape
      next =>
        rcases shape with ⟨patch, outcome, written, rfl, rfl⟩
        cases written with
        | unbuildable => exact .done _
        | answered built answer given =>
            have shown :
                ShownIn (earlier ++ sent.toList) OperatorResource operator :=
              (shownIn_of_call call reads).later earlier
            refine .write
              (.status name edit operator moment.instant.text built edits shown
                given) (fun reply answered refuses => ?_) (.done _)
            rw [answered, Reply.decode_of_refuses refuses,
              (Request.of_patchStatus given).1]
            exact ⟨_, rfl, .status name edit edits⟩
      next =>
        rw [shape.1]
        exact .done _

/-! ## Calls -/

theorem careful_sync
    (settings : Settings)
    (templates : Templates) :
    Careful (.sync settings templates) [] (Step.sync settings templates) := by
  refine (careful_find? _ _ _).bind fun found exchanges _ => ?_
  cases found with
  | none => exact .pure _
  | some operator =>
      dsimp only
      split
      · have sized (earlier : List Exchange) :
            Careful (.sync settings templates) earlier
              (Step.sizedDeployment settings templates operator) := by
          refine (Careful.ofExcept _).bind fun rendered _ _ => ?_
          have listed (earlier : List Exchange) :
              Careful (.sync settings templates) earlier
              (Step.request .cluster (listNodes rendered.nodeSelector)) := by
            intro exchanges result trace
            rcases Step.traces_request_iff.1 trace with ⟨outcome, looked, rfl⟩
            rcases Client.traces_send_iff.1 looked with ⟨sent, call, rfl⟩
            exact .of_harmless (harmless_of_call call fun built given =>
              (Request.of_list given).1)
          exact (listed _).bind fun _ _ _ => .pure _
        refine (sized _).bind fun wanted _ _ => ?_
        refine (careful_apply (.syncDeployment settings templates wanted)
          _).bind fun deployment _ _ => ?_
        refine (Careful.ofExcept _).bind fun hooks _ _ => ?_
        refine (careful_apply (.syncRegistration settings templates hooks)
          _).bind fun registration _ _ => ?_
        exact (careful_updateStatus
          (.sync settings templates deployment.live registration.live)).bind
            fun _ _ _ => .pure _
      · exact .pure _

theorem careful_step (task : Task) : task.Careful [] task.step := by
  cases task with
  | sync settings templates =>
      exact (careful_sync settings templates).bind fun _ _ _ => .pure _
  | updateStatus name edit =>
      exact (careful_updateStatus (.updateStatus name edit)).bind fun _ _ _ =>
        .pure _
  | applyDeployment wanted recorded =>
      exact (careful_apply (.deployment wanted recorded) recorded).bind
        fun _ _ _ => .pure _
  | applyRegistration wanted recorded =>
      exact (careful_apply (.registration wanted recorded) recorded).bind
        fun _ _ _ => .pure _

/--
Each write of a call is made from what the same call was shown before, and if it
is refused the call fails of it.
-/
theorem makes_of_traces
    {task : Task}
    {before after : List Exchange}
    {exchange : Exchange}
    {result : Except OperatorError Unit}
    (trace : task.step.Traces (before ++ exchange :: after) result)
    (about : exchange.channel = .objects)
    (writes : exchange.request.method ≠ .get) :
    task.Makes (ShownIn before) exchange.request ∧
      ∀ reply, exchange.answer = .reply reply → reply.refuses = true →
        ∃ error, result = .error error ∧
          task.FailsBy (.refused reply.refusal) exchange.request.method
              error := by
  -- A call starts with nothing shown, so what comes before the write is all it
  -- was shown.
  rcases (careful_step task _ _ trace).of_write about writes with ⟨makes, fails⟩
  refine ⟨makes, fun reply answered refuses => ?_⟩
  rcases fails reply answered refuses with ⟨error, failed, named⟩
  refine ⟨error, ?_, named⟩
  cases result with
  | ok => cases failed
  | error cause =>
      cases failed
      rfl

end Task

end HookKeeper
