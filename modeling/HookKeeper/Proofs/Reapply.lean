import HookKeeper.Proofs.Faithful
import HookKeeper.Proofs.Quiescence
import HookKeeper.Server.Basic

/-!
# Applying an object twice

When a later step of a cycle fails, no generation is recorded, and the next
cycle applies the same object with the same record.  Against a store that keeps
what it is sent and that nobody else changes, the second apply only reads
exactly when there is no record, or the record is the generation of the object
that the first apply left.  A record that is behind that generation stays
behind, so the object is then written again.
-/

namespace HookKeeper

open HookKeeper.Json
open HookKeeper.Manifest

/-! ## Content -/

/--
Cluster objects with content, whose JSON form shows it with the labels and
annotations.
-/
class HasContent (α : Type) [ClusterObject α] where
  content : α → Value
  shown {first second : α}
      (same : ClusterObject.toValue first = ClusterObject.toValue second) :
    (ClusterObject.metadata first).labels =
      (ClusterObject.metadata second).labels ∧
      (ClusterObject.metadata first).annotations =
        (ClusterObject.metadata second).annotations ∧
        content first = content second

theorem ObjectMeta.shown
    {first second : ObjectMeta}
    (same : first.toValue = second.toValue) :
    first.labels = second.labels ∧ first.annotations = second.annotations := by
  have seconds : first.inWholeSeconds = second.inWholeSeconds :=
    ObjectMeta.faithful.inj.1 same
  exact ⟨congrArg (·.labels) seconds, congrArg (·.annotations) seconds⟩

instance : HasContent Deployment where
  content deployment := optionalContent DeploymentSpec.toValue deployment.spec
  shown {first second} same := by
    have members : first.metadata.toValue = second.metadata.toValue ∧
        first.spec.map DeploymentSpec.toValue =
          second.spec.map DeploymentSpec.toValue ∧
          first.status.map DeploymentStatus.toValue =
            second.status.map DeploymentStatus.toValue := by
      simpa [ClusterObject.toValue, Deployment.toValue] using same
    rcases ObjectMeta.shown members.1 with ⟨labels, annotations⟩
    exact ⟨labels, annotations,
      by rw [optionalContent, members.2.1, optionalContent]⟩

instance : HasContent Registration where
  content registration :=
    optionalContent (Value.list Hook.toValue) registration.webhooks
  shown {first second} same := by
    have members : first.metadata.toValue = second.metadata.toValue ∧
        first.webhooks.map (Value.list Hook.toValue) =
          second.webhooks.map (Value.list Hook.toValue) := by
      simpa [ClusterObject.toValue, Registration.toValue] using same
    rcases ObjectMeta.shown members.1 with ⟨labels, annotations⟩
    exact ⟨labels, annotations,
      by rw [optionalContent, members.2, optionalContent]⟩

/-! ## Stores that keep what they are sent -/

section

variable {α : Type} [ClusterObject α] [HasContent α]

/--
What a store makes of an object that it is sent, in place of an old one: it
keeps labels, annotations and content, and gives the object a generation, which
is the old one unless the content changes.
-/
structure Keeps (old : Option α) (sent kept : α) : Prop where
  covers : (ClusterObject.metadata kept).Covers (ClusterObject.metadata sent)
  content : HasContent.content kept = HasContent.content sent
  assigned : (ClusterObject.metadata kept).generation.isSome
  steady : ∀ before generation, old = some before →
    (ClusterObject.metadata before).generation = some generation →
      HasContent.content sent = HasContent.content before →
        (ClusterObject.metadata kept).generation = some generation

theorem Keeps.of_shown
    {old : Option α}
    {sent other kept : α}
    (keeps : Keeps old sent kept)
    (same : ClusterObject.toValue sent = ClusterObject.toValue other) :
    Keeps old other kept := by
  rcases HasContent.shown same with ⟨labels, annotations, content⟩
  constructor
  case covers => simpa only [ObjectMeta.Covers, labels, annotations] using
    keeps.covers
  case content => exact keeps.content.trans content
  case assigned => exact keeps.assigned
  case steady =>
    intro before generation own known unchanged
    exact keeps.steady before generation own known (content.trans unchanged)

/--
What a store keeps of an object before and after an exchange.  Reads show it,
writes that are not refused replace it, and nobody else changes it.
-/
inductive StoreStep : Option α → Exchange → Option α → Prop where
  | told (about : exchange.channel = .events) : StoreStep kept exchange kept
  | read
      (about : exchange.channel = .objects)
      (reads : exchange.request.method = .get)
      (shows :
        Client.presence (exchange.answer.decode ClusterObject.ofDatum?) =
        .ok kept) :
      StoreStep kept exchange kept
  | refused
      (cause : ApiError)
      (about : exchange.channel = .objects)
      (writes : exchange.request.method ≠ .get)
      (refuses : exchange.answer.decode
        (ClusterObject.ofDatum? : Datum → Option α) = .error cause) :
      StoreStep kept exchange kept
  | written
      (sent live : α)
      (about : exchange.channel = .objects)
      (writes : exchange.request.method ≠ .get)
      (body : exchange.request.body = some (ClusterObject.toValue sent))
      (answers : exchange.answer.decode ClusterObject.ofDatum? = .ok live)
      (keeps : Keeps kept sent live) :
      StoreStep kept exchange (some live)

/-- What a store keeps of an object before and after exchanges in a row. -/
inductive StoreRun : Option α → List Exchange → Option α → Prop where
  | done : StoreRun kept [] kept
  | next
      (step : StoreStep before exchange between)
      (rest : StoreRun between exchanges after) :
      StoreRun before (exchange :: exchanges) after

namespace StoreStep

variable {before after : Option α} {exchange : Exchange}

theorem of_told
    (step : StoreStep before exchange after)
    (about : exchange.channel = .events) : after = before := by
  cases step with
  | told | read | refused => rfl
  | written sent live objects => cases about.symm.trans objects

theorem of_read
    (step : StoreStep before exchange after)
    (about : exchange.channel = .objects)
    (reads : exchange.request.method = .get) :
    after = before ∧
      Client.presence (exchange.answer.decode ClusterObject.ofDatum?) =
          .ok before := by
  cases step with
  | told events => cases about.symm.trans events
  | read _ _ shows => exact ⟨rfl, shows⟩
  | refused cause _ writes => exact absurd reads writes
  | written sent live _ writes => exact absurd reads writes

theorem of_write
    {sent live : α}
    (step : StoreStep before exchange after)
    (about : exchange.channel = .objects)
    (writes : exchange.request.method ≠ .get)
    (body : exchange.request.body = some (ClusterObject.toValue sent))
    (answers : exchange.answer.decode ClusterObject.ofDatum? = .ok live) :
    after = some live ∧ Keeps before sent live := by
  cases step with
  | told events => cases about.symm.trans events
  | read _ reads => exact absurd reads writes
  | refused cause _ _ refuses => cases answers.symm.trans refuses
  | written other shown _ _ carried answered keeps =>
      cases answers.symm.trans answered
      exact ⟨rfl, keeps.of_shown (Option.some.inj (carried.symm.trans body))⟩

end StoreStep

namespace StoreRun

theorem of_append
    {before after : Option α}
    {first second : List Exchange}
    (run : StoreRun before (first ++ second) after) :
    ∃ between, StoreRun before first between ∧
        StoreRun between second after := by
  induction first generalizing before with
  | nil => exact ⟨before, .done, run⟩
  | cons exchange rest ih =>
      cases run with
      | next step later =>
          rcases ih later with ⟨between, earlier, last⟩
          exact ⟨between, .next step earlier, last⟩

theorem append
    {before between after : Option α}
    {first second : List Exchange}
    (run : StoreRun before first between)
    (later : StoreRun between second after) :
    StoreRun before (first ++ second) after := by
  induction run with
  | done => exact later
  | next step _ ih => exact .next step (ih later)

theorem of_told
    {told : List Exchange}
    (events : ∀ exchange ∈ told, exchange.channel = .events)
    (kept : Option α) : StoreRun kept told kept := by
  induction told with
  | nil => exact .done
  | cons exchange rest ih =>
      exact .next (.told (events exchange List.mem_cons_self))
        (ih fun other member => events other (List.mem_cons_of_mem _ member))

/-- Telling about an object leaves it alone. -/
theorem eq_of_told
    {before after : Option α}
    {told : List Exchange}
    (run : StoreRun before told after)
    (events : ∀ exchange ∈ told, exchange.channel = .events) :
    after = before := by
  induction run with
  | done => rfl
  | next step rest ih =>
      exact (ih fun other member =>
        events other (List.mem_cons_of_mem _ member)).trans
        (step.of_told (events _ List.mem_cons_self))

theorem of_read
    {before after : Option α}
    {request : Request}
    {answer : Answer}
    {rest : List Exchange}
    (run : StoreRun before (⟨.objects, request, answer⟩ :: rest) after)
    (reads : request.method = .get) :
    Client.presence (answer.decode ClusterObject.ofDatum?) = .ok before ∧
      StoreRun before rest after := by
  cases run with
  | next step later =>
      rcases step.of_read rfl reads with ⟨rfl, shows⟩
      exact ⟨shows, later⟩

/--
What a store shows after a write that succeeded is what the write returned.
-/
theorem of_commit
    {before after : Option α}
    {write : Write}
    {name : String}
    {object : α}
    {request : Except RequestFault Request}
    {exchanges : List Exchange}
    {applied : Applied α}
    (built : ∀ sent, request = .ok sent → sent.method ≠ .get ∧
      sent.body = some (ClusterObject.toValue object))
    (trace :
      (Step.commit write name object
        (Client.send request ClusterObject.ofDatum?)).Traces exchanges
        (.ok applied))
    (run : StoreRun before exchanges after) :
    applied.changed = true ∧ after = some applied.live ∧
        Keeps before object applied.live := by
  rcases trace.of_commit with ⟨sent, outcome, told, call, events, rfl, result⟩
  cases call with
  | unbuildable fault unbuilt => cases result
  | answered sent answer asked =>
      rcases built sent asked with ⟨writes, body⟩
      cases answers : answer.decode
          (ClusterObject.ofDatum? : Datum → Option α) with
      | error cause =>
          rw [answers] at result
          cases result
      | ok live =>
          rw [answers] at result
          cases result
          cases run with
          | next step later =>
              rcases step.of_write rfl writes body answers with ⟨rfl, keeps⟩
              exact ⟨rfl, later.eq_of_told events, keeps⟩

end StoreRun

/-! ## Applying twice -/

/-- A step only reads, and gives a live object without a change. -/
def IsQuiet
    (live : α)
    (exchanges : List Exchange)
    (result : Except OperatorError (Applied α)) : Prop :=
  result = .ok ⟨live, false⟩ ∧
    ∀ exchange ∈ exchanges, exchange.channel = .objects ∧
      exchange.request.method = .get

section Apply

variable {namespaceName : String} {merge : α → α → α} {wanted : α}
  {recorded : Option Int64} {before after : Option α}
  {exchanges : List Exchange} {read : Request}

/--
An apply against a store goes on with the plan for the object that the store
keeps.
-/
theorem StoreRun.of_apply
    {result : Except OperatorError (Applied α)}
    (built : Request.read (ClusterObject.collection α namespaceName)
      (ClusterObject.metadata wanted).anyName = .ok read)
    (trace : (Step.apply namespaceName merge wanted recorded).Traces exchanges
      result)
    (run : StoreRun before exchanges after) :
    ∃ answer rest,
      exchanges = ⟨.objects, read, answer⟩ :: rest ∧
        StoreRun before rest after ∧
        (Step.carryOut namespaceName (ClusterObject.metadata wanted).anyName
          (.of merge wanted recorded before)).Traces rest result := by
  have reads := (Request.of_read built).1
  rcases trace.of_apply with ⟨sent, found, call, shape⟩
  cases call with
  | unbuildable fault unbuilt => cases built.symm.trans unbuilt
  | answered request answer asked =>
      cases built.symm.trans asked
      split at shape
      next cause presence =>
        rcases shape with ⟨rfl, _⟩
        cases presence.symm.trans (run.of_read reads).1
      next found presence =>
        rcases shape with ⟨rest, rfl, last⟩
        rcases run.of_read reads with ⟨shows, later⟩
        cases presence.symm.trans shows
        exact ⟨answer, rest, rfl, later, last⟩

/-- An object that had to be written is kept by the store. -/
theorem StoreRun.of_carryOut
    {name : String}
    {plan : ApplyPlan α}
    {object : α}
    {applied : Applied α}
    (due : plan.sent? = some object)
    (trace : (Step.carryOut namespaceName name plan).Traces exchanges
      (.ok applied))
    (run : StoreRun before exchanges after) :
    applied.changed = true ∧ after = some applied.live ∧
        Keeps before object applied.live := by
  cases plan with
  | keep live => cases due
  | create sent =>
      cases due
      refine run.of_commit (fun request built => ?_) trace
      rcases Request.of_create built with ⟨method, body⟩
      exact ⟨by simp [method], body⟩
  | replace sent =>
      cases due
      refine run.of_commit (fun request built => ?_) trace
      rcases Request.of_replace built with ⟨method, body⟩
      exact ⟨by simp [method], body⟩

/-- An apply of an object that need not be written is quiet. -/
theorem StoreRun.quiet
    {live : α}
    {result : Except OperatorError (Applied α)}
    (unneeded : (ClusterObject.metadata live).needsUpdate
      (ClusterObject.metadata wanted) recorded = false)
    (built : Request.read (ClusterObject.collection α namespaceName)
      (ClusterObject.metadata wanted).anyName = .ok read)
    (trace : (Step.apply namespaceName merge wanted recorded).Traces exchanges
      result)
    (run : StoreRun (some live) exchanges after) :
    IsQuiet live exchanges result := by
  rcases run.of_apply built trace with ⟨answer, rest, rfl, _, trace⟩
  rw [ApplyPlan.of, if_neg (by simp [unneeded])] at trace
  rcases Step.traces_pure_iff.1 trace with ⟨rfl, rfl⟩
  simp [IsQuiet, (Request.of_read built).1]

/--
An apply that succeeded changed nothing exactly when nothing had to be written.
-/
theorem StoreRun.unchanged_iff
    {live : α}
    {again : Applied α}
    (built : Request.read (ClusterObject.collection α namespaceName)
      (ClusterObject.metadata wanted).anyName = .ok read)
    (trace : (Step.apply namespaceName merge wanted recorded).Traces exchanges
      (.ok again))
    (run : StoreRun (some live) exchanges after) :
    again.changed = false ↔
      (ClusterObject.metadata live).needsUpdate (ClusterObject.metadata wanted)
        recorded =
        false := by
  cases needed :
      (ClusterObject.metadata live).needsUpdate (ClusterObject.metadata wanted)
          recorded with
  | false =>
      cases (run.quiet needed built trace).1
      simp
  | true =>
      rcases run.of_apply built trace with ⟨answer, rest, rfl, run, trace⟩
      rw [ApplyPlan.of, if_pos needed] at trace
      simp [(run.of_carryOut rfl trace).1]

/--
What a second apply with the same record makes of the object that the first one
left.
-/
structure Repeats
    (recorded : Option Int64)
    (live : α)
    (exchanges : List Exchange)
    (result : Except OperatorError (Applied α)) : Prop where
  quiet : recorded = none ∨
    recorded = (ClusterObject.metadata live).generation →
    IsQuiet live exchanges result
  unchanged_iff : ∀ again, result = .ok again →
    (again.changed = false ↔
      recorded = none ∨ recorded = (ClusterObject.metadata live).generation)

variable
  (merges : ∀ live, ClusterObject.metadata (merge live wanted) =
    (ClusterObject.metadata live).merged (ClusterObject.metadata wanted))

include merges

/--
An apply that succeeded left an object that has what is wanted, in the store
too.
-/
theorem StoreRun.left
    {applied : Applied α}
    (built : Request.read (ClusterObject.collection α namespaceName)
      (ClusterObject.metadata wanted).anyName = .ok read)
    (trace : (Step.apply namespaceName merge wanted recorded).Traces exchanges
      (.ok applied))
    (run : StoreRun before exchanges after) :
    after = some applied.live ∧
      (ClusterObject.metadata applied.live).Covers
        (ClusterObject.metadata wanted) ∧
        (before = some applied.live ∨
          ∃ sent, (ApplyPlan.of merge wanted recorded before).sent? =
            some sent ∧
            Keeps before sent applied.live) := by
  rcases run.of_apply built trace with ⟨answer, rest, rfl, run, trace⟩
  cases due : (ApplyPlan.of merge wanted recorded before).sent? with
  | some sent =>
      rcases run.of_carryOut due trace with ⟨_, rfl, keeps⟩
      refine ⟨rfl, keeps.covers.trans ?_, .inr ⟨sent, rfl, keeps⟩⟩
      exact ApplyPlan.covers_of_sent merges due
  | none =>
      rcases ApplyPlan.of_unsent due with ⟨live, rfl, plan, covers⟩
      rw [plan] at trace
      rcases Step.traces_pure_iff.1 trace with ⟨rfl, result⟩
      cases result
      cases run
      exact ⟨rfl, covers, .inl rfl⟩

/-- An apply that succeeded is repeated against a store. -/
theorem StoreRun.repeats
    {others : List Exchange}
    {applied : Applied α}
    {result : Except OperatorError (Applied α)}
    (first : (Step.apply namespaceName merge wanted recorded).Traces exchanges
      (.ok applied))
    (second : (Step.apply namespaceName merge wanted recorded).Traces others
      result)
    (run : StoreRun before (exchanges ++ others) after) :
    Repeats recorded applied.live others result := by
  rcases first.built with ⟨read, built⟩
  rcases run.of_append with ⟨between, earlier, later⟩
  rcases earlier.left merges built first with ⟨rfl, covers, _⟩
  -- The labels and annotations are there by now, so only the record can ask for
  -- a write.
  have needed : (ClusterObject.metadata applied.live).needsUpdate
      (ClusterObject.metadata wanted) recorded = false ↔
        recorded = none ∨
            recorded = (ClusterObject.metadata applied.live).generation := by
    rw [ObjectMeta.needsUpdate_eq_false_iff, ObjectMeta.isEdited_eq_false_iff]
    exact and_iff_left covers
  constructor
  case quiet => exact fun settled => later.quiet (needed.2 settled) built second
  case unchanged_iff =>
    rintro again rfl
    exact (later.unchanged_iff built second).trans needed

/--
An apply that writes no other content than the live one leaves the generation.
-/
theorem StoreRun.generation_eq
    {live : α}
    {applied : Applied α}
    (trace : (Step.apply namespaceName merge wanted recorded).Traces exchanges
      (.ok applied))
    (run : StoreRun (some live) exchanges after)
    {generation : Int64}
    (known : (ClusterObject.metadata live).generation = some generation)
    (unchanged : HasContent.content (merge live wanted) =
        HasContent.content live) :
    (ClusterObject.metadata applied.live).generation = some generation := by
  rcases trace.built with ⟨read, built⟩
  rcases run.left merges built trace with ⟨_, _, same | ⟨sent, due, keeps⟩⟩
  · cases same
    exact known
  · rcases ApplyPlan.of_sent due with ⟨absent, _⟩ | ⟨_, ⟨⟩, rfl⟩
    · cases absent
    · exact keeps.steady live generation rfl known unchanged

/-- A record that was right stays so when the content does not change. -/
theorem StoreRun.quiet_of_unchanged
    {others : List Exchange}
    {live : α}
    {applied : Applied α}
    {result : Except OperatorError (Applied α)}
    (first : (Step.apply namespaceName merge wanted recorded).Traces exchanges
      (.ok applied))
    (second : (Step.apply namespaceName merge wanted recorded).Traces others
      result)
    (run : StoreRun (some live) (exchanges ++ others) after)
    (known : recorded = (ClusterObject.metadata live).generation)
    (unchanged : HasContent.content (merge live wanted) =
        HasContent.content live) :
    IsQuiet applied.live others result := by
  rcases run.of_append with ⟨between, earlier, _⟩
  refine (run.repeats merges first second).quiet ?_
  cases recorded with
  | none => exact .inl rfl
  | some generation =>
      exact .inr (earlier.generation_eq merges first known.symm unchanged).symm

end Apply

end

/--
Against a store that keeps what it is sent and that nobody else changes, an
apply that succeeded and is repeated with the same object and the same record
only reads and changes nothing exactly if there is no record or the record is
the generation that the first apply left.  It is, if it was the generation of
the object before the first apply and that did not change the content.
-/
theorem reapply_unchanged_iff (recorded : Option Int64) :
    (∀ (wanted : Deployment) (initial final : Option Deployment)
        (exchanges others : List Exchange) (applied : Applied Deployment)
        (result : Except OperatorError (Applied Deployment)),
      (Step.applyDeployment wanted recorded).Traces exchanges (.ok applied) →
      (Step.applyDeployment wanted recorded).Traces others result →
      StoreRun initial (exchanges ++ others) final →
        Repeats recorded applied.live others result ∧
          ∀ live, initial = some live → recorded = live.metadata.generation →
            HasContent.content wanted = HasContent.content live →
              IsQuiet applied.live others result) ∧
    (∀ (wanted : Registration) (initial final : Option Registration)
        (exchanges others : List Exchange) (applied : Applied Registration)
        (result : Except OperatorError (Applied Registration)),
      (Step.applyRegistration wanted recorded).Traces exchanges (.ok applied) →
      (Step.applyRegistration wanted recorded).Traces others result →
      StoreRun initial (exchanges ++ others) final →
        Repeats recorded applied.live others result ∧
          ∀ live, initial = some live → recorded = live.metadata.generation →
            HasContent.content (live.merged wanted) = HasContent.content live →
              IsQuiet applied.live others result) := by
  constructor
  · intro wanted initial final exchanges others applied result first second run
    refine ⟨run.repeats (fun _ => rfl) first second, ?_⟩
    rintro live rfl known unchanged
    exact run.quiet_of_unchanged (fun _ => rfl) first second known unchanged
  · intro wanted initial final exchanges others applied result first second run
    refine ⟨run.repeats (fun _ => rfl) first second, ?_⟩
    rintro live rfl known unchanged
    exact run.quiet_of_unchanged (fun _ => rfl) first second known unchanged

/-! A server that keeps a Deployment or a registration. -/

/-- A Deployment with nothing but names. -/
def plainDeployment : Deployment :=
  { metadata := { name := some "d", namespaceName := some "n" } }

/--
A registration with nothing but a name and hooks of these names, with their
hash.
-/
def plainRegistration (hooks : List String) : Registration :=
  Registration.stamped
    { metadata := { name := some "w" }
      webhooks := some (hooks.map fun name => { name }) }

/-- The Deployment as a server keeps it after the first write. -/
def keptDeployment : Deployment :=
  let wanted := plainDeployment.stamped
  { wanted with
    metadata.generation := some 1, metadata.resourceVersion := some "1" }

/-- The registration as a server keeps it after a write. -/
def keptRegistration
    (hooks : List String)
    (generation : Int64)
    (version : String) : Registration :=
  { plainRegistration hooks with
    metadata.generation := some generation
    metadata.resourceVersion := some version }

/-- A server that keeps these objects after some writes. -/
def keepingServer (objects : Members) (revision : Nat) : Server :=
  { store := { objects, revision }, clock := ⟨0⟩ }

/-- An exchange that reads what is at a path. -/
def readExchange (path : String) (reply : Reply) : Exchange :=
  ⟨.objects, ⟨.get, ⟨path, []⟩, none⟩, .reply reply⟩

/-- The reply that shows a live object. -/
def keptReply [ClusterObject α] (status : Nat) (live : α) : Reply :=
  ⟨status, .json (ClusterObject.toValue live).sorted⟩

/-- An exchange that writes an object and shows what is kept of it. -/
def writeExchange
    [ClusterObject α]
    (method : Method)
    (path : String)
    (sent : α)
    (reply : Reply) : Exchange :=
  ⟨.objects,
    ⟨method, ⟨path, Request.author⟩, some (ClusterObject.toValue sent)⟩,
    .reply reply⟩

/-- A step on a server reads and writes an object, and then tells about it. -/
def Commits
    (step : Step (Applied α))
    (server : Server)
    (read write : Exchange)
    (live : α) : Prop :=
  let exchanges := step.exchanges Server.host server {}
  step.outcome Server.host server {} = .ok ⟨live, true⟩ ∧
    exchanges.take 2 = [read, write] ∧
    ∀ exchange ∈ exchanges.drop 2, exchange.channel = .events

instance
    [DecidableEq α]
    {step : Step (Applied α)}
    {server : Server}
    {read write : Exchange}
    {live : α} :
    Decidable (Commits step server read write live) :=
  inferInstanceAs (Decidable (_ ∧ _ ∧ _))

/-- Whether the JSON form of an object is read as that object. -/
def IsReadable [ClusterObject α] (live : α) : Prop :=
  ClusterObject.ofDatum? (.ofValue (ClusterObject.toValue live).sorted) =
    some live

instance
    [ClusterObject α]
    [DecidableEq α]
    {live : α} :
    Decidable (IsReadable live) :=
  inferInstanceAs (Decidable (_ = _))

section

variable {α : Type} [ClusterObject α]

theorem IsReadable.decode
    {live : α}
    (readable : IsReadable live)
    {status : Nat}
    (accepted : (keptReply status live).refuses = false) :
    (Answer.reply (keptReply status live)).decode ClusterObject.ofDatum? =
        .ok live := by
  rw [IsReadable] at readable
  simp only [Answer.decode, accepted]
  simp only [keptReply, Body.decode, Body.datum?, readable]
  rfl

variable [HasContent α]

theorem IsReadable.read
    {live : α}
    (readable : IsReadable live)
    (path : String) :
    StoreStep (some live) (readExchange path (keptReply 200 live))
        (some live) :=
  .read rfl rfl (Client.presence_eq_some_iff.2 (readable.decode rfl))

theorem IsReadable.written
    {live : α}
    (readable : IsReadable live)
    {method : Method}
    (writes : method ≠ .get)
    (path : String)
    (status : Nat)
    (accepted : (keptReply status live).refuses = false)
    {old : Option α}
    {sent : α}
    (keeps : Keeps old sent live) :
    StoreStep old (writeExchange method path sent (keptReply status live))
        (some live) :=
  .written sent live rfl writes rfl (readable.decode accepted) keeps

theorem Commits.run
    {step : Step (Applied α)}
    {server : Server}
    {read write : Exchange}
    {before : Option α}
    {live : α}
    (commits : Commits step server read write live)
    (shown : StoreStep before read before)
    (kept : StoreStep before write (some live)) :
    StoreRun before (step.exchanges Server.host server {}) (some live) := by
  rcases commits with ⟨_, calls, events⟩
  rw [← List.take_append_drop 2 (step.exchanges Server.host server {}), calls]
  exact (StoreRun.next shown (.next kept .done)).append (.of_told events _)

end

/-- What an empty server keeps after an apply is only read by the next one. -/
theorem reapply_unchanged_after_creation :
    (let step := Step.applyDeployment plainDeployment (some 1)
      let next := ((step.start {}).run Server.host (keepingServer [] 0)).2
      step.outcome Server.host (keepingServer [] 0) {} =
        .ok ⟨keptDeployment, true⟩ ∧
        IsQuiet keptDeployment (step.exchanges Server.host next {})
          (step.outcome Server.host next {})) ∧
      (let step := Step.applyRegistration (plainRegistration []) (some 1)
        let next := ((step.start {}).run Server.host (keepingServer [] 0)).2
        step.outcome Server.host (keepingServer [] 0) {} =
          .ok ⟨keptRegistration [] 1 "1", true⟩ ∧
          IsQuiet (keptRegistration [] 1 "1")
            (step.exchanges Server.host next {})
            (step.outcome Server.host next {})) := by
  rcases reapply_unchanged_iff (some 1) with ⟨deployments, registrations⟩
  have absent {α : Type} [ClusterObject α] [HasContent α] (path : String) :
      StoreStep (none : Option α) (readExchange path Store.notFound) none :=
    .read rfl rfl rfl
  constructor
  · intro step next
    let collection := "/apis/apps/v1/namespaces/n/deployments"
    have runs :
        Commits step (keepingServer [] 0)
            (readExchange (collection ++ "/d") Store.notFound)
              (writeExchange .post collection plainDeployment.stamped
                (keptReply 201 keptDeployment))
            keptDeployment ∧
          step.exchanges Server.host next {} =
              [readExchange (collection ++ "/d")
                (keptReply 200 keptDeployment)] ∧
            IsReadable keptDeployment := by
      decide +kernel
    rcases runs with ⟨creates, again, readable⟩
    have keeps : Keeps none plainDeployment.stamped keptDeployment :=
      ⟨⟨rfl, isCovered_refl _⟩, rfl, rfl, fun _ _ same => nomatch same⟩
    have created :=
      creates.run (absent _) (readable.written (by decide) _ 201 rfl keeps)
    have read : StoreRun (some keptDeployment)
        (step.exchanges Server.host next {}) (some keptDeployment) :=
      again ▸ .next (readable.read _) .done
    have first := creates.1 ▸ Step.traces_run Server.host (keepingServer [] 0)
      {} step
    have second := Step.traces_run Server.host next {} step
    have repeated :=
      deployments _ _ _ _ _ _ _ first second (created.append read)
    exact ⟨creates.1, repeated.1.quiet (.inr rfl)⟩
  · intro step next
    let collection :=
      "/apis/admissionregistration.k8s.io/v1/validatingwebhookconfigurations"
    have runs :
        Commits step (keepingServer [] 0)
            (readExchange (collection ++ "/w") Store.notFound)
              (writeExchange .post collection (plainRegistration [])
                (keptReply 201 (keptRegistration [] 1 "1")))
            (keptRegistration [] 1 "1") ∧
          step.exchanges Server.host next {} =
              [readExchange (collection ++ "/w")
                (keptReply 200 (keptRegistration [] 1 "1"))] ∧
            IsReadable (keptRegistration [] 1 "1") := by
      decide +kernel
    rcases runs with ⟨creates, again, readable⟩
    have keeps :
        Keeps none (plainRegistration []) (keptRegistration [] 1 "1") :=
      ⟨⟨rfl, isCovered_refl _⟩, rfl, rfl, fun _ _ same => nomatch same⟩
    have created :=
      creates.run (absent _) (readable.written (by decide) _ 201 rfl keeps)
    have read : StoreRun (some (keptRegistration [] 1 "1"))
        (step.exchanges Server.host next {})
        (some (keptRegistration [] 1 "1")) :=
      again ▸ .next (readable.read _) .done
    have first := creates.1 ▸ Step.traces_run Server.host (keepingServer [] 0)
      {} step
    have second := Step.traces_run Server.host next {} step
    have repeated :=
      registrations _ _ _ _ _ _ _ first second (created.append read)
    exact ⟨creates.1, repeated.1.quiet (.inr rfl)⟩

/--
A record of the generation before a write of other content makes the next apply
write again, though nothing else happened in between.
-/
theorem stale_record_is_written_again :
    ∃ (wanted initial : Registration) (exchanges others : List Exchange)
      (applied again : Applied Registration),
      wanted.metadata.name = some "w" ∧ initial.metadata.generation = some 1 ∧
        (Step.applyRegistration wanted (some 1)).Traces exchanges
          (.ok applied) ∧
        (Step.applyRegistration wanted (some 1)).Traces others (.ok again) ∧
        StoreRun (some initial) (exchanges ++ others) (some again.live) ∧
        again.changed = true ∧
          ∃ write ∈ others, write.channel = .objects ∧
              write.request.method = .put := by
  let path :=
    "/apis/admissionregistration.k8s.io/v1/validatingwebhookconfigurations/w"
  let initial := keptRegistration [] 1 "1"
  let written := keptRegistration ["h"] 2 "2"
  let writtenAgain := keptRegistration ["h"] 2 "3"
  let wanted := plainRegistration ["h"]
  let step := Step.applyRegistration wanted (some 1)
  let before := keepingServer [(path, initial.toValue.sorted)] 1
  let next := ((step.start {}).run Server.host before).2
  let put (old live : Registration) : Exchange :=
    writeExchange .put path (old.merged wanted) (keptReply 200 live)
  have runs :
      Commits step before (readExchange path (keptReply 200 initial))
          (put initial written) written ∧
        Commits step next (readExchange path (keptReply 200 written))
            (put written writtenAgain) writtenAgain ∧
          IsReadable initial ∧ IsReadable written ∧ IsReadable writtenAgain ∧
            HasContent.content (initial.merged wanted) ≠
                HasContent.content initial := by
    decide +kernel
  rcases runs with ⟨write, again, shown, reads, rereads, changes⟩
  -- The first write changes the content, so it gets another generation; the
  -- second does not.
  have assigned : Keeps (some initial) (initial.merged wanted) written :=
    ⟨⟨rfl, isCovered_refl _⟩, rfl, rfl, by
      rintro _ generation ⟨⟩ _ same
      exact absurd same changes⟩
  have steady : Keeps (some written) (written.merged wanted) writtenAgain :=
    ⟨⟨rfl, isCovered_refl _⟩, rfl, rfl, by
      rintro _ generation ⟨⟩ known _
      exact known⟩
  have first :=
    write.run (shown.read path)
      (reads.written (by decide) path 200 rfl assigned)
  have second :=
    again.run (reads.read path)
      (rereads.written (by decide) path 200 rfl steady)
  refine ⟨wanted, initial, _, _, ⟨written, true⟩, ⟨writtenAgain, true⟩,
    rfl, rfl, write.1 ▸ Step.traces_run Server.host before {} step,
    again.1 ▸ Step.traces_run Server.host next {} step,
    first.append second, rfl, put written writtenAgain, ?_, rfl, rfl⟩
  refine List.mem_of_mem_take (i := 2) ?_
  rw [again.2.1]
  simp

end HookKeeper
