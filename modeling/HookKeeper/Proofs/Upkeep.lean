import HookKeeper.Proofs.Quiescence
import HookKeeper.Proofs.StatusPatch
import Mathlib.Logic.Relation

/-!
# The upkeep of a Deployment

A cluster keeps the Deployment that the operator looks after and the
generations that the status of the operator resource records.  It serves the
requests of cycles: a read that succeeds shows what it keeps, a write of the
Deployment or of the status takes effect or does not, and does so whenever it
is answered with success.  Apart from that, any answer may come to any request.
Between two requests somebody else may edit the specification of the
Deployment, which raises its generation.
-/

namespace HookKeeper

open HookKeeper.Json
open HookKeeper.Manifest

def Answer.IsAccepted (answer : Answer) : Prop :=
  ∃ reply, answer = .reply reply ∧ reply.refuses = false

/-! ## What a cluster keeps -/

/-- What a cluster keeps of a Deployment. -/
structure LiveDeployment where
  name : Option String
  generateName : Option String
  namespaceName : Option String
  labels : Option TextMap
  annotations : Option TextMap
  generation : Int64
  /-- The JSON form of the specification, its members in order. -/
  spec : Option Value
  deriving DecidableEq

namespace LiveDeployment

/--
What is kept of a Deployment that is sent in a body, with the generation that it
gets.
-/
def ofBody (body : Value) (generation : Int64) : LiveDeployment where
  name := (body.metadataMember? "name").bind Value.text?
  generateName := (body.metadataMember? "generateName").bind Value.text?
  namespaceName := (body.metadataMember? "namespace").bind Value.text?
  labels := (body.metadataMember? "labels").bind fun labels =>
    Datum.textMap? (.ofValue labels)
  annotations :=
    (body.metadataMember? "annotations").bind fun entries =>
      Datum.textMap? (.ofValue entries)
  generation
  spec := (body.member? "spec").map Value.sorted

/-- A Deployment that is read shows what the cluster keeps. -/
structure Shows (live : LiveDeployment) (object : Deployment) : Prop where
  name : object.metadata.name = live.name
  generateName : object.metadata.generateName = live.generateName
  namespaceName : object.metadata.namespaceName = live.namespaceName
  labels : object.metadata.labels = live.labels
  annotations : object.metadata.annotations = live.annotations
  generation : object.metadata.generation = some live.generation

end LiveDeployment

/-- The records of generations in a status that is sent in a body. -/
def recordsOfBody (body : Value) : List GenerationRecord :=
  (((body.member? "status").bind (Value.member? "generations")).bind
      fun records =>
    Datum.listOf? GenerationRecord.ofDatum? (.ofValue records)).getD []

/-- What a cluster keeps. -/
structure Upkeep where
  /-- The generations that the status of the operator resource records. -/
  records : List GenerationRecord := []
  deployment : Option LiveDeployment := none
  deriving DecidableEq

/-! ## What stays the same -/

/-- What stays the same in a run of cycles. -/
structure Circumstances where
  settings : Settings
  templates : Templates
  /-- What the operator resource asks for. -/
  spec : OperatorSpec
  nodes : List Node
  rendered : Deployment
  renders :
    renderDeployment templates.deployment settings.image spec.logLevel =
      .ok rendered

namespace Circumstances

variable (fixed : Circumstances)

def wanted : Deployment :=
  fixed.rendered.withReplicas
    (Sizing.replicas fixed.rendered.nodeSelector fixed.nodes)

/-- The JSON form of the wanted specification, its members in order. -/
def wantedSpec : Option Value :=
  (fixed.wanted.spec.map DeploymentSpec.toValue).map Value.sorted

def collection : String :=
  ClusterObject.collection Deployment
    (fixed.wanted.metadata.namespaceName.getD "")

/-- The generation that is recorded for the Deployment. -/
def recorded? (upkeep : Upkeep) : Option Int64 :=
  GenerationRecord.expected? upkeep.records (.ofDeployment fixed.wanted)

/-! ## Requests -/

def Creates (request : Request) : Prop :=
  Request.create fixed.collection Request.author (request.body.getD .null) =
    .ok request

def Replaces (request : Request) : Prop :=
  Request.replace fixed.collection fixed.wanted.metadata.anyName
    (request.body.getD .null) =
    .ok request

def Patches (request : Request) : Prop :=
  Request.patchStatus (ClusterObject.collection OperatorResource "")
    fixed.settings.operatorName (request.body.getD .null) = .ok request

def Reads (request : Request) : Prop :=
  Request.read fixed.collection fixed.wanted.metadata.anyName = .ok request

/--
What a write of the Deployment or of the status makes of what a cluster keeps.
-/
inductive Effect (before : Upkeep) (request : Request) : Upkeep → Prop where
  | created
      (generation : Int64)
      (asked : fixed.Creates request)
      (absent : before.deployment = none) :
      Effect before request
        { before with
          deployment := some (.ofBody (request.body.getD .null) generation) }
  | replaced
      (generation : Int64)
      (asked : fixed.Replaces request)
      (present : before.deployment.isSome) :
      Effect before request
        { before with
          deployment := some (.ofBody (request.body.getD .null) generation) }
  | patched
      (asked : fixed.Patches request) :
      Effect before request
        { before with records := recordsOfBody (request.body.getD .null) }

/-- A cluster serves a request. -/
structure Served
    (before : Upkeep)
    (exchange : Exchange)
    (after : Upkeep) : Prop where
  changes :
    after = before ∨
      (exchange.channel = .objects ∧ fixed.Effect before exchange.request after)
  effective :
    fixed.Creates exchange.request ∨ fixed.Replaces exchange.request ∨
        fixed.Patches exchange.request →
      exchange.answer.IsAccepted → fixed.Effect before exchange.request after
  operator : Findings.operatorRequest fixed.settings = .ok exchange.request →
    ∀ operator, exchange.answer.decode OperatorResource.ofDatum? =
      .ok operator →
      operator.spec = fixed.spec ∧ (operator.status.getD {}).generations =
        before.records
  nodes : nodesRequest fixed.rendered.nodeSelector = .ok exchange.request →
    ∀ nodes, exchange.answer.decode (Client.itemsOfDatum? Node.ofDatum?) =
      .ok nodes →
      nodes = fixed.nodes
  deployment :
    fixed.Reads exchange.request ∨ fixed.Creates exchange.request ∨
        fixed.Replaces exchange.request →
      ∀ object, exchange.answer.decode Deployment.ofDatum? = .ok object →
        ∃ live ∈ after.deployment, live.Shows object

/-! ## Runs -/

/--
Somebody edits the specification of the live Deployment.  An edit that is
timely is made while a generation is recorded that is not above the live one.
-/
inductive Edit (timely : Prop) (before : Upkeep) : Upkeep → Prop where
  | edited
      (live : LiveDeployment)
      (spec : Option Value)
      (generation : Int64)
      (present : before.deployment = some live)
      (raises : live.generation < generation)
      (recorded : timely → ∃ known, fixed.recorded? before = some known ∧
          known ≤ live.generation) :
      Edit timely before
        { before with deployment := some { live with spec, generation } }

/-- A cluster serves requests one after another, with edits in between. -/
inductive Serves (Edits : Upkeep → Upkeep → Prop) :
    Upkeep → List Exchange → Upkeep → Prop where
  | done (upkeep : Upkeep) : Serves Edits upkeep [] upkeep
  | served
      (first : fixed.Served before exchange middle)
      (rest : Serves Edits middle exchanges after) :
      Serves Edits before (exchange :: exchanges) after
  | edited
      (edit : Edits before middle)
      (rest : Serves Edits middle exchanges after) :
      Serves Edits before exchanges after

/--
A run starts without a Deployment and with any records, and is made of cycles,
whatever becomes of them, and of edits.
-/
inductive Reachable (timely : Prop) : Upkeep → Prop where
  | start (records : List GenerationRecord) : Reachable timely { records }
  | cycle
      (reached : Reachable timely before)
      (trace :
        (Step.sync fixed.settings fixed.templates).Traces exchanges result)
      (serves : fixed.Serves (fixed.Edit timely) before exchanges after) :
      Reachable timely after
  | edit
      (reached : Reachable timely before)
      (edited : fixed.Edit timely before after) :
      Reachable timely after

end Circumstances

/-! ## What bodies carry -/

/--
A body that carries a Deployment makes a cluster keep its names, its entries and
its content.
-/
theorem LiveDeployment.ofBody_toValue
    (object : Deployment)
    (generation : Int64) :
    ofBody object.toValue generation =
      ⟨object.metadata.name, object.metadata.generateName,
        object.metadata.namespaceName, object.metadata.labels,
        object.metadata.annotations, generation,
        (object.spec.map DeploymentSpec.toValue).map Value.sorted⟩ := by
  have texts (entries : Option TextMap) :
      ((entries.map Value.ofTextMap).bind fun value =>
        Datum.textMap? (.ofValue value)) =
        entries := by
    cases entries with
    | none => rfl
    | some entries => exact Datum.textMap?_ofValue entries
  have text (value : Option String) : (value.map Value.text).bind Value.text? =
      value := by
    cases value <;> rfl
  simp [ofBody, Value.metadataMember?, Deployment.toValue, ObjectMeta.toValue,
    Value.member?, lookup_append, lookup_field, lookup_optionalField,
    texts, text]

theorem recordsOfBody_statusPatch
    (operator : OperatorResource)
    (status : OperatorStatus) :
    recordsOfBody (operator.statusPatch status) = status.generations := by
  simp [recordsOfBody, OperatorResource.statusPatch, OperatorStatus.toValue,
    Value.member?, lookup_append, lookup_field, lookup_optionalField,
    Datum.listOf?_ofValue GenerationRecord.ofDatum?_ofValue]

/-! ## Effects of requests -/

namespace Circumstances

variable {fixed : Circumstances} {before after : Upkeep} {request : Request}

theorem Effect.method_ne_get (effect : fixed.Effect before request after) :
    request.method ≠ .get := by
  cases effect with
  | created generation asked absent => simp [(Request.of_create asked).1]
  | replaced generation asked present => simp [(Request.of_replace asked).1]
  | patched asked => simp [(Request.of_patchStatus asked).1]

/--
A request that is no patch can only change the Deployment, to the one that its
body carries.
-/
theorem Effect.of_method_ne_patch
    (effect : fixed.Effect before request after)
    (other : request.method ≠ .patch) :
    (request.method = .post → before.deployment = none) ∧
      ∃ generation,
        after = { before with
          deployment :=
              some (.ofBody (request.body.getD .null) generation) } := by
  cases effect with
  | created generation asked absent => exact ⟨fun _ => absent, generation, rfl⟩
  | replaced generation asked present =>
      exact ⟨by simp [(Request.of_replace asked).1], generation, rfl⟩
  | patched asked => exact absurd (Request.of_patchStatus asked).1 other

theorem Effect.of_method_eq_patch
    (effect : fixed.Effect before request after)
    (patches : request.method = .patch) :
    after = { before with
        records := recordsOfBody (request.body.getD .null) } := by
  cases effect with
  | created generation asked absent =>
      simp [(Request.of_create asked).1] at patches
  | replaced generation asked present =>
      simp [(Request.of_replace asked).1] at patches
  | patched asked => rfl

/--
A request to a collection of admission hooks has no effect on what is kept.
-/
theorem Effect.not_admission
    (effect : fixed.Effect before request after)
    (other : request.method ≠ .patch) :
    ¬ "/apis/admission".toList <+: request.address.path.toList := by
  intro admission
  have collection : "/apis/apps/v1/na".toList <+: fixed.collection.toList := by
    have start : "/apis/apps/v1/na".toList <+:
      "/apis/apps/v1/namespaces/".toList := by decide
    show _ <+: (_ ++ _ ++ _ : String).toList
    rw [String.toList_append, String.toList_append, List.append_assoc]
    exact start.trans (List.prefix_append _ _)
  have apps : "/apis/apps/v1/na".toList <+: request.address.path.toList := by
    cases effect with
    | created generation asked absent =>
        exact Request.create_begins asked collection (by decide)
    | replaced generation asked present =>
        exact Request.replace_begins asked collection (by decide)
    | patched asked => exact absurd (Request.of_patchStatus asked).1 other
  exact absurd (List.prefix_of_prefix_length_le admission apps (by decide))
    (by decide)

/-! ## Requests without effect -/

/-- An exchange leaves what is kept as it is. -/
def Idle (fixed : Circumstances) (exchange : Exchange) : Prop :=
  ∀ before after, exchange.channel = .objects →
    ¬ fixed.Effect before exchange.request after

theorem Served.eq_of_idle
    {exchange : Exchange}
    (served : fixed.Served before exchange after)
    (idle : fixed.Idle exchange) : after = before := by
  rcases served.changes with unchanged | ⟨about, effect⟩
  · exact unchanged
  · exact absurd effect (idle before after about)

theorem idle_of_get
    {exchange : Exchange}
    (reads : exchange.request.method = .get) : fixed.Idle exchange :=
  fun _ _ _ effect => effect.method_ne_get reads

/--
Neither an event nor a write of the registration has an effect on what is kept.
-/
theorem idle_of_writes_registration
    {report : Report}
    {name : String}
    {plan : ApplyPlan Registration}
    {written : Registration}
    (writes : report.Writes "" name plan written) :
    ∀ exchange ∈ report.exchanges, fixed.Idle exchange := by
  rcases writes with ⟨events, request, asked, outcome, call, _⟩
  intro exchange member
  rcases List.mem_append.1 member with sent | told
  · generalize report.sent = exchanges at call sent
    cases call with
    | unbuildable fault unbuilt => cases sent
    | answered request answer built =>
        rcases List.mem_singleton.1 sent with rfl
        subst built
        cases plan with
        | create object =>
            have built := Option.some.inj asked
            refine fun _ _ _ effect => effect.not_admission ?_ ?_
            · simp [(Request.of_create built).1]
            · exact Request.create_begins built ⟨_, rfl⟩ (by decide)
        | keep live => cases asked
        | replace object =>
            have built := Option.some.inj asked
            refine fun _ _ _ effect => effect.not_admission ?_ ?_
            · simp [(Request.of_replace built).1]
            · exact Request.replace_begins built ⟨_, rfl⟩ (by decide)
  · intro _ _ about
    cases about.symm.trans (events exchange told)

/-- The steps that write neither the Deployment nor the status are idle. -/
theorem idle_of_explains
    {settings : Settings}
    {templates : Templates}
    {findings : Findings}
    {report : Report}
    (explained : findings.Explains settings templates report)
    (deployment : report.stage ≠ .writeDeployment)
    (status : report.stage ≠ .writeStatus) :
    ∀ exchange ∈ report.exchanges, fixed.Idle exchange := by
  by_cases quiet : report.stage ∈ quietStages
  · exact fun exchange member =>
      idle_of_get (explained.reads quiet exchange member).2
  · have stage : report.stage = .writeRegistration := by
      cases stage : report.stage <;> simp_all [quietStages]
    simp only [Findings.Explains, stage] at explained
    exact idle_of_writes_registration explained

/-! ## Serving one request after another -/

section Serves

open Relation

variable {Edits : Upkeep → Upkeep → Prop} {first second : List Exchange}

theorem Serves.of_nil (serves : fixed.Serves Edits before [] after) :
    ReflTransGen Edits before after := by
  generalize none : ([] : List Exchange) = exchanges at serves
  induction serves with
  | done upkeep => exact .refl
  | served first rest ih => cases none
  | edited edit rest ih => exact .head edit (ih none)

theorem Serves.of_append
    (serves : fixed.Serves Edits before (first ++ second) after) :
    ∃ middle, fixed.Serves Edits before first middle ∧
        fixed.Serves Edits middle second after := by
  generalize whole : first ++ second = exchanges at serves
  induction serves generalizing first with
  | done upkeep =>
      rcases List.append_eq_nil_iff.1 whole with ⟨rfl, rfl⟩
      exact ⟨upkeep, .done upkeep, .done upkeep⟩
  | served head rest ih =>
      cases first with
      | nil =>
          subst whole
          exact ⟨_, .done _, .served head rest⟩
      | cons exchange others =>
          rcases List.cons.inj whole with ⟨rfl, tail⟩
          rcases ih tail with ⟨middle, left, right⟩
          exact ⟨middle, .served head left, right⟩
  | edited edit rest ih =>
      rcases ih whole with ⟨middle, left, right⟩
      exact ⟨middle, .edited edit left, right⟩

theorem Serves.of_cons
    {exchange : Exchange}
    (serves : fixed.Serves Edits before (exchange :: second) after) :
    ∃ reached left, ReflTransGen Edits before reached ∧
      fixed.Served reached exchange left ∧
      fixed.Serves Edits left second after := by
  generalize whole : exchange :: second = exchanges at serves
  induction serves with
  | done upkeep => cases whole
  | served head rest ih =>
      rcases List.cons.inj whole with ⟨rfl, rfl⟩
      exact ⟨_, _, .refl, head, rest⟩
  | edited edit rest ih =>
      rcases ih whole with ⟨reached, left, edits, served, others⟩
      exact ⟨reached, left, .head edit edits, served, others⟩

theorem Serves.of_idle
    {exchanges : List Exchange}
    (serves : fixed.Serves Edits before exchanges after)
    (idle : ∀ exchange ∈ exchanges, fixed.Idle exchange) :
    ReflTransGen Edits before after := by
  induction serves with
  | done upkeep => exact .refl
  | served head rest ih =>
      rcases List.forall_mem_cons.1 idle with ⟨own, others⟩
      rw [← head.eq_of_idle own]
      exact ih others
  | edited edit rest ih => exact .head edit (ih idle)

theorem Serves.mono
    {Others : Upkeep → Upkeep → Prop}
    {exchanges : List Exchange}
    (serves : fixed.Serves Edits before exchanges after)
    (within : ∀ before after, Edits before after → Others before after) :
    fixed.Serves Others before exchanges after := by
  induction serves with
  | done upkeep => exact .done upkeep
  | served first rest ih => exact .served first ih
  | edited edit rest ih => exact .edited (within _ _ edit) ih

end Serves

/-! ## Runs with fewer edits -/

theorem Edit.mono
    {timely other : Prop}
    (edit : fixed.Edit timely before after)
    (implies : other → timely) : fixed.Edit other before after := by
  cases edit with
  | edited live spec generation present raises recorded =>
      exact .edited live spec generation present raises fun held =>
        recorded (implies held)

theorem Reachable.mono
    {timely other : Prop}
    (reached : fixed.Reachable timely before)
    (implies : other → timely) : fixed.Reachable other before := by
  induction reached with
  | start records => exact .start records
  | cycle _ trace serves ih =>
      exact .cycle ih trace (serves.mono fun _ _ edit => edit.mono implies)
  | edit _ edited ih => exact .edit ih (edited.mono implies)

end Circumstances

/-! ## Checking what is served -/

section Checking

variable {fixed : Circumstances} {before after : Upkeep} {request : Request}

theorem LiveDeployment.shows_iff
    {live : LiveDeployment}
    {object : Deployment} :
    live.Shows object ↔
      object.metadata.name = live.name ∧
        object.metadata.generateName = live.generateName ∧
        object.metadata.namespaceName = live.namespaceName ∧
        object.metadata.labels = live.labels ∧
          object.metadata.annotations = live.annotations ∧
        object.metadata.generation = some live.generation := by
  constructor
  · intro shows
    exact ⟨shows.name, shows.generateName, shows.namespaceName, shows.labels,
      shows.annotations, shows.generation⟩
  · rintro ⟨name, generateName, namespaceName, labels, annotations, generation⟩
    exact ⟨name, generateName, namespaceName, labels, annotations, generation⟩

instance {live : LiveDeployment} {object : Deployment} :
    Decidable (live.Shows object) :=
  decidable_of_iff _ LiveDeployment.shows_iff.symm

instance {answer : Answer} : Decidable answer.IsAccepted :=
  match answer with
  | .unreachable _ => isFalse nofun
  | .reply reply =>
      decidable_of_iff (reply.refuses = false)
        ⟨fun accepts => ⟨reply, rfl, accepts⟩,
          fun ⟨_, same, accepts⟩ => Answer.reply.inj same ▸ accepts⟩

namespace Circumstances

instance : Decidable (fixed.Creates request) :=
  inferInstanceAs (Decidable (_ = _))

instance : Decidable (fixed.Replaces request) :=
  inferInstanceAs (Decidable (_ = _))

instance : Decidable (fixed.Patches request) :=
  inferInstanceAs (Decidable (_ = _))

instance : Decidable (fixed.Reads request) :=
  inferInstanceAs (Decidable (_ = _))

theorem effect_iff :
    fixed.Effect before request after ↔
      (fixed.Patches request ∧
          after = { before with
            records := recordsOfBody (request.body.getD .null) }) ∨
        (fixed.Creates request ∧ before.deployment = none ∨
            fixed.Replaces request ∧ before.deployment.isSome) ∧
          ∃ live ∈ after.deployment,
            after = { before with
              deployment :=
                  some (.ofBody (request.body.getD .null)
                      live.generation) } := by
  constructor
  · intro effect
    cases effect with
    | created generation asked absent =>
        exact .inr ⟨.inl ⟨asked, absent⟩, _, rfl, rfl⟩
    | replaced generation asked present =>
        exact .inr ⟨.inr ⟨asked, present⟩, _, rfl, rfl⟩
    | patched asked => exact .inl ⟨asked, rfl⟩
  · rintro (⟨asked, same⟩ | ⟨⟨asked, absent⟩ | ⟨asked, present⟩, live, _, same⟩)
    · exact same ▸ .patched asked
    · exact same ▸ .created live.generation asked absent
    · exact same ▸ .replaced live.generation asked present

instance : Decidable (fixed.Effect before request after) :=
  decidable_of_iff _ effect_iff.symm

theorem served_iff {exchange : Exchange} :
    fixed.Served before exchange after ↔
      (after = before ∨
          (exchange.channel = .objects ∧
            fixed.Effect before exchange.request after)) ∧
        (fixed.Creates exchange.request ∨ fixed.Replaces exchange.request ∨
            fixed.Patches exchange.request →
          exchange.answer.IsAccepted →
            fixed.Effect before exchange.request after) ∧
        (Findings.operatorRequest fixed.settings = .ok exchange.request →
          ∀ operator, exchange.answer.decode OperatorResource.ofDatum? =
            .ok operator →
            operator.spec = fixed.spec ∧
              (operator.status.getD {}).generations = before.records) ∧
        (nodesRequest fixed.rendered.nodeSelector = .ok exchange.request →
          ∀ nodes, exchange.answer.decode (Client.itemsOfDatum? Node.ofDatum?) =
            .ok nodes →
            nodes = fixed.nodes) ∧
        (fixed.Reads exchange.request ∨ fixed.Creates exchange.request ∨
            fixed.Replaces exchange.request →
          ∀ object, exchange.answer.decode Deployment.ofDatum? = .ok object →
            ∃ live ∈ after.deployment, live.Shows object) := by
  constructor
  · intro served
    exact ⟨served.changes, served.effective, served.operator, served.nodes,
      served.deployment⟩
  · rintro ⟨changes, effective, operator, nodes, deployment⟩
    exact ⟨changes, effective, operator, nodes, deployment⟩

instance {exchange : Exchange} :
    Decidable (fixed.Served before exchange after) :=
  decidable_of_iff _ served_iff.symm

theorem edit_iff {timely : Prop} :
    fixed.Edit timely before after ↔
      ∃ live ∈ before.deployment, ∃ later ∈ after.deployment,
        live.generation < later.generation ∧
          after = { before with
            deployment := some { live with
              spec := later.spec, generation := later.generation } } ∧
          (timely → ∃ known ∈ fixed.recorded? before,
              known ≤ live.generation) := by
  constructor
  · intro edit
    cases edit with
    | edited live spec generation present raises recorded =>
        exact ⟨live, present, _, rfl, raises, rfl, recorded⟩
  · rintro ⟨live, present, later, _, raises, same, recorded⟩
    exact same ▸ .edited live later.spec later.generation present raises
      recorded

instance {timely : Prop} [Decidable timely] :
    Decidable (fixed.Edit timely before after) :=
  decidable_of_iff _ edit_iff.symm

end Circumstances

end Checking

/-! ## Servers -/

namespace Circumstances

variable {fixed : Circumstances}

/--
What a store keeps of the Deployment and of the status of the operator resource.
-/
def kept (fixed : Circumstances) (store : Store) : Upkeep where
  records :=
    ((store.find? (ClusterObject.collection OperatorResource "" ++ "/" ++
      fixed.settings.operatorName)).map recordsOfBody).getD []
  deployment :=
    (store.find? (fixed.collection ++ "/" ++ fixed.wanted.metadata.anyName)).map
        fun object =>
      .ofBody object (.ofInt object.generation)

/-- A server serves every request of a program. -/
def Attends (fixed : Circumstances) : Program α → Server → Prop
  | .done _, _ => True
  | .ask channel request next, server =>
      let (answer, after) := server.answer request
      fixed.Served (fixed.kept server.store) ⟨channel, request, answer⟩
        (fixed.kept after.store) ∧
        Attends fixed (next answer) after
  | .now next, server => Attends fixed (next server.clock) server
  | .pause seconds next, server =>
      Attends fixed next (Server.host.wait server seconds)

instance decidableAttends : (program : Program α) → (server : Server) →
    Decidable (fixed.Attends program server)
  | .done _, _ => isTrue trivial
  | .ask _ request next, server =>
      @instDecidableAnd _ _ (inferInstanceAs (Decidable (fixed.Served _ _ _)))
        (decidableAttends (next (server.answer request).1)
          (server.answer request).2)
  | .now next, server => decidableAttends (next server.clock) server
  | .pause seconds next, server =>
      decidableAttends next (Server.host.wait server seconds)

/-- What a program asks a server that attends it is served. -/
theorem Attends.serves
    {Edits : Upkeep → Upkeep → Prop}
    {program : Program α}
    {server : Server}
    (attends : fixed.Attends program server) :
    fixed.Serves Edits (fixed.kept server.store)
      (program.exchanges Server.host server)
      (fixed.kept (server.run program).2.store) := by
  induction program generalizing server with
  | done result => exact .done _
  | ask channel request next ih => exact .served attends.1 (ih _ attends.2)
  | now next ih => exact ih _ attends
  | pause seconds next ih => exact ih attends

end Circumstances

end HookKeeper
