import HookKeeper.Proofs.SteadyState

/-!
# Quiescence

A cycle that has synchronized leaves nothing to do for the next one.  As long
as nobody else changes the cluster, the next cycle finds the objects it wants,
the generations it recorded and the conditions it would set, so it only reads.
-/

namespace HookKeeper

open HookKeeper.Manifest

/-! ## Passing the steps of a quiet cycle -/

theorem Stop.ofOperator_eq_ok_iff
    {found : Except ApiError (Option OperatorResource)}
    {operator : OperatorResource} :
    Stop.ofOperator found = .ok operator ↔
      found = .ok (some operator) ∧
          operator.spec.managementState = .managed := by
  rcases found with cause | _ | present
  · simp [ofOperator]
  · simp [ofOperator]
  · by_cases managed : present.spec.managementState = .managed
    · simp only [ofOperator, if_pos managed, Except.ok.injEq, Option.some.injEq]
      constructor
      · rintro rfl
        exact ⟨rfl, managed⟩
      · exact And.left
    · simp only [ofOperator, if_neg managed, Except.ok.injEq, Option.some.injEq]
      constructor
      · intro same
        cases same
      · rintro ⟨rfl, held⟩
        exact absurd held managed

namespace Report

/-- A step whose request cannot be built ends the cycle. -/
theorem Asks.built
    {report : Report}
    {request : Except RequestFault Request}
    {read : Datum → Option β}
    {settle : Except ApiError β → Except Stop γ}
    {value : γ}
    (asks : report.Asks request read settle value)
    (passed : report.stop = none)
    (fails : ∀ fault, settle (.error (.unbuildable fault)) ≠ .ok value) :
    ∃ sent, request = .ok sent := by
  rcases asks.answered passed fails with ⟨exchange, _, built, _⟩
  exact ⟨exchange.request, built⟩

/--
A step is passed when its answer settles it, and finds what the answer says.
-/
theorem Asks.pass
    {report : Report}
    {request : Except RequestFault Request}
    {read : Datum → Option β}
    {settle : Except ApiError β → Except Stop γ}
    {value : γ}
    (asks : report.Asks request read settle value)
    (buildable : ∃ sent, request = .ok sent)
    (Finds : γ → Prop)
    (answered : ∀ exchange ∈ report.exchanges, request = .ok exchange.request →
        ∃ found, settle (exchange.answer.decode read) = .ok found ∧
        Finds found) :
    report.stop = none ∧ Finds value := by
  rcases report with ⟨stage, asked, told, ending⟩
  rcases asks with ⟨outcome, call, settled⟩
  cases call with
  | unbuildable fault unbuilt =>
      rcases buildable with ⟨sent, built⟩
      cases unbuilt.symm.trans built
  | answered sent answer built =>
      rcases answered ⟨.objects, sent, answer⟩ (by simp [exchanges]) built with
        ⟨found, answers, finds⟩
      have same := answers.symm.trans settled
      cases ending with
      | none =>
          cases same
          exact ⟨rfl, finds⟩
      | some stop => cases same

theorem Renders.pass
    {report : Report}
    {rendered : Except OperatorError β}
    {value given : β}
    (renders : report.Renders rendered value)
    (succeeds : rendered = .ok given) : report.stop = none ∧ value = given := by
  have same := renders.2.2
  subst succeeds
  cases stop : report.stop with
  | none =>
      rw [verdict, stop] at same
      cases same
      exact ⟨rfl, rfl⟩
  | some stop =>
      rw [verdict, stop] at same
      cases same

theorem Renders.succeeds
    {report : Report}
    {rendered : Except OperatorError β}
    {value : β}
    (renders : report.Renders rendered value)
    (passed : report.stop = none) : rendered = .ok value := by
  have same := renders.2.2
  rw [verdict, passed] at same
  cases rendered with
  | error error => cases same
  | ok given =>
      cases same
      rfl

theorem Asks.of_mem
    {report : Report}
    {request : Except RequestFault Request}
    {read : Datum → Option β}
    {settle : Except ApiError β → Except Stop γ}
    {value : γ}
    (asks : report.Asks request read settle value)
    (silent : report.told = [])
    {exchange : Exchange}
    (member : exchange ∈ report.exchanges) :
    exchange.channel = .objects ∧ request = .ok exchange.request := by
  rcases asks with ⟨outcome, call, _⟩
  rw [exchanges, silent, List.append_nil] at member
  generalize report.sent = sent at call member
  cases call with
  | unbuildable fault unbuilt => cases member
  | answered sent answer built =>
      rcases List.mem_singleton.1 member with rfl
      exact ⟨rfl, built⟩

end Report

namespace Course

variable {Explained : Report → Prop}

theorem with_all
    {due : List Stage}
    {reports : List Report}
    {stop : Option Stop}
    (course : Course Explained due reports stop)
    (Other : Report → Prop)
    (all : ∀ report ∈ reports, Other report) :
    Course (fun report => Explained report ∧
        Other report) due reports stop := by
  induction course with
  | finished => exact .finished
  | stopped report stop due explained ends =>
      exact .stopped report stop due ⟨explained,
        all report List.mem_cons_self⟩ ends
  | passed report explained passes rest ih =>
      exact .passed report ⟨explained, all report List.mem_cons_self⟩ passes
        (ih fun other member => all other (List.mem_cons_of_mem _ member))

/-- A step that is passed whenever it is taken is followed by the others. -/
theorem pass
    {stage : Stage}
    {due : List Stage}
    {reports : List Report}
    {stop : Option Stop}
    (course : Course Explained (stage :: due) reports stop)
    {Found : Prop}
    (passes : ∀ report, report.stage = stage → Explained report →
        report.stop = none ∧ Found) :
    Found ∧ ∃ others, Course Explained due others stop := by
  rcases course.of_cons with ⟨report, others, _, own, explained, continues⟩
  rcases passes report own explained with ⟨passed, found⟩
  rcases continues with ⟨same, ended, _⟩ | ⟨_, rest⟩
  · rw [← same, passed] at ended
    cases ended
  · exact ⟨found, others, rest⟩

end Course

/-- The stages of a cycle that only reads. -/
def quietStages : List Stage :=
  [.readOperator, .renderDeployment, .listNodes, .readDeployment,
    .renderRegistration, .readRegistration, .rereadOperator]

/-- The steps of a cycle that only reads send nothing but reads. -/
theorem Findings.Explains.reads
    {settings : Settings}
    {templates : Templates}
    {findings : Findings}
    {report : Report}
    (explained : findings.Explains settings templates report)
    (quiet : report.stage ∈ quietStages) :
    ∀ exchange ∈ report.exchanges,
      exchange.channel = .objects ∧ exchange.request.method = .get := by
  cases stage : report.stage <;> simp only [Explains, stage] at explained
  case renderDeployment | renderRegistration =>
    simp [Report.exchanges, explained.1, explained.2.1]
  case writeDeployment | writeRegistration | writeStatus =>
    rw [stage] at quiet
    exact absurd quiet (by decide)
  case listNodes =>
    intro exchange member
    rcases explained.2.of_mem explained.1 member with ⟨about, sent⟩
    exact ⟨about, (Request.of_list sent).1⟩
  case readOperator | readDeployment | readRegistration | rereadOperator =>
    intro exchange member
    rcases explained.2.of_mem explained.1 member with ⟨about, sent⟩
    exact ⟨about, (Request.of_read sent).1⟩

/-- A step that was passed had a request that could be built, if it has one. -/
theorem Findings.Explains.built
    {settings : Settings}
    {templates : Templates}
    {findings : Findings}
    {report : Report}
    (explained : findings.Explains settings templates report)
    (passed : report.stop = none)
    {request : Except RequestFault Request}
    (asked : findings.request? settings report.stage = some request) :
    ∃ sent, request = .ok sent := by
  cases stage : report.stage <;> simp only [Explains, stage] at explained <;>
    rw [stage] at asked
  case renderDeployment | renderRegistration => cases asked
  case readOperator | listNodes | readDeployment | readRegistration
      | rereadOperator | writeStatus =>
    cases asked
    exact explained.2.built passed fun _ same => by cases same
  case writeDeployment | writeRegistration =>
    rcases explained with ⟨_, request, planned, asks⟩
    cases planned.symm.trans asked
    exact asks.built passed fun _ same => by cases same

/-! ## The cycle after a synchronized one -/

instance decidableForallOk
    {result : Except ε β}
    {Holds : β → Prop}
    [DecidablePred Holds] :
    Decidable (∀ value, result = .ok value → Holds value) :=
  match result with
  | .error _ => isTrue nofun
  | .ok value =>
      decidable_of_iff (Holds value)
        ⟨fun holds _ same => Except.ok.inj same ▸ holds,
          fun all => all value rfl⟩

def Answer.Shows
    (answer : Answer)
    (read : Datum → Option β)
    (Holds : β → Prop) : Prop :=
  ∃ object, answer.decode read = .ok object ∧ Holds object

instance
    {answer : Answer}
    {read : Datum → Option β}
    {Holds : β → Prop}
    [DecidablePred Holds] :
    Decidable (answer.Shows read Holds) :=
  match decoded : answer.decode read with
  | .error _ => isFalse fun ⟨_, same, _⟩ => nomatch decoded.symm.trans same
  | .ok object =>
      decidable_of_iff (Holds object)
        ⟨fun holds => ⟨object, decoded, holds⟩,
          fun ⟨_, same, holds⟩ =>
            Except.ok.inj (decoded.symm.trans same) ▸ holds⟩

namespace Findings

variable (settings : Settings) (findings : Findings)

/--
The live objects are still what the cycle left, the Deployment in the wanted
namespace.
-/
structure Retained : Prop where
  deployment :
    findings.deploymentPlan.Retained findings.wanted.stamped findings.deployment
  namespaceName :
    findings.deployment.metadata.namespaceName =
      findings.wanted.metadata.namespaceName
  registration :
    findings.registrationPlan.Retained findings.hooks findings.registration

/--
An exchange shows that nobody changed the cluster since a cycle with these
findings: the operator resource asks for the same and has the status that was
written, the nodes give the same number of pods, and the live objects are those
that the applies returned.
-/
structure Undisturbed (exchange : Exchange) : Prop where
  operator : operatorRequest settings = .ok exchange.request →
    exchange.answer.Shows OperatorResource.ofDatum? fun operator =>
      operator.spec = findings.operator.spec ∧
        operator.status.getD {} = findings.change.after
  nodes : nodesRequest findings.rendered.nodeSelector = .ok exchange.request →
    exchange.answer.Shows (Client.itemsOfDatum? Node.ofDatum?) fun nodes =>
      Sizing.replicas findings.rendered.nodeSelector nodes =
        Sizing.replicas findings.rendered.nodeSelector findings.nodes
  deployment :
    Request.read (ClusterObject.collection Deployment findings.namespaceName)
        findings.wanted.metadata.anyName = .ok exchange.request →
      exchange.answer.Shows Deployment.ofDatum? fun live =>
        live = findings.deployment
  registration :
    Request.read (ClusterObject.collection Registration "")
      findings.hooks.metadata.anyName =
        .ok exchange.request →
      exchange.answer.Shows Registration.ofDatum? fun live =>
        live = findings.registration

end Findings

namespace Account

variable {settings : Settings} {templates : Templates} {findings : Findings}
  {reports : List Report} {stop : Option Stop} {exchanges : List Exchange}
  {result : Except OperatorError SyncOutcome}

theorem taken
    (account :
      Account settings templates findings reports none exchanges result)
    (stage : Stage)
    (due : stage ∈ findings.stages) :
    ∃ report, report.stage = stage ∧ report.stop = none ∧
      findings.Explains settings templates report := by
  rcases account.course.complete rfl with ⟨complete, passed⟩
  rw [← complete] at due
  rcases List.mem_map.1 due with ⟨report, member, rfl⟩
  exact ⟨report, rfl, passed report member,
    account.course.explained report member⟩

theorem stop_eq_none
    (account :
      Account settings templates findings reports stop exchanges result)
    {deploymentChanged registrationChanged : Bool}
    (synced : result = .ok (.synced deploymentChanged registrationChanged)) :
    stop = none := by
  have same := account.result_eq.symm.trans synced
  cases stop with
  | none => rfl
  | some stop => cases stop <;> cases same

theorem buildable
    (account :
      Account settings templates findings reports none exchanges result)
    (stage : Stage)
    (due : stage ∈ findings.stages)
    {request : Except RequestFault Request}
    (asked : findings.request? settings stage = some request) :
    ∃ sent, request = .ok sent := by
  rcases account.taken _ due with ⟨report, rfl, passed, explained⟩
  exact explained.built passed asked

theorem managed
    (account :
        Account settings templates findings reports none exchanges result) :
    findings.operator.spec.managementState = .managed := by
  rcases account.taken .readOperator (by simp [Findings.stages]) with
    ⟨report, stage, passed, explained⟩
  simp only [Findings.Explains, stage] at explained
  rcases explained with ⟨_, outcome, _, settled⟩
  have found : Stop.ofOperator (Client.presence outcome) =
      .ok findings.operator := by
    simpa only [Report.verdict, passed] using settled
  exact (Stop.ofOperator_eq_ok_iff.1 found).2

theorem rendered
    (account :
        Account settings templates findings reports none exchanges result) :
    renderDeployment templates.deployment settings.image
      findings.operator.spec.logLevel =
        .ok findings.rendered ∧
      renderRegistration templates.registration = .ok findings.hooks := by
  rcases account.taken .renderDeployment (by simp [Findings.stages]) with
    ⟨first, stage, passed, deployment⟩
  simp only [Findings.Explains, stage] at deployment
  rcases account.taken .renderRegistration (by simp [Findings.stages]) with
    ⟨second, stage, ended, registration⟩
  simp only [Findings.Explains, stage] at registration
  exact ⟨deployment.succeeds passed, registration.succeeds ended⟩

/-! The steps of the next cycle, given what its earlier steps have found. -/

variable {others : Findings} {report : Report}

theorem quiet_readOperator
    (account :
      Account settings templates findings reports none exchanges result)
    (explained : others.Explains settings templates report)
    (stage : report.stage = .readOperator)
    (undisturbed : ∀ exchange ∈ report.exchanges,
        findings.Undisturbed settings exchange) :
    report.stop = none ∧ others.operator.spec = findings.operator.spec ∧
      others.operator.status.getD {} = findings.change.after := by
  simp only [Findings.Explains, stage] at explained
  refine explained.2.pass
    (account.buildable .readOperator (by simp [Findings.stages]) rfl)
    (fun operator =>
      operator.spec = findings.operator.spec ∧
        operator.status.getD {} = findings.change.after)
    fun exchange member sent => ?_
  rcases (undisturbed exchange member).operator sent with
    ⟨operator, decoded, spec, status⟩
  refine ⟨operator, ?_, spec, status⟩
  rw [decoded]
  exact Stop.ofOperator_eq_ok_iff.2 ⟨rfl, spec ▸ account.managed⟩

theorem quiet_renderDeployment
    (account :
      Account settings templates findings reports none exchanges result)
    (explained : others.Explains settings templates report)
    (stage : report.stage = .renderDeployment)
    (spec : others.operator.spec = findings.operator.spec) :
    report.stop = none ∧ others.rendered = findings.rendered := by
  simp only [Findings.Explains, stage, spec] at explained
  exact explained.pass account.rendered.1

theorem quiet_listNodes
    (account :
      Account settings templates findings reports none exchanges result)
    (explained : others.Explains settings templates report)
    (stage : report.stage = .listNodes)
    (undisturbed : ∀ exchange ∈ report.exchanges,
      findings.Undisturbed settings exchange)
    (rendered : others.rendered = findings.rendered) :
    report.stop = none ∧ others.wanted = findings.wanted := by
  simp only [Findings.Explains, stage, rendered] at explained
  have passed :=
    explained.2.pass
      (account.buildable .listNodes (by simp [Findings.stages]) rfl)
    (fun nodes => Sizing.replicas findings.rendered.nodeSelector nodes =
      Sizing.replicas findings.rendered.nodeSelector findings.nodes)
    fun exchange member sent => by
      rcases (undisturbed exchange member).nodes sent with
        ⟨nodes, decoded, size⟩
      exact ⟨nodes, by rw [decoded]; rfl, size⟩
  refine ⟨passed.1, ?_⟩
  rw [Findings.wanted, Findings.wanted, rendered, passed.2]

theorem quiet_readDeployment
    (account :
      Account settings templates findings reports none exchanges result)
    (explained : others.Explains settings templates report)
    (stage : report.stage = .readDeployment)
    (undisturbed : ∀ exchange ∈ report.exchanges,
      findings.Undisturbed settings exchange)
    (wanted : others.wanted = findings.wanted) :
    report.stop = none ∧ others.foundDeployment = some findings.deployment := by
  simp only [Findings.Explains, stage, Findings.namespaceName,
    wanted] at explained
  refine explained.2.pass
    (account.buildable .readDeployment (by simp [Findings.stages]) rfl)
    (fun found => found = some findings.deployment) fun exchange member sent =>
    ?_
  refine ⟨some findings.deployment, ?_, rfl⟩
  rcases (undisturbed exchange member).deployment sent with ⟨_, decoded, rfl⟩
  rw [show exchange.answer.decode
    (ClusterObject.ofDatum? : Datum → Option Deployment) = _ from decoded]
  rfl

theorem quiet_renderRegistration
    (account :
      Account settings templates findings reports none exchanges result)
    (explained : others.Explains settings templates report)
    (stage : report.stage = .renderRegistration) :
    report.stop = none ∧ others.hooks = findings.hooks := by
  simp only [Findings.Explains, stage] at explained
  exact explained.pass account.rendered.2

theorem quiet_readRegistration
    (account :
      Account settings templates findings reports none exchanges result)
    (explained : others.Explains settings templates report)
    (stage : report.stage = .readRegistration)
    (undisturbed : ∀ exchange ∈ report.exchanges,
      findings.Undisturbed settings exchange)
    (hooks : others.hooks = findings.hooks) :
    report.stop = none ∧
        others.foundRegistration = some findings.registration := by
  simp only [Findings.Explains, stage, hooks] at explained
  refine explained.2.pass
    (account.buildable .readRegistration (by simp [Findings.stages]) rfl)
    (fun found => found = some findings.registration)
    fun exchange member sent => ?_
  refine ⟨some findings.registration, ?_, rfl⟩
  rcases (undisturbed exchange member).registration sent with ⟨_, decoded, rfl⟩
  rw [show exchange.answer.decode
    (ClusterObject.ofDatum? : Datum → Option Registration) = _ from decoded]
  rfl

theorem quiet_rereadOperator
    (account :
      Account settings templates findings reports none exchanges result)
    (explained : others.Explains settings templates report)
    (stage : report.stage = .rereadOperator)
    (undisturbed : ∀ exchange ∈ report.exchanges,
        findings.Undisturbed settings exchange) :
    report.stop = none ∧
        others.current.status.getD {} = findings.change.after := by
  simp only [Findings.Explains, stage] at explained
  refine explained.2.pass
    (account.buildable .rereadOperator (by simp [Findings.stages]) rfl)
    (fun operator => operator.status.getD {} = findings.change.after)
    fun exchange member sent => ?_
  rcases (undisturbed exchange member).operator sent with
    ⟨operator, decoded, _, status⟩
  exact ⟨operator, by rw [decoded]; rfl, status⟩

end Account

/-! What the next cycle makes of its findings. -/

section Unchanged

variable {findings others : Findings}

theorem Findings.Retained.deploymentPlan_eq
    (retained : findings.Retained)
    (named : findings.rendered.metadata.name.isSome)
    (wanted : others.wanted = findings.wanted)
    (status : others.operator.status.getD {} = findings.change.after)
    (found : others.foundDeployment = some findings.deployment) :
    others.deploymentPlan = .keep findings.deployment := by
  rcases Option.isSome_iff_exists.1 retained.deployment.generation with
    ⟨generation, known⟩
  have covers :
      findings.deployment.metadata.Covers findings.wanted.stamped.metadata :=
    retained.deployment.covers fun live => rfl
  -- The generation is recorded under the key of the live object, which is that
  -- of the wanted one.
  have key : GenerationKey.ofDeployment findings.wanted =
      .ofDeployment findings.deployment := by
    have name : findings.deployment.metadata.name =
        findings.rendered.metadata.name :=
      retained.deployment.name
    rcases Option.isSome_iff_exists.1 named with ⟨own, same⟩
    have wantedName : findings.wanted.metadata.name = some own := same
    simp [GenerationKey.ofDeployment, ObjectMeta.anyName,
      retained.namespaceName, wantedName, name.trans same]
  have recorded :
      GenerationRecord.expected? others.records
        (.ofDeployment findings.wanted) =
        some generation := by
    rw [records, status, key]
    exact (expected?_statusAfter_deployment _ _ _ _).trans
      (congrArg (Option.or · _) known)
  rw [deploymentPlan, wanted, recorded, found]
  exact ApplyPlan.of_covered known covers

theorem Findings.Retained.registrationPlan_eq
    (retained : findings.Retained)
    (named : findings.hooks.metadata.name.isSome)
    (hooks : others.hooks = findings.hooks)
    (status : others.operator.status.getD {} = findings.change.after)
    (found : others.foundRegistration = some findings.registration) :
    others.registrationPlan = .keep findings.registration := by
  rcases Option.isSome_iff_exists.1 retained.registration.generation with
    ⟨generation, known⟩
  have covers : findings.registration.metadata.Covers findings.hooks.metadata :=
    retained.registration.covers fun live => rfl
  have key : GenerationKey.ofRegistration findings.hooks =
      .ofRegistration findings.registration := by
    have name : findings.registration.metadata.name =
        findings.hooks.metadata.name :=
      retained.registration.name
    rcases Option.isSome_iff_exists.1 named with ⟨own, same⟩
    simp [GenerationKey.ofRegistration, ObjectMeta.anyName, same,
      name.trans same]
  have recorded :
      GenerationRecord.expected? others.records
        (.ofRegistration findings.hooks) =
        some generation := by
    rw [records, status, key]
    exact (expected?_statusAfter_registration _ _ _ _).trans
      (congrArg (Option.or · _) known)
  rw [registrationPlan, hooks, recorded, found]
  exact ApplyPlan.of_covered known covers

theorem Findings.change_unwritten
    (deployment : others.deployment = findings.deployment)
    (registration : others.registration = findings.registration)
    (status : others.current.status.getD {} = findings.change.after) :
    others.change.isWritten = false := by
  have same : others.change.after = others.change.before := by
    simp only [change, OperatorResource.statusChange, deployment, registration,
      status]
    exact statusAfter_statusAfter _ _ _ _ _
  simp [StatusChange.isWritten, same]

end Unchanged

/--
The cycle after a synchronized one only reads and changes nothing, as long as
nobody else changes the cluster.
-/
theorem Account.quiet
    {settings : Settings}
    {templates : Templates}
    {findings others : Findings}
    {reports later : List Report}
    {ending : Option Stop}
    {exchanges answered : List Exchange}
    {result final : Except OperatorError SyncOutcome}
    (account :
      Account settings templates findings reports none exchanges result)
    (deploymentNamed : findings.rendered.metadata.name.isSome)
    (registrationNamed : findings.hooks.metadata.name.isSome)
    (retained : findings.Retained)
    (next : Account settings templates others later ending answered final)
    (undisturbed : ∀ exchange ∈ answered,
        findings.Undisturbed settings exchange) :
    (∀ exchange ∈ answered, exchange.channel = .objects ∧
      exchange.request.method = .get) ∧
      final = .ok (.synced false false) := by
  have course := next.course.with_all
    (fun report => ∀ exchange ∈ report.exchanges,
      findings.Undisturbed settings exchange)
    fun report member exchange own =>
      undisturbed exchange
        (next.exchanges_eq ▸ List.mem_flatMap.2 ⟨report, member, own⟩)
  obtain ⟨⟨spec, status⟩, _, course⟩ :=
    course.pass fun report stage explained =>
    account.quiet_readOperator explained.1 stage explained.2
  obtain ⟨rendered, _, course⟩ := course.pass fun report stage explained =>
    account.quiet_renderDeployment explained.1 stage spec
  obtain ⟨wanted, _, course⟩ := course.pass fun report stage explained =>
    account.quiet_listNodes explained.1 stage explained.2 rendered
  obtain ⟨found, _, course⟩ := course.pass fun report stage explained =>
    account.quiet_readDeployment explained.1 stage explained.2 wanted
  have deploymentPlan :=
    retained.deploymentPlan_eq deploymentNamed wanted status found
  rw [deploymentPlan] at course
  obtain ⟨hooks, _, course⟩ := course.pass fun report stage explained =>
    account.quiet_renderRegistration explained.1 stage
  obtain ⟨found, _, course⟩ := course.pass fun report stage explained =>
    account.quiet_readRegistration explained.1 stage explained.2 hooks
  have registrationPlan :=
    retained.registrationPlan_eq registrationNamed hooks status found
  rw [registrationPlan] at course
  obtain ⟨current, _, course⟩ := course.pass fun report stage explained =>
    account.quiet_rereadOperator explained.1 stage explained.2
  have unwritten : others.change.isWritten = false :=
    Findings.change_unwritten (by rw [Findings.deployment, deploymentPlan]; rfl)
      (by rw [Findings.registration, registrationPlan]; rfl) current
  rw [unwritten] at course
  cases course
  have stages : others.stages = quietStages := by
    simp only [Findings.stages, deploymentPlan, registrationPlan, unwritten]
    rfl
  constructor
  · intro exchange member
    rw [next.exchanges_eq] at member
    rcases List.mem_flatMap.1 member with ⟨report, taken, own⟩
    refine (next.course.explained report taken).reads ?_ exchange own
    rw [← stages]
    exact next.course.stages_prefix.subset (List.mem_map_of_mem taken)
  · rw [next.result_eq, Findings.result, deploymentPlan, registrationPlan]
    rfl

/--
A cycle against any host that has synchronized leaves nothing to do.  If the
objects that it wanted have names, the live ones retain what it sent, and the
answers to the next cycle, against any host and whatever its clock reads, show
that nobody changed the cluster, then that cycle sends nothing but reads and
tells that it changed neither object.
-/
theorem sync_quiescent
    {σ τ : Type}
    {settings : Settings}
    {templates : Templates}
    {host : Host σ}
    {state : σ}
    {recorder : Recorder}
    {deploymentChanged registrationChanged : Bool}
    (synced : (Step.sync settings templates).outcome host state recorder =
      .ok (.synced deploymentChanged registrationChanged))
    {findings : Findings}
    {reports : List Report}
    {stop : Option Stop}
    (account : Account settings templates findings reports stop
      ((Step.sync settings templates).exchanges host state recorder)
      ((Step.sync settings templates).outcome host state recorder))
    (deploymentNamed : findings.rendered.metadata.name.isSome)
    (registrationNamed : findings.hooks.metadata.name.isSome)
    (retained : findings.Retained)
    {later : Host τ}
    {next : τ}
    {kept : Recorder}
    (undisturbed : ∀ exchange ∈
        (Step.sync settings templates).exchanges later next kept,
        findings.Undisturbed settings exchange) :
    (∀ exchange ∈ (Step.sync settings templates).exchanges later next kept,
        exchange.channel = .objects ∧ exchange.request.method = .get) ∧
      (Step.sync settings templates).outcome later next kept =
          .ok (.synced false false) := by
  rcases account.stop_eq_none synced with rfl
  rcases (Step.traces_run later next kept
      (Step.sync settings templates)).account with
    ⟨others, reports, ending, again⟩
  exact account.quiet deploymentNamed registrationNamed retained again
    undisturbed

/--
Templates of a Deployment and a registration that say nothing but their names.
-/
def bareTemplates : Templates :=
  ⟨"metadata: {name: d, namespace: n}\nspec: {}", "metadata: {name: w}"⟩

def bareSync : Step SyncOutcome :=
  Step.sync { image := "i", operatorName := "o" } bareTemplates

/-- What the first cycle finds: no objects, so it creates both. -/
def bareFindings : Findings :=
  let rendered : Deployment :=
    { metadata := { name := some "d", namespaceName := some "n" }
      spec := some {} }
  let wanted := (rendered.withReplicas 1).stamped
  let hooks := Registration.stamped { metadata := { name := some "w" } }
  { rendered, hooks
    writtenDeployment := { wanted with metadata.generation := some 1 }
    writtenRegistration := { hooks with metadata.generation := some 1 }
    now := "1970-01-01T00:00:00Z" }

/--
A host that answers with what the first cycle found, or with what it left.
-/
def bareHost (applied : Bool) : Host Unit where
  answer := fun _ _ request =>
    let found : Reply :=
      match Path.lastSegment request.address.path with
      | "o" =>
          let status := if applied then some bareFindings.change.after else none
          ⟨200, .json { bareFindings.operator with status }.toValue⟩
      | "nodes" => ⟨200, .json (.object [("items", .array [])])⟩
      | "d" =>
          if applied then ⟨200, .json bareFindings.deployment.toValue⟩
          else Store.notFound
      | "deployments" => ⟨201, .json bareFindings.deployment.toValue⟩
      | "w" =>
          if applied then ⟨200, .json bareFindings.registration.toValue⟩
          else Store.notFound
      | "validatingwebhookconfigurations" =>
          ⟨201, .json bareFindings.registration.toValue⟩
      | "status" => ⟨200, .json bareFindings.operator.toValue⟩
      | _ => ⟨201, .json .null⟩
    (.reply found, ())
  clock := fun _ => ⟨if applied then 3600000000000 else 0⟩
  wait := fun _ _ => ()

def bareExchanges : List Exchange := bareSync.exchanges (bareHost false) () {}

def bareReports : List Report := [
  { stage := .readOperator, sent := bareExchanges[0]? },
  { stage := .renderDeployment },
  { stage := .listNodes, sent := bareExchanges[1]? },
  { stage := .readDeployment, sent := bareExchanges[2]? },
  { stage := .writeDeployment, sent := bareExchanges[3]?
    told := bareExchanges[4]?.toList },
  { stage := .renderRegistration },
  { stage := .readRegistration, sent := bareExchanges[5]? },
  { stage := .writeRegistration, sent := bareExchanges[6]?
    told := bareExchanges[7]?.toList },
  { stage := .rereadOperator, sent := bareExchanges[8]? },
  { stage := .writeStatus, sent := bareExchanges[9]? }]

/--
After a cycle that created both objects the next one, an hour later, is quiet.
-/
theorem sync_quiescent_after_creation :
    bareSync.outcome (bareHost false) () {} = .ok (.synced true true) ∧
      bareFindings.Retained ∧
      (∀ exchange ∈ bareSync.exchanges (bareHost true) () {},
        exchange.channel = .objects ∧ exchange.request.method = .get) ∧
      bareSync.outcome (bareHost true) () {} = .ok (.synced false false) := by
  have first :
      bareExchanges = bareReports.flatMap Report.exchanges ∧
        bareSync.outcome (bareHost false) () {} = .ok (.synced true true) ∧
        bareReports.map Report.stage = bareFindings.stages ∧
        ∀ report ∈ bareReports,
          bareFindings.Explains { image := "i", operatorName := "o" }
            bareTemplates report ∧
            report.stop = none := by
    decide +kernel
  rcases first with ⟨exchanges, synced, stages, explained⟩
  have retained : bareFindings.Retained :=
    ⟨⟨rfl, rfl, fun _ same => Option.some.inj same ▸ ⟨rfl, isCovered_refl _⟩⟩,
      rfl, ⟨rfl, rfl, fun _ same =>
        Option.some.inj same ▸ ⟨rfl, isCovered_refl _⟩⟩⟩
  refine ⟨synced, retained, ?_⟩
  refine sync_quiescent synced
    ⟨stages ▸ Course.of_complete explained, exchanges,
      synced.trans rfl⟩ rfl rfl retained
    fun exchange member => ?_
  rcases Program.answer_of_mem member with ⟨⟨⟩, answered⟩
  -- The answer depends on nothing but the request, which is known where a field
  -- is about it.
  have shows {β : Type} {asked : Except RequestFault Request} {read : Datum →
      Option β} {Holds : β → Prop}
      (all : ∀ request, asked = .ok request →
        ((bareHost true).answer () .objects request).1.Shows read Holds)
      (sent : asked = .ok exchange.request) :
          exchange.answer.Shows read Holds :=
    answered ▸ all exchange.request sent
  exact ⟨shows (by decide +kernel), shows (by decide +kernel),
    shows (by decide +kernel), shows (by decide +kernel)⟩

end HookKeeper
