import HookKeeper.Proofs.Account
import HookKeeper.Proofs.Request

/-!
# The order of the requests of a cycle

Whatever a cluster answers, the requests about objects that a cycle sends are
the first ones of a fixed list: read the operator resource, list the nodes,
read and write the Deployment, read and write the registration, and read the
operator resource and write its status.  A step that fails is the last one and
its failure is that of the cycle, so a status is written only after both
objects were applied.
-/

namespace HookKeeper

open HookKeeper.Manifest

/-- The requests about objects among exchanges, in order. -/
def objectRequests (exchanges : List Exchange) : List Request :=
  (exchanges.filter fun exchange => exchange.channel = .objects).map
    Exchange.request

@[simp]
theorem objectRequests_append (first second : List Exchange) :
    objectRequests (first ++ second) = objectRequests first ++
        objectRequests second := by
  simp [objectRequests]

theorem objectRequests_of_events
    {exchanges : List Exchange}
    (events : ∀ exchange ∈ exchanges, exchange.channel = .events) :
    objectRequests exchanges = [] := by
  have others : exchanges.filter (fun exchange => exchange.channel = .objects) =
      [] := by
    refine List.filter_eq_nil_iff.2 fun exchange member => ?_
    simp [events exchange member]
  simp [objectRequests, others]

/-! ## The requests of the steps -/

theorem Call.objectRequests_eq
    {request : Except RequestFault Request}
    {read : Datum → Option β}
    {sent : Option Exchange}
    {outcome : Except ApiError β}
    (call : Call request read sent outcome) :
    objectRequests sent.toList = request.toOption.toList := by
  cases call with
  | unbuildable fault unbuilt =>
      subst unbuilt
      rfl
  | answered sent answer built =>
      subst built
      rfl

theorem Report.objectRequests_of_asks
    {report : Report}
    {request : Except RequestFault Request}
    {read : Datum → Option β}
    {settle : Except ApiError β → Except Stop γ}
    {value : γ}
    (asks : report.Asks request read settle value)
    (events : ∀ exchange ∈ report.told, exchange.channel = .events) :
    objectRequests report.exchanges = request.toOption.toList := by
  rcases asks with ⟨outcome, call, _⟩
  rw [exchanges, objectRequests_append, call.objectRequests_eq,
    objectRequests_of_events events, List.append_nil]

theorem Report.objectRequests_of_requests
    {report : Report}
    {request : Except RequestFault Request}
    {read : Datum → Option β}
    {settle : Except ApiError β → Except OperatorError γ}
    {value : γ}
    (requests : report.Requests request read settle value) :
    objectRequests report.exchanges = request.toOption.toList :=
  report.objectRequests_of_asks requests.2 (by simp [requests.1])

theorem Report.objectRequests_of_renders
    {report : Report}
    {rendered : Except OperatorError β}
    {value : β}
    (renders : report.Renders rendered value) :
    objectRequests report.exchanges = [] := by
  simp [exchanges, renders.1, renders.2.1, objectRequests]

theorem Report.objectRequests_of_writes
    {α : Type}
    [ClusterObject α]
    {report : Report}
    {namespaceName name : String}
    {plan : ApplyPlan α}
    {written : α}
    (writes : report.Writes namespaceName name plan written) :
    objectRequests report.exchanges =
      ((plan.request? namespaceName name).bind Except.toOption).toList := by
  rcases writes with ⟨events, request, asked, asks⟩
  rw [report.objectRequests_of_asks asks events, asked]
  rfl

/--
A step sends the request that is its own, if that can be built, and no other
about objects.
-/
theorem Findings.Explains.objectRequests_eq
    {settings : Settings}
    {templates : Templates}
    {findings : Findings}
    {report : Report}
    (explained : findings.Explains settings templates report) :
    objectRequests report.exchanges =
      ((findings.request? settings report.stage).bind
          Except.toOption).toList := by
  cases stage : report.stage <;> simp only [Explains, stage] at explained
  case readOperator =>
    exact report.objectRequests_of_asks explained.2 (by simp [explained.1])
  case renderDeployment => exact report.objectRequests_of_renders explained
  case listNodes => exact report.objectRequests_of_requests explained
  case readDeployment => exact report.objectRequests_of_requests explained
  case writeDeployment => exact report.objectRequests_of_writes explained
  case renderRegistration => exact report.objectRequests_of_renders explained
  case readRegistration => exact report.objectRequests_of_requests explained
  case writeRegistration => exact report.objectRequests_of_writes explained
  case rereadOperator => exact report.objectRequests_of_requests explained
  case writeStatus => exact report.objectRequests_of_requests explained

theorem objectRequests_flatMap
    {settings : Settings}
    {templates : Templates}
    {findings : Findings}
    {reports : List Report}
    (explained : ∀ report ∈ reports,
        findings.Explains settings templates report) :
    objectRequests (reports.flatMap Report.exchanges) =
      (reports.map Report.stage).filterMap fun stage =>
        (findings.request? settings stage).bind Except.toOption := by
  induction reports with
  | nil => rfl
  | cons report rest ih =>
      rcases List.forall_mem_cons.1 explained with ⟨first, others⟩
      rw [List.flatMap_cons, objectRequests_append, first.objectRequests_eq,
        ih others, List.map_cons]
      cases own : (findings.request? settings report.stage).bind Except.toOption
          with
      | none =>
          simp only [List.filterMap_cons, own, Option.toList_none,
            List.nil_append]
      | some request =>
          simp only [List.filterMap_cons, own, Option.toList_some,
            List.singleton_append]

namespace Account

variable {settings : Settings} {templates : Templates} {findings : Findings}
  {reports : List Report} {stop : Option Stop} {exchanges : List Exchange}
  {result : Except OperatorError SyncOutcome}

/-- The requests about objects of a cycle are the first ones of its list. -/
theorem requests_prefix
    (account :
        Account settings templates findings reports stop exchanges result) :
    objectRequests exchanges <+: findings.requests settings := by
  rw [account.exchanges_eq, objectRequests_flatMap account.course.explained]
  exact account.course.stages_prefix.filterMap _

/--
A cycle that reads that the operator resource is absent or not to be managed
sends no other request of any kind, and is no failure.
-/
theorem unattended
    (account :
      Account settings templates findings reports stop exchanges result)
    {first : Exchange}
    {rest : List Exchange}
    (sent : exchanges = first :: rest)
    {present : Option OperatorResource}
    (answered :
      Client.presence (first.answer.decode OperatorResource.ofDatum?) =
      .ok present)
    (absent : ∀ operator, present = some operator →
        operator.spec.managementState ≠ .managed) :
    rest = [] ∧
      result =
        .ok (present.elim .notFound fun operator =>
            .notManaged operator.spec.managementState) := by
  have course : Course (findings.Explains settings templates)
      (.readOperator :: findings.stages.tail) reports stop := account.course
  rcases course.of_cons with
    ⟨⟨stage, asked, told, ending⟩, others, rfl, rfl, explained, continues⟩
  rcases explained with ⟨rfl, outcome, call, settled⟩
  have head := account.exchanges_eq.symm.trans sent
  cases call with
  | unbuildable fault unbuilt =>
      rcases continues with ⟨_, _, rfl⟩ | ⟨rfl, _⟩
      · cases head
      · cases settled
  | answered request answer built =>
      rcases List.cons.inj head with ⟨rfl, tail⟩
      have ends :
          Stop.ofOperator
            (Client.presence (answer.decode OperatorResource.ofDatum?)) =
            .error (present.elim .absent fun operator =>
              .unmanaged operator.spec.managementState) := by
        rw [answered]
        cases present with
        | none => rfl
        | some operator => exact if_neg (absent operator rfl)
      rcases continues with ⟨rfl, ended, rfl⟩ | ⟨rfl, _⟩
      · refine ⟨tail.symm, ?_⟩
        rcases Option.isSome_iff_exists.1 ended with ⟨stop, rfl⟩
        have same := Except.error.inj (ends.symm.trans settled)
        rw [account.result_eq, ← same]
        cases present <;> rfl
      · cases ends.symm.trans settled

/--
A cycle that fails was ended by its last step, with the failure of that step.
-/
theorem of_error
    (account :
      Account settings templates findings reports stop exchanges result)
    {error : OperatorError}
    (failed : result = .error error) :
    ∃ before last,
      reports = before ++ [last] ∧ last.stop = some (.failed error) ∧
        ∀ report ∈ before, report.stop = none := by
  have equal := account.result_eq.symm.trans failed
  cases stop with
  | none => cases equal
  | some stop =>
      cases stop with
      | failed cause =>
          cases equal
          exact account.course.broken rfl
      | absent => cases equal
      | unmanaged state => cases equal

end Account

/-! ## The order of the steps -/

/-- The place of a step in a cycle. -/
def Stage.place : Stage → Nat
  | .readOperator => 0
  | .renderDeployment => 1
  | .listNodes => 2
  | .readDeployment => 3
  | .writeDeployment => 4
  | .renderRegistration => 5
  | .readRegistration => 6
  | .writeRegistration => 7
  | .rereadOperator => 8
  | .writeStatus => 9

theorem Findings.stages_ascend (findings : Findings) :
    findings.stages.Pairwise fun earlier later =>
        earlier.place < later.place := by
  unfold stages
  cases findings.deploymentPlan.isWrite <;>
    cases findings.registrationPlan.isWrite <;>
    cases findings.change.isWritten <;> decide

namespace Account

variable {settings : Settings} {templates : Templates} {findings : Findings}
  {reports : List Report} {stop : Option Stop} {exchanges : List Exchange}
  {result : Except OperatorError SyncOutcome}

/--
The steps that were taken before one are those that are due before it, and were
passed.
-/
theorem taken_before
    (account :
      Account settings templates findings reports stop exchanges result)
    {report : Report}
    (taken : report ∈ reports) :
    ∃ before after,
      reports = before ++ report :: after ∧
        before.map Report.stage =
          findings.stages.takeWhile (fun stage =>
            stage.place < report.stage.place) ∧
        ∀ earlier ∈ before, findings.Explains settings templates earlier ∧
            earlier.stop = none := by
  rcases account.course.reached taken with
    ⟨before, after, later, rfl, all, passed⟩
  have ascend := findings.stages_ascend
  rw [all, List.pairwise_append] at ascend
  have below : ∀ stage ∈ before.map Report.stage,
      decide (stage.place < report.stage.place) = true :=
    fun stage member =>
      decide_eq_true (ascend.2.2 stage member _ List.mem_cons_self)
  refine ⟨before, after, rfl, ?_, fun earlier member =>
    ⟨account.course.explained earlier (List.mem_append_left _ member),
      passed earlier member⟩⟩
  rw [all, List.takeWhile_append_of_pos below,
    List.takeWhile_cons_of_neg (by simp), List.append_nil]

theorem passed_before
    (account :
      Account settings templates findings reports stop exchanges result)
    {report : Report}
    (taken : report ∈ reports)
    {stage : Stage}
    (due : stage ∈ findings.stages)
    (earlier : stage.place < report.stage.place) :
    ∃ other ∈ reports, other.stage = stage ∧ other.stop = none := by
  rcases account.course.reached taken with
    ⟨before, after, later, rfl, all, passed⟩
  have ascend := findings.stages_ascend
  rw [all] at due ascend
  rcases List.mem_append.1 due with first | rest
  · rcases List.mem_map.1 first with ⟨other, member, rfl⟩
    exact ⟨other, List.mem_append_left _ member, rfl, passed other member⟩
  · rcases List.mem_cons.1 rest with rfl | last
    · exact absurd earlier (Nat.lt_irrefl _)
    · have above :=
        (List.pairwise_cons.1 (List.pairwise_append.1 ascend).2.1).1 stage last
      exact absurd earlier (Nat.lt_asymm above)

end Account

theorem ok_of_mapError
    {wrap : ε → φ}
    {outcome : Except ε α}
    {value : α}
    (settled : outcome.mapError wrap = .ok value) : outcome = .ok value := by
  cases outcome with
  | error cause => cases settled
  | ok given => exact congrArg Except.ok (Except.ok.inj settled)

theorem error_of_mapError
    {wrap : ε → φ}
    {outcome : Except ε α}
    {error : φ}
    (settled : outcome.mapError wrap = .error error) :
    ∃ cause, outcome = .error cause ∧ wrap cause = error := by
  cases outcome with
  | error cause => exact ⟨cause, rfl, Except.error.inj settled⟩
  | ok given => cases settled

namespace Report

/-- A step that was passed has an answer, which settles what it found. -/
theorem Asks.answered
    {report : Report}
    {request : Except RequestFault Request}
    {read : Datum → Option β}
    {settle : Except ApiError β → Except Stop γ}
    {value : γ}
    (asks : report.Asks request read settle value)
    (passed : report.stop = none)
    (fails : ∀ fault, settle (.error (.unbuildable fault)) ≠ .ok value) :
    ∃ exchange,
      report.sent = some exchange ∧ request = .ok exchange.request ∧
        settle (exchange.answer.decode read) = .ok value := by
  rcases report with ⟨stage, sent, told, stop⟩
  rcases asks with ⟨outcome, call, settled⟩
  cases passed
  cases call with
  | unbuildable fault unbuilt => exact absurd settled (fails fault)
  | answered request answer built => exact ⟨_, rfl, built, settled⟩

/-- A step that only sends a request and was passed has one exchange. -/
theorem Requests.answered
    {report : Report}
    {request : Except RequestFault Request}
    {read : Datum → Option β}
    {settle : Except ApiError β → Except OperatorError γ}
    {value : γ}
    (requests : report.Requests request read settle value)
    (passed : report.stop = none)
    (fails : ∀ fault, settle (.error (.unbuildable fault)) ≠ .ok value) :
    ∃ exchange,
      report.exchanges = [exchange] ∧ request = .ok exchange.request ∧
        settle (exchange.answer.decode read) = .ok value := by
  rcases requests with ⟨silent, asks⟩
  rcases asks.answered passed fun fault same =>
      fails fault (ok_of_mapError same) with
    ⟨exchange, sent, built, settled⟩
  exact ⟨exchange, by simp [exchanges, sent, silent], built,
    ok_of_mapError settled⟩

end Report

/-! ## Writing the status comes last -/

theorem Findings.stage_of_patch
    {settings : Settings}
    {findings : Findings}
    {stage : Stage}
    {request : Request}
    (asked : findings.request? settings stage = some (.ok request))
    (patches : request.method = .patch) : stage = .writeStatus := by
  have contradiction {method : Method} (other : request.method = method)
      (distinct : method ≠ .patch) : False :=
    distinct (other.symm.trans patches)
  have unplanned {α : Type} [ClusterObject α] {namespaceName name : String}
      {plan : ApplyPlan α} (asked : plan.request? namespaceName name =
        some (.ok request)) : False := by
    cases plan with
    | create object =>
        exact contradiction (Request.of_create (Option.some.inj asked)).1
          (by decide)
    | keep live => cases asked
    | replace object =>
        exact contradiction (Request.of_replace (Option.some.inj asked)).1
          (by decide)
  cases stage with
  | readOperator | readDeployment | readRegistration | rereadOperator =>
      exact (contradiction (Request.of_read (Option.some.inj asked)).1
        (by decide)).elim
  | listNodes =>
      exact (contradiction (Request.of_list (Option.some.inj asked)).1
        (by decide)).elim
  | renderDeployment | renderRegistration => cases asked
  | writeDeployment | writeRegistration => exact (unplanned asked).elim
  | writeStatus => rfl

namespace Account

variable {settings : Settings} {templates : Templates} {findings : Findings}
  {reports : List Report} {stop : Option Stop} {exchanges : List Exchange}
  {result : Except OperatorError SyncOutcome}

/--
The request of an exchange about objects is that of the step that sent it.
-/
theorem report_of_exchange
    (account :
      Account settings templates findings reports stop exchanges result)
    {exchange : Exchange}
    (member : exchange ∈ exchanges)
    (about : exchange.channel = .objects) :
    ∃ report ∈ reports,
      exchange ∈ report.exchanges ∧
        findings.request? settings report.stage =
            some (.ok exchange.request) := by
  rw [account.exchanges_eq] at member
  rcases List.mem_flatMap.1 member with ⟨report, taken, own⟩
  have sent : exchange.request ∈ objectRequests report.exchanges :=
    List.mem_map.2 ⟨exchange, List.mem_filter.2 ⟨own, by simp [about]⟩, rfl⟩
  rw [(account.course.explained report taken).objectRequests_eq] at sent
  rcases Option.bind_eq_some_iff.1 (Option.mem_toList.1 sent) with
    ⟨request, asked, built⟩
  refine ⟨report, taken, own, ?_⟩
  cases request with
  | error fault => cases built
  | ok request =>
      cases built
      exact asked

/--
A status is written only after every other step that was due had been passed.
-/
theorem of_patch
    (account :
      Account settings templates findings reports stop exchanges result)
    {exchange : Exchange}
    (member : exchange ∈ exchanges)
    (about : exchange.channel = .objects)
    (patches : exchange.request.method = .patch)
    {stage : Stage}
    (due : stage ∈ findings.stages)
    (other : stage ≠ .writeStatus) :
    ∃ report ∈ reports, report.stage = stage ∧ report.stop = none := by
  rcases account.report_of_exchange member about with ⟨report, taken, _, asked⟩
  refine account.passed_before taken due ?_
  rw [Findings.stage_of_patch asked patches]
  cases stage <;> first
    | decide
    | exact absurd rfl other

/--
The result of a cycle is that it has synchronized exactly when every due step
was passed, and it tells of each object whether its write was answered with it.
-/
theorem synced_iff
    (account :
      Account settings templates findings reports stop exchanges result)
    (deploymentChanged registrationChanged : Bool) :
    result = .ok (.synced deploymentChanged registrationChanged) ↔
      (reports.map Report.stage = findings.stages ∧ ∀ report ∈ reports,
        report.stop = none) ∧
        deploymentChanged = findings.deploymentPlan.isWrite ∧
        registrationChanged = findings.registrationPlan.isWrite := by
  rw [account.result_eq]
  constructor
  · intro equal
    cases stop with
    | none =>
        cases equal
        exact ⟨account.course.complete rfl, rfl, rfl⟩
    | some stop => cases stop <;> cases equal
  · rintro ⟨⟨_, passed⟩, rfl, rfl⟩
    cases stop with
    | none => rfl
    | some stop =>
        rcases account.course.broken rfl with ⟨before, last, rfl, ends, _⟩
        cases (passed last (by simp)).symm.trans ends

end Account

/-! ## What a cycle tells of its writes -/

/--
The write that a plan asks for was sent, and the answer carried the object.
-/
def ApplyPlan.IsAnswered
    {α : Type}
    [ClusterObject α]
    (plan : ApplyPlan α)
    (namespaceName name : String)
    (exchanges : List Exchange) : Prop :=
  ∃ exchange ∈ exchanges,
    exchange.channel = .objects ∧
      plan.request? namespaceName name = some (.ok exchange.request) ∧
      ∃ live,
        exchange.answer.decode (ClusterObject.ofDatum? : Datum → Option α) =
          .ok live

theorem ApplyPlan.IsAnswered.isWrite
    {α : Type}
    [ClusterObject α]
    {plan : ApplyPlan α}
    {namespaceName name : String}
    {exchanges : List Exchange}
    (answered : plan.IsAnswered namespaceName name exchanges) :
    plan.isWrite = true := by
  rcases answered with ⟨exchange, _, _, asked, _⟩
  cases plan with
  | create object => rfl
  | keep live => cases asked
  | replace object => rfl

theorem Report.Writes.isAnswered
    {α : Type}
    [ClusterObject α]
    {report : Report}
    {namespaceName name : String}
    {plan : ApplyPlan α}
    {written : α}
    {reports : List Report}
    (writes : report.Writes namespaceName name plan written)
    (passed : report.stop = none)
    (taken : report ∈ reports) :
    plan.IsAnswered namespaceName name (reports.flatMap Report.exchanges) := by
  rcases report with ⟨stage, asked, told, ending⟩
  rcases writes with ⟨_, request, planned, outcome, call, settled⟩
  cases passed
  cases call with
  | unbuildable fault unbuilt => cases settled
  | answered sent answer built =>
      refine ⟨⟨.objects, sent, answer⟩,
        List.mem_flatMap.2 ⟨_, taken, by simp [exchanges]⟩, rfl,
        built ▸ planned, ?_⟩
      cases decoded : answer.decode
          (ClusterObject.ofDatum? : Datum → Option α) with
      | ok live => exact ⟨live, rfl⟩
      | error cause =>
          rw [decoded] at settled
          cases settled

namespace Account

variable {settings : Settings} {templates : Templates} {findings : Findings}
  {reports : List Report} {stop : Option Stop} {exchanges : List Exchange}
  {result : Except OperatorError SyncOutcome}

/--
A cycle that has passed every step has got an answer to each write that was due.
-/
theorem isAnswered_iff
    (account :
      Account settings templates findings reports stop exchanges result)
    (complete : reports.map Report.stage = findings.stages)
    (passed : ∀ report ∈ reports, report.stop = none) :
    (findings.deploymentPlan.IsAnswered findings.namespaceName
        findings.wanted.metadata.anyName exchanges ↔
        findings.deploymentPlan.isWrite = true) ∧
      (findings.registrationPlan.IsAnswered "" findings.hooks.metadata.anyName
        exchanges ↔
        findings.registrationPlan.isWrite = true) := by
  have taken (stage : Stage) (due : stage ∈ findings.stages) :
      ∃ report ∈ reports, report.stage = stage ∧
          findings.Explains settings templates report := by
    rw [← complete] at due
    rcases List.mem_map.1 due with ⟨report, member, rfl⟩
    exact ⟨report, member, rfl, account.course.explained report member⟩
  rw [account.exchanges_eq]
  refine ⟨⟨ApplyPlan.IsAnswered.isWrite, fun writes => ?_⟩,
    ⟨ApplyPlan.IsAnswered.isWrite, fun writes => ?_⟩⟩
  · rcases taken .writeDeployment (by simp [Findings.stages, writes]) with
      ⟨report, member, stage, explained⟩
    simp only [Findings.Explains, stage] at explained
    exact explained.isAnswered (passed report member) member
  · rcases taken .writeRegistration (by simp [Findings.stages, writes]) with
      ⟨report, member, stage, explained⟩
    simp only [Findings.Explains, stage] at explained
    exact explained.isAnswered (passed report member) member

end Account

/--
A cycle against any host has an account.  Its requests about objects are the
first ones of a fixed list.  An operator resource that is absent or not managed
ends it with its first request.  A failure is that of the last step that was
taken, all others having been passed.  A status is written only after every
other due step was passed, and the cycle has synchronized exactly when every
due step was passed; it then tells of either object whether a write of it was
answered.
-/
theorem sync_all_or_nothing
    (host : Host σ)
    (state : σ)
    (settings : Settings)
    (templates : Templates)
    (recorder : Recorder) :
    ∃ exchanges result findings reports stop,
      exchanges = (Step.sync settings templates).exchanges host state recorder ∧
      result = (Step.sync settings templates).outcome host state recorder ∧
      Account settings templates findings reports stop exchanges result ∧
      objectRequests exchanges <+: findings.requests settings ∧
      (∀ first rest, exchanges = first :: rest →
        ∀ present,
          Client.presence (first.answer.decode OperatorResource.ofDatum?) =
            .ok present →
          (∀ operator, present = some operator →
            operator.spec.managementState ≠ .managed) →
          rest = [] ∧
            result = .ok (present.elim .notFound fun operator =>
              .notManaged operator.spec.managementState)) ∧
      (∀ error, result = .error error →
        ∃ before last,
          reports = before ++ [last] ∧ last.stop = some (.failed error) ∧
            ∀ report ∈ before, report.stop = none) ∧
      (∀ exchange ∈ exchanges, exchange.channel = .objects →
        exchange.request.method = .patch →
        ∀ stage ∈ findings.stages, stage ≠ .writeStatus →
          ∃ report ∈ reports, report.stage = stage ∧ report.stop = none) ∧
      (∀ deploymentChanged registrationChanged,
        result = .ok (.synced deploymentChanged registrationChanged) ↔
          (reports.map Report.stage = findings.stages ∧
            ∀ report ∈ reports, report.stop = none) ∧
          (deploymentChanged = true ↔
            findings.deploymentPlan.IsAnswered findings.namespaceName
              findings.wanted.metadata.anyName exchanges) ∧
          (registrationChanged = true ↔
            findings.registrationPlan.IsAnswered ""
              findings.hooks.metadata.anyName exchanges)) := by
  rcases (Step.traces_run host state recorder
      (Step.sync settings templates)).account with
    ⟨findings, reports, stop, account⟩
  refine ⟨_, _, findings, reports, stop, rfl, rfl, account,
    account.requests_prefix, fun first rest sent present answered absent =>
    account.unattended sent answered absent, fun error failed =>
    account.of_error failed,
    fun exchange member about patches stage due other =>
      account.of_patch member about patches due other,
    fun deploymentChanged registrationChanged => ?_⟩
  rw [account.synced_iff]
  refine and_congr_right fun passed => ?_
  rcases account.isAnswered_iff passed.1 passed.2 with
    ⟨deployment, registration⟩
  rw [deployment, registration, Bool.coe_iff_coe, Bool.coe_iff_coe]

end HookKeeper
