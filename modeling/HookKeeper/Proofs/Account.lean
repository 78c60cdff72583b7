import HookKeeper.Proofs.Findings

/-!
# Accounts of a cycle

Each part of a cycle leaves the reports of its steps, and a program of parts
leaves the reports of its parts one after another.  The main statement says
that every trace of a cycle has an account: findings, and a course of the steps
that are due with these findings.
-/

namespace HookKeeper

open HookKeeper.Manifest

/-! ## Applying an object -/

/--
A write is sent, if it can be, and told in events; it fails as its request does.
-/
theorem Step.Traces.of_commit
    {α : Type}
    [ClusterObject α]
    {write : Write}
    {name : String}
    {object : α}
    {request : Except RequestFault Request}
    {exchanges : List Exchange}
    {result : Except OperatorError (Applied α)}
    (trace :
        (commit write name object
          (Client.send request ClusterObject.ofDatum?)).Traces exchanges
          result) :
    ∃ sent outcome told,
      Call request (ClusterObject.ofDatum? : Datum → Option α) sent outcome ∧
        (∀ exchange ∈ told, exchange.channel = .events) ∧
          exchanges = sent.toList ++ told ∧
          result =
            (outcome.map fun live => ⟨live, true⟩).mapError
              (.apply (ClusterObject.kind α) name) := by
  rcases trace.of_bind with
    ⟨error, rfl, failed⟩ | ⟨outcome, before, after, rfl, sent, last⟩
  · rcases traces_attempt_iff.1 failed with ⟨outcome, _, equal⟩
    cases equal
  rcases traces_attempt_iff.1 sent with ⟨reached, sent, equal⟩
  cases equal
  rcases Client.traces_send_iff.1 sent with ⟨exchange, call, rfl⟩
  cases outcome with
  | ok live =>
      rcases last.of_bind with
        ⟨error, rfl, failed⟩ | ⟨⟨⟩, told, rest, rfl, tells, ended⟩
      · cases failed.of_publish.1
      · rcases traces_pure_iff.1 ended with ⟨rfl, rfl⟩
        exact ⟨exchange, .ok live, told, call, tells.of_publish.2,
          by rw [List.append_nil], rfl⟩
  | error cause =>
      rcases last.of_bind with
        ⟨error, rfl, failed⟩ | ⟨⟨⟩, told, rest, rfl, tells, ended⟩
      · cases failed.of_publish.1
      · rcases traces_throw_iff.1 ended with ⟨rfl, rfl⟩
        exact ⟨exchange, .error cause, told, call, tells.of_publish.2,
          by rw [List.append_nil], rfl⟩

/--
An apply reads the live object and goes on with the plan for it, unless the read
fails.
-/
theorem Step.Traces.of_apply {α : Type} [ClusterObject α]
    {namespaceName : String} {merge : α → α →
      α} {wanted : α} {recorded : Option Int64} {exchanges : List Exchange}
    {result : Except OperatorError (Applied α)}
    (trace : (apply namespaceName merge wanted recorded).Traces exchanges
        result) :
    ∃ sent found,
      Call (Request.read (ClusterObject.collection α namespaceName)
          (ClusterObject.metadata wanted).anyName)
        (ClusterObject.ofDatum? : Datum → Option α) sent found ∧
        match Client.presence found with
        | .error cause =>
            exchanges = sent.toList ∧
              result = .error
                (.apply (ClusterObject.kind α)
                  (ClusterObject.metadata wanted).anyName cause)
        | .ok present =>
            ∃ rest,
              exchanges = sent.toList ++ rest ∧
                (carryOut namespaceName (ClusterObject.metadata wanted).anyName
                  (.of merge wanted recorded present)).Traces rest result := by
  rcases trace.of_bind with
    ⟨error, rfl, failed⟩ | ⟨present, before, rest, rfl, passed, last⟩
  · rcases traces_request_iff.1 failed with ⟨outcome, looked, equal⟩
    rcases Client.traces_find?_iff.1 looked with ⟨sent, found, call, rfl, rfl⟩
    refine ⟨sent, found, call, ?_⟩
    cases presence : Client.presence found with
    | ok present =>
        rw [presence] at equal
        cases equal
    | error cause =>
        rw [presence] at equal
        cases equal
        exact ⟨rfl, rfl⟩
  · rcases traces_request_iff.1 passed with ⟨outcome, looked, equal⟩
    rcases Client.traces_find?_iff.1 looked with ⟨sent, found, call, rfl, rfl⟩
    refine ⟨sent, found, call, ?_⟩
    cases presence : Client.presence found with
    | error cause =>
        rw [presence] at equal
        cases equal
    | ok other =>
        rw [presence] at equal
        cases equal
        exact ⟨rest, rfl, last⟩

/-- An apply that succeeded could build its read. -/
theorem Step.Traces.built
    {α : Type}
    [ClusterObject α]
    {namespaceName : String}
    {merge : α → α → α}
    {wanted : α}
    {recorded : Option Int64}
    {exchanges : List Exchange}
    {applied : Applied α}
    (trace : (Step.apply namespaceName merge wanted recorded).Traces exchanges
        (.ok applied)) :
    ∃ read, Request.read (ClusterObject.collection α namespaceName)
      (ClusterObject.metadata wanted).anyName = .ok read := by
  rcases trace.of_apply with ⟨sent, found, call, shape⟩
  cases call with
  | answered request answer asked => exact ⟨request, asked⟩
  | unbuildable fault unbuilt => cases shape.2

namespace Leaves

variable {α : Type} [ClusterObject α]

/-- A write leaves one report, with the events that tell about it. -/
theorem commit
    (stage : Stage)
    (write : Write)
    (name : String)
    (object : α)
    (request : Except RequestFault Request) :
    Leaves (Step.commit write name object
      (Client.send request ClusterObject.ofDatum?)) (fun written report =>
        report.stage = stage ∧
          (∀ exchange ∈ report.told, exchange.channel = .events) ∧
          report.Asks request (ClusterObject.ofDatum? : Datum → Option α)
            (fun outcome => outcome.mapError fun cause =>
              .failed (.apply (ClusterObject.kind α) name cause)) written)
      (fun _ => [stage]) fun written => ⟨written, true⟩ := by
  intro exchanges result trace
  rcases trace.of_commit with ⟨sent, outcome, told, call, events, rfl, rfl⟩
  cases outcome with
  | ok live =>
      let report : Report := ⟨stage, sent, told, none⟩
      exact ⟨live, [report], none,
        .single report ⟨rfl, events, .ok live, call, rfl⟩, by
        simp [report, Report.exchanges], .passed⟩
  | error cause =>
      let report : Report :=
        ⟨stage, sent, told,
          some (.failed (.apply (ClusterObject.kind α) name cause))⟩
      exact ⟨object, [report], report.stop,
        .single report ⟨rfl, events, .error cause, call, rfl⟩,
        by simp [report, Report.exchanges], .failed _⟩

theorem carryOut
    (stage : Stage)
    (namespaceName name : String)
    (plan : ApplyPlan α) :
    Leaves (Step.carryOut namespaceName name plan)
      (fun written report => report.stage = stage ∧
        report.Writes namespaceName name plan written)
      (fun _ => if plan.isWrite then [stage] else [])
      fun written => ⟨plan.outcome written, plan.isWrite⟩ := by
  intro exchanges result trace
  cases plan with
  | create object =>
      rcases commit stage _ _ _ _ _ _ trace with
        ⟨written, reports, stop, course, told, ends⟩
      exact ⟨written, reports, stop,
        course.mono fun _ _ ⟨same, events, asks⟩ =>
          ⟨same, events, _, rfl, asks⟩, told, ends⟩
  | keep live =>
      rcases Step.traces_pure_iff.1 trace with ⟨rfl, rfl⟩
      exact ⟨live, [], none, .finished, rfl, .passed⟩
  | replace object =>
      rcases commit stage _ _ _ _ _ _ trace with
        ⟨written, reports, stop, course, told, ends⟩
      exact ⟨written, reports, stop,
        course.mono fun _ _ ⟨same, events, asks⟩ =>
          ⟨same, events, _, rfl, asks⟩, told, ends⟩

theorem find?
    (stage : Stage)
    (wrap : ApiError → OperatorError)
    (namespaceName name : String) :
    Leaves (Step.request wrap (Client.find? α namespaceName name))
      (fun found report =>
        report.stage = stage ∧
          report.Requests
            (Request.read (ClusterObject.collection α namespaceName) name)
            (ClusterObject.ofDatum? : Datum → Option α)
            (fun outcome => (Client.presence outcome).mapError wrap) found)
      (fun _ => [stage]) fun value => value := by
  refine ofCall stage fun exchanges result trace => ?_
  rcases Step.traces_request_iff.1 trace with ⟨outcome, looked, rfl⟩
  rcases Client.traces_find?_iff.1 looked with ⟨sent, found, call, rfl, rfl⟩
  exact ⟨sent, found, call, rfl, rfl⟩

/--
An apply leaves the report of its read, and that of the write that its plan asks
for.
-/
theorem apply
    [Inhabited α]
    (read write : Stage)
    (namespaceName : String)
    (merge : α → α → α)
    (wanted : α)
    (recorded : Option Int64) :
    Leaves (Step.apply namespaceName merge wanted recorded)
      (fun (findings : Option α × α) report =>
        (report.stage = read ∧
          report.Reads namespaceName (ClusterObject.metadata wanted).anyName
            findings.1) ∨
        (report.stage = write ∧
          report.Writes namespaceName (ClusterObject.metadata wanted).anyName
            (.of merge wanted recorded findings.1) findings.2))
      (fun findings =>
        [read] ++ if (ApplyPlan.of merge wanted recorded findings.1).isWrite
          then [write] else [])
      fun findings =>
        ⟨(ApplyPlan.of merge wanted recorded findings.1).outcome findings.2,
          (ApplyPlan.of merge wanted recorded findings.1).isWrite⟩ := by
  have live := find? (α := α) read (.apply (ClusterObject.kind α)
    (ClusterObject.metadata wanted).anyName) namespaceName
      (ClusterObject.metadata wanted).anyName
  exact live.bind fun found =>
    carryOut write namespaceName (ClusterObject.metadata wanted).anyName
      (.of merge wanted recorded found)

end Leaves

/-! ## Writing the status -/

theorem traces_writeStatus_iff
    {name : String}
    {operator : OperatorResource}
    {change : StatusChange}
    {exchanges : List Exchange}
    {result : Except OperatorError StatusChange} :
    (writeStatus name operator change).Traces exchanges result ↔
      if change.isWritten then
        ∃ sent outcome,
          Call
              (Request.patchStatus
                (ClusterObject.collection OperatorResource "") name
                (operator.statusPatch change.after))
              OperatorResource.ofDatum? sent outcome ∧
            exchanges = sent.toList ∧
            result =
              (outcome.map fun _ => change).mapError fun cause =>
                .statusUpdate (.notWritten name cause)
      else exchanges = [] ∧ result = .ok change := by
  unfold writeStatus
  split
  · simp only [Client.patchStatus, Program.bind_eq, Program.traces_bind_iff,
      Client.traces_send_iff]
    constructor
    · rintro ⟨outcome, before, after, rfl, ⟨sent, call, rfl⟩, last⟩
      cases outcome with
      | ok stored =>
          rcases Program.traces_done_iff.1 last with ⟨rfl, rfl⟩
          exact ⟨sent, _, call, by simp, rfl⟩
      | error cause =>
          rcases Program.traces_done_iff.1 last with ⟨rfl, rfl⟩
          exact ⟨sent, _, call, by simp, rfl⟩
    · rintro ⟨sent, outcome, call, rfl, rfl⟩
      refine ⟨outcome, sent.toList, [], by simp, ⟨sent, call, rfl⟩, ?_⟩
      cases outcome <;> exact .done _
  · exact Program.traces_done_iff

/--
The status is written after the operator resource was read again, at a time
that the clock shows, unless that reading fails.
-/
theorem traces_updateStatus_iff {name : String}
    {edit : String → OperatorStatus →
      OperatorStatus} {exchanges : List Exchange}
    {result : Except OperatorError StatusChange} :
    (updateStatus name edit).Traces exchanges result ↔
      ∃ sent found rest,
        Call (Request.read (ClusterObject.collection OperatorResource "") name)
            OperatorResource.ofDatum? sent found ∧
          exchanges = sent.toList ++ rest ∧
          match currentOf name (Client.presence found) with
          | .error error => rest = [] ∧ result = .error error
          | .ok operator =>
              ∃ moment : Moment,
                (writeStatus name operator
                  (operator.statusChange (edit moment.instant.text))).Traces
                      rest result := by
  simp only [updateStatus, Program.bind_eq, Program.traces_bind_iff,
    Client.traces_find?_iff]
  constructor
  · rintro ⟨outcome, before, after, rfl, ⟨sent, found, call, rfl, rfl⟩, last⟩
    refine ⟨sent, found, after, call, rfl, ?_⟩
    cases answered : Client.presence found with
    | error cause =>
        rw [answered] at last
        exact Program.traces_done_iff.1 last
    | ok current =>
        rw [answered] at last
        cases current with
        | none => exact Program.traces_done_iff.1 last
        | some operator => exact Program.traces_now_iff.1 last
  · rintro ⟨sent, found, rest, call, rfl, last⟩
    refine ⟨Client.presence found, sent.toList, rest, rfl,
      ⟨sent, found, call, rfl, rfl⟩, ?_⟩
    cases answered : Client.presence found with
    | error cause =>
        rw [answered] at last
        exact Program.traces_done_iff.2 last
    | ok current =>
        rw [answered] at last
        cases current with
        | none => exact Program.traces_done_iff.2 last
        | some operator => exact Program.traces_now_iff.2 last

namespace Leaves

theorem writeStatus
    (name : String)
    (operator : OperatorResource)
    (change : StatusChange) :
    Leaves (Step.ofProgram (HookKeeper.writeStatus name operator change))
      (fun (_ : Unit) report =>
        report.stage = .writeStatus ∧ report.Persists name operator change)
      (fun _ => if change.isWritten then [.writeStatus] else []) fun _ =>
          change := by
  intro exchanges result trace
  have shape := traces_writeStatus_iff.1 (Step.traces_ofProgram_iff.1 trace)
  split at shape
  next written =>
    rcases shape with ⟨sent, outcome, call, rfl, rfl⟩
    rw [if_pos written]
    cases outcome with
    | ok stored =>
        let report : Report := ⟨.writeStatus, sent, [], none⟩
        exact ⟨(), [report], none,
          .single report ⟨rfl, rfl, .ok stored, call, rfl⟩, by
          simp [report, Report.exchanges], .passed⟩
    | error cause =>
        let report : Report :=
          ⟨.writeStatus, sent, [],
            some (.failed (.statusUpdate (.notWritten name cause)))⟩
        exact ⟨(), [report], report.stop,
          .single report ⟨rfl, rfl, .error cause, call, rfl⟩,
          by simp [report, Report.exchanges], .failed _⟩
  next unwritten =>
    rcases shape with ⟨rfl, rfl⟩
    rw [if_neg unwritten]
    exact ⟨(), [], none, .finished, rfl, .passed⟩

/--
A change of the status leaves the report of its read, and that of its write, if
it is due.
-/
theorem updateStatus
    (name : String)
    (edit : String → OperatorStatus → OperatorStatus) :
    Leaves (Step.ofProgram (HookKeeper.updateStatus name edit))
      (fun (findings : OperatorResource × String) report =>
        (report.stage = .rereadOperator ∧ report.Rereads name findings.1) ∨
        (report.stage = .writeStatus ∧
          report.Persists name findings.1
            (findings.1.statusChange (edit findings.2))))
      (fun findings =>
        [.rereadOperator] ++
          if (findings.1.statusChange (edit findings.2)).isWritten then
            [.writeStatus] else [])
      fun findings => findings.1.statusChange (edit findings.2) := by
  intro exchanges result trace
  rcases traces_updateStatus_iff.1 (Step.traces_ofProgram_iff.1 trace) with
    ⟨sent, found, rest, call, rfl, last⟩
  cases settled : currentOf name (Client.presence found) with
  | error error =>
      rw [settled] at last
      rcases last with ⟨rfl, rfl⟩
      let report : Report := ⟨.rereadOperator, sent, [], some (.failed error)⟩
      exact ⟨default, [report], report.stop,
        (Course.single report
          (.inl ⟨rfl, rfl, found, call, by simp only [settled]; rfl⟩)).cut _,
        by simp [report, Report.exchanges], .failed error⟩
  | ok operator =>
      rw [settled] at last
      rcases last with ⟨moment, last⟩
      rcases writeStatus name operator _ _ _ (Step.traces_ofProgram_iff.2 last)
          with
        ⟨⟨⟩, reports, stop, course, rfl, ends⟩
      let report : Report := ⟨.rereadOperator, sent, [], none⟩
      exact ⟨(operator, moment.instant.text), [report] ++ reports, stop,
        (Course.single report
          (.inl ⟨rfl, rfl, found, call, by simp only [settled]; rfl⟩)).append
            (course.mono fun _ _ explained => .inr explained),
        by simp [report, Report.exchanges], ends⟩

end Leaves

/-! ## Checking explanations -/

instance decidableEqExcept
    {ε α : Type}
    [DecidableEq ε]
    [DecidableEq α] :
    DecidableEq (Except ε α)
  | .ok first, .ok second =>
      decidable_of_iff (first = second) ⟨congrArg Except.ok, Except.ok.inj⟩
  | .error first, .error second =>
      decidable_of_iff (first = second) ⟨congrArg Except.error,
        Except.error.inj⟩
  | .ok _, .error _ => isFalse nofun
  | .error _, .ok _ => isFalse nofun

/--
The outcome of a request, if an exchange is about objects and belongs to it.
-/
def Call.outcome?
    (request : Except RequestFault Request)
    (read : Datum → Option β)
    (sent : Option Exchange) : Option (Except ApiError β) :=
  match request, sent with
  | .error fault, none => some (.error (.unbuildable fault))
  | .ok request, some exchange =>
      if exchange.channel = .objects ∧ exchange.request = request then
        some (exchange.answer.decode read)
      else none
  | _, _ => none

theorem Call.iff_outcome?
    {request : Except RequestFault Request}
    {read : Datum → Option β}
    {sent : Option Exchange}
    {outcome : Except ApiError β} :
    Call request read sent outcome ↔
        outcome? request read sent = some outcome := by
  constructor
  · intro call
    cases call with
    | unbuildable fault unbuilt =>
        subst unbuilt
        rfl
    | answered sent answer built =>
        subst built
        simp [outcome?]
  · intro known
    rcases request with fault | request <;> rcases sent with
      _ | ⟨channel, sent, answer⟩
    · cases known
      exact .unbuildable fault rfl
    · cases known
    · cases known
    · rcases Option.ite_none_right_eq_some.1 known with ⟨⟨rfl, rfl⟩, ⟨⟩⟩
      exact .answered _ answer rfl

namespace Report

variable {report : Report}

theorem asks_iff
    {request : Except RequestFault Request}
    {read : Datum → Option β}
    {settle : Except ApiError β → Except Stop γ}
    {value : γ} :
    report.Asks request read settle value ↔
      (Call.outcome? request read report.sent).map settle =
          some (report.verdict value) := by
  simp only [Asks, Call.iff_outcome?, Option.map_eq_some_iff]

instance
    [DecidableEq γ]
    {request : Except RequestFault Request}
    {read : Datum → Option β}
    {settle : Except ApiError β → Except Stop γ}
    {value : γ} :
    Decidable (report.Asks request read settle value) :=
  decidable_of_iff _ asks_iff.symm

instance
    [DecidableEq γ]
    {request : Except RequestFault Request}
    {read : Datum → Option β}
    {settle : Except ApiError β → Except OperatorError γ}
    {value : γ} :
    Decidable (report.Requests request read settle value) :=
  inferInstanceAs (Decidable (_ ∧ _))

instance
    [DecidableEq β]
    {rendered : Except OperatorError β}
    {value : β} :
    Decidable (report.Renders rendered value) :=
  inferInstanceAs (Decidable (_ ∧ _ ∧ _))

instance
    {α : Type}
    [ClusterObject α]
    [DecidableEq α]
    {namespaceName name : String}
    {plan : ApplyPlan α}
    {written : α} :
    Decidable (report.Writes namespaceName name plan written) :=
  match plan with
  | .keep _ => isFalse fun ⟨_, _, asked, _⟩ => nomatch asked
  | .create _ | .replace _ =>
      decidable_of_iff (_ ∧ report.Asks _ _ _ _)
        ⟨fun ⟨events, asks⟩ => ⟨events, _, rfl, asks⟩,
          fun ⟨events, _, same, asks⟩ => ⟨events, Option.some.inj same ▸ asks⟩⟩

end Report

instance
    {settings : Settings}
    {templates : Templates}
    {findings : Findings}
    {report : Report} :
    Decidable (findings.Explains settings templates report) :=
  match report with
  | ⟨.readOperator, _, _, _⟩ =>
      inferInstanceAs (Decidable (_ ∧ Report.Asks _ _ _ _ _))
  | ⟨.renderDeployment, _, _, _⟩ | ⟨.renderRegistration, _, _, _⟩ =>
      inferInstanceAs (Decidable (Report.Renders _ _ _))
  | ⟨.listNodes, _, _, _⟩ | ⟨.readDeployment, _, _, _⟩ | ⟨.readRegistration, _,
      _, _⟩ | ⟨.rereadOperator, _, _, _⟩ | ⟨.writeStatus, _, _, _⟩ =>
      inferInstanceAs (Decidable (Report.Requests _ _ _ _ _))
  | ⟨.writeDeployment, _, _, _⟩ | ⟨.writeRegistration, _, _, _⟩ =>
      inferInstanceAs (Decidable (Report.Writes _ _ _ _ _))

/--
Steps that are all explained and passed make up the course of a cycle that is
not ended.
-/
theorem Course.of_complete
    {Explained : Report → Prop}
    {reports : List Report}
    (explained : ∀ report ∈ reports, Explained report ∧ report.stop = none) :
    Course Explained (reports.map Report.stage) reports none := by
  induction reports with
  | nil => exact .finished
  | cons report rest ih =>
      rcases List.forall_mem_cons.1 explained with ⟨⟨first, passes⟩, others⟩
      exact .passed report first passes (ih others)

/-! ## The account of a cycle -/

namespace Leaves

theorem sizedDeployment
    (settings : Settings)
    (templates : Templates)
    (operator : OperatorResource) :
    Leaves (Step.sizedDeployment settings templates operator)
      (fun (findings : Deployment × List Node × Unit) report =>
        (report.stage = .renderDeployment ∧
          report.Renders
            (renderDeployment templates.deployment settings.image
              operator.spec.logLevel)
            findings.1) ∨
        (report.stage = .listNodes ∧
          report.Lists findings.1.nodeSelector findings.2.1) ∨ False)
      (fun _ => [.renderDeployment] ++ ([.listNodes] ++ []))
      fun findings =>
        findings.1.withReplicas
            (Sizing.replicas findings.1.nodeSelector findings.2.1) := by
  have rendered :=
    ofExcept .renderDeployment
      (renderDeployment templates.deployment settings.image
        operator.spec.logLevel)
  have listed (selector : TextMap) :
      Leaves (Step.request .cluster (listNodes selector))
        (fun nodes report => report.stage = .listNodes ∧
          report.Lists selector nodes)
        (fun _ => [.listNodes]) fun nodes => nodes := by
    refine ofCall .listNodes fun exchanges result trace => ?_
    rcases Step.traces_request_iff.1 trace with ⟨outcome, looked, rfl⟩
    rcases Client.traces_send_iff.1 looked with ⟨sent, call, rfl⟩
    exact ⟨sent, outcome, call, rfl, rfl⟩
  exact rendered.bind fun deployment =>
    (listed deployment.nodeSelector).bind fun nodes => pure _

/-- Findings may be gathered in another form that says as much. -/
theorem gathered
    {step : Step α}
    {Explained : φ → Report → Prop}
    {due : φ → List Stage}
    {value : φ → α}
    {Other : ψ → Report → Prop}
    {others : ψ → List Stage}
    {final : ψ → α}
    (leaves : Leaves step Explained due value)
    (gather : φ → ψ)
    (implies : ∀ findings report, Explained findings report →
      Other (gather findings) report)
    (same : ∀ findings, due findings = others (gather findings))
    (equal : ∀ findings, value findings = final (gather findings)) :
    Leaves step Other others final := by
  intro exchanges result trace
  rcases leaves exchanges result trace with
    ⟨findings, reports, stop, course, told, ends⟩
  refine ⟨gather findings, reports, stop, ?_, told, equal findings ▸ ends⟩
  rw [← same findings]
  exact course.mono fun report _ => implies findings report

/--
The part of a cycle after a managed resource was read has findings and a course.
-/
theorem syncManaged
    (settings : Settings)
    (templates : Templates)
    (operator : OperatorResource) :
    Leaves (Step.syncManaged settings templates operator)
      (fun
          (findings : {findings : Findings // findings.operator = operator})
          report =>
        findings.1.Explains settings templates report)
      (fun findings => findings.1.stages.tail)
      fun findings =>
        .synced findings.1.deploymentPlan.isWrite
            findings.1.registrationPlan.isWrite := by
  apply gathered
  case leaves =>
    unfold Step.syncManaged
    exact
      (sizedDeployment settings templates operator).bind fun sized =>
        (apply .readDeployment .writeDeployment _ _ _ _).bind fun deployment =>
          (ofExcept .renderRegistration _).bind fun hooks =>
            (apply .readRegistration .writeRegistration "" _ _ _).bind
                fun registration =>
              (updateStatus settings.operatorName _).bind fun _ => pure _
  case gather =>
    exact fun findings => ⟨{
      operator
      rendered := findings.1.1
      nodes := findings.1.2.1
      foundDeployment := findings.2.1.1
      writtenDeployment := findings.2.1.2
      hooks := findings.2.2.1
      foundRegistration := findings.2.2.2.1.1
      writtenRegistration := findings.2.2.2.1.2
      current := findings.2.2.2.2.1.1
      now := findings.2.2.2.2.1.2 }, rfl⟩
  case implies =>
    rintro findings report
      ((⟨stage, explained⟩ | ⟨stage, explained⟩ | ⟨⟨⟩⟩) |
        (⟨stage, explained⟩ | ⟨stage, explained⟩) | ⟨stage, explained⟩ |
        (⟨stage, explained⟩ | ⟨stage, explained⟩) |
        (⟨stage, explained⟩ | ⟨stage, explained⟩) | ⟨⟨⟩⟩) <;>
      simp only [Findings.Explains, stage] <;>
      exact explained
  case same =>
    intro findings
    simp only [Findings.stages, List.cons_append, List.nil_append,
      List.append_nil, List.tail_cons]
    rfl
  case equal => exact fun findings => rfl

end Leaves

/--
The findings and the reports of a cycle account for its exchanges and its
result.
-/
structure Account
    (settings : Settings)
    (templates : Templates)
    (findings : Findings)
    (reports : List Report)
    (stop : Option Stop)
    (exchanges : List Exchange)
    (result : Except OperatorError SyncOutcome) : Prop where
  course : Course (findings.Explains settings templates) findings.stages
    reports stop
  exchanges_eq : exchanges = reports.flatMap Report.exchanges
  result_eq : result = findings.result stop

theorem explains_readOperator
    {settings : Settings}
    {templates : Templates}
    {findings : Findings}
    {sent : Option Exchange}
    {outcome : Except ApiError OperatorResource}
    {stop : Option Stop}
    (call : Call (Findings.operatorRequest settings) OperatorResource.ofDatum?
      sent outcome)
    (settled : Stop.ofOperator (Client.presence outcome) =
        (⟨.readOperator, sent, [], stop⟩ : Report).verdict findings.operator) :
    findings.Explains settings templates ⟨.readOperator, sent, [], stop⟩ :=
  ⟨rfl, outcome, call, settled⟩

/-- Every trace of a cycle has an account. -/
theorem Step.Traces.account
    {settings : Settings}
    {templates : Templates}
    {exchanges : List Exchange}
    {result : Except OperatorError SyncOutcome}
    (trace : (sync settings templates).Traces exchanges result) :
    ∃ findings reports stop,
      Account settings templates findings reports stop exchanges result := by
  -- A cycle that ends with its first step has only one report.
  have ended (stop : Stop) {sent : Option Exchange}
      {outcome : Except ApiError OperatorResource} (call :
        Call (Findings.operatorRequest settings) OperatorResource.ofDatum? sent
        outcome)
      (settled : Stop.ofOperator (Client.presence outcome) = .error stop) :
      ∃ findings reports ending,
        Account settings templates findings reports ending sent.toList
            stop.result := by
    let report : Report := ⟨.readOperator, sent, [], some stop⟩
    exact ⟨{}, [report], some stop,
      .stopped report stop _ (explains_readOperator call settled) rfl,
      by simp [report, Report.exchanges], rfl⟩
  rcases trace.of_bind with
    ⟨error, rfl, failed⟩ | ⟨present, before, after, rfl, first, last⟩
  · rcases traces_request_iff.1 failed with ⟨outcome, looked, equal⟩
    rcases Client.traces_find?_iff.1 looked with
      ⟨sent, answered, call, rfl, rfl⟩
    cases presence : Client.presence answered with
    | ok present =>
        rw [presence] at equal
        cases equal
    | error cause =>
        rw [presence] at equal
        cases equal
        exact ended (.failed (.cluster cause)) call (by rw [presence]; rfl)
  rcases traces_request_iff.1 first with ⟨outcome, looked, equal⟩
  rcases Client.traces_find?_iff.1 looked with ⟨sent, answered, call, rfl, rfl⟩
  cases presence : Client.presence answered with
  | error cause =>
      rw [presence] at equal
      cases equal
  | ok found =>
      rw [presence] at equal
      cases equal
      cases present with
      | none =>
          rcases traces_pure_iff.1 last with ⟨rfl, rfl⟩
          rw [List.append_nil]
          exact ended .absent call (by rw [presence]; rfl)
      | some operator =>
          by_cases managed : operator.spec.managementState = .managed
          · have managedTrace :
                (syncManaged settings templates operator).Traces after
                result := by
              simpa only [managed, if_true] using last
            rcases Leaves.syncManaged settings templates operator _ _
                managedTrace with
              ⟨⟨findings, rfl⟩, reports, stop, course, rfl, ends⟩
            let report : Report := ⟨.readOperator, sent, [], none⟩
            refine ⟨findings, report :: reports, stop,
              .passed report (explains_readOperator call ?_) rfl course,
              by simp [report, Report.exchanges], ?_⟩
            · rw [presence, Stop.ofOperator, if_pos managed]
              rfl
            · cases ends <;> rfl
          · have unmanaged :
                (return .notManaged operator.spec.managementState :
                  Step SyncOutcome).Traces after result := by
              simpa only [managed, if_false] using last
            rcases traces_pure_iff.1 unmanaged with ⟨rfl, rfl⟩
            rw [List.append_nil]
            exact ended (.unmanaged operator.spec.managementState) call
              (by rw [presence, Stop.ofOperator, if_neg managed])

end HookKeeper
