import HookKeeper.Proofs.Rendered

/-!
# Failures that last

A cycle fails for good only because of its inputs: the log level of the
operator resource, or a template.  Rendering is where that shows, and rendering
sends nothing, so no reply makes a failure permanent.  A log level or a
Deployment template that is at fault ends every cycle right after the operator
resource was read.
-/

namespace HookKeeper

open HookKeeper.Json
open HookKeeper.Manifest

/-! ## Failures of rendering -/

/--
The log levels that an operator resource may ask for; leaving it out is one of
them.
-/
def LogLevel.known : List (Option String) :=
  [none, some "", some "Normal", some "Debug", some "Trace", some "TraceAll"]

theorem LogLevel.parse_of_known
    {level : Option String}
    (known : level ∈ LogLevel.known) : ∃ parsed, parse level = .ok parsed := by
  simp only [LogLevel.known, List.mem_cons, List.not_mem_nil, or_false] at known
  rcases known with rfl | rfl | rfl | rfl | rfl | rfl <;> exact ⟨_, rfl⟩

theorem LogLevel.parse_of_unknown
    {value : String}
    (unknown : some value ∉ LogLevel.known) :
    parse (some value) = .error (.invalidLogLevel value) := by
  simp only [LogLevel.known, List.mem_cons, List.not_mem_nil, or_false, not_or,
    reduceCtorEq, Option.some.injEq, not_false_eq_true, true_and] at unknown
  rcases unknown with ⟨empty, normal, debug, trace, traceAll⟩
  simp [parse, ofName?, empty, normal, debug, trace, traceAll]

/-- The ways in which no Deployment is rendered for a log level. -/
inductive Unrenderable
    (settings : Settings)
    (templates : Templates)
    (level : Option String) : OperatorError → Prop where
  | logLevel
      (value : String)
      (given : level = some value)
      (unknown : some value ∉ LogLevel.known) :
      Unrenderable settings templates level (.invalidLogLevel value)
  | template
      (text : String)
      (fault : DecodeFault)
      (filled : fillIn templates.deployment settings.image level = .ok text)
      (undecodable : decode .deployment Deployment.ofDatum? text =
        .error (.templateDecode .deployment fault)) :
      Unrenderable settings templates level (.templateDecode .deployment fault)

theorem decode_eq_error
    {asset : Asset}
    {read : Datum → Option α}
    {text : String}
    {error : OperatorError}
    (failed : decode asset read text = .error error) :
    ∃ fault, error = .templateDecode asset fault := by
  unfold decode at failed
  split at failed
  · exact ⟨_, (Except.error.inj failed).symm⟩
  · split at failed
    · exact ⟨_, (Except.error.inj failed).symm⟩
    · cases failed

theorem renderDeployment_eq_error_iff
    {settings : Settings}
    {templates : Templates}
    {level : Option String}
    {error : OperatorError} :
    renderDeployment templates.deployment settings.image level = .error error ↔
      Unrenderable settings templates level error := by
  constructor
  · intro failed
    by_cases known : level ∈ LogLevel.known
    · rcases LogLevel.parse_of_known known with ⟨parsed, read⟩
      have filled : fillIn templates.deployment settings.image level =
          .ok (String.ofList
            (filled templates.deployment.toList settings.image.toList
                parsed)) := by
        rw [fillIn, read]
        rfl
      rw [renderDeployment, filled] at failed
      rcases decode_eq_error failed with ⟨fault, rfl⟩
      exact .template _ fault filled failed
    · cases level with
      | none => exact absurd (by simp [LogLevel.known]) known
      | some value =>
          rw [renderDeployment, fillIn,
            LogLevel.parse_of_unknown known] at failed
          cases failed
          exact .logLevel value rfl known
  · rintro (⟨value, rfl, unknown⟩ | ⟨text, fault, filled, undecodable⟩)
    · rw [renderDeployment, fillIn, LogLevel.parse_of_unknown unknown]
      rfl
    · rw [renderDeployment, filled]
      exact undecodable

theorem Unrenderable.isPermanent
    {settings : Settings}
    {templates : Templates}
    {level : Option String}
    {error : OperatorError}
    (unrenderable : Unrenderable settings templates level error) :
    error.isPermanent = true := by
  cases unrenderable <;> rfl

theorem renderRegistration_eq_error_iff
    {template : String}
    {error : OperatorError} :
    renderRegistration template = .error error ↔
      decode .registration Registration.ofDatum? template = .error error := by
  unfold renderRegistration
  cases decode .registration Registration.ofDatum? template with
  | error cause => exact Iff.rfl
  | ok registration => exact ⟨(nomatch ·), (nomatch ·)⟩

/-! ## Failures of steps -/

namespace Report

variable {report : Report} {error : OperatorError}

theorem Asks.failed
    {request : Except RequestFault Request}
    {read : Datum → Option β}
    {settle : Except ApiError β → Except Stop γ}
    {value : γ}
    (asks : report.Asks request read settle value)
    (ended : report.stop = some (.failed error)) :
    ∃ outcome, settle outcome = .error (.failed error) := by
  rcases asks with ⟨outcome, _, settled⟩
  rw [verdict, ended] at settled
  exact ⟨outcome, settled⟩

theorem Requests.failed
    {request : Except RequestFault Request}
    {read : Datum → Option β}
    {settle : Except ApiError β → Except OperatorError γ}
    {value : γ}
    (requests : report.Requests request read settle value)
    (ended : report.stop = some (.failed error)) :
    ∃ outcome, settle outcome = .error error := by
  rcases Asks.failed requests.2 ended with ⟨outcome, settled⟩
  rcases error_of_mapError settled with ⟨cause, failed, same⟩
  cases same
  exact ⟨outcome, failed⟩

theorem Renders.failed
    {rendered : Except OperatorError β}
    {value : β}
    (renders : report.Renders rendered value)
    (ended : report.stop = some (.failed error)) : rendered = .error error := by
  have settled := renders.2.2
  rw [verdict, ended] at settled
  rcases error_of_mapError settled with ⟨cause, failed, same⟩
  cases same
  exact failed

end Report

theorem Stop.ofOperator_eq_failed
    {found : Except ApiError (Option OperatorResource)}
    {error : OperatorError}
    (failed : Stop.ofOperator found = .error (.failed error)) :
    ∃ cause, error = .cluster cause := by
  rcases found with cause | _ | operator
  · cases failed
    exact ⟨cause, rfl⟩
  · cases failed
  · rw [Stop.ofOperator] at failed
    split at failed <;> cases failed

theorem currentOf_eq_error
    {name : String}
    {found : Except ApiError (Option OperatorResource)}
    {error : OperatorError}
    (failed : currentOf name found = .error error) :
    ∃ fault, error = .statusUpdate fault := by
  rcases found with cause | _ | operator <;> cases failed <;> exact ⟨_, rfl⟩

/-- The steps that render what a template describes. -/
def Stage.renders : Stage → Bool
  | .renderDeployment | .renderRegistration => true
  | _ => false

/-- A step fails for good exactly when it renders. -/
theorem Findings.Explains.isPermanent_eq
    {settings : Settings}
    {templates : Templates}
    {findings : Findings}
    {report : Report}
    {error : OperatorError}
    (explained : findings.Explains settings templates report)
    (ended : report.stop = some (.failed error)) :
    error.isPermanent = report.stage.renders := by
  cases own : report.stage <;> simp only [Explains, own] at explained <;>
    simp only [Stage.renders]
  case renderDeployment =>
    exact (renderDeployment_eq_error_iff.1 (explained.failed ended)).isPermanent
  case renderRegistration =>
    rcases decode_eq_error
        (renderRegistration_eq_error_iff.1 (explained.failed ended)) with
      ⟨fault, rfl⟩
    rfl
  case readOperator =>
    rcases explained.2.failed ended with ⟨outcome, failed⟩
    rcases Stop.ofOperator_eq_failed failed with ⟨cause, rfl⟩
    rfl
  case writeDeployment | writeRegistration =>
    rcases explained with ⟨_, request, _, asks⟩
    rcases asks.failed ended with ⟨outcome, failed⟩
    rcases error_of_mapError failed with ⟨cause, _, same⟩
    cases same
    rfl
  case rereadOperator =>
    rcases explained.failed ended with ⟨outcome, failed⟩
    rcases currentOf_eq_error failed with ⟨fault, rfl⟩
    rfl
  case listNodes | readDeployment | readRegistration | writeStatus =>
    rcases explained.failed ended with ⟨outcome, failed⟩
    rcases error_of_mapError failed with ⟨cause, _, rfl⟩
    rfl

/-- A step that sent something did not fail for good. -/
theorem Findings.Explains.transient
    {settings : Settings}
    {templates : Templates}
    {findings : Findings}
    {report : Report}
    {error : OperatorError}
    (explained : findings.Explains settings templates report)
    (ended : report.stop = some (.failed error))
    (sent : report.exchanges ≠ []) : error.isPermanent = false := by
  rw [explained.isPermanent_eq ended]
  cases own : report.stage <;> simp only [Explains, own] at explained
  case renderDeployment | renderRegistration =>
    exact absurd (by simp [Report.exchanges, explained.1, explained.2.1]) sent
  all_goals rfl

/-! ## Failures of cycles -/

namespace Account

variable {settings : Settings} {templates : Templates} {findings : Findings}
  {reports : List Report} {stop : Option Stop} {exchanges : List Exchange}
  {result : Except OperatorError SyncOutcome} {error : OperatorError}

/--
A cycle that fails for good has read a managed resource, and fails by its
inputs.
-/
theorem of_permanent
    (account :
      Account settings templates findings reports stop exchanges result)
    (failed : result = .error error)
    (permanent : error.isPermanent = true) :
    ∃ read rest,
      exchanges = read :: rest ∧
        Findings.operatorRequest settings = .ok read.request ∧
        read.answer.decode OperatorResource.ofDatum? = .ok findings.operator ∧
        findings.operator.spec.managementState = .managed ∧
        (Unrenderable settings templates findings.operator.spec.logLevel error ∨
          decode .registration Registration.ofDatum? templates.registration =
              .error error) := by
  rcases account.of_error failed with ⟨earlier, last, split, ended, _⟩
  have taken : last ∈ reports :=
    split ▸ List.mem_append_right earlier List.mem_cons_self
  have explained := account.course.explained last taken
  have renders := (explained.isPermanent_eq ended).symm.trans permanent
  rcases account.taken_before taken with ⟨before, after, whole, stages, passed⟩
  have due : ∃ others,
      findings.stages.takeWhile (fun stage => stage.place < last.stage.place) =
        .readOperator :: others := by
    cases own : last.stage <;> rw [own] at renders <;> first
      | exact ⟨_, rfl⟩
      | cases renders
  rcases due with ⟨others, due⟩
  rw [due, List.map_eq_cons_iff] at stages
  rcases stages with ⟨first, rest, rfl, own, _⟩
  rcases passed first List.mem_cons_self with ⟨reads, passes⟩
  rcases reads.operator_read own passes with
    ⟨read, sent, built, operator, managed⟩
  refine ⟨read, (rest ++ last :: after).flatMap Report.exchanges, ?_, built,
    operator, managed, ?_⟩
  · rw [account.exchanges_eq, whole]
    simp [sent]
  · cases own : last.stage <;> rw [own] at renders
    case renderDeployment =>
      simp only [Findings.Explains, own] at explained
      exact .inl (renderDeployment_eq_error_iff.1 (explained.failed ended))
    case renderRegistration =>
      simp only [Findings.Explains, own] at explained
      exact .inr (renderRegistration_eq_error_iff.1 (explained.failed ended))
    all_goals cases renders

/--
A managed resource for which no Deployment is rendered ends a cycle with its
first request.
-/
theorem of_unrenderable
    (account :
      Account settings templates findings reports stop exchanges result)
    {read : Exchange}
    {rest : List Exchange}
    (sent : exchanges = read :: rest)
    {operator : OperatorResource}
    (answered : read.answer.decode OperatorResource.ofDatum? = .ok operator)
    (managed : operator.spec.managementState = .managed)
    (unrenderable :
        Unrenderable settings templates operator.spec.logLevel error) :
    rest = [] ∧ result = .error error := by
  have course : Course (findings.Explains settings templates)
      (.readOperator :: .renderDeployment :: findings.stages.tail.tail) reports
          stop :=
    account.course
  rcases course.of_cons with
    ⟨⟨stage, asked, told, ending⟩, others, rfl, rfl, explained, continues⟩
  rcases explained with ⟨rfl, outcome, call, settled⟩
  have head := account.exchanges_eq.symm.trans sent
  cases call with
  | unbuildable fault unbuilt =>
      rcases continues with ⟨_, _, rfl⟩ | ⟨rfl, _⟩
      · cases head
      · cases settled
  | answered request answer built =>
      rcases List.cons.inj head with ⟨rfl, tail⟩
      have finds :=
        Stop.ofOperator_eq_ok_iff.2 ⟨Client.presence_eq_some_iff.2 answered,
          managed⟩
      have found := finds.symm.trans settled
      rcases continues with ⟨rfl, ended, rfl⟩ | ⟨rfl, later⟩
      · rcases Option.isSome_iff_exists.1 ended with ⟨stop, rfl⟩
        cases found
      cases found
      rcases later.of_cons with
        ⟨⟨stage, asked, told, ending⟩, others, rfl, rfl, renders, continues⟩
      rcases renders with ⟨rfl, rfl, rendered⟩
      have failed : Except.error (.failed error) =
          (⟨.renderDeployment, none, [], ending⟩ :
          Report).verdict findings.rendered := by
        rw [← rendered, renderDeployment_eq_error_iff.2 unrenderable]
        rfl
      rcases continues with ⟨rfl, ended, rfl⟩ | ⟨rfl, _⟩
      · rcases Option.isSome_iff_exists.1 ended with ⟨stop, rfl⟩
        cases failed
        exact ⟨tail.symm, account.result_eq⟩
      · cases failed

end Account

theorem Step.head?_exchanges_sync
    (host : Host σ)
    (state : σ)
    (recorder : Recorder)
    {settings : Settings}
    (templates : Templates)
    {request : Request}
    (built : Findings.operatorRequest settings = .ok request) :
    ((sync settings templates).exchanges host state recorder).head? =
      some ⟨.objects, request, (host.answer state .objects request).1⟩ := by
  rw [Findings.operatorRequest] at built
  simp only [exchanges, sync, start_bind, Step.request, start_ofProgram,
    Client.find?, Client.send, built]
  rfl

/--
A cycle against any host has an account.  A failure for good is that of a
managed resource whose log level is unknown or for which the filled-in template
of the Deployment does not decode, or the template of the registration does
not decode.  A resource of the first kind ends every cycle that reads it with
that failure, and no other request is sent.  A step that fails does so for good
exactly when it renders, and never after it sent a request.
-/
theorem permanent_failure_of_inputs
    (host : Host σ)
    (state : σ)
    (settings : Settings)
    (templates : Templates)
    (recorder : Recorder) :
    ∃ exchanges result findings reports stop,
      exchanges = (Step.sync settings templates).exchanges host state recorder ∧
      result = (Step.sync settings templates).outcome host state recorder ∧
      Account settings templates findings reports stop exchanges result ∧
      (∀ error, result = .error error → error.isPermanent = true →
        ∃ read rest operator,
          exchanges = read :: rest ∧
          Findings.operatorRequest settings = .ok read.request ∧
          read.answer.decode OperatorResource.ofDatum? = .ok operator ∧
          operator.spec.managementState = .managed ∧
          (Unrenderable settings templates operator.spec.logLevel error ∨
            decode .registration Registration.ofDatum? templates.registration =
              .error error)) ∧
      (∀ request operator error,
        Findings.operatorRequest settings = .ok request →
        (host.answer state .objects request).1.decode
          OperatorResource.ofDatum? =
          .ok operator →
        operator.spec.managementState = .managed →
        Unrenderable settings templates operator.spec.logLevel error →
        result = .error error ∧ error.isPermanent = true ∧
          exchanges =
            [⟨.objects, request, (host.answer state .objects request).1⟩]) ∧
      (∀ report ∈ reports, ∀ error, report.stop = some (.failed error) →
        error.isPermanent = report.stage.renders ∧
          (report.exchanges ≠ [] → error.isPermanent = false)) := by
  rcases (Step.traces_run host state recorder
      (Step.sync settings templates)).account with
    ⟨findings, reports, stop, account⟩
  refine ⟨_, _, findings, reports, stop, rfl, rfl, account,
    fun error failed permanent =>
    ?_, fun request operator error built answered managed unrenderable =>
    ?_, fun report taken error ended => ?_⟩
  · rcases account.of_permanent failed permanent with ⟨read, rest, found⟩
    exact ⟨read, rest, findings.operator, found⟩
  · have head := Step.head?_exchanges_sync host state recorder templates built
    rcases List.head?_eq_some_iff.1 head with ⟨rest, sent⟩
    rcases account.of_unrenderable sent answered managed unrenderable with
      ⟨rfl, failed⟩
    exact ⟨failed, unrenderable.isPermanent, sent⟩
  · have explained := account.course.explained report taken
    exact ⟨explained.isPermanent_eq ended, explained.transient ended⟩

end HookKeeper
