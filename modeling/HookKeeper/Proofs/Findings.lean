import HookKeeper.Cycle.Sync
import HookKeeper.Proofs.Trace

/-!
# Findings of a cycle

A cycle is a row of steps, and each step leaves a report: the request about
objects that it sent with its answer, what it told in events, and why the cycle
ended with it, if it did.  What the steps find one after another are the
findings of the cycle; they say which steps are due, what each of them asks
for, and what it makes of the answer.  A course is a list of reports of due
steps, in order, up to the first one that ends the cycle.
-/

namespace HookKeeper

open HookKeeper.Manifest

instance : Inhabited Deployment := ⟨{}⟩

instance : Inhabited Registration := ⟨{}⟩

instance : Inhabited OperatorResource := ⟨{ metadata := {}, spec := {} }⟩

/-- The steps of a cycle. -/
inductive Stage where
  | readOperator
  | renderDeployment
  | listNodes
  | readDeployment
  | writeDeployment
  | renderRegistration
  | readRegistration
  | writeRegistration
  | rereadOperator
  | writeStatus
  deriving DecidableEq, Repr

/-- Why a cycle ends with a step. -/
inductive Stop where
  | failed (error : OperatorError)
  | absent
  | unmanaged (state : ManagementState)
  deriving DecidableEq, Repr

def Stop.result : Stop → Except OperatorError SyncOutcome
  | .failed error => .error error
  | .absent => .ok .notFound
  | .unmanaged state => .ok (.notManaged state)

/-- What a step of a cycle did. -/
structure Report where
  stage : Stage
  /-- The request about objects, with its answer. -/
  sent : Option Exchange := none
  /-- The requests about events, with their answers. -/
  told : List Exchange := []
  /-- Why the cycle ended with the step. -/
  stop : Option Stop := none
  deriving DecidableEq, Repr

namespace Report

def exchanges (report : Report) : List Exchange :=
  report.sent.toList ++ report.told

/-- What a step finds, unless the cycle ends with it. -/
def verdict (report : Report) (value : β) : Except Stop β :=
  match report.stop with
  | none => .ok value
  | some stop => .error stop

/--
A step sends a request, if it can be built, and makes its finding of the
outcome.
-/
def Asks
    (report : Report)
    (request : Except RequestFault Request)
    (read : Datum → Option β)
    (settle : Except ApiError β → Except Stop γ)
    (value : γ) : Prop :=
  ∃ outcome, Call request read report.sent outcome ∧
    settle outcome = report.verdict value

/-- A step does nothing but send a request, and fails as the request does. -/
def Requests
    (report : Report)
    (request : Except RequestFault Request)
    (read : Datum → Option β)
    (settle : Except ApiError β → Except OperatorError γ)
    (value : γ) : Prop :=
  report.told = [] ∧
    report.Asks request read (fun outcome => (settle outcome).mapError .failed)
      value

/-- A step renders what a template describes. -/
def Renders
    (report : Report)
    (rendered : Except OperatorError β)
    (value : β) : Prop :=
  report.sent = none ∧ report.told = [] ∧
    rendered.mapError .failed = report.verdict value

end Report

/-! ## What is asked for -/

namespace ApplyPlan

variable {α : Type} [ClusterObject α]

def isWrite : ApplyPlan α → Bool
  | .create _ => true
  | .keep _ => false
  | .replace _ => true

/-- The request that a plan asks for. -/
def request? (namespaceName name : String) :
    ApplyPlan α → Option (Except RequestFault Request)
  | .create object =>
      some (Request.create (ClusterObject.collection α namespaceName)
        Request.author (ClusterObject.toValue object))
  | .keep _ => none
  | .replace object =>
      some (Request.replace (ClusterObject.collection α namespaceName) name
        (ClusterObject.toValue object))

/-- The live object after a plan, given the answer to its write. -/
def outcome (written : α) : ApplyPlan α → α
  | .create _ => written
  | .keep live => live
  | .replace _ => written

end ApplyPlan

def nodesRequest (selector : TextMap) : Except RequestFault Request :=
  Request.list (ClusterObject.collection Node "")
    (if selector.isEmpty then []
      else [("labelSelector", Sizing.selectorText selector)])

/--
The operator resource that a cycle starts from: one that is there and managed.
-/
def Stop.ofOperator :
    Except ApiError (Option OperatorResource) → Except Stop OperatorResource
  | .error cause => .error (.failed (.cluster cause))
  | .ok none => .error .absent
  | .ok (some operator) =>
      if operator.spec.managementState = .managed then .ok operator
      else .error (.unmanaged operator.spec.managementState)

/--
The operator resource that is read before its status is written; it has to be
there.
-/
def currentOf (name : String) :
    Except ApiError (Option OperatorResource) →
      Except OperatorError OperatorResource
  | .error cause => .error (.statusUpdate (.notRead name cause))
  | .ok none => .error (.statusUpdate (.notFound name))
  | .ok (some operator) => .ok operator

theorem currentOf_presence_error
    (name : String)
    (cause : ApiError) :
    ∃ error, currentOf name (Client.presence (.error cause)) =
        .error error := by
  cases presence :
      Client.presence (.error cause : Except ApiError OperatorResource) with
  | error cause => exact ⟨_, rfl⟩
  | ok found =>
      cases found with
      | none => exact ⟨_, rfl⟩
      | some operator => cases (Client.presence_eq_some_iff.1 presence)

namespace Report

variable {α : Type} [ClusterObject α]

/-- A step reads the live object of an apply. -/
def Reads
    (report : Report)
    (namespaceName name : String)
    (found : Option α) : Prop :=
  report.Requests (Request.read (ClusterObject.collection α namespaceName) name)
    (ClusterObject.ofDatum? : Datum → Option α)
    (fun outcome =>
      (Client.presence outcome).mapError (.apply (ClusterObject.kind α) name))
      found

/-- A step writes the object of a plan and tells the result. -/
def Writes
    (report : Report)
    (namespaceName name : String)
    (plan : ApplyPlan α)
    (written : α) : Prop :=
  (∀ exchange ∈ report.told, exchange.channel = .events) ∧
    ∃ request, plan.request? namespaceName name = some request ∧
      report.Asks request (ClusterObject.ofDatum? : Datum → Option α)
        (fun outcome => outcome.mapError fun cause =>
          .failed (.apply (ClusterObject.kind α) name cause)) written

def Lists (report : Report) (selector : TextMap) (nodes : List Node) : Prop :=
  report.Requests (nodesRequest selector) (Client.itemsOfDatum? Node.ofDatum?)
    (fun outcome => outcome.mapError .cluster) nodes

def Rereads
    (report : Report)
    (name : String)
    (current : OperatorResource) : Prop :=
  report.Requests
    (Request.read (ClusterObject.collection OperatorResource "") name)
    OperatorResource.ofDatum? (fun outcome =>
      currentOf name (Client.presence outcome)) current

def Persists
    (report : Report)
    (name : String)
    (current : OperatorResource)
    (change : StatusChange) : Prop :=
  report.Requests
    (Request.patchStatus (ClusterObject.collection OperatorResource "") name
      (current.statusPatch change.after))
    OperatorResource.ofDatum?
    (fun outcome =>
      (outcome.map fun _ => ()).mapError fun cause =>
        .statusUpdate (.notWritten name cause)) ()

end Report

/-! ## Findings -/

/-- What the steps of a cycle find, one after another. -/
structure Findings where
  operator : OperatorResource := ⟨{}, {}, none⟩
  rendered : Deployment := {}
  nodes : List Node := []
  foundDeployment : Option Deployment := none
  writtenDeployment : Deployment := {}
  hooks : Registration := {}
  foundRegistration : Option Registration := none
  writtenRegistration : Registration := {}
  current : OperatorResource := ⟨{}, {}, none⟩
  now : String := ""

namespace Findings

variable (settings : Settings) (templates : Templates) (findings : Findings)

def records : List GenerationRecord :=
  (findings.operator.status.getD {}).generations

/-- The Deployment that is wanted, with the number of its pods. -/
def wanted : Deployment :=
  findings.rendered.withReplicas
    (Sizing.replicas findings.rendered.nodeSelector findings.nodes)

def namespaceName : String := findings.wanted.metadata.namespaceName.getD ""

/-- What is to be done about the Deployment. -/
def deploymentPlan : ApplyPlan Deployment :=
  .of Deployment.merged findings.wanted.stamped
    (GenerationRecord.expected? findings.records
      (.ofDeployment findings.wanted))
    findings.foundDeployment

def deployment : Deployment :=
  findings.deploymentPlan.outcome findings.writtenDeployment

def registrationPlan : ApplyPlan Registration :=
  .of Registration.merged findings.hooks
    (GenerationRecord.expected? findings.records
      (.ofRegistration findings.hooks))
    findings.foundRegistration

def registration : Registration :=
  findings.registrationPlan.outcome findings.writtenRegistration

/-- The change of the status at the end of the cycle. -/
def change : StatusChange :=
  findings.current.statusChange
    (statusAfter findings.deployment findings.registration findings.now)

/-- The steps that are due in a cycle with these findings. -/
def stages : List Stage :=
  [.readOperator, .renderDeployment, .listNodes, .readDeployment] ++
    ((if findings.deploymentPlan.isWrite then [.writeDeployment] else []) ++
      ([.renderRegistration, .readRegistration] ++
        ((if findings.registrationPlan.isWrite then [.writeRegistration]
          else []) ++
          ([.rereadOperator] ++ if findings.change.isWritten then [.writeStatus]
            else []))))

def operatorRequest : Except RequestFault Request :=
  Request.read (ClusterObject.collection OperatorResource "")
    settings.operatorName

def statusRequest : Except RequestFault Request :=
  Request.patchStatus (ClusterObject.collection OperatorResource "")
    settings.operatorName (findings.current.statusPatch findings.change.after)

/-- The request about objects of a step; rendering has none. -/
def request? : Stage → Option (Except RequestFault Request)
  | .readOperator => some (operatorRequest settings)
  | .renderDeployment => none
  | .listNodes => some (nodesRequest findings.rendered.nodeSelector)
  | .readDeployment =>
      some (Request.read
        (ClusterObject.collection Deployment findings.namespaceName)
        findings.wanted.metadata.anyName)
  | .writeDeployment =>
      findings.deploymentPlan.request? findings.namespaceName
        findings.wanted.metadata.anyName
  | .renderRegistration => none
  | .readRegistration =>
      some (Request.read (ClusterObject.collection Registration "")
        findings.hooks.metadata.anyName)
  | .writeRegistration =>
      findings.registrationPlan.request? "" findings.hooks.metadata.anyName
  | .rereadOperator => some (operatorRequest settings)
  | .writeStatus => some (findings.statusRequest settings)

/--
The requests about objects of a cycle with these findings, as far as they can be
built.
-/
def requests : List Request :=
  findings.stages.filterMap fun stage =>
    (findings.request? settings stage).bind Except.toOption

/--
What a report says is what its step does, given what was found before, and
finds.
-/
def Explains (report : Report) : Prop :=
  match report.stage with
  | .readOperator =>
      report.told = [] ∧
        report.Asks (operatorRequest settings) OperatorResource.ofDatum?
          (fun outcome => Stop.ofOperator (Client.presence outcome))
            findings.operator
  | .renderDeployment =>
      report.Renders
        (renderDeployment templates.deployment settings.image
          findings.operator.spec.logLevel)
        findings.rendered
  | .listNodes => report.Lists findings.rendered.nodeSelector findings.nodes
  | .readDeployment =>
      report.Reads findings.namespaceName findings.wanted.metadata.anyName
        findings.foundDeployment
  | .writeDeployment =>
      report.Writes findings.namespaceName findings.wanted.metadata.anyName
        findings.deploymentPlan findings.writtenDeployment
  | .renderRegistration =>
      report.Renders (renderRegistration templates.registration) findings.hooks
  | .readRegistration =>
      report.Reads "" findings.hooks.metadata.anyName findings.foundRegistration
  | .writeRegistration =>
      report.Writes "" findings.hooks.metadata.anyName findings.registrationPlan
        findings.writtenRegistration
  | .rereadOperator => report.Rereads settings.operatorName findings.current
  | .writeStatus =>
      report.Persists settings.operatorName findings.current findings.change

/--
The result of a cycle with these findings that was ended early, or was not.
-/
def result : Option Stop → Except OperatorError SyncOutcome
  | some stop => stop.result
  | none =>
      .ok (.synced findings.deploymentPlan.isWrite
        findings.registrationPlan.isWrite)

end Findings

/-! ## Courses -/

/--
The due steps are taken one after another, each as it is explained; the first
one that ends the cycle is the last.
-/
inductive Course (Explained : Report → Prop) :
    List Stage → List Report → Option Stop → Prop where
  | finished : Course Explained [] [] none
  | stopped
      (report : Report)
      (stop : Stop)
      (due : List Stage)
      (explained : Explained report)
      (ends : report.stop = some stop) :
      Course Explained (report.stage :: due) [report] (some stop)
  | passed
      (report : Report)
      (explained : Explained report)
      (passes : report.stop = none)
      (rest : Course Explained due reports stop) :
      Course Explained (report.stage :: due) (report :: reports) stop

namespace Course

variable {Explained : Report → Prop}

theorem single
    (report : Report)
    (explained : Explained report) :
    Course Explained [report.stage] [report] report.stop := by
  cases ends : report.stop with
  | none => exact .passed report explained ends .finished
  | some stop => exact .stopped report stop [] explained ends

theorem append
    {first second : List Stage}
    {before after : List Report}
    {stop : Option Stop}
    (passed : Course Explained first before none)
    (next : Course Explained second after stop) :
    Course Explained (first ++ second) (before ++ after) stop := by
  generalize ended : (none : Option Stop) = none' at passed
  induction passed with
  | finished => exact next
  | stopped report stop due explained ends => cases ended
  | passed report explained passes rest ih =>
      exact .passed report explained passes (ih ended)

theorem cut
    {first : List Stage}
    {before : List Report}
    {stop : Stop}
    (ended : Course Explained first before (some stop))
    (second : List Stage) :
    Course Explained (first ++ second) before (some stop) := by
  generalize same : some stop = ending at ended
  induction ended with
  | finished => cases same
  | stopped report stop due explained ends =>
      exact .stopped report stop _ explained ends
  | passed report explained passes rest ih =>
      exact .passed report explained passes (ih same)

theorem mono
    {Other : Report → Prop}
    {due : List Stage}
    {reports : List Report}
    {stop : Option Stop}
    (course : Course Explained due reports stop)
    (implies : ∀ report, report.stage ∈ due → Explained report → Other report) :
    Course Other due reports stop := by
  induction course with
  | finished => exact .finished
  | stopped report stop due explained ends =>
      exact .stopped report stop due
        (implies report List.mem_cons_self explained) ends
  | passed report explained passes rest ih =>
      refine .passed report (implies report List.mem_cons_self explained) passes
        (ih ?_)
      exact fun other member => implies other (List.mem_cons_of_mem _ member)

/--
The step that is due first was taken; it ended the cycle, or the others follow
it.
-/
theorem of_cons
    {stage : Stage}
    {due : List Stage}
    {reports : List Report}
    {stop : Option Stop}
    (course : Course Explained (stage :: due) reports stop) :
    ∃ report others,
      reports = report :: others ∧ report.stage = stage ∧ Explained report ∧
        ((report.stop = stop ∧ stop.isSome ∧ others = []) ∨
          (report.stop = none ∧ Course Explained due others stop)) := by
  cases course with
  | stopped report stop due explained ends =>
      exact ⟨report, [], rfl, rfl, explained, .inl ⟨ends, rfl, rfl⟩⟩
  | passed report explained passes rest =>
      exact ⟨report, _, rfl, rfl, explained, .inr ⟨passes, rest⟩⟩

theorem explained
    {due : List Stage}
    {reports : List Report}
    {stop : Option Stop}
    (course : Course Explained due reports stop) :
    ∀ report ∈ reports, Explained report := by
  induction course with
  | finished => simp
  | stopped report stop due explained ends => simpa using explained
  | passed report explained passes rest ih => simpa using ⟨explained, ih⟩

/-- The steps that were taken are the first of those that are due. -/
theorem stages_prefix
    {due : List Stage}
    {reports : List Report}
    {stop : Option Stop}
    (course : Course Explained due reports stop) :
    reports.map Report.stage <+: due := by
  induction course with
  | finished => exact List.prefix_rfl
  | stopped report stop due explained ends => simp
  | passed report explained passes rest ih => simpa using ih

theorem complete
    {due : List Stage}
    {reports : List Report}
    {stop : Option Stop}
    (course : Course Explained due reports stop)
    (ended : stop = none) :
    reports.map Report.stage = due ∧ ∀ report ∈ reports,
        report.stop = none := by
  induction course with
  | finished => simp
  | stopped report stop due explained ends => cases ended
  | passed report explained passes rest ih =>
      rcases ih ended with ⟨same, all⟩
      exact ⟨by simp [same], by simpa using ⟨passes, all⟩⟩

/--
A cycle that is ended early has passed all the steps but the last, which ended
it.
-/
theorem broken
    {due : List Stage}
    {reports : List Report}
    {stop : Option Stop}
    {ending : Stop}
    (course : Course Explained due reports stop)
    (ended : stop = some ending) :
    ∃ before last,
      reports = before ++ [last] ∧ last.stop = some ending ∧
        ∀ report ∈ before, report.stop = none := by
  induction course with
  | finished => cases ended
  | stopped report stop due explained ends =>
      exact ⟨[], report, rfl, ends.trans ended, by simp⟩
  | passed report explained passes rest ih =>
      rcases ih ended with ⟨before, last, rfl, ends, all⟩
      exact ⟨report :: before, last, rfl, ends, by simpa using ⟨passes, all⟩⟩

/-- When a step was taken, the steps that were due before it had been passed. -/
theorem reached
    {due : List Stage}
    {reports : List Report}
    {stop : Option Stop}
    (course : Course Explained due reports stop)
    {report : Report}
    (taken : report ∈ reports) :
    ∃ before after later,
      reports = before ++ report :: after ∧
        due = before.map Report.stage ++ report.stage :: later ∧
        ∀ earlier ∈ before, earlier.stop = none := by
  induction course with
  | finished => cases taken
  | stopped first stop due explained ends =>
      rcases List.mem_singleton.1 taken with rfl
      exact ⟨[], [], due, rfl, rfl, by simp⟩
  | passed first explained passes rest ih =>
      rcases List.mem_cons.1 taken with rfl | taken
      · exact ⟨[], _, _, rfl, rfl, by simp⟩
      · rcases ih taken with ⟨before, after, later, rfl, rfl, all⟩
        exact ⟨first :: before, after, later, rfl, rfl,
          by simpa using ⟨passes, all⟩⟩

end Course

/--
A part of a cycle gives a value as its steps are passed, or fails as one of them
fails.
-/
inductive Ends (value : α) : Option Stop → Except OperatorError α → Prop where
  | passed : Ends value none (.ok value)
  | failed
      (error : OperatorError) :
      Ends value (some (.failed error)) (.error error)

/--
Whatever a part of a cycle finds, it leaves the reports of the steps that are
due with these findings, and gives a value that depends on them.
-/
def Leaves
    (step : Step α)
    (Explained : φ → Report → Prop)
    (due : φ → List Stage)
    (value : φ → α) : Prop :=
  ∀ exchanges result, step.Traces exchanges result →
    ∃ findings reports stop,
      Course (Explained findings) (due findings) reports stop ∧
        exchanges = reports.flatMap Report.exchanges ∧
          Ends (value findings) stop result

namespace Leaves

variable {φ ψ α β γ : Type}

theorem pure (value : α) :
    Leaves (pure value : Step α) (fun (_ : Unit) _ => False)
        (fun _ => []) fun _ => value := by
  intro exchanges result trace
  rcases Step.traces_pure_iff.1 trace with ⟨rfl, rfl⟩
  exact ⟨(), [], none, .finished, rfl, .passed⟩

/--
Parts in a row leave the reports of the first, and those of the second unless it
fails.
-/
theorem bind
    [Inhabited ψ]
    {step : Step α}
    {follow : α → Step β}
    {First : φ → Report → Prop}
    {Second : φ → ψ → Report → Prop}
    {due : φ → List Stage}
    {later : φ → ψ → List Stage}
    {value : φ → α}
    {final : φ → ψ → β}
    (first : Leaves step First due value)
    (second : ∀ findings, Leaves (follow (value findings)) (Second findings)
        (later findings) (final findings)) :
    Leaves (step >>= follow)
      (fun (findings : φ × ψ) report =>
        First findings.1 report ∨ Second findings.1 findings.2 report)
      (fun findings => due findings.1 ++ later findings.1 findings.2)
      (fun findings => final findings.1 findings.2) := by
  intro exchanges result trace
  rcases trace.of_bind with
    ⟨error, rfl, failed⟩ | ⟨given, before, after, rfl, passed, next⟩
  · rcases first _ _ failed with ⟨findings, reports, stop, course, rfl, ends⟩
    cases ends
    exact ⟨(findings, default), reports, some (.failed error),
      (course.mono fun _ _ explained => .inl explained).cut _, rfl,
        .failed error⟩
  · rcases first _ _ passed with ⟨findings, reports, stop, course, rfl, ends⟩
    cases ends
    rcases second findings _ _ next with ⟨others, rest, stop, last, rfl, ends⟩
    exact ⟨(findings, others), reports ++ rest, stop,
      (course.mono fun _ _ explained => .inl explained).append
        (last.mono fun _ _ explained => .inr explained),
      List.flatMap_append.symm, ends⟩

/-- A step that does nothing but send a request leaves its report. -/
theorem ofCall
    [Inhabited γ]
    {step : Step γ}
    {request : Except RequestFault Request}
    {read : Datum → Option β}
    {settle : Except ApiError β → Except OperatorError γ}
    (stage : Stage)
    (shape : ∀ exchanges result, step.Traces exchanges result →
        ∃ sent outcome, Call request read sent outcome ∧
        exchanges = sent.toList ∧ result = settle outcome) :
    Leaves step
      (fun value report => report.stage = stage ∧
        report.Requests request read settle value)
      (fun _ => [stage]) fun value => value := by
  intro exchanges result trace
  rcases shape exchanges result trace with ⟨sent, outcome, call, rfl, rfl⟩
  cases settled : settle outcome with
  | ok value =>
      let report : Report := ⟨stage, sent, [], none⟩
      exact ⟨value, [report], none,
        .single report ⟨rfl, rfl, outcome, call, by simp only [settled]; rfl⟩,
        by simp [report, Report.exchanges], .passed⟩
  | error error =>
      let report : Report := ⟨stage, sent, [], some (.failed error)⟩
      exact ⟨default, [report], report.stop,
        .single report ⟨rfl, rfl, outcome, call, by simp only [settled]; rfl⟩,
        by simp [report, Report.exchanges], .failed error⟩

theorem ofExcept
    [Inhabited γ]
    (stage : Stage)
    (rendered : Except OperatorError γ) :
    Leaves (Step.ofExcept rendered)
      (fun value report => report.stage = stage ∧ report.Renders rendered value)
      (fun _ => [stage]) fun value => value := by
  intro exchanges result trace
  rcases Step.traces_ofExcept_iff.1 trace with ⟨rfl, rfl⟩
  cases result with
  | ok value =>
      let report : Report := ⟨stage, none, [], none⟩
      exact ⟨value, [report], none, .single report ⟨rfl, rfl, rfl, rfl⟩, rfl,
        .passed⟩
  | error error =>
      let report : Report := ⟨stage, none, [], some (.failed error)⟩
      exact ⟨default, [report], report.stop,
        .single report ⟨rfl, rfl, rfl, rfl⟩, rfl, .failed error⟩

end Leaves

end HookKeeper
