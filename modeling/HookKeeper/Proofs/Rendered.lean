import HookKeeper.Proofs.Faithful
import HookKeeper.Proofs.Quiescence
import Mathlib.Data.List.Forall2

/-!
# What is written is what was rendered

Every object that a cycle writes is the one that it rendered: the Deployment
sized by the nodes that were listed, the registration with no more than the
certificates of live hooks in it.  The hash that an object carries is that of
the content that was rendered for it, whatever the template or the live object
carried in its place, so certificates that come and go never change it.
-/

namespace HookKeeper

open HookKeeper.Json
open HookKeeper.Manifest

/-! ## What a cycle finds before it writes -/

namespace Findings.Explains

variable {settings : Settings} {templates : Templates} {findings : Findings}
  {report : Report}

theorem operator_read
    (explained : findings.Explains settings templates report)
    (own : report.stage = .readOperator)
    (passed : report.stop = none) :
    ∃ read,
      report.exchanges = [read] ∧ operatorRequest settings = .ok read.request ∧
        read.answer.decode OperatorResource.ofDatum? = .ok findings.operator ∧
        findings.operator.spec.managementState = .managed := by
  simp only [Explains, own] at explained
  rcases explained.2.answered passed (fun _ same => by cases same) with
    ⟨read, sent, built, settled⟩
  rcases Stop.ofOperator_eq_ok_iff.1 settled with ⟨present, managed⟩
  exact ⟨read, by simp [Report.exchanges, sent, explained.1], built,
    Client.presence_eq_some_iff.1 present, managed⟩

theorem deployment_rendered
    (explained : findings.Explains settings templates report)
    (own : report.stage = .renderDeployment)
    (passed : report.stop = none) :
    report.exchanges = [] ∧
      renderDeployment templates.deployment settings.image
        findings.operator.spec.logLevel =
        .ok findings.rendered := by
  simp only [Explains, own] at explained
  exact ⟨by simp [Report.exchanges, explained.1, explained.2.1],
    explained.succeeds passed⟩

theorem nodes_listed
    (explained : findings.Explains settings templates report)
    (own : report.stage = .listNodes)
    (passed : report.stop = none) :
    ∃ listed,
      report.exchanges = [listed] ∧
        nodesRequest findings.rendered.nodeSelector = .ok listed.request ∧
        listed.answer.decode (Client.itemsOfDatum? Node.ofDatum?) =
            .ok findings.nodes := by
  simp only [Explains, own] at explained
  rcases explained.answered passed (fun _ same => by cases same) with
    ⟨listed, sent, built, settled⟩
  exact ⟨listed, sent, built, ok_of_mapError settled⟩

theorem object_read
    {α : Type}
    [ClusterObject α]
    {namespaceName name : String}
    {found : Option α}
    (reads : report.Reads namespaceName name found)
    (passed : report.stop = none) :
    ∃ read,
      report.exchanges = [read] ∧
        Client.presence (read.answer.decode
          (ClusterObject.ofDatum? : Datum → Option α)) = .ok found := by
  rcases reads.answered passed (fun _ same => by cases same) with
    ⟨read, sent, _, settled⟩
  exact ⟨read, sent, ok_of_mapError settled⟩

theorem hooks_rendered
    (explained : findings.Explains settings templates report)
    (own : report.stage = .renderRegistration)
    (passed : report.stop = none) :
    report.exchanges = [] ∧ renderRegistration templates.registration =
        .ok findings.hooks := by
  simp only [Explains, own] at explained
  exact ⟨by simp [Report.exchanges, explained.1, explained.2.1],
    explained.succeeds passed⟩

end Findings.Explains

namespace Account

variable {settings : Settings} {templates : Templates} {findings : Findings}
  {reports : List Report} {stop : Option Stop} {exchanges : List Exchange}
  {result : Except OperatorError SyncOutcome}

/--
Before the Deployment is written the operator resource, the nodes and the live
one are read.
-/
theorem before_writeDeployment
    (account :
      Account settings templates findings reports stop exchanges result)
    {report : Report}
    (taken : report ∈ reports)
    (own : report.stage = .writeDeployment) :
    ∃ read listed found after,
      exchanges = [read, listed, found] ++ report.exchanges ++ after ∧
        read.answer.decode OperatorResource.ofDatum? = .ok findings.operator ∧
        renderDeployment templates.deployment settings.image
          findings.operator.spec.logLevel =
          .ok findings.rendered ∧
        nodesRequest findings.rendered.nodeSelector = .ok listed.request ∧
        listed.answer.decode (Client.itemsOfDatum? Node.ofDatum?) =
          .ok findings.nodes ∧
        Client.presence (found.answer.decode Deployment.ofDatum?) =
          .ok findings.foundDeployment := by
  rcases account.taken_before taken with ⟨before, after, rfl, stages, passed⟩
  have due : findings.stages.takeWhile (fun stage =>
    stage.place < report.stage.place) =
      [.readOperator, .renderDeployment, .listNodes, .readDeployment] := by
    rw [own, Findings.stages]
    cases findings.deploymentPlan.isWrite <;> rfl
  simp only [due, List.map_eq_cons_iff, List.map_eq_nil_iff] at stages
  rcases stages with
    ⟨first, _, rfl, one, second, _, rfl, two, third, _, rfl, three, fourth, _,
      rfl, four, rfl⟩
  simp only [List.forall_mem_cons] at passed
  rcases passed with
    ⟨⟨explained, passes⟩, ⟨explained', passes'⟩, ⟨explained'', passes''⟩,
      ⟨last, passesLast⟩, _⟩
  rcases explained.operator_read one passes with ⟨read, sent, _, operator, _⟩
  rcases explained'.deployment_rendered two passes' with ⟨silent, rendered⟩
  rcases explained''.nodes_listed three passes'' with
    ⟨listed, asked, nodesAsked, nodes⟩
  simp only [Findings.Explains, four] at last
  rcases Findings.Explains.object_read last passesLast with
    ⟨found, looked, present⟩
  refine ⟨read, listed, found, after.flatMap Report.exchanges, ?_, operator,
    rendered, nodesAsked, nodes, present⟩
  simp [account.exchanges_eq, sent, silent, asked, looked]

/-- Before the registration is written the live one is read. -/
theorem before_writeRegistration
    (account :
      Account settings templates findings reports stop exchanges result)
    {report : Report}
    (taken : report ∈ reports)
    (own : report.stage = .writeRegistration) :
    ∃ earlier found after,
      exchanges = earlier ++ [found] ++ report.exchanges ++ after ∧
        renderRegistration templates.registration = .ok findings.hooks ∧
        Client.presence (found.answer.decode Registration.ofDatum?) =
          .ok findings.foundRegistration := by
  rcases account.taken_before taken with ⟨before, after, rfl, stages, passed⟩
  have due : ∃ first,
      findings.stages.takeWhile (fun stage => stage.place <
        report.stage.place) =
        first ++ [.renderRegistration, .readRegistration] := by
    rw [own, Findings.stages]
    cases findings.deploymentPlan.isWrite <;>
      cases findings.registrationPlan.isWrite
    · exact ⟨[.readOperator, .renderDeployment, .listNodes, .readDeployment],
        rfl⟩
    · exact ⟨[.readOperator, .renderDeployment, .listNodes, .readDeployment],
        rfl⟩
    · exact ⟨[.readOperator, .renderDeployment, .listNodes, .readDeployment,
        .writeDeployment], rfl⟩
    · exact ⟨[.readOperator, .renderDeployment, .listNodes, .readDeployment,
        .writeDeployment], rfl⟩
  rcases due with ⟨first, due⟩
  simp only [due, List.map_eq_append_iff, List.map_eq_cons_iff,
    List.map_eq_nil_iff] at stages
  rcases stages with
    ⟨earlier, _, rfl, _, rendering, _, rfl, one, reading, _, rfl, two, rfl⟩
  rcases passed rendering (by simp) with ⟨explained, passes⟩
  rcases passed reading (by simp) with ⟨last, passesLast⟩
  rcases explained.hooks_rendered one passes with ⟨silent, hooks⟩
  simp only [Findings.Explains, two] at last
  rcases Findings.Explains.object_read last passesLast with
    ⟨found, looked, present⟩
  refine ⟨earlier.flatMap Report.exchanges, found,
    after.flatMap Report.exchanges, ?_, hooks, present⟩
  simp [account.exchanges_eq, silent, looked]

end Account

/-! ## The objects of writes -/

theorem ObjectMeta.stamp?_merged
    {live wanted : ObjectMeta}
    {hash : String}
    (wants : wanted.stamp? = some hash) :
    (live.merged wanted).stamp? = some hash :=
  isCovered_iff.1 (isCovered_layered wanted.annotations live.annotations) _
    _ wants

/--
A plan that is written creates the wanted object, or replaces the one that was
found.
-/
theorem ApplyPlan.of_request
    {α : Type}
    [ClusterObject α]
    {merge : α → α → α}
    {wanted : α}
    {recorded : Option Int64}
    {found : Option α}
    {namespaceName name : String}
    {request : Request}
    (asked : (ApplyPlan.of merge wanted recorded found).request? namespaceName
        name = some (.ok request)) :
    (found = none ∧ request.method = .post ∧
        request.body = some (ClusterObject.toValue wanted)) ∨
      ∃ live, found = some live ∧ request.method = .put ∧
        request.body = some (ClusterObject.toValue (merge live wanted)) := by
  rcases of_cases merge wanted recorded found with
    ⟨absent, plan⟩ | ⟨live, present, ⟨_, plan⟩ | ⟨_, plan⟩⟩ <;>
      rw [plan] at asked
  · exact .inl ⟨absent, Request.of_create (Option.some.inj asked)⟩
  · rcases Request.of_replace (Option.some.inj asked) with ⟨method, body⟩
    exact .inr ⟨live, present, method, body⟩
  · cases asked

/--
The Deployment that a request writes is the rendered one, sized by the listed
nodes.
-/
structure Deployment.IsRendered
    (sent rendered : Deployment)
    (nodes : List Node) : Prop where
  spec : sent.spec =
    some { rendered.spec.getD {} with
      replicas := some (Sizing.replicas rendered.nodeSelector nodes) }
  stamp : sent.metadata.stamp? = some sent.specHash

namespace Hook

/-- The hook without certificates. -/
def withoutBundle (hook : Hook) : Hook :=
  { hook with clientConfig := { hook.clientConfig with caBundle := none } }

/--
A hook is written as it is wanted, or, where it has no certificates of its own,
with those of the first live hook of its name, without which it is the wanted
one.
-/
def IsFilled (live : List Hook) (wanted sent : Hook) : Prop :=
  sent = wanted ∨
    wanted.clientConfig.caBundle = none ∧
      ∃ other,
        live.find? (fun hook => hook.name == wanted.name) = some other ∧
          sent.clientConfig.caBundle = other.clientConfig.caBundle ∧
            sent.withoutBundle = wanted

theorem isFilled_keepingBundle
    (hook : Hook)
    (live : List Hook) :
    IsFilled live hook (hook.keepingBundle live) := by
  unfold keepingBundle
  split
  · exact .inl rfl
  next bare =>
    split
    · exact .inl rfl
    next other found =>
      refine .inr ⟨bare, other, found, rfl, ?_⟩
      simp only [withoutBundle, ← bare]

theorem filled_refl
    (live : List Hook)
    (wanted : Option (List Hook)) :
    Option.Rel (List.Forall₂ (IsFilled live)) wanted wanted := by
  cases wanted with
  | none => exact .none
  | some hooks => exact .some (List.forall₂_same.2 fun hook _ => .inl rfl)

/--
The hooks that are written are those that are wanted, each filled from the live
ones.
-/
theorem merged_filled (live wanted : Option (List Hook)) :
    Option.Rel (List.Forall₂ (IsFilled (live.getD []))) wanted
        (Hook.merged live wanted) := by
  cases live with
  | none => simpa [Hook.merged] using filled_refl [] wanted
  | some others =>
      cases wanted with
      | none => exact .none
      | some hooks =>
          exact .some (List.forall₂_map_right_iff.2
            (List.forall₂_same.2 fun hook _ =>
              hook.isFilled_keepingBundle others))

end Hook

/--
The registration that a request writes has the hash of the rendered hooks, and
those hooks, each with the certificates that the live registration has for it;
it would have the same hash had the live one other hooks or certificates.
-/
structure Registration.IsRendered
    (sent rendered : Registration)
    (live : Option Registration) : Prop where
  stamp : sent.metadata.stamp? = some rendered.hooksHash
  filled :
    Option.Rel
    (List.Forall₂ (Hook.IsFilled ((live.bind Registration.webhooks).getD [])))
    rendered.webhooks sent.webhooks
  steady : ∀ object, live = some object → ∀ hooks : Option (List Hook),
    (Registration.merged { object with webhooks := hooks }
      rendered).metadata.stamp? =
      sent.metadata.stamp?

/-! ## The writes of a cycle -/

section

variable (settings : Settings) (templates : Templates) (before : List Exchange)
  (request : Request)

/--
A request writes the rendered Deployment, sized by what was read before it.
-/
def WritesDeployment : Prop :=
  ∃ read listed found operator rendered nodes,
    before = [read, listed, found] ∧
      read.answer.decode OperatorResource.ofDatum? = .ok operator ∧
      renderDeployment templates.deployment settings.image
        operator.spec.logLevel =
        .ok rendered ∧
      nodesRequest rendered.nodeSelector = .ok listed.request ∧
      listed.answer.decode (Client.itemsOfDatum? Node.ofDatum?) = .ok nodes ∧
      ∃ sent : Deployment, request.body = some sent.toValue ∧
        sent.IsRendered rendered nodes

/--
A request writes the rendered registration, over the live one that was read
last.
-/
def WritesRegistration : Prop :=
  ∃ earlier found rendered live,
    before = earlier ++ [found] ∧
      renderRegistration templates.registration = .ok rendered ∧
      Client.presence (found.answer.decode Registration.ofDatum?) = .ok live ∧
      (request.method = .post → live = none) ∧
      ∃ sent : Registration,
        request.body = some sent.toValue ∧ sent.IsRendered rendered live ∧
          (request.method = .post → sent.metadata.stamp? = some sent.hooksHash)

end

theorem hooksHash_of_rendered
    {template : String}
    {rendered : Registration}
    (given : renderRegistration template = .ok rendered) :
    rendered.metadata.stamp? = some rendered.hooksHash := by
  rcases Request.ok_of_bind given with ⟨registration, _, same⟩
  cases same
  exact ObjectMeta.stamp?_stamped _ _

namespace Account

variable {settings : Settings} {templates : Templates} {findings : Findings}
  {reports : List Report} {stop : Option Stop} {exchanges : List Exchange}
  {result : Except OperatorError SyncOutcome}

/-- Objects are created and replaced by the two steps that write them. -/
theorem stage_of_write
    {stage : Stage}
    {request : Request}
    (asked : findings.request? settings stage = some (.ok request))
    (writes : request.method = .post ∨ request.method = .put) :
    stage = .writeDeployment ∨ stage = .writeRegistration := by
  have contradiction {method : Method} (other : request.method = method)
      (reads : method = .get ∨ method = .patch) : False := by
    rw [other] at writes
    rcases reads with rfl | rfl <;> simp at writes
  cases stage with
  | readOperator | readDeployment | readRegistration | rereadOperator =>
      exact (contradiction (Request.of_read (Option.some.inj asked)).1
        (.inl rfl)).elim
  | listNodes =>
      exact (contradiction (Request.of_list (Option.some.inj asked)).1
        (.inl rfl)).elim
  | renderDeployment | renderRegistration => cases asked
  | writeDeployment => exact .inl rfl
  | writeRegistration => exact .inr rfl
  | writeStatus =>
      exact (contradiction (Request.of_patchStatus (Option.some.inj asked)).1
        (.inr rfl)).elim

/-- A step that writes has its write first, and tells about it after that. -/
theorem write_first
    {α : Type}
    [ClusterObject α]
    {report : Report}
    {namespaceName name : String}
    {plan : ApplyPlan α}
    {written : α}
    (writes : report.Writes namespaceName name plan written)
    {exchange : Exchange}
    (member : exchange ∈ report.exchanges)
    (about : exchange.channel = .objects) :
    report.exchanges = exchange :: report.told := by
  rcases List.mem_append.1 member with sent | told
  · rw [Report.exchanges, Option.mem_toList.1 sent]
    rfl
  · cases (writes.1 exchange told).symm.trans about

theorem writes_of_mem
    (account :
      Account settings templates findings reports stop exchanges result)
    {exchange : Exchange}
    (member : exchange ∈ exchanges)
    (about : exchange.channel = .objects)
    (writes : exchange.request.method = .post ∨
        exchange.request.method = .put) :
    ∃ before after,
      exchanges = before ++ exchange :: after ∧
        (WritesDeployment settings templates before exchange.request ∨
          WritesRegistration templates before exchange.request) := by
  rcases account.report_of_exchange member about with
    ⟨report, taken, within, asked⟩
  have explained := account.course.explained report taken
  rcases stage_of_write asked writes with own | own <;> rw [own] at asked <;>
    simp only [Findings.Explains, own] at explained
  · rcases account.before_writeDeployment taken own with
      ⟨read, listed, found, after, split, operator, rendered, nodesAsked, nodes,
        present⟩
    rw [write_first explained within about] at split
    refine ⟨[read, listed, found], report.told ++ after, by simp [split],
      .inl ?_⟩
    refine ⟨read, listed, found, _, _, _, rfl, operator, rendered, nodesAsked,
      nodes, ?_⟩
    rcases ApplyPlan.of_request asked with ⟨_, _, body⟩ | ⟨live, _, _, body⟩
    · exact ⟨_, body, rfl, ObjectMeta.stamp?_stamped _ _⟩
    · exact ⟨_, body, rfl,
        ObjectMeta.stamp?_merged (ObjectMeta.stamp?_stamped _ _)⟩
  · rcases account.before_writeRegistration taken own with
      ⟨earlier, found, after, split, rendered, present⟩
    rw [write_first explained within about] at split
    refine ⟨earlier ++ [found], report.told ++ after, by simp [split], .inr ?_⟩
    refine ⟨earlier, found, _, _, rfl, rendered, present, ?_⟩
    have stamp := hooksHash_of_rendered rendered
    rcases ApplyPlan.of_request asked with
      ⟨absent, _, body⟩ | ⟨live, shown, method, body⟩
    · refine ⟨fun _ => absent, _, body, ⟨stamp, ?_, fun _ found => ?_⟩,
        fun _ => stamp⟩
      · exact Hook.filled_refl _ _
      · cases absent.symm.trans found
    · have put : exchange.request.method ≠ .post := by simp [method]
      have merged (object : Registration) :
          (object.merged findings.hooks).metadata.stamp? =
              some findings.hooks.hooksHash :=
        ObjectMeta.stamp?_merged stamp
      refine ⟨fun post =>
        absurd post put, _, body, ⟨merged live, ?_, fun object _ hooks => ?_⟩,
        fun post => absurd post put⟩
      · rw [shown]
        exact Hook.merged_filled live.webhooks findings.hooks.webhooks
      · exact (merged _).trans (merged live).symm

end Account

/--
Whatever a cluster answers, every object that a cycle creates or replaces is the
one that it rendered: a Deployment with the number of pods that fits the nodes
that were listed and the hash of its own specification, or a registration whose
hooks are the rendered ones, filled with certificates of live ones, and whose
hash is that of the rendered ones.  One that is created has its own hash.
-/
theorem writes_are_rendered
    (host : Host σ)
    (state : σ)
    (settings : Settings)
    (templates : Templates)
    (recorder : Recorder) :
    ∀ exchange ∈ (Step.sync settings templates).exchanges host state recorder,
      exchange.channel = .objects →
      exchange.request.method = .post ∨ exchange.request.method = .put →
      ∃ before after,
        (Step.sync settings templates).exchanges host state recorder =
            before ++ exchange :: after ∧
          (WritesDeployment settings templates before exchange.request ∨
            WritesRegistration templates before exchange.request) := by
  intro exchange member about writes
  rcases (Step.traces_run host state recorder
      (Step.sync settings templates)).account with
    ⟨findings, reports, stop, account⟩
  exact account.writes_of_mem member about writes

/-- A cycle that finds no Deployment creates the one that it rendered. -/
theorem writes_are_rendered_creation :
    ∃ exchange ∈ bareExchanges,
      exchange.request.method = .post ∧
        ∃ before after,
          bareExchanges = before ++ exchange :: after ∧
            (WritesDeployment { image := "i", operatorName := "o" }
                bareTemplates before exchange.request ∨
              WritesRegistration bareTemplates before exchange.request) := by
  have created : ∃ exchange ∈ bareExchanges,
      exchange.channel = .objects ∧ exchange.request.method = .post := by
    decide +kernel
  rcases created with ⟨exchange, member, about, post⟩
  exact ⟨exchange, member, post,
    writes_are_rendered (bareHost false) ()
      { image := "i", operatorName := "o" } bareTemplates {} exchange member
      about (.inl post)⟩

end HookKeeper
