import HookKeeper.Proofs.Rendered

/-!
# What a replacement leaves alone

An object that replaces a live one has the wanted labels and annotations over
the live ones, and the wanted content in place of the live one.  Everything
else of the live object stays, and so do the certificates of a live hook for
which no others are wanted.  The main statement says this of every request by
which an apply can replace an object.
-/

namespace HookKeeper

/--
The written entries are the wanted ones and, where nothing is wanted, the live
ones.
-/
def IsLaidOver (wanted live written : Option TextMap) : Prop :=
  ∀ key,
    (written.getD .empty).find? key =
      ((wanted.getD .empty).find? key).or ((live.getD .empty).find? key)

theorem isLaidOver_layered (wanted live : Option TextMap) :
    IsLaidOver wanted live (layered wanted live) := by
  intro key
  cases wanted with
  | none => simp [layered]
  | some entries => simp [layered]

/--
The written metadata is the live one but for the wanted labels and annotations.
-/
structure ObjectMeta.Frames (live wanted written : ObjectMeta) : Prop where
  labels : IsLaidOver wanted.labels live.labels written.labels
  annotations :
    IsLaidOver wanted.annotations live.annotations written.annotations
  others : written =
    { live with labels := written.labels, annotations := written.annotations }

theorem ObjectMeta.frames_merged (live wanted : ObjectMeta) :
    live.Frames wanted (live.merged wanted) :=
  ⟨isLaidOver_layered _ _, isLaidOver_layered _ _, rfl⟩

/--
The written Deployment is the live one but for labels, annotations and the
specification.
-/
structure Deployment.Frames (live wanted written : Deployment) : Prop where
  metadata : live.metadata.Frames wanted.metadata written.metadata
  spec : written.spec = wanted.spec
  status : written.status = live.status

theorem Deployment.frames_merged (live wanted : Deployment) :
    live.Frames wanted (live.merged wanted) :=
  ⟨live.metadata.frames_merged wanted.metadata, rfl, rfl⟩

namespace Hook

/-- The certificates of the first hook of a name. -/
def bundleOf (hooks : List Hook) (name : String) : Option (List UInt8) :=
  (hooks.find? fun hook => hook.name == name).bind fun hook =>
    hook.clientConfig.caBundle

/--
The written hook is the wanted one but for certificates, which are live ones if
it has none.
-/
structure Frames (live : List Hook) (wanted written : Hook) : Prop where
  bundle : written.clientConfig.caBundle =
    wanted.clientConfig.caBundle.or (bundleOf live wanted.name)
  others : written.withoutBundle = wanted.withoutBundle

theorem frames_keepingBundle
    (live : List Hook)
    (wanted : Hook) :
    Frames live wanted (wanted.keepingBundle live) := by
  unfold keepingBundle
  split
  next own given => exact ⟨by simp [given], rfl⟩
  next bare =>
    split
    next absent => exact ⟨by simp [bundleOf, bare, absent], rfl⟩
    next other found => exact ⟨by simp [bundleOf, bare, found], rfl⟩

theorem frames_merged (live wanted : Option (List Hook)) :
    Option.Rel (List.Forall₂ (Frames (live.getD []))) wanted
        (Hook.merged live wanted) := by
  cases wanted with
  | none => exact .none
  | some hooks =>
      refine .some ?_
      cases live with
      | none =>
          refine List.forall₂_same.2 fun hook _ => ⟨?_, rfl⟩
          simp [bundleOf]
      | some others =>
          exact List.forall₂_map_right_iff.2
            (List.forall₂_same.2 fun hook _ => frames_keepingBundle others hook)

end Hook

/--
The written registration is the live one but for labels, annotations and the
hooks.
-/
structure Registration.Frames (live wanted written : Registration) : Prop where
  metadata : live.metadata.Frames wanted.metadata written.metadata
  webhooks : Option.Rel (List.Forall₂ (Hook.Frames (live.webhooks.getD [])))
    wanted.webhooks written.webhooks

theorem Registration.frames_merged (live wanted : Registration) :
    live.Frames wanted (live.merged wanted) :=
  ⟨live.metadata.frames_merged wanted.metadata,
    Hook.frames_merged live.webhooks wanted.webhooks⟩

/--
What a call sent is the request that was built, and its outcome is what the
answer carries.
-/
theorem Call.of_mem
    {request : Except RequestFault Request}
    {read : Datum → Option β}
    {sent : Option Exchange}
    {outcome : Except ApiError β}
    {exchange : Exchange}
    (call : Call request read sent outcome)
    (member : exchange ∈ sent.toList) :
    sent = some exchange ∧ request = .ok exchange.request ∧
      outcome = exchange.answer.decode read := by
  cases call with
  | unbuildable => cases member
  | answered asked answer built =>
      cases List.mem_singleton.1 member
      exact ⟨rfl, built, rfl⟩

/--
A request replaces the live object that was read right before it by one that a
relation allows, and nothing but events follows it.
-/
def ReplacesRead
    [ClusterObject α]
    (Allowed : α → α → Prop)
    (exchanges : List Exchange)
    (exchange : Exchange) : Prop :=
  ∃ read told live written,
    exchanges = read :: exchange :: told ∧
      (∀ other ∈ told, other.channel = .events) ∧
      read.answer.decode ClusterObject.ofDatum? = .ok live ∧
      exchange.request.body = some (ClusterObject.toValue written) ∧
      Allowed live written

/--
An apply replaces an object by the wanted one merged into the live one that it
read.
-/
theorem Step.Traces.replaces
    [ClusterObject α]
    {namespaceName : String}
    {merge : α → α → α}
    {wanted : α}
    {recorded : Option Int64}
    {exchanges : List Exchange}
    {result : Except OperatorError (Applied α)}
    (trace : (apply namespaceName merge wanted recorded).Traces exchanges
      result)
    {exchange : Exchange}
    (member : exchange ∈ exchanges)
    (about : exchange.channel = .objects)
    (put : exchange.request.method = .put) :
    ReplacesRead (fun live written => written = merge live wanted) exchanges
        exchange := by
  rcases trace.of_apply with ⟨sent, found, call, shape⟩
  have unread : exchange ∉ sent.toList := by
    intro within
    cases put.symm.trans (Request.of_read (call.of_mem within).2.1).1
  split at shape
  next cause _ => exact absurd (shape.1 ▸ member) unread
  next present presence =>
    rcases shape with ⟨rest, rfl, last⟩
    have later := (List.mem_append.1 member).resolve_left unread
    rcases ApplyPlan.of_cases merge wanted recorded present with
      ⟨absent, plan⟩ | ⟨live, rfl, ⟨_, plan⟩ | ⟨_, plan⟩⟩ <;> rw [plan] at last
    case inl =>
      rcases last.of_commit with ⟨created, _, told, creates, events, rfl, _⟩
      rcases List.mem_append.1 later with within | within
      · cases put.symm.trans (Request.of_create (creates.of_mem within).2.1).1
      · cases (events exchange within).symm.trans about
    case inr.inl =>
      rcases last.of_commit with ⟨replaced, _, told, writes, events, rfl, _⟩
      rcases List.mem_append.1 later with within | within
      · rcases writes.of_mem within with ⟨rfl, built, _⟩
        have shown := Client.presence_eq_some_iff.1 presence
        cases call with
        | unbuildable => cases shown
        | answered reading answer _ =>
            exact ⟨_, told, live, _, rfl, events, shown,
              (Request.of_replace built).2, rfl⟩
      · cases (events exchange within).symm.trans about
    case inr.inr =>
      rcases traces_pure_iff.1 last with ⟨rfl, _⟩
      cases later

theorem ReplacesRead.mono
    [ClusterObject α]
    {Allowed Other : α → α → Prop}
    {exchanges : List Exchange}
    {exchange : Exchange}
    (replaces : ReplacesRead Allowed exchanges exchange)
    (weaker : ∀ live written, Allowed live written → Other live written) :
    ReplacesRead Other exchanges exchange := by
  rcases replaces with
    ⟨read, told, live, written, whole, events, shown, body, allowed⟩
  exact ⟨read, told, live, written, whole, events, shown, body,
    weaker live written allowed⟩

/--
Whatever a cluster answers, every object that an apply replaces is the one that
it read right before, with the labels, annotations and content that are wanted.
Labels and annotations that are not wanted stay, as does all other metadata and
the status of a Deployment.  A registration gets the wanted hooks in their
order, each with its own certificates, or else those of the first live hook of
its name.
-/
theorem replacement_frames (recorded : Option Int64) :
    (∀ (wanted : Deployment) (exchanges : List Exchange)
        (result : Except OperatorError (Applied Deployment)),
      (Step.applyDeployment wanted recorded).Traces exchanges result →
      ∀ exchange ∈ exchanges, exchange.channel = .objects →
        exchange.request.method = .put →
        ReplacesRead (Deployment.Frames · wanted.stamped ·) exchanges
          exchange) ∧
    (∀ (wanted : Registration) (exchanges : List Exchange)
        (result : Except OperatorError (Applied Registration)),
      (Step.applyRegistration wanted recorded).Traces exchanges result →
      ∀ exchange ∈ exchanges, exchange.channel = .objects →
        exchange.request.method = .put →
        ReplacesRead (Registration.Frames · wanted ·) exchanges exchange) := by
  constructor
  · intro wanted exchanges result trace exchange member about put
    refine (trace.replaces member about put).mono ?_
    rintro live _ rfl
    exact live.frames_merged wanted.stamped
  · intro wanted exchanges result trace exchange member about put
    refine (trace.replaces member about put).mono ?_
    rintro live _ rfl
    exact live.frames_merged wanted

/-- A hook of a name with certificates of its own, or without. -/
def certifiedHook (name : String) (bundle : Option (List UInt8)) : Hook :=
  { name, clientConfig.caBundle := bundle }

/-- A Deployment that others have annotated and that reports a pod. -/
def annotatedDeployment : Deployment :=
  { metadata :=
      { name := some "d", namespaceName := some "n", uid := some "u"
        resourceVersion := some "7"
        annotations := some (.ofList [("theirs", "1")])
        finalizers := some ["f"] }
    status := some { availableReplicas := some 1 } }

/-- A registration whose hooks share a name and carry certificates. -/
def certifiedRegistration : Registration :=
  { metadata :=
      { name := some "w"
        labels := some (.ofList [("app", "old"), ("theirs", "1")]) }
    webhooks :=
      some [certifiedHook "a" (some [1]), certifiedHook "a" (some [2]),
        certifiedHook "gone" (some [3])] }

/-- A host that shows the two objects and accepts what replaces them. -/
def certifiedHost : Host Unit where
  answer := fun _ _ request =>
    let shown :=
      if request.address.path = "/apis/apps/v1/namespaces/n/deployments/d" then
        annotatedDeployment.toValue
      else certifiedRegistration.toValue
    (.reply ⟨200, .json (request.body.getD shown)⟩, ())
  clock := fun _ => ⟨0⟩
  wait := fun _ _ => ()

/-- What an apply exchanges with that host. -/
def certifiedExchanges (step : Step (Applied α)) : List Exchange :=
  step.exchanges certifiedHost () {}

/--
Hooks that were added, reordered and given certificates are framed by those that
share names.
-/
theorem replacement_frames_certificates :
    let wanted : Deployment :=
      { metadata := { name := some "d", namespaceName := some "n" } }
    let hooks : Registration :=
      { metadata :=
          { name := some "w", labels := some (.ofList [("app", "new")]) }
        webhooks := some [certifiedHook "new" none, certifiedHook "a" none,
          certifiedHook "a" (some [4])] }
    (∃ exchange ∈ certifiedExchanges (Step.applyDeployment wanted none),
      exchange.channel = .objects ∧ exchange.request.method = .put ∧
        ReplacesRead (Deployment.Frames · wanted.stamped ·)
          (certifiedExchanges (Step.applyDeployment wanted none)) exchange) ∧
      ∃ exchange ∈ certifiedExchanges (Step.applyRegistration hooks none),
        exchange.channel = .objects ∧ exchange.request.method = .put ∧
          ReplacesRead (Registration.Frames · hooks ·)
            (certifiedExchanges (Step.applyRegistration hooks none))
                exchange := by
  intro wanted hooks
  rcases replacement_frames none with ⟨deployments, registrations⟩
  have sent :
      (∃ exchange ∈ certifiedExchanges (Step.applyDeployment wanted none),
        exchange.channel = .objects ∧ exchange.request.method = .put) ∧
      ∃ exchange ∈ certifiedExchanges (Step.applyRegistration hooks none),
        exchange.channel = .objects ∧ exchange.request.method = .put := by
    decide +kernel
  rcases sent with
    ⟨⟨deployment, shown, about, put⟩, registration, listed, concerns, replaced⟩
  constructor
  · exact ⟨deployment, shown, about, put, deployments wanted _ _
      (Step.traces_run certifiedHost () {} _) deployment shown about put⟩
  · exact ⟨registration, listed, concerns, replaced, registrations hooks _ _
      (Step.traces_run certifiedHost () {} _) registration listed concerns
        replaced⟩

end HookKeeper
