import HookKeeper.Api.Program
import HookKeeper.Cluster.Event
import HookKeeper.Cluster.Object

/-!
# Publishing events

The recorder publishes what was done to an object and remembers what it has
published, so an event that happens again is counted instead of being told
anew: the remembered event, its note included, is patched with a higher count.
An event that could not be published is not remembered, and publishing never
fails what it is part of.
-/

namespace HookKeeper

/-- Whether an event reports a success or a failure. -/
inductive EventType where
  | normal
  | warning
  deriving DecidableEq, Repr

def EventType.name : EventType → String
  | .normal => "Normal"
  | .warning => "Warning"

/-- What is to be told about an object. -/
structure Notice where
  type : EventType
  reason : String
  note : String
  deriving DecidableEq, Repr

def ObjectReference.of
    {α : Type}
    [ClusterObject α]
    (object : α) : ObjectReference :=
  let metadata := ClusterObject.metadata object
  { apiVersion := some (ClusterObject.apiVersion α)
    kind := some (ClusterObject.kind α)
    name := metadata.name
    namespaceName := metadata.namespaceName
    uid := metadata.uid }

/-- What makes two events the same. -/
structure EventKey where
  type : EventType
  reason : String
  regarding : ObjectReference
  deriving DecidableEq, Repr

/-- The events that have been published, by key. -/
structure Recorder where
  remembered : List (EventKey × Event) := []
  deriving DecidableEq, Repr

namespace Recorder

/-- The action that every event reports. -/
def action : String := "Apply"

/-- The collection of the events about an object. -/
def collection (regarding : ObjectReference) : String :=
  "/apis/events.k8s.io/v1/namespaces/" ++
    regarding.namespaceName.getD "default" ++ "/events"

/-- The key of a notice about an object. -/
def key (notice : Notice) (regarding : ObjectReference) : EventKey :=
  ⟨notice.type, notice.reason, regarding⟩

/-- The event of a notice that is told for the first time. -/
def firstEvent
    (notice : Notice)
    (regarding : ObjectReference)
    (moment : Moment) : Event :=
  { action := some action
    eventTime := some moment.text
    metadata := {
      name := some (regarding.name.getD Identity.operator ++ "."
        ++ String.ofList (Text.Hex.number moment.nanoseconds.toNat))
      namespaceName := regarding.namespaceName }
    note := some notice.note
    reason := some notice.reason
    regarding := some regarding
    reportingController := some Identity.operator
    reportingInstance := some Identity.operator
    type := some notice.type.name }

/-- The event that a published one becomes when it happens again. -/
def again (event : Event) (moment : Moment) : Event :=
  let count := match event.series with
    | none => 2
    | some series => series.count + 1
  { event with series := some ⟨count, moment.text⟩ }

/-- The event that is published for a notice. -/
def event
    (recorder : Recorder)
    (notice : Notice)
    (regarding : ObjectReference)
    (moment : Moment) : Event :=
  match recorder.remembered.lookup (key notice regarding) with
  | none => firstEvent notice regarding moment
  | some published => again published moment

/-- The request that publishes an event. -/
def request
    (regarding : ObjectReference)
    (event : Event) : Except RequestFault Request :=
  if event.series.isSome then
    Request.patch (collection regarding) event.metadata.anyName event.toValue
  else Request.create (collection regarding) [] event.toValue

/-- The recorder after an event was published. -/
def remember
    (recorder : Recorder)
    (key : EventKey)
    (event : Event) : Recorder :=
  ⟨(key, event) :: recorder.remembered.filter fun entry => entry.1 != key⟩

/--
Publish a notice about an object; what the recorder remembers afterwards is the
result.
-/
def publish
    (recorder : Recorder)
    (notice : Notice)
    (regarding : ObjectReference) : Program Recorder :=
  .now fun moment =>
    let event := recorder.event notice regarding moment
    match request regarding event with
    | .error _ => .done recorder
    | .ok request =>
        .ask .events request fun answer =>
          match answer.decode Event.ofDatum? with
          | .error _ => .done recorder
          | .ok _ => .done (recorder.remember (key notice regarding) event)

end Recorder

end HookKeeper
