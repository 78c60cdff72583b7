import HookKeeper.Cluster.Metadata
import HookKeeper.Instant

/-!
# Events

An event tells what happened to an object: who reports it, what was done, why
and with which note.  An event that happens again becomes a series with a
count.  The deprecated fields of events, `related`, and `fieldPath` and
`resourceVersion` of the object are left out, as they are never set.
-/

namespace HookKeeper

open HookKeeper.Json
open HookKeeper.Text

/-- The object that an event is about. -/
structure ObjectReference where
  apiVersion : Option String := none
  kind : Option String := none
  name : Option String := none
  namespaceName : Option String := none
  uid : Option String := none
  deriving DecidableEq, Repr

def ObjectReference.toValue (record : ObjectReference) : Value :=
  .object (
    optionalField "apiVersion" .text record.apiVersion ++
    optionalField "kind" .text record.kind ++
    optionalField "name" .text record.name ++
    optionalField "namespace" .text record.namespaceName ++
    optionalField "uid" .text record.uid)

def ObjectReference.ofDatum? (datum : Datum) : Option ObjectReference := do
  let fields ← datum.fields?
  return {
    apiVersion := ← fields.optional "apiVersion" Datum.text?
    kind := ← fields.optional "kind" Datum.text?
    name := ← fields.optional "name" Datum.text?
    namespaceName := ← fields.optional "namespace" Datum.text?
    uid := ← fields.optional "uid" Datum.text? }

/-- The text of a clock reading in microseconds. -/
def Moment.text (moment : Moment) : String :=
  let micros := (moment.nanoseconds / 1000 % 1000000).toNat
  let digits := Digits.ofNat micros
  let zeros := List.replicate (6 - digits.length) '0'
  String.ofList (moment.instant.text.toList.dropLast ++ '.' :: zeros ++
    digits ++ ['Z'])

/-- How often an event has happened. -/
structure EventSeries where
  count : Int32 := 0
  lastObserved : String := ""
  deriving DecidableEq, Repr

def EventSeries.toValue (record : EventSeries) : Value :=
  .object (
    field "count" (.int32 record.count) ++
    field "lastObservedTime" (.text record.lastObserved))

def EventSeries.ofDatum? (datum : Datum) : Option EventSeries := do
  let fields ← datum.fields?
  return {
    count := ← fields.defaulted "count" Datum.int32? 0
    lastObserved := ← fields.defaulted "lastObservedTime" readTime "" }
where
  /-- The text of a time. -/
  readTime (datum : Datum) : Option String := do
    let text ← datum.text?
    let _ ← Instant.read? text
    return text

/-- An event. -/
structure Event where
  action : Option String := none
  eventTime : Option String := none
  metadata : ObjectMeta := {}
  note : Option String := none
  reason : Option String := none
  regarding : Option ObjectReference := none
  reportingController : Option String := none
  reportingInstance : Option String := none
  series : Option EventSeries := none
  type : Option String := none
  deriving DecidableEq, Repr

def Event.toValue (record : Event) : Value :=
  .object (
    field "apiVersion" (.text "events.k8s.io/v1") ++
    field "kind" (.text "Event") ++
    optionalField "action" .text record.action ++
    optionalField "eventTime" .text record.eventTime ++
    field "metadata" record.metadata.toValue ++
    optionalField "note" .text record.note ++
    optionalField "reason" .text record.reason ++
    optionalField "regarding" ObjectReference.toValue record.regarding ++
    optionalField "reportingController" .text record.reportingController ++
    optionalField "reportingInstance" .text record.reportingInstance ++
    optionalField "series" EventSeries.toValue record.series ++
    optionalField "type" .text record.type)

def Event.ofDatum? (datum : Datum) : Option Event := do
  let fields ← datum.fields?
  fields.constant "apiVersion" "events.k8s.io/v1"
  fields.constant "kind" "Event"
  return {
    action := ← fields.optional "action" Datum.text?
    eventTime := ← fields.optional "eventTime" EventSeries.ofDatum?.readTime
    metadata := ← fields.defaulted "metadata" ObjectMeta.ofDatum? {}
    note := ← fields.optional "note" Datum.text?
    reason := ← fields.optional "reason" Datum.text?
    regarding := ← fields.optional "regarding" ObjectReference.ofDatum?
    reportingController := ← fields.optional "reportingController" Datum.text?
    reportingInstance := ← fields.optional "reportingInstance" Datum.text?
    series := ← fields.optional "series" EventSeries.ofDatum?
    type := ← fields.optional "type" Datum.text? }

end HookKeeper
