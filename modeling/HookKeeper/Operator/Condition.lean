import HookKeeper.Datum.Decode
import HookKeeper.Json.Build

/-!
# Conditions of the operator

A condition states whether something holds, and why.  It is set by type: the
first condition of the same type is replaced, and the time of its last
transition moves only when its status changes or no time was known.  The main
statement says what is found under each type after a condition was set.
-/

namespace HookKeeper

open HookKeeper.Json

/-- Whether a condition holds. -/
inductive ConditionStatus where
  | met
  | unmet
  | unknown
  deriving DecidableEq, Repr

namespace ConditionStatus

def name : ConditionStatus → String
  | .met => "True"
  | .unmet => "False"
  | .unknown => "Unknown"

def ofName? (value : String) : Option ConditionStatus :=
  if value = "True" then some .met
  else if value = "False" then some .unmet
  else if value = "Unknown" then some .unknown
  else none

@[simp]
theorem ofName?_name (status : ConditionStatus) :
    ofName? status.name = some status := by
  cases status <;> decide

/-- The status of a question that is answered. -/
def ofBool (answer : Bool) : ConditionStatus := if answer then .met else .unmet

end ConditionStatus

/-- A condition that the operator reports. -/
structure OperatorCondition where
  type : String
  status : ConditionStatus
  lastTransitionTime : Option String := none
  reason : Option String := none
  message : Option String := none
  deriving DecidableEq, Repr

namespace OperatorCondition

/-- A condition without reason and time. -/
def bare (type : String) (status : ConditionStatus) : OperatorCondition :=
  { type := type, status := status }

def withReason
    (condition : OperatorCondition)
    (reason message : String) : OperatorCondition :=
  { condition with reason := some reason, message := some message }

/-- Whether a condition is known to hold. -/
def isMet (condition : OperatorCondition) : Bool := condition.status == .met

def toValue (record : OperatorCondition) : Value :=
  .object (
    field "type" (.text record.type) ++
    field "status" (.text record.status.name) ++
    optionalField "lastTransitionTime" .text record.lastTransitionTime ++
    optionalField "reason" .text record.reason ++
    optionalField "message" .text record.message)

def ofDatum? (datum : Datum) : Option OperatorCondition := do
  let record ← datum.closed? ["type", "status", "lastTransitionTime", "reason",
    "message"] 0
  return {
    type := ← record.required "type" Datum.text?
    status := ← record.required "status" (Datum.name? ConditionStatus.ofName?)
    lastTransitionTime := ← record.optional "lastTransitionTime" Datum.text?
    reason := ← record.optional "reason" Datum.text?
    message := ← record.optional "message" Datum.text? }

/-- The condition that takes the place of an old one of its type. -/
def replacing
    (condition old : OperatorCondition)
    (now : String) : OperatorCondition :=
  { old with
    status := condition.status
    reason := condition.reason
    message := condition.message
    lastTransitionTime :=
      if old.status ≠ condition.status ∨ old.lastTransitionTime = none then
        some now
      else old.lastTransitionTime }

/-- Set a condition among others at a time. -/
def setIn
    (condition : OperatorCondition)
    (now : String) :
    List OperatorCondition → List OperatorCondition
  | [] => [{ condition with lastTransitionTime := some now }]
  | old :: rest =>
      if old.type = condition.type then condition.replacing old now :: rest
      else old :: setIn condition now rest

def find?
    (type : String)
    (conditions : List OperatorCondition) : Option OperatorCondition :=
  conditions.find? fun condition => condition.type == type

@[simp]
theorem find?_nil (type : String) : find? type [] = none := rfl

theorem find?_cons
    (type : String)
    (first : OperatorCondition)
    (rest : List OperatorCondition) :
    find? type (first :: rest) = if first.type = type then some first
        else find? type rest := by
  by_cases same : first.type = type <;> simp [find?, same]

/--
Setting a condition changes the first condition of its type, or adds one, and
leaves what is found under other types.
-/
theorem find?_setIn
    (condition : OperatorCondition)
    (now type : String)
    (conditions : List OperatorCondition) :
    find? type (condition.setIn now conditions) =
      if condition.type = type then
        some (((find? type conditions).map (condition.replacing · now)).getD
          { condition with lastTransitionTime := some now })
      else find? type conditions := by
  induction conditions with
  | nil => simp [setIn, find?_cons]
  | cons old rest ih =>
      rw [setIn, find?_cons]
      by_cases own : old.type = condition.type
      · by_cases wanted : condition.type = type <;>
          simp [own, wanted, find?_cons, replacing]
      · by_cases here : old.type = type
        · subst here
          simp [own, Ne.symm own, find?_cons]
        · simp [own, here, find?_cons, ih]

end OperatorCondition

end HookKeeper
