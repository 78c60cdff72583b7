import HookKeeper.Json.Value
import HookKeeper.TextMap

/-!
# Building objects member by member

A record is written as the concatenation of its fields in their order, and a
field without a value is left out.  The main statements say what a look-up finds
among such fields.
-/

namespace HookKeeper.Json

/-- A member that is always written. -/
def field (key : String) (value : Value) : Members := [(key, value)]

def optionalField (key : String) (write : α → Value) : Option α → Members
  | none => []
  | some value => [(key, write value)]

@[simp]
theorem optionalField_none
    (key : String)
    (write : α → Value) : optionalField key write none = [] := rfl

@[simp]
theorem optionalField_some
    (key : String)
    (write : α → Value)
    (value : α) :
    optionalField key write (some value) = [(key, write value)] := rfl

theorem lookup_field
    (key name : String)
    (value : Value) :
    Value.lookup name (field key value) = if name = key then some value
        else none := by
  by_cases same : name = key
  · simp [Value.lookup, field, same]
  · have differs : (name == key) = false := by simpa using same
    simp [Value.lookup, field, List.lookup_cons, same, differs]

theorem lookup_optionalField
    (key name : String)
    (write : α → Value)
    (value : Option α) :
    Value.lookup name (optionalField key write value) =
      if name = key then value.map write else none := by
  cases value with
  | none => simp [Value.lookup]
  | some value => exact lookup_field key name (write value)

theorem lookup_append
    (name : String)
    (first second : Members) :
    Value.lookup name (first ++ second) =
      (Value.lookup name first).or (Value.lookup name second) :=
  List.lookup_append

namespace Value

/-- A sequence, each item written alike. -/
def list (write : α → Value) (items : List α) : Value :=
  .array (items.map write)

/-- A sequence of texts. -/
def texts (items : List String) : Value := list .text items

/-- A map from texts to texts, its entries in ascending order. -/
def ofTextMap (map : TextMap) : Value :=
  .object (map.entries.map fun entry => (entry.1, .text entry.2))

/-- A number of thirty-two bits. -/
def int32 (value : Int32) : Value := int value.toInt

/-- A number of sixty-four bits. -/
def int64 (value : Int64) : Value := int value.toInt

end Value

end HookKeeper.Json
