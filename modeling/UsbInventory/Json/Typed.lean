/-
Reading values of other types from JSON. A record is an object with its fields in any order, or an array
of its fields in their own order; unknown members of an object are ignored and a known one may occur
only once. A choice is its name, or an object with its name as only key and null as value.
-/
import UsbInventory.Json.Value
import UsbInventory.Number.Numeral

namespace UsbInventory.Json

/-- A number that is written as plain digits and does not exceed a bound. -/
def toNat? (bound : Nat) : Json → Option Nat
  | number written =>
    if written.all Char.isDigit then (Numeral.unsigned 10 bound written).toOption else none
  | _ => none

/-- The text of a string. -/
def toChars? : Json → Option (List Char)
  | string text => text
  | _ => none

/-- The text of a string. -/
def toText? (v : Json) : Option String := v.toChars?.map String.ofList

/-- The items of an array, each read by `read`. -/
def toList? {α : Type} (read : Json → Option α) : Json → Option (List α)
  | array items => items.mapM read
  | _ => none

/-- The name of a choice. -/
def choiceName? : Json → Option String
  | string text => text.map String.ofList
  | object [(key, null)] => key.map String.ofList
  | _ => none

/-- The values of the fields `names` of a record, `none` where a field is absent. -/
def fields? (names : List String) : Json → Option (List (Option Json))
  | array items =>
    if items.length ≤ names.length then
      some ((List.range names.length).map fun i => items[i]?)
    else none
  | object members =>
    if members.any (·.1.isNone) then none
    else
      let values := names.map fun name =>
        (members.filter (·.1 == some name.toList)).map (·.2)
      if values.any (·.length > 1) then none else some (values.map (·.head?))
  | _ => none

/-- A field that may be absent. -/
def orElse {α : Type} (default : α) (read : Json → Option α) : Option Json → Option α
  | none => some default
  | some v => read v

/-- A field that has to be there. -/
def required {α : Type} (read : Json → Option α) : Option Json → Option α
  | none => none
  | some v => read v

/-- A value that may be null. -/
def nullable {α : Type} (read : Json → Option α) : Json → Option (Option α)
  | null => some none
  | v => (read v).map some

/-- The member of an object with a name, the first if there are several. -/
def member? (v : Json) (name : String) : Option Json :=
  match v with
  | object members => (members.find? (·.1 == some name.toList)).map (·.2)
  | _ => none

end UsbInventory.Json
