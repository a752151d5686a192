/-
  Region routing — values in JSON.

  `Serial α` gives each value of a type its JSON form, and reads such forms.
  Reading is strict about types and lenient about shape:

  * a record is an object with its fields, each at most once and in any order,
    among members of other names; or an array of all its fields in order;
  * an enumerated value is its name, or an object whose one member has that
    name and the value `null`;
  * a number is a natural number that fits the type, written as an integer.
-/
import RegionRouting.Json.Value
import RegionRouting.Named

namespace RegionRouting.Json

/-- A type with a JSON form. -/
class Serial (α : Type) where
  toJson (value : α) : Value
  ofJson? (json : Value) : Option α

variable {α : Type}

namespace Serial

/-- The JSON text of a value. -/
def text [Serial α] (value : α) : String :=
  (toJson value).text

/-- Reads a JSON text. -/
def parse? (α : Type) [Serial α] (text : String) : Option α := do
  ofJson? (← Value.parse? text)

end Serial

open Serial

/-! ## Numbers, strings and collections -/

/-- The natural number below a bound that a value is. -/
def Value.nat? (bound : Nat) : Value → Option Nat
  | .int n => if 0 ≤ n ∧ n < bound then some n.toNat else none
  | _ => none

instance : Serial UInt64 where
  toJson n := .int n.toNat
  ofJson? json := (json.nat? UInt64.size).map .ofNat

instance : Serial UInt32 where
  toJson n := .int n.toNat
  ofJson? json := (json.nat? UInt32.size).map .ofNat

instance : Serial UInt8 where
  toJson n := .int n.toNat
  ofJson? json := (json.nat? UInt8.size).map .ofNat

instance : Serial Bool where
  toJson := .bool
  ofJson?
    | .bool value => some value
    | _ => none

instance : Serial String where
  toJson text := .str (some text)
  ofJson?
    | .str text => text
    | _ => none

instance [Serial α] : Serial (List α) where
  toJson items := .arr (items.map toJson)
  ofJson?
    | .arr items => items.mapM ofJson?
    | _ => none

/-- A value that may be missing is written as `null`. -/
instance [Serial α] : Serial (Option α) where
  toJson
    | none => .null
    | some value => toJson value
  ofJson?
    | .null => some none
    | json => (ofJson? json).map some

/-! ## Enumerations -/

/-- The name that stands for an enumerated value. -/
def Value.tag? : Value → Option String
  | .str text => text
  | .obj [(name, .null)] => name
  | _ => none

instance [Named α] : Serial α where
  toJson value := .str (some (Named.name value))
  ofJson? json := json.tag?.bind Named.ofName?

/-! ## Records -/

/-- A record with its fields in order. -/
def Value.record (fields : List (String × Value)) : Value :=
  .obj (fields.map fun (name, value) => (some name, value))

/-- The value of the one member with a name.  `some none` says that there is
    none; a repeated name is refused. -/
def Value.member? (members : List (Literal × Value)) (name : String) : Option (Option Value) :=
  match members.filter (·.1 == some name) with
  | [] => some none
  | [(_, value)] => some (some value)
  | _ => none

/-- The values of the fields of a record that may lack some of them.  Each name
    in the object must have a text. -/
def Value.someFields? (names : List String) : Value → Option (List (Option Value))
  | .arr items =>
    if items.length ≤ names.length then
      some (items.map some ++ List.replicate (names.length - items.length) none)
    else
      none
  | .obj members =>
    if members.all (·.1.isSome) then names.mapM (member? members) else none
  | _ => none

/-- The values of the fields of a record, where an array must hold all. -/
def Value.fields? (names : List String) (json : Value) : Option (List (Option Value)) :=
  match json with
  | .arr items => if items.length = names.length then some (items.map some) else none
  | json => json.someFields? names

/-- A field that must be there. -/
def required [Serial α] (field : Option Value) : Option α :=
  field.bind ofJson?

/-- A field that has a default. -/
def defaulted [Serial α] (default : α) (field : Option Value) : Option α :=
  match field with
  | none => some default
  | some json => ofJson? json

end RegionRouting.Json
