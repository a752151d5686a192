/-
  Region routing — reading typed values out of TOML documents.

  * a number is an integer that is not negative and below a bound;
  * an enumerated value is its name, or a table whose one entry has that name
    and an empty collection for its value;
  * a record is a table with all its fields, or an array that begins with them
    in order.
-/
import RegionRouting.Named
import RegionRouting.Toml.Document

namespace RegionRouting.Toml.Value

/-- The natural number below a bound that a value is. -/
def nat? (bound : Nat) : Value → Option Nat
  | .scalar (.int n) => if 0 ≤ n ∧ n < bound then some n.toNat else none
  | _ => none

def uint64? (value : Value) : Option UInt64 :=
  (value.nat? UInt64.size).map .ofNat

def uint32? (value : Value) : Option UInt32 :=
  (value.nat? UInt32.size).map .ofNat

def bool? : Value → Option Bool
  | .scalar (.bool value) => some value
  | _ => none

def isEmptyCollection : Value → Bool
  | .array items => items.isEmpty
  | .table _ entries => entries.isEmpty
  | .tables items => items.isEmpty
  | _ => false

/-- The enumerated value that a value names. -/
def named? {α : Type} [Named α] : Value → Option α
  | .string name => Named.ofName? name
  | .table _ [(name, value)] => if value.isEmptyCollection then Named.ofName? name else none
  | _ => none

/-- The values of the fields of a record, in order of the names. -/
def fields? (names : List String) : Value → Option (List Value)
  | .array items => if names.length ≤ items.length then some (items.take names.length) else none
  | .table _ entries => names.mapM fun name => entries.lookup name
  | _ => none

end RegionRouting.Toml.Value
