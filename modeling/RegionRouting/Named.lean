/-
  Region routing — enumerations with public names.
-/

namespace RegionRouting

/-- A type with finitely many values, each known by a name. -/
class Named (α : Type) where
  values : List α
  name (value : α) : String

/-- The value of a name. -/
def Named.ofName? {α : Type} [Named α] (name : String) : Option α :=
  values.find? (Named.name · == name)

end RegionRouting
