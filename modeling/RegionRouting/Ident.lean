/-
  Region routing — identifiers.

  Regions, stores and peers are numbered by 64-bit words.  `Ident e` is such a
  number marked with what it counts, so that a store's number is never taken
  for a region's; the order is that of the numbers.
-/
import Std.Data.ExtTreeMap

namespace RegionRouting

/-- What an identifier counts. -/
inductive Entity where
  | region
  | store
  | peer

/-- The number of a region, store or peer. -/
structure Ident (e : Entity) where
  val : UInt64
  deriving DecidableEq

abbrev RegionId := Ident .region
abbrev StoreId := Ident .store
abbrev PeerId := Ident .peer

namespace Ident

variable {e : Entity}

instance : Ord (Ident e) where
  compare a b := compare a.val b.val

instance : Std.TransOrd (Ident e) where
  eq_swap {a b} := show compare a.val b.val = (compare b.val a.val).swap from
    Std.OrientedOrd.eq_swap
  isLE_trans {a b c} := show (compare a.val b.val).isLE → (compare b.val c.val).isLE →
    (compare a.val c.val).isLE from Std.TransOrd.isLE_trans

instance : Std.LawfulEqOrd (Ident e) where
  compare_self {a} := show compare a.val a.val = .eq from Std.ReflOrd.compare_self
  eq_of_compare {a b} h := by
    have same : a.val = b.val := Std.LawfulEqOrd.eq_of_compare h
    cases a
    cases b
    exact congrArg Ident.mk same

/-- The number in decimal. -/
def text (i : Ident e) : String :=
  toString i.val

end Ident
end RegionRouting
