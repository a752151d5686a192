/-
  Region routing — the table of cached regions.

  The table holds regions by id, and an index from the start of each region's
  range to where the range stops and whose it is.  A key is looked up in the
  index: the entry with the greatest start not above the key is the only one
  that can hold it, as long as the ranges share no key.

  * `find?` resolves a key, `get?` an id;
  * `insert` takes in a region after evicting whatever stands in its way: the
    older value of the same id, every region that its range meets, and the
    owner of its start key (an empty range meets nothing, yet has a start);
  * `erase` removes a region from both parts.
-/
import RegionRouting.Region

namespace RegionRouting

/-- Where an indexed range stops, and whose it is. -/
structure Extent where
  stop : Key
  id : RegionId
  deriving DecidableEq

/-- Cached regions by id, and an index of their ranges by start key. -/
structure RegionTable where
  index : Std.ExtTreeMap Key Extent := ∅
  regions : Std.ExtTreeMap RegionId Region := ∅

namespace RegionTable

def size (table : RegionTable) : Nat :=
  table.regions.size

def get? (table : RegionTable) (id : RegionId) : Option Region :=
  table.regions[id]?

/-- Is this very value the one cached under its id? -/
def holds (table : RegionTable) (region : Region) : Bool :=
  (table.get? region.id).any (·.isSame region)

/-- The cached values, by ascending id. -/
def values (table : RegionTable) : List Region :=
  table.regions.toList.map (·.2)

/-! ## Lookup by key -/

/-- The entry with the greatest start that is not above the key. -/
def floor? (table : RegionTable) (key : Key) : Option Extent :=
  table.index.foldl (fun best start extent => if start ≤ key then some extent else best) none

/-- The region whose range holds the key. -/
def find? (table : RegionTable) (key : Key) : Option Region := do
  let extent ← table.floor? key
  if extent.stop.isEmpty || key < extent.stop then
    table.get? extent.id
  else
    none

/-! ## Removal -/

/-- Removes a region, and its index entry if the entry is still its own. -/
def erase (table : RegionTable) (id : RegionId) : RegionTable :=
  match table.get? id with
  | none => table
  | some region =>
    let start := region.range.start
    { index := if table.index[start]?.any (·.id == id) then table.index.erase start else table.index
      regions := table.regions.erase id }

/-- Removes the regions of a list of ids, and returns those that were there. -/
def evict (table : RegionTable) : List RegionId → List Region × RegionTable
  | [] => ([], table)
  | id :: ids =>
    let (evicted, rest) := (table.erase id).evict ids
    ((table.get? id).toList ++ evicted, rest)

/-! ## Insertion -/

/-- The ids of the indexed ranges that meet a range, by ascending start. -/
def overlapping (table : RegionTable) (range : KeyRange) : List RegionId :=
  table.index.toList.filterMap fun (start, extent) =>
    if range.meets ⟨start, extent.stop⟩ then some extent.id else none

/-- The ids of the regions that a range would displace: those that it meets,
    and the owner of its start key. -/
def displaced (table : RegionTable) (range : KeyRange) : List RegionId :=
  let met := table.overlapping range
  match table.index[range.start]? with
  | some owner => if met.contains owner.id then met else met ++ [owner.id]
  | none => met

/-- Takes in a region.  Returns the evicted regions of other ids. -/
def insert (table : RegionTable) (region : Region) : List Region × RegionTable :=
  let others := table.erase region.id
  let (evicted, rest) := others.evict (others.displaced region.range)
  (evicted,
    { index := rest.index.insert region.range.start ⟨region.range.stop, region.id⟩
      regions := rest.regions.insert region.id region })

end RegionTable
end RegionRouting
