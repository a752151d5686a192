/-
  Region routing — a region table under any edits.

  A table takes in whatever it is given: regions that are unbounded, that hold no key
  or stop before they start, under ids and from start keys that are taken already.  To
  meet such a range is no longer to share a key with it; an empty range does not even
  meet itself.  Index and regions keep together all the same, since an insertion also
  displaces the owner of the start key, and a region that leaves takes an index entry
  along only if the entry is its own.

  * `Consistent.eq_of_start` and `Consistent.size_index`: there are as many index
    entries as regions, one for each;
  * `RegionTable.Admits` says what an insertion leaves and what it evicts, and
    `Consistent.admits` that it does so in every consistent table;
  * `RegionTable.after` is the table after some edits, and `edits_indexed` says what
    holds of it.
-/
import RegionRouting.Proofs.Insertion

namespace RegionRouting

/-- Does a region have to leave for another one: has it another id, and does it meet
    the range of the other or start where that starts? -/
def Region.GivesWay (r region : Region) : Prop :=
  r.id ≠ region.id ∧ (region.range.meets r.range ∨ r.range.start = region.range.start)

namespace RegionTable

variable {table : RegionTable} {id other : RegionId} {r s region : Region}

/-! ## One entry for each region -/

/-- No two regions start at the same key. -/
theorem Consistent.eq_of_start (h : table.Consistent) (hr : table.get? id = some r)
    (hs : table.get? other = some s) (same : r.range.start = s.range.start) : r = s := by
  have entry := h.index_start hr
  rw [same, h.index_start hs] at entry
  obtain rfl : other = id := congrArg Extent.id (Option.some.inj entry)
  exact Option.some.inj (hr.symm.trans hs)

/-- The start keys of the regions are those of the index, each once. -/
theorem Consistent.starts_perm (h : table.Consistent) :
    (table.values.map (·.range.start)).Perm table.index.keys := by
  have apart : (table.values.map (·.range.start)).Nodup := by
    refine List.Nodup.map_on ?_ (List.Nodup.of_map Region.id h.nodup_values)
    intro r hr s hs same
    obtain ⟨_, hr⟩ := mem_values.1 hr
    obtain ⟨_, hs⟩ := mem_values.1 hs
    exact h.eq_of_start hr hs same
  refine (List.perm_ext_iff_of_nodup apart Std.ExtTreeMap.nodup_keys).2 fun start => ?_
  rw [Std.ExtTreeMap.mem_keys, Std.ExtTreeMap.mem_iff_isSome_getElem?, Option.isSome_iff_exists,
    List.mem_map]
  constructor
  · rintro ⟨r, among, rfl⟩
    obtain ⟨_, hr⟩ := mem_values.1 among
    exact ⟨_, h.index_start hr⟩
  · rintro ⟨⟨stop, id⟩, entry⟩
    obtain ⟨r, hr, range⟩ := h.index_iff.1 entry
    exact ⟨r, mem_values.2 ⟨id, hr⟩, by rw [range]⟩

theorem Consistent.size_index (h : table.Consistent) : table.index.size = table.size := by
  have starts := h.starts_perm.length_eq
  rw [List.length_map, values, List.length_map, Std.ExtTreeMap.length_toList,
    Std.ExtTreeMap.length_keys] at starts
  exact starts.symm

/-! ## Insertions -/

/-- A table has admitted a region.  The region is there and owns the entry of its start
    key; beside it there are those regions of other ids that do not have to leave for
    it; the others are returned, each once. -/
structure Admits (table : RegionTable) (region : Region) (evicted : List Region)
    (table' : RegionTable) : Prop where
  cached : table'.get? region.id = some region
  entry : table'.index[region.range.start]? = some ⟨region.range.stop, region.id⟩
  stays (r : Region) (apart : r.id ≠ region.id) :
    table'.get? r.id = some r ↔ table.get? r.id = some r ∧ ¬r.GivesWay region
  leaves (r : Region) : r ∈ evicted ↔ table.get? r.id = some r ∧ r.GivesWay region
  once : (evicted.map Region.id).Nodup

/-- An insertion leaves the regions of other ids that do not have to leave. -/
theorem Consistent.get?_insert_of_ne (h : table.Consistent) (apart : r.id ≠ region.id) :
    (table.insert region).2.get? r.id = some r ↔
      table.get? r.id = some r ∧ ¬r.GivesWay region := by
  rw [h.get?_insert_eq_some, Region.GivesWay]
  simp [apart]

/-- **Insertion.** A consistent table admits any region. -/
theorem Consistent.admits (h : table.Consistent) (region : Region) :
    table.Admits region (table.insert region).1 (table.insert region).2 where
  cached := get?_insert_self table region
  entry := by rw [index_insert, if_pos rfl]
  stays _ apart := h.get?_insert_of_ne apart
  leaves r := by
    rw [h.mem_insert_fst]
    refine and_congr_right fun before => ?_
    constructor
    · intro gone
      have apart : r.id ≠ region.id := by
        intro same
        rw [same, get?_insert_self] at gone
        cases gone
      refine Classical.byContradiction fun stays => ?_
      cases gone.symm.trans ((h.get?_insert_of_ne apart).2 ⟨before, stays⟩)
    · intro leaves
      refine Option.eq_none_iff_forall_ne_some.2 fun s present => ?_
      rcases h.get?_insert_eq_some.1 present with ⟨same, -⟩ | ⟨old, -, apart, elsewhere⟩
      · exact leaves.1 same
      · cases before.symm.trans old
        exact leaves.2.elim apart elsewhere
  once := (h.erase region.id).nodup_evicted _

/-! ## Edits -/

/-- What a table may be asked to do: to take in a region, or to remove the one of an
    id. -/
inductive Edit where
  | insert (region : Region)
  | erase (id : RegionId)

/-- The table after an edit. -/
def edit (table : RegionTable) : Edit → RegionTable
  | .insert region => (table.insert region).2
  | .erase id => table.erase id

/-- The table after some edits. -/
def after (table : RegionTable) (edits : List Edit) : RegionTable :=
  edits.foldl edit table

theorem Consistent.edit (h : table.Consistent) (edit : Edit) : (table.edit edit).Consistent := by
  cases edit with
  | insert region => exact h.insert region
  | erase id => exact h.erase id

theorem Consistent.after (h : table.Consistent) (edits : List Edit) :
    (table.after edits).Consistent := by
  induction edits generalizing table with
  | nil => exact h
  | cons edit edits ih => exact ih (h.edit edit)

/-- **Index and regions.** Whatever regions a table was given, and whichever it had to
    remove, its index has the entry of each region and no other; it admits whatever
    region comes next, and removes that of any one id. -/
theorem edits_indexed (edits : List Edit) :
    let table := ({} : RegionTable).after edits
    table.Consistent ∧ table.index.size = table.size ∧
    (∀ region, table.Admits region (table.insert region).1 (table.insert region).2) ∧
    ∀ id other, (table.erase id).get? other = if other = id then none else table.get? other := by
  intro table
  have consistent : table.Consistent := Consistent.empty.after edits
  exact ⟨consistent, consistent.size_index, consistent.admits, get?_erase table⟩

/-- A region of no key displaces the one that starts where it does. -/
example :
    let region (id : UInt64) (stop : Key) : Region :=
      { descriptor := { id := ⟨id⟩, range := ⟨[1], stop⟩, epoch := {}, peers := [] }
        leader := ⟨⟨1⟩, ⟨1⟩, .voter⟩, stores := ∅, generation := 0 }
    let table := ({} : RegionTable).after [.insert (region 1 [3])]
    (table.insert (region 2 [1])).1.map Region.id = [⟨1⟩] := by decide

end RegionTable
end RegionRouting
