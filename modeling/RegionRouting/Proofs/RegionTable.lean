/-
  Region routing — what a region table keeps.

  * `Consistent`: the index and the regions tell of the same values, so that
    each region has one index entry and each entry has its region;
  * `WellFormed`: moreover every region is valid, and no two share a key;
  * both survive `erase`, `evict` and `insert` (`WellFormed.insert`: of a valid
    region); `Consistent.get?_insert_eq_some` says what an insertion leaves,
    `Consistent.mem_evicted_insert` what it evicts, and
    `WellFormed.evicted_of_apart` when that is nothing.
-/
import RegionRouting.Proofs.KeyRange
import RegionRouting.Proofs.Member
import RegionRouting.RegionTable

namespace RegionRouting.RegionTable

variable {table : RegionTable} {id other : RegionId} {r s region : Region}

/-! ## What is left under an id -/

@[simp] theorem get?_empty (id : RegionId) : ({} : RegionTable).get? id = none := by
  simp [get?]

theorem get?_erase (table : RegionTable) (id other : RegionId) :
    (table.erase id).get? other = if other = id then none else table.get? other := by
  unfold erase
  split
  · next absent =>
    split
    · next same => rw [same, absent]
    · rfl
  · simp only [get?, Std.ExtTreeMap.getElem?_erase, Std.LawfulEqCmp.compare_eq_iff_eq,
      eq_comm (a := id)]

theorem get?_evict (ids : List RegionId) (table : RegionTable) (id : RegionId) :
    (table.evict ids).2.get? id = if id ∈ ids then none else table.get? id := by
  induction ids generalizing table with
  | nil => simp [evict]
  | cons first ids ih =>
    simp only [evict, ih, get?_erase, List.mem_cons]
    by_cases h : id ∈ ids <;> simp [h]

theorem get?_of_erase (h : (table.erase other).get? id = some r) : table.get? id = some r := by
  rw [get?_erase] at h
  exact (Option.ite_none_left_eq_some.1 h).2

theorem get?_of_evict {ids : List RegionId} (h : (table.evict ids).2.get? id = some r) :
    table.get? id = some r := by
  rw [get?_evict] at h
  exact (Option.ite_none_left_eq_some.1 h).2

theorem holds_iff : table.holds r ↔ ∃ cached, table.get? r.id = some cached ∧ cached.isSame r := by
  unfold holds
  cases table.get? r.id <;> simp

theorem get?_of_find? {key : Key} (h : table.find? key = some r) :
    ∃ id, table.get? id = some r := by
  obtain ⟨extent, -, found⟩ := Option.bind_eq_some_iff.1 h
  exact ⟨extent.id, (Option.ite_none_right_eq_some.1 found).2⟩

/-! ## Two parts that tell of the same regions -/

/-- The index has the entry of a range exactly if the region of that range is
    there, under its own id. -/
structure Consistent (table : RegionTable) : Prop where
  id_of_get? {id : RegionId} {r : Region} : table.get? id = some r → r.id = id
  index_iff {start stop : Key} {id : RegionId} : table.index[start]? = some ⟨stop, id⟩ ↔
    ∃ r, table.get? id = some r ∧ r.range = ⟨start, stop⟩

theorem Consistent.empty : Consistent {} where
  id_of_get? h := by simp at h
  index_iff := by simp

theorem Consistent.get?_id (h : table.Consistent) (hr : table.get? id = some r) :
    table.get? r.id = some r := by
  rw [h.id_of_get? hr, hr]

theorem Consistent.index_start (h : table.Consistent) (hr : table.get? id = some r) :
    table.index[r.range.start]? = some ⟨r.range.stop, id⟩ :=
  h.index_iff.2 ⟨r, hr, rfl⟩

/-- A region leaves the index with its own entry alone. -/
theorem Consistent.index_erase (h : table.Consistent) (id : RegionId) (start : Key)
    (extent : Extent) : (table.erase id).index[start]? = some extent ↔
      table.index[start]? = some extent ∧ extent.id ≠ id := by
  obtain ⟨stop, other⟩ := extent
  cases hr : table.get? id with
  | none =>
    simp only [erase, hr]
    refine ⟨fun entry => ⟨entry, ?_⟩, And.left⟩
    rintro rfl
    obtain ⟨r, present, -⟩ := h.index_iff.1 entry
    rw [hr] at present
    cases present
  | some r =>
    have own := h.index_start hr
    simp only [erase, hr, own, Option.any_some, beq_self_eq_true, if_true,
      Std.ExtTreeMap.getElem?_erase, Std.LawfulEqCmp.compare_eq_iff_eq]
    by_cases same : r.range.start = start
    · subst same
      simp only [if_true, reduceCtorEq, false_iff, not_and, ne_eq, Classical.not_not]
      intro entry
      rw [own] at entry
      cases entry
      rfl
    · simp only [if_neg same, iff_self_and]
      rintro entry rfl
      obtain ⟨s, present, range⟩ := h.index_iff.1 entry
      rw [hr] at present
      cases present
      exact same (by rw [range])

theorem Consistent.erase (h : table.Consistent) (id : RegionId) : (table.erase id).Consistent where
  id_of_get? hr := by
    rw [get?_erase] at hr
    split at hr
    · cases hr
    · exact h.id_of_get? hr
  index_iff {start stop other} := by
    rw [h.index_erase, h.index_iff, get?_erase]
    by_cases same : other = id <;> simp [same]

theorem Consistent.evict (ids : List RegionId) (h : table.Consistent) :
    (table.evict ids).2.Consistent := by
  induction ids generalizing table with
  | nil => exact h
  | cons first ids ih => exact ih (h.erase first)

theorem mem_values : r ∈ table.values ↔ ∃ id, table.get? id = some r := by
  simp only [values, List.mem_map, Prod.exists, Std.ExtTreeMap.mem_toList_iff_getElem?_eq_some,
    exists_eq_right, get?]

theorem Consistent.nodup_values (h : table.Consistent) : (table.values.map Region.id).Nodup :=
  nodup_map_values table.regions Region.id h.id_of_get?

/-! ## What is evicted -/

/-- The ids of the regions that are evicted. -/
theorem Consistent.mem_evicted (ids : List RegionId) (h : table.Consistent) :
    id ∈ (table.evict ids).1.map Region.id ↔ id ∈ ids ∧ (table.get? id).isSome := by
  induction ids generalizing table with
  | nil => simp [RegionTable.evict]
  | cons first ids ih =>
    have head : id ∈ (table.get? first).toList.map Region.id ↔
        id = first ∧ (table.get? id).isSome := by
      cases present : table.get? first with
      | none =>
        refine iff_of_false (by simp) ?_
        rintro ⟨rfl, cached⟩
        simp [present] at cached
      | some r =>
        obtain rfl := h.id_of_get? present
        simp only [Option.toList_some, List.map_singleton, List.mem_singleton, iff_self_and]
        rintro rfl
        exact Option.isSome_iff_exists.2 ⟨r, present⟩
    rw [RegionTable.evict, List.map_append, List.mem_append, head, ih (h.erase first), get?_erase,
      List.mem_cons]
    by_cases same : id = first <;> simp [same]

/-- No id is evicted twice. -/
theorem Consistent.nodup_evicted (ids : List RegionId) (h : table.Consistent) :
    ((table.evict ids).1.map Region.id).Nodup := by
  induction ids generalizing table with
  | nil => exact List.nodup_nil
  | cons first ids ih =>
    rw [RegionTable.evict, List.map_append, List.nodup_append']
    refine ⟨?_, ih (h.erase first), ?_⟩
    · cases table.get? first <;> simp
    · intro id head rest
      have gone := ((h.erase first).mem_evicted ids).1 rest
      rw [get?_erase] at gone
      cases present : table.get? first with
      | none => simp [present] at head
      | some r =>
        obtain rfl : id = first := by simpa [present, h.id_of_get? present] using head
        simp at gone

/-! ## What an insertion displaces -/

theorem Consistent.mem_overlapping (h : table.Consistent) (range : KeyRange) :
    id ∈ table.overlapping range ↔ ∃ r, table.get? id = some r ∧ range.meets r.range := by
  simp only [overlapping, List.mem_filterMap, Prod.exists, Option.ite_none_right_eq_some,
    Option.some.injEq, Std.ExtTreeMap.mem_toList_iff_getElem?_eq_some]
  constructor
  · rintro ⟨start, ⟨stop, owner⟩, entry, meet, rfl⟩
    obtain ⟨r, present, range⟩ := h.index_iff.1 entry
    exact ⟨r, present, range ▸ meet⟩
  · rintro ⟨r, present, meet⟩
    exact ⟨_, _, h.index_start present, meet, rfl⟩

/-- A range displaces the regions that it meets, and the one that starts where
    it starts. -/
theorem Consistent.mem_displaced (h : table.Consistent) (range : KeyRange) :
    id ∈ table.displaced range ↔
      ∃ r, table.get? id = some r ∧ (range.meets r.range ∨ r.range.start = range.start) := by
  have owner : (∃ extent, table.index[range.start]? = some extent ∧ extent.id = id) ↔
      ∃ r, table.get? id = some r ∧ r.range.start = range.start := by
    constructor
    · rintro ⟨⟨stop, _⟩, entry, rfl⟩
      obtain ⟨r, present, same⟩ := h.index_iff.1 entry
      exact ⟨r, present, by rw [same]⟩
    · rintro ⟨r, present, same⟩
      exact ⟨_, same ▸ h.index_start present, rfl⟩
  have split : id ∈ table.displaced range ↔ id ∈ table.overlapping range ∨
      ∃ extent, table.index[range.start]? = some extent ∧ extent.id = id := by
    simp only [displaced]
    cases table.index[range.start]? with
    | none => simp
    | some extent =>
      by_cases met : extent.id ∈ table.overlapping range
      · simp only [List.contains_iff_mem.2 met, if_true, Option.some.injEq, exists_eq_left']
        exact ⟨Or.inl, fun h => h.elim (fun met => met) fun same => same ▸ met⟩
      · simp [met, eq_comm (a := id)]
  rw [split, h.mem_overlapping, owner, ← exists_or]
  simp only [and_or_left]

/-! ## Insertion -/

/-- What an insertion leaves of the table before it adds the region. -/
def remainder (table : RegionTable) (region : Region) : RegionTable :=
  ((table.erase region.id).evict ((table.erase region.id).displaced region.range)).2

theorem Consistent.remainder (h : table.Consistent) (region : Region) :
    (table.remainder region).Consistent :=
  (h.erase region.id).evict _

/-- An insertion leaves the regions of other ids that its range does not meet
    and that start elsewhere. -/
theorem Consistent.get?_remainder (h : table.Consistent) :
    (table.remainder region).get? id = some r ↔
      table.get? id = some r ∧ id ≠ region.id ∧ ¬region.range.meets r.range ∧
        r.range.start ≠ region.range.start := by
  simp only [RegionTable.remainder, get?_evict, (h.erase region.id).mem_displaced, get?_erase]
  by_cases same : id = region.id
  · simp [same]
  · cases hr : table.get? id with
    | none => simp
    | some s =>
      simp only [same, if_false, Option.some.injEq, exists_eq_left',
        Option.ite_none_left_eq_some, not_or, ne_eq, not_false_eq_true, true_and]
      constructor
      · rintro ⟨stays, rfl⟩
        exact ⟨rfl, stays⟩
      · rintro ⟨rfl, stays⟩
        exact ⟨stays, rfl⟩

theorem get?_insert (table : RegionTable) (region : Region) (id : RegionId) :
    (table.insert region).2.get? id =
      if id = region.id then some region else (table.remainder region).get? id := by
  simp only [insert, get?, Std.ExtTreeMap.getElem?_insert, Std.LawfulEqCmp.compare_eq_iff_eq,
    eq_comm (a := region.id), remainder]

/-- Nothing else enters with a region. -/
theorem get?_of_insert (h : (table.insert region).2.get? id = some r) :
    id = region.id ∧ r = region ∨ table.get? id = some r := by
  rw [get?_insert] at h
  split at h
  · next same => exact .inl ⟨same, (Option.some.inj h).symm⟩
  · exact .inr (get?_of_erase (get?_of_evict h))

/-- An insertion evicts the ids that are cached before and not after. -/
theorem Consistent.mem_evicted_insert (h : table.Consistent) (region : Region) :
    id ∈ (table.insert region).1.map Region.id ↔
      (table.get? id).isSome ∧ (table.insert region).2.get? id = none := by
  rw [get?_insert, RegionTable.remainder, get?_evict]
  simp only [RegionTable.insert, (h.erase region.id).mem_evicted, get?_erase]
  by_cases own : id = region.id
  · simp [own]
  · by_cases met : id ∈ (table.erase region.id).displaced region.range
    · simp [own, met]
    · cases table.get? id <;> simp [own, met]

theorem index_insert (table : RegionTable) (region : Region) (start : Key) :
    (table.insert region).2.index[start]? =
      if start = region.range.start then some ⟨region.range.stop, region.id⟩
      else (table.remainder region).index[start]? := by
  simp only [insert, Std.ExtTreeMap.getElem?_insert, Std.LawfulEqCmp.compare_eq_iff_eq,
    eq_comm (a := region.range.start), remainder]

@[simp] theorem get?_insert_self (table : RegionTable) (region : Region) :
    (table.insert region).2.get? region.id = some region := by
  simp [get?_insert]

/-- Afterwards there are the region itself and what was left of the others. -/
theorem Consistent.get?_insert_eq_some (h : table.Consistent) :
    (table.insert region).2.get? id = some r ↔
      id = region.id ∧ r = region ∨ table.get? id = some r ∧ id ≠ region.id ∧
        ¬region.range.meets r.range ∧ r.range.start ≠ region.range.start := by
  rw [get?_insert, ← h.get?_remainder]
  by_cases same : id = region.id
  · have gone : (table.remainder region).get? id ≠ some r :=
      fun left => (h.get?_remainder.1 left).2.1 same
    simp [same, same ▸ gone, eq_comm]
  · simp [same]

theorem Consistent.insert (h : table.Consistent) (region : Region) :
    (table.insert region).2.Consistent where
  id_of_get? hr := by
    rcases h.get?_insert_eq_some.1 hr with ⟨rfl, rfl⟩ | ⟨old, -⟩
    · rfl
    · exact h.id_of_get? old
  index_iff {start stop id} := by
    rw [index_insert, get?_insert]
    by_cases own : id = region.id <;> by_cases first : start = region.range.start
    · subst own first
      simp only [if_true, Option.some.injEq, exists_eq_left']
      constructor
      · intro entry
        cases entry
        rfl
      · intro range
        obtain rfl := congrArg KeyRange.stop range
        rfl
    · subst own
      simp only [if_neg first, if_true, Option.some.injEq, exists_eq_left']
      constructor
      · intro entry
        obtain ⟨r, left, -⟩ := (h.remainder region).index_iff.1 entry
        exact absurd rfl (h.get?_remainder.1 left).2.1
      · intro range
        exact absurd (congrArg KeyRange.start range).symm first
    · subst first
      simp only [if_true, if_neg own, Option.some.injEq]
      constructor
      · intro entry
        exact absurd (congrArg Extent.id entry).symm own
      · rintro ⟨r, left, range⟩
        exact absurd (congrArg KeyRange.start range) (h.get?_remainder.1 left).2.2.2
    · simp only [if_neg first, if_neg own]
      exact (h.remainder region).index_iff

/-! ## Tables of valid regions that share no key -/

/-- The table of a cache: its parts tell of the same regions, every region is
    valid, and no two regions share a key. -/
structure WellFormed (table : RegionTable) : Prop extends table.Consistent where
  valid {id : RegionId} {r : Region} : table.get? id = some r → r.isValid
  disjoint {id other : RegionId} {r s : Region} {key : Key} : table.get? id = some r →
    table.get? other = some s → r.range.contains key → s.range.contains key → id = other

theorem WellFormed.empty : WellFormed {} where
  toConsistent := .empty
  valid h := by simp at h
  disjoint h := by simp at h

/-- A table that holds some of the regions of a well-formed one. -/
theorem WellFormed.of_subset {rest : RegionTable} (h : table.WellFormed) (hc : rest.Consistent)
    (sub : ∀ {id r}, rest.get? id = some r → table.get? id = some r) : rest.WellFormed where
  toConsistent := hc
  valid hr := h.valid (sub hr)
  disjoint hr hs := h.disjoint (sub hr) (sub hs)

theorem WellFormed.erase (h : table.WellFormed) (id : RegionId) : (table.erase id).WellFormed :=
  h.of_subset (h.toConsistent.erase id) get?_of_erase

theorem WellFormed.evict (h : table.WellFormed) (ids : List RegionId) :
    (table.evict ids).2.WellFormed :=
  h.of_subset (h.toConsistent.evict ids) get?_of_evict

/-- **Insertion.** A valid region may enter, whatever is in its way. -/
theorem WellFormed.insert (h : table.WellFormed) (valid : region.isValid) :
    (table.insert region).2.WellFormed where
  toConsistent := h.toConsistent.insert region
  valid hr := by
    rcases h.get?_insert_eq_some.1 hr with ⟨-, rfl⟩ | ⟨old, -⟩
    · exact valid
    · exact h.valid old
  disjoint {id other r s key} hr hs inr ins := by
    -- what stays does not meet the new range, and so shares no key with it
    rcases h.get?_insert_eq_some.1 hr with ⟨rfl, rfl⟩ | ⟨oldr, -, apartr, -⟩ <;>
      rcases h.get?_insert_eq_some.1 hs with ⟨rfl, rfl⟩ | ⟨olds, -, aparts, -⟩
    · rfl
    · exact absurd (KeyRange.meets_of_contains inr ins) aparts
    · exact absurd (KeyRange.meets_of_contains ins inr) apartr
    · exact h.disjoint oldr olds inr ins

section
variable (h : table.WellFormed) (valid : region.isValid) (fresh : table.get? region.id = none)
  (apart : ∀ {id r key}, table.get? id = some r → r.range.contains key →
    ¬region.range.contains key)
include h valid fresh apart

/-- A region that shares no key with those of the table joins them. -/
theorem WellFormed.get?_insert_of_apart : (table.insert region).2.get? id = some r ↔
    id = region.id ∧ r = region ∨ table.get? id = some r := by
  have proper {r : Region} (valid : r.isValid) : r.range.isProper :=
    (Bool.and_eq_true_iff.1 valid).1
  rw [h.toConsistent.get?_insert_eq_some]
  refine or_congr_right ⟨And.left, fun present => ⟨present, ?_, fun meet => ?_, fun same => ?_⟩⟩
  · rintro rfl
    cases fresh.symm.trans present
  · obtain ⟨key, own, shared⟩ :=
      KeyRange.exists_of_meets (proper valid) (proper (h.valid present)) meet
    exact apart present shared own
  · have own : r.range.contains r.range.start := KeyRange.contains_start (proper (h.valid present))
    exact apart present own (same ▸ KeyRange.contains_start (proper valid))

/-- A valid region of a new id that shares no key with those of the table evicts none of
    them. -/
theorem WellFormed.evicted_of_apart : (table.insert region).1 = [] := by
  refine List.eq_nil_iff_forall_not_mem.2 fun gone evicted => ?_
  obtain ⟨before, after⟩ :=
    (h.toConsistent.mem_evicted_insert region).1 (List.mem_map_of_mem evicted)
  obtain ⟨r, present⟩ := Option.isSome_iff_exists.1 before
  cases after.symm.trans ((h.get?_insert_of_apart valid fresh apart).2 (.inr present))

end

end RegionRouting.RegionTable
