/-
  Region routing — resolving a key in the region table.

  * `floor?_eq_some_iff`: the entry that a lookup inspects is the one with the
    greatest start not above the key;
  * `WellFormed.find?_eq_some_iff`: in a well-formed table that single entry
    decides, so that a key resolves to the region that holds it;
  * `WellFormed.eq_of_contains`: there is at most one.
-/
import RegionRouting.Proofs.RegionTable

namespace RegionRouting.RegionTable

variable {table : RegionTable} {id : RegionId} {r s : Region} {key : Key}

/-- The last entry of a sorted list that starts at a key or below, or else `best`. -/
theorem foldl_floor_eq_some_iff (key : Key) (extent : Extent) {entries : List (Key × Extent)}
    (sorted : entries.Pairwise fun a b => a.1 < b.1) (best : Option Extent) :
    entries.foldl (fun best entry => if entry.1 ≤ key then some entry.2 else best) best =
        some extent ↔
      (∃ start, (start, extent) ∈ entries ∧ start ≤ key ∧
        ∀ entry ∈ entries, entry.1 ≤ key → entry.1 ≤ start) ∨
      best = some extent ∧ ∀ entry ∈ entries, ¬entry.1 ≤ key := by
  induction entries generalizing best with
  | nil => simp
  | cons first entries ih =>
    obtain ⟨start, own⟩ := first
    obtain ⟨lowest, sorted⟩ := List.pairwise_cons.1 sorted
    rw [List.foldl_cons, ih sorted]
    simp only [List.mem_cons, forall_eq_or_imp, Prod.mk.injEq]
    constructor
    · rintro (⟨best', mem, below, greatest⟩ | ⟨here, above⟩)
      · exact Or.inl ⟨best', Or.inr mem, below, fun _ => Std.le_of_lt (lowest _ mem), greatest⟩
      · split at here
        · next below =>
          cases here
          exact Or.inl ⟨start, Or.inl ⟨rfl, rfl⟩, below, fun _ => Std.le_refl _,
            fun entry mem reached => absurd reached (above entry mem)⟩
        · next beyond => exact Or.inr ⟨here, beyond, above⟩
    · rintro (⟨best', ⟨rfl, rfl⟩ | mem, below, -, greatest⟩ | ⟨here, beyond, above⟩)
      · refine Or.inr ⟨if_pos below, fun entry mem reached => ?_⟩
        exact Std.not_le.2 (lowest entry mem) (greatest entry mem reached)
      · exact Or.inl ⟨best', mem, below, greatest⟩
      · exact Or.inr ⟨by rw [if_neg beyond, here], above⟩

/-- **The inspected entry** has the greatest start that is not above the key. -/
theorem floor?_eq_some_iff {extent : Extent} : table.floor? key = some extent ↔
    ∃ start, table.index[start]? = some extent ∧ start ≤ key ∧
      ∀ other extent', table.index[other]? = some extent' → other ≤ key → other ≤ start := by
  have sorted : table.index.toList.Pairwise fun a b => a.1 < b.1 :=
    Std.ExtTreeMap.ordered_keys_toList.imp Std.compare_eq_lt.1
  rw [floor?, Std.ExtTreeMap.foldl_eq_foldl_toList, foldl_floor_eq_some_iff key extent sorted]
  simp [Std.ExtTreeMap.mem_toList_iff_getElem?_eq_some]

/-- Of the regions of a table at most one holds a key. -/
theorem WellFormed.eq_of_contains {other : RegionId} (h : table.WellFormed)
    (hr : table.get? id = some r) (hs : table.get? other = some s) (inr : r.range.contains key)
    (ins : s.range.contains key) : r = s := by
  obtain rfl := h.disjoint hr hs inr ins
  exact Option.some.inj (hr.symm.trans hs)

/-- **Search.** A key resolves to the region that holds it, if there is one. -/
theorem WellFormed.find?_eq_some_iff (h : table.WellFormed) :
    table.find? key = some r ↔ table.get? r.id = some r ∧ r.range.contains key := by
  have unfolded : table.find? key = some r ↔ ∃ extent, table.floor? key = some extent ∧
      (extent.stop = [] ∨ key < extent.stop) ∧ table.get? extent.id = some r := by
    simp [find?, Option.bind_eq_some_iff]
  rw [unfolded]
  constructor
  · rintro ⟨⟨stop, id⟩, floor, before, present⟩
    obtain ⟨start, entry, below, -⟩ := floor?_eq_some_iff.1 floor
    obtain ⟨s, owner, range⟩ := h.index_iff.1 entry
    rw [present] at owner
    cases owner
    exact ⟨h.get?_id present, KeyRange.contains_iff.2 (by rw [range]; exact ⟨below, before⟩)⟩
  · rintro ⟨present, inside⟩
    obtain ⟨below, before⟩ := KeyRange.contains_iff.1 inside
    refine ⟨⟨r.range.stop, r.id⟩, ?_, before, present⟩
    refine floor?_eq_some_iff.2 ⟨r.range.start, h.index_start present, below, ?_⟩
    -- a region that started in between would share its own start with `r`
    rintro start ⟨stop, other⟩ entry reached
    obtain ⟨s, owner, range⟩ := h.index_iff.1 entry
    refine Std.not_lt.1 fun between => ?_
    have own : s.range.contains s.range.start :=
      KeyRange.contains_start (Bool.and_eq_true_iff.1 (h.valid owner)).1
    have shared : r.range.contains s.range.start := by
      rw [range]
      exact KeyRange.contains_of_le inside (Std.le_of_lt between) reached
    obtain rfl := h.eq_of_contains present owner shared own
    rw [range] at between
    exact Std.lt_irrefl between

end RegionRouting.RegionTable
