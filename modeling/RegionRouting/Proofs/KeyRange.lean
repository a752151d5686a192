/-
  Region routing — the order of keys, and the keys that ranges share.

  * maps keep keys in the lexicographic order (`compare` against `≤`);
  * `KeyRange.contains_iff` and `KeyRange.meets_iff` say membership and
    overlap by end points;
  * `KeyRange.meets_of_contains`: ranges that share a key meet, whatever their
    end points are; `KeyRange.exists_of_meets`: proper ranges that meet share a
    key;
  * `KeyRange.contains_start`: a proper range holds its own start.
-/
import RegionRouting.Key

namespace RegionRouting

/-! ## The order of keys -/

theorem Key.isLE_compare (a b : Key) : (compare a b).isLE ↔ a ≤ b := by
  induction a generalizing b with
  | nil => simp [List.isLE_compare_nil_left]
  | cons x a ih =>
    cases b with
    | nil => simp
    | cons y b =>
      rw [List.compare_cons_cons, List.cons_le_cons_iff]
      cases h : compare x y with
      | lt => simp [Std.compare_eq_lt.1 h]
      | eq =>
        obtain rfl := Std.LawfulEqOrd.eq_of_compare h
        simp [ih]
      | gt =>
        have above : y < x := Std.compare_eq_gt.1 h
        simp [UInt8.not_lt.2 (UInt8.le_of_lt above), (UInt8.ne_of_lt above).symm]

/-- Maps keep keys in the lexicographic order. -/
instance : Std.LawfulOrderOrd Key where
  isLE_compare := Key.isLE_compare
  isGE_compare a b := by
    rw [← Key.isLE_compare, ← Ordering.isLE_swap, ← Std.OrientedOrd.eq_swap]

namespace KeyRange

variable {r s : KeyRange} {key : Key}

/-! ## Membership and overlap -/

theorem contains_iff :
    r.contains key ↔ r.start ≤ key ∧ (r.stop = [] ∨ key < r.stop) := by
  simp [contains]

theorem isProper_iff : r.isProper ↔ r.stop = [] ∨ r.start < r.stop := by
  simp [isProper]

theorem meets_iff :
    r.meets s ↔ (s.stop = [] ∨ r.start < s.stop) ∧ (r.stop = [] ∨ s.start < r.stop) := by
  simp [meets]

/-- Ranges that share a key meet. -/
theorem meets_of_contains (hr : r.contains key) (hs : s.contains key) : r.meets s := by
  rw [contains_iff] at hr hs
  rw [meets_iff]
  exact ⟨hs.2.imp_right (Std.lt_of_le_of_lt hr.1), hr.2.imp_right (Std.lt_of_le_of_lt hs.1)⟩

/-- A proper range holds its own start. -/
theorem contains_start (h : r.isProper) : r.contains r.start := by
  rw [contains_iff]
  exact ⟨Std.le_refl _, isProper_iff.1 h⟩

/-- Proper ranges that meet share the start of one of them. -/
theorem exists_of_meets (hr : r.isProper) (hs : s.isProper) (h : r.meets s) :
    ∃ key, r.contains key ∧ s.contains key := by
  obtain ⟨below, above⟩ := meets_iff.1 h
  rcases Std.le_total (a := r.start) (b := s.start) with first | first
  · exact ⟨s.start, contains_iff.2 ⟨first, above⟩, contains_start hs⟩
  · exact ⟨r.start, contains_start hr, contains_iff.2 ⟨first, below⟩⟩

/-- A range holds every key between its start and one that it holds. -/
theorem contains_of_le {low : Key} (h : r.contains key) (above : r.start ≤ low)
    (below : low ≤ key) : r.contains low := by
  rw [contains_iff] at h ⊢
  exact ⟨above, h.2.imp_right (Std.lt_of_le_of_lt below)⟩

end KeyRange
end RegionRouting
