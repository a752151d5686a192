/-
  Region routing — the members of a list.

  * `flatMap_perm_of_getElem?` and `flatMap_set_perm`: what the members of a
    list contribute together is, up to order, what one of them contributes and
    what the others do, also when that one is exchanged;
  * `apply_getElem?_set`: what is read off the places of a list;
  * `nodup_map_values`: the values of a map have keys of their own.
-/
import Mathlib.Data.List.Nodup
import Mathlib.Data.List.Perm.Basic
import Std.Data.ExtTreeMap

namespace RegionRouting

variable {α β : Type} {members : List α} {place : Nat} {member : α}

/-- The part of one member, and the parts of the others. -/
theorem flatMap_perm_of_getElem? (part : α → List β) (h : members[place]? = some member) :
    (members.flatMap part).Perm (part member ++ (members.eraseIdx place).flatMap part) := by
  obtain ⟨lt, rfl⟩ := List.getElem?_eq_some_iff.1 h
  have apart := (List.getElem_cons_eraseIdx_perm lt).symm.flatMap_right part
  rwa [List.flatMap_cons] at apart

/-- If another takes its place, its part does too. -/
theorem flatMap_set_perm (part : α → List β) (h : members[place]? = some member) (other : α) :
    ((members.set place other).flatMap part).Perm
      (part other ++ (members.eraseIdx place).flatMap part) := by
  obtain ⟨lt, -⟩ := List.getElem?_eq_some_iff.1 h
  have apart := (List.set_perm_cons_eraseIdx lt other).flatMap_right part
  rwa [List.flatMap_cons] at apart

/-- How many members there are of a kind: the one, and the others. -/
theorem countP_of_getElem? (kind : α → Bool) (h : members[place]? = some member) :
    members.countP kind = (members.eraseIdx place).countP kind + if kind member then 1 else 0 := by
  obtain ⟨lt, rfl⟩ := List.getElem?_eq_some_iff.1 h
  rw [← (List.getElem_cons_eraseIdx_perm lt).countP_eq kind, List.countP_cons]

theorem countP_set (kind : α → Bool) (h : members[place]? = some member) (other : α) :
    (members.set place other).countP kind =
      (members.eraseIdx place).countP kind + if kind other then 1 else 0 := by
  obtain ⟨lt, -⟩ := List.getElem?_eq_some_iff.1 h
  rw [(List.set_perm_cons_eraseIdx lt other).countP_eq kind, List.countP_cons]

/-- What is read off a place does not change with a member that reads the same. -/
theorem apply_getElem?_set {γ : Type} (h : members[place]? = some member) {other : α}
    (view : Option α → γ) (same : view (some other) = view (some member)) (i : Nat) :
    view (members.set place other)[i]? = view members[i]? := by
  obtain ⟨lt, -⟩ := List.getElem?_eq_some_iff.1 h
  by_cases here : place = i
  · subst here
    rw [List.getElem?_set_self lt, h, same]
  · rw [List.getElem?_set_ne here]

theorem map_set_of_eq (h : members[place]? = some member) {other : α} (view : α → β)
    (same : view other = view member) : (members.set place other).map view = members.map view := by
  refine List.ext_getElem? fun i => ?_
  rw [List.getElem?_map, List.getElem?_map]
  exact apply_getElem?_set h (Option.map view) (by simp [same]) i

/-- The first value under a key is the only one, if there is one for each key. -/
theorem find?_eq_some_of_nodup [DecidableEq β] {key : α → β} (distinct : (members.map key).Nodup)
    (h : member ∈ members) : members.find? (key · = key member) = some member := by
  cases found : members.find? (key · = key member) with
  | none => simpa using List.find?_eq_none.1 found member h
  | some other =>
    have same : key other = key member := by simpa using List.find?_some found
    rw [List.inj_on_of_nodup_map distinct (List.mem_of_find?_eq_some found) h same]

/-- Values that stand under their own keys in a map have different keys. -/
theorem nodup_map_values [Ord β] [Std.TransOrd β] [Std.LawfulEqOrd β] (map : Std.ExtTreeMap β α)
    (key : α → β) (own : ∀ {slot : β} {value : α}, map[slot]? = some value → key value = slot) :
    ((map.toList.map (·.2)).map key).Nodup := by
  have keys : (map.toList.map (·.2)).map key = map.toList.map (·.1) := by
    rw [List.map_map]
    refine List.map_congr_left fun entry member => ?_
    exact own (Std.ExtTreeMap.mem_toList_iff_getElem?_eq_some.1 member)
  rw [keys, List.nodup_iff_pairwise_ne, List.pairwise_map]
  exact Std.ExtTreeMap.distinct_keys_toList.imp fun apart same =>
    apart (Std.LawfulEqCmp.compare_eq_iff_eq.2 same)

end RegionRouting
