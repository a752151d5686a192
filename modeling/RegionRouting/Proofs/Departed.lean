/-
  Region routing — region values that have left the cache.

  A region value that was made, and is cached no more, comes back in one way
  alone: an update that presents it as a replacement is applied.

  * `Run.Lacks`: no cached region is the value, whatever id it is under;
  * `Run.reinstalls`: an action brings the value back;
  * `Run.lacks_of_le`: what is lacking at one moment is lacking from then on, as
    long as nothing brings it back.
-/
import RegionRouting.Proofs.OneWinner

namespace RegionRouting.Run

variable {ω : Type} [Authority ω] [Prober ω] (run : Run ω) {i j k : Nat} {region : Region}

/-- No cached region is this value. -/
def Lacks (i : Nat) (region : Region) : Prop :=
  ∀ id cached, (run.moment i).client.cache.regions.get? id = some cached →
    cached.isSame region = false

/-- Is the action at a moment an update that puts the value into the cache, and is
    it applied? -/
def reinstalls (i : Nat) (region : Region) : Prop :=
  ∃ expected replacement, run.actions[i]? = some (.updateRegion expected replacement) ∧
    replacement.isSame region ∧
    ((Operation.updateRegion expected replacement).run (run.moment i).client).1 = true

variable {run}

/-- A value that is cached at a later moment is the same as before if its generation
    is. -/
theorem eq_of_caches {id : RegionId} {cached : Region} (le : i ≤ j) (before : run.caches i region)
    (present : (run.moment j).client.cache.regions.get? id = some cached)
    (same : cached.isSame region = true) : cached = region := by
  obtain ⟨census, lists⟩ := run.census i
  obtain ⟨census', more, lists'⟩ := census_of_le le lists
  cases census'.eq_of_generation (lists'.regions present) (more.mem (lists.regions before))
    (beq_iff_eq.1 same)
  rfl

/-- **One action.** Only an update brings a value back that was made before. -/
theorem lacks_succ (made : region.generation < (run.moment i).client.ledger.issued)
    (lacks : run.Lacks i region) (away : ¬run.reinstalls i region) : run.Lacks (i + 1) region := by
  intro id cached present
  cases played : run.actions[i]? with
  | none =>
    rw [run.moment_succ_of_none played] at present
    exact lacks id cached present
  | some action =>
    have change := (effect_play (run.moment i) action).tableChange
    rw [← run.moment_succ played] at change
    generalize (run.moment (i + 1)).client.cache.regions = table at change present
    cases change with
    | kept => exact lacks id cached present
    | fetched _ new =>
      rcases RegionTable.get?_of_insert present with ⟨-, rfl⟩ | old
      · exact beq_eq_false_iff_ne.2 (Nat.ne_of_gt (Nat.lt_of_lt_of_le made new))
      · exact lacks id cached old
    | @replaced expected replacement applied =>
      rcases RegionTable.get?_of_insert present with ⟨-, rfl⟩ | old
      · refine Bool.eq_false_iff.2 fun same => away ⟨expected, cached, played, same, ?_⟩
        rw [Operation.run_updateRegion]
        exact applied
      · exact lacks id cached old
    | erased => exact lacks id cached (RegionTable.get?_of_erase present)
    | evicted => exact lacks id cached (RegionTable.get?_of_evict present)
    | cleared => simp at present

/-- A value that the cache lacks stays away until an update brings it back. -/
theorem lacks_of_le (made : region.generation < (run.moment i).client.ledger.issued)
    (lacks : run.Lacks i region) (le : i ≤ j)
    (away : ∀ k, i ≤ k → k < j → ¬run.reinstalls k region) : run.Lacks j region := by
  induction le with
  | refl => exact lacks
  | @step j le ih =>
    have lacking := ih fun k since before => away k since (Nat.lt_succ_of_lt before)
    exact lacks_succ (Nat.lt_of_lt_of_le made (run.issued_mono le)) lacking
      (away j le (Nat.lt_succ_self j))

end RegionRouting.Run
