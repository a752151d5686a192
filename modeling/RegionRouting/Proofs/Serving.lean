/-
  Region routing — authorities that serve a fixed table.

  * `Partition`: a table of valid regions, each with an id and keys of its own;
    the end points of the ranges tell whether it is one (`partition_iff`);
  * `Authority.Reaches`: the worlds that calls to the authority may lead to;
  * `Serves`: in all of them, a region call about a key is answered with the
    region of the table that owns the key, and calls about the stores of its
    peers are answered too; so lookups of such keys are supplied
    (`Serves.supplied`);
  * `Script.serves`: a script without faults serves its own regions, if they are
    a partition.
-/
import RegionRouting.Proofs.Supply
import RegionRouting.Simulation.Script

namespace RegionRouting

/-! ## Tables of regions -/

instance : DecidablePred ValidPlacement := fun _ => inferInstanceAs (Decidable (_ ∧ _ ∧ _))

/-- Valid regions, each with an id and keys of its own. -/
structure Partition (table : List (RegionDescriptor × Peer)) : Prop where
  valid {placement : RegionDescriptor × Peer} : placement ∈ table → ValidPlacement placement
  distinct : (table.map (·.1.id)).Nodup
  apart {placement placement' : RegionDescriptor × Peer} {key : Key} : placement ∈ table →
    placement' ∈ table → placement.1.range.contains key → placement'.1.range.contains key →
      placement = placement'

/-- The end points tell whether ranges share a key. -/
theorem partition_iff {table : List (RegionDescriptor × Peer)} : Partition table ↔
    (∀ placement ∈ table, ValidPlacement placement) ∧ (table.map (·.1.id)).Nodup ∧
      ∀ placement ∈ table, ∀ placement' ∈ table,
        placement.1.range.meets placement'.1.range → placement = placement' := by
  constructor
  · intro h
    refine ⟨fun _ => h.valid, h.distinct, fun placement among placement' among' meet => ?_⟩
    obtain ⟨key, holds, holds'⟩ :=
      KeyRange.exists_of_meets (h.valid among).1 (h.valid among').1 meet
    exact h.apart among among' holds holds'
  · rintro ⟨valid, distinct, apart⟩
    exact ⟨valid _, distinct, fun among among' holds holds' =>
      apart _ among _ among' (KeyRange.meets_of_contains holds holds')⟩

instance (table : List (RegionDescriptor × Peer)) : Decidable (Partition table) :=
  decidable_of_iff _ partition_iff.symm

/-! ## Authorities -/

variable {ω : Type} [Authority ω] {world world' : ω}

/-- The worlds that calls to the authority may lead to. -/
inductive Authority.Reaches (world : ω) : ω → Prop
  | refl : Authority.Reaches world world
  | placed {world' : ω} (call : Call) (h : Authority.Reaches world world') :
      Authority.Reaches world (Authority.place call world').2
  | region {world' : ω} (query : RegionQuery) (h : Authority.Reaches world world') :
      Authority.Reaches world (Authority.region query world').2
  | store {world' : ω} (id : StoreId) (h : Authority.Reaches world world') :
      Authority.Reaches world (Authority.store id world').2

/-- Whatever calls were made before, one about a key that a region of the table
    owns is answered with that region, and one about a store of its peers is
    answered. -/
structure Serves (table : List (RegionDescriptor × Peer)) (world : ω) : Prop where
  region {world' : ω} {placement : RegionDescriptor × Peer} {key : Key} :
    Authority.Reaches world world' → placement ∈ table → placement.1.range.contains key →
      (Authority.region (.byKey key) world').1 = .answer (.ok placement)
  store {world' : ω} {placement : RegionDescriptor × Peer} {peer : Peer} :
    Authority.Reaches world world' → placement ∈ table → peer ∈ placement.1.peers →
      ∃ descriptor, (Authority.store peer.store world').1 = .answer (.ok descriptor)

namespace Lookup

open Authority

/-- What calls lead to, calls about stores lead on from. -/
theorem reaches_keptByStoreCalls (world : ω) : KeptByStoreCalls (Reaches world) where
  placed id _ h := h.placed (.store id)
  answered id _ h := h.store id

/-- Lookups of keys make calls, and do no more to the world. -/
theorem reaches_regionByKey (key : Key) (budget : Backoffer) {client : Client ω}
    (reached : Reaches world client.world) :
    Reaches world ((regionByKey key).outcome budget client).2.world := by
  have kept := reaches_keptByStoreCalls world
  have fetched : Preserves (Reaches world) (fetch (.byKey key)) := by
    rw [fetch_eq]
    refine Preserves.bind (preserves_change fun _ => rfl) fun _ => ?_
    refine Preserves.bind (preserves_ask (fun _ => .placed _) fun _ => .region _) fun answer => ?_
    exact preserves_cacheAnswer kept answer
  have settled : Preserves (Reaches world) (settleKey key) := by
    refine Preserves.bind (preserves_read _) fun found => ?_
    cases found with
    | some region => exact Preserves.bind (preserves_change fun _ => rfl) fun _ => preserves_pure _
    | none => exact Preserves.bind (preserves_change fun _ => rfl) fun _ => fetched
  rw [outcome_regionByKey, world_announce]
  exact (settled budget).run (client.record .lookup) reached

/-- A call whose first attempt is answered. -/
theorem outcome_ask {α : Type} {call : Call} {attempt : ω → Attempt α × ω} {answer : α}
    (budget : Backoffer) (client : Client ω)
    (answers : (attempt (Authority.place call client.world).2).1 = .answer (.ok answer)) :
    (ask call attempt).outcome budget client = ((.ok answer, budget),
      { client with world := (attempt (Authority.place call client.world).2).2 }) := by
  change (budget.persist (σ := Client ω) (·.onWorld attempt)).run
    { client with world := (Authority.place call client.world).2 } = _
  rw [Backoffer.persist]
  simp only [Routine.run, Client.onWorld, answers]

end Lookup

namespace Serves

open Authority Lookup

variable {table : List (RegionDescriptor × Peer)} {placement : RegionDescriptor × Peer}
  {client : Client ω} (serves : Serves table world)
include serves

/-- A store of a region of the table is loaded, at no expense. -/
theorem outcome_loadStore {peer : Peer} (budget : Backoffer) (reached : Reaches world client.world)
    (among : placement ∈ table) (member : peer ∈ placement.1.peers) : ∃ found client',
      (loadStore peer.store).outcome budget client = ((.ok found, budget), client') := by
  obtain ⟨descriptor, answers⟩ := serves.store (reached.placed (.store peer.store)) among member
  have asked := outcome_ask budget (client.record .storeFetch) answers
  have loads := loadsStore peer.store budget client
  generalize (loadStore peer.store).outcome budget client = out at loads
  cases loads with
  | cached => exact ⟨_, _, rfl⟩
  | failed _ answer => cases asked.symm.trans answer
  | tombstoned _ answer | fetched _ answer =>
    cases congrArg (·.1.2) (asked.symm.trans answer)
    exact ⟨_, _, rfl⟩

theorem outcome_loadStores (among : placement ∈ table) (budget : Backoffer) :
    ∀ {peers : List Peer} {client : Client ω}, peers ⊆ placement.1.peers →
      Reaches world client.world → ∃ stores client',
        (loadStores peers).outcome budget client = ((.ok stores, budget), client')
  | [], client, _, _ => ⟨[], client, rfl⟩
  | peer :: peers, client, members, reached => by
    obtain ⟨member, others⟩ := List.cons_subset.1 members
    obtain ⟨found, client₁, first⟩ := serves.outcome_loadStore budget reached among member
    have reached₁ : Reaches world client₁.world := by
      have kept := preserves_loadStore (reaches_keptByStoreCalls world) peer.store budget
      have after := kept.run client reached
      rwa [show (loadStore peer.store budget).run client = _ from first] at after
    obtain ⟨stores, client₂, rest⟩ := outcome_loadStores among budget others reached₁
    refine ⟨found.toList ++ stores, client₂, ?_⟩
    rw [loadStores, outcome_bind, first, Outcome.andThen_ok, outcome_bind, rest]
    rfl

/-- Lookups of keys that a region of the table owns are supplied with it. -/
theorem supplied {key : Key} (budget : Backoffer) (reached : Reaches world client.world)
    (among : placement ∈ table) (owns : placement.1.range.contains key) :
    Supplied client (.byKey key) budget placement := by
  intro metrics
  have placed := reached.placed (.region (.byKey key))
  have asked := outcome_ask budget { client with metrics } (serves.region placed among owns)
  let world₁ := (Authority.place (.region (.byKey key)) client.world).2
  let client₁ := { client with metrics, world := (Authority.region (.byKey key) world₁).2 }
  have answered : Reaches world client₁.world := placed.region (.byKey key)
  obtain ⟨stores, client₂, loaded⟩ :=
    serves.outcome_loadStores among budget (List.Subset.refl _) answered
  exact ⟨_, _, stores, _, client₂, asked, loaded⟩

end Serves

/-- To write down the calls makes no difference. -/
theorem Serves.observed {observed : Observed ω} (serves : Serves table observed.world) :
    Serves table observed := by
  have within {observed' : Observed ω} (reached : Authority.Reaches observed observed') :
      Authority.Reaches observed.world observed'.world := by
    induction reached with
    | refl => exact .refl
    | placed call _ ih => exact ih.placed call
    | region query _ ih => exact ih.region query
    | store id _ ih => exact ih.store id
  exact ⟨fun reached => serves.region (within reached),
    fun reached => serves.store (within reached)⟩

/-- A script without faults serves its regions, if they are a partition and the
    stores of their peers are known. -/
theorem Script.serves {script : Script} (partition : Partition script.regions)
    (faultless : script.regionFaults = []) (unforced : script.forced = [])
    (sound : script.storeFaults = ∅)
    (known : ∀ placement ∈ script.regions, ∀ peer ∈ placement.1.peers,
      (script.stores[peer.store]?).isSome) : Serves script.regions script := by
  have region (query : RegionQuery) :
      Authority.region query script = (.answer (script.lookup query), script) := by
    change script.region query = _
    rw [Script.region, faultless]
    simp only [unforced]
  have store (id : StoreId) : (Authority.store id script).2 = script := by
    change (script.store id).2 = _
    simp only [Script.store, sound, Std.ExtTreeMap.getD_empty]
    split <;> rfl
  have same {script' : Script} (reached : Authority.Reaches script script') :
      script' = script := by
    induction reached with
    | refl => rfl
    | placed _ _ ih => exact ih
    | region query _ ih => rw [ih, region]
    | store id _ ih => rw [ih, store]
  constructor
  · intro _ placement key reached among owns
    have first : script.regions.find? (·.1.range.contains key) = some placement := by
      cases found : script.regions.find? (·.1.range.contains key) with
      | none => simpa [owns] using List.find?_eq_none.1 found placement among
      | some other =>
        have shared : other.1.range.contains key := by simpa using List.find?_some found
        rw [partition.apart (List.mem_of_find?_eq_some found) among shared owns]
    rw [same reached, region, Script.lookup]
    simp only [first]
  · intro _ placement peer reached among member
    obtain ⟨descriptor, present⟩ := Option.isSome_iff_exists.1 (known placement among peer member)
    refine ⟨descriptor, ?_⟩
    rw [same reached]
    change (script.store peer.store).1 = _
    simp only [Script.store, sound, Std.ExtTreeMap.getD_empty, present]

/-- Two regions on one store: the keys below `[5]`, and those from there on. -/
def halves : Script where
  regions := [({ id := ⟨1⟩, range := ⟨[], [5]⟩, epoch := {}, peers := [⟨⟨1⟩, ⟨1⟩, .voter⟩] },
      ⟨⟨1⟩, ⟨1⟩, .voter⟩),
    ({ id := ⟨2⟩, range := ⟨[5], []⟩, epoch := {}, peers := [⟨⟨2⟩, ⟨1⟩, .voter⟩] },
      ⟨⟨2⟩, ⟨1⟩, .voter⟩)]
  stores := (∅ : Std.ExtTreeMap StoreId StoreDescriptor).insert ⟨1⟩
    { id := ⟨1⟩, address := "node", labels := [], state := .up }

theorem partition_halves : Partition halves.regions := by
  decide +kernel

theorem halves_serves : Serves halves.regions halves :=
  Script.serves partition_halves rfl rfl rfl (by decide +kernel)

/-- A client of the two halves that has nothing cached. -/
def newcomer : Client (Observed Script) where
  world := { world := halves }

end RegionRouting
