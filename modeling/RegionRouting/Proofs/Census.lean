/-
  Region routing — which values there are.

  A `Census` lists the region and store values that were made, in the order of
  their generations, and with each value those that it refers to.  So a value
  in a census is known by its generation (`Census.eq_of_generation`).  A census
  grows by constructions, each of which makes the value of the next generation
  of values that are in it (`Census.Records`).

  * `Construction` lists the ways to make a value;
  * `Census.Lists`: the census has every value of a client, and as many values
    as generations were given out;
  * `Census.ListsScene`: moreover those of rounds, and those given out;
  * `Run.census`: at every moment of a run there is such a census.
-/
import RegionRouting.Proofs.LookupEffect
import RegionRouting.Proofs.Run

namespace RegionRouting

/-! ## Values and what they refer to -/

/-- A value that took a generation. -/
inductive Made where
  | region (value : Region)
  | store (value : Store)

namespace Made

def generation : Made → Generation
  | region value => value.generation
  | store value => value.generation

/-- The stores that a value refers to: those of a region, and the proxy of a
    store. -/
def Refers : Made → Store → Prop
  | region value, other => ∃ id : StoreId, value.stores[id]? = some other
  | store value, other => value.proxy? = some other

end Made

/-- A region refers to the stores that it was made with, and to no others. -/
theorem Region.mem_of_create {descriptor : RegionDescriptor} {leader : Peer} {stores : List Store}
    {ledger : Ledger} {store : Store}
    (h : (Made.region (Region.create descriptor leader stores ledger).1).Refers store) :
    store ∈ stores := by
  obtain ⟨id, h⟩ := h
  change (Std.ExtTreeMap.ofList (stores.map fun store => (store.id, store)))[id]? = _ at h
  rw [Std.ExtTreeMap.ofList_eq_insertMany_empty, Std.ExtTreeMap.getElem?_insertMany_list,
    List.findSomeRev?_eq_findSome?_reverse, Std.ExtTreeMap.getElem?_empty, Option.or_none] at h
  obtain ⟨⟨_, found⟩, member, h⟩ := List.exists_of_findSome?_eq_some h
  obtain ⟨-, ⟨⟩⟩ := Option.ite_none_right_eq_some.1 h
  obtain ⟨other, known, ⟨⟩⟩ := List.mem_map.1 (List.mem_reverse.1 member)
  exact known

/-! ## Constructions -/

/-- A way to make a value. -/
inductive Construction where
  | region (descriptor : RegionDescriptor) (leader : Peer) (stores : List Store)
  /-- of a region, with the first voter on a store as its leader -/
  | successor (region : Region) (store : StoreId)
  | store (descriptor : StoreDescriptor)
  | forwarded (store proxy : Store)
  | reconnected (store : Store)

namespace Construction

/-- What is made if the generation is the next one of the ledger. -/
def make? (construction : Construction) (next : Generation) : Option Made :=
  let ledger : Ledger := { issued := next }
  match construction with
  | .region descriptor leader stores =>
    some (.region (Region.create descriptor leader stores ledger).1)
  | .successor old host => (old.switchLeader host ledger).1.map .region
  | .store descriptor => some (.store (Store.create descriptor ledger).1)
  | .forwarded old proxy => some (.store (old.forwardThrough proxy ledger).1)
  | .reconnected old => some (.store (old.reconnect ledger).1)

/-- The values that it is made of. -/
def parts : Construction → List Made
  | .region _ _ stores => stores.map .store
  | .successor old _ => [.region old]
  | .store _ => []
  | .forwarded old proxy => [.store old, .store proxy]
  | .reconnected old => [.store old]

variable {construction : Construction} {next : Generation} {value : Made}

/-- A successor is what it is made of but for the leader and the generation. -/
theorem make?_successor (old : Region) (host : StoreId) (next : Generation) :
    (successor old host).make? next = (old.voters.find? (·.store == host)).map fun leader =>
      .region { old with leader, generation := next } := by
  simp only [make?, Region.switchLeader]
  cases old.voters.find? (·.store == host) <;> rfl

/-- What is made takes the generation. -/
theorem generation_of_make? (h : construction.make? next = some value) :
    value.generation = next := by
  cases construction with
  | successor old host =>
    rw [make?_successor] at h
    obtain ⟨_, -, rfl⟩ := Option.map_eq_some_iff.1 h
    rfl
  | _ =>
    cases h
    rfl

/-- A value refers to stores that are parts of its construction, or that a part refers to. -/
theorem refers_of_make? (h : construction.make? next = some value) {other : Store}
    (refers : value.Refers other) :
    .store other ∈ construction.parts ∨ ∃ part ∈ construction.parts, part.Refers other := by
  cases construction with
  | region descriptor leader stores =>
    cases h
    exact .inl (List.mem_map_of_mem (Region.mem_of_create refers))
  | successor old host =>
    rw [make?_successor] at h
    obtain ⟨_, -, rfl⟩ := Option.map_eq_some_iff.1 h
    exact .inr ⟨.region old, List.mem_singleton_self _, refers⟩
  | forwarded old proxy =>
    cases h
    cases refers
    exact .inl (List.mem_cons_of_mem _ (List.mem_singleton_self _))
  | _ =>
    cases h
    cases refers

/-- What a fetch of a region constructs: stores, and then the region, unless it fails
    before. -/
inductive OfFetch : List Construction → Prop
  | stores (descriptors : List StoreDescriptor) : OfFetch (descriptors.map store)
  | region (descriptors : List StoreDescriptor) (descriptor : RegionDescriptor) (leader : Peer)
      (known : List Store) : OfFetch (descriptors.map store ++ [region descriptor leader known])

end Construction

/-! ## Censuses -/

/-- Values by generation, closed under reference. -/
structure Census where
  values : List Made
  generation {g : Generation} {value : Made} : values[g]? = some value → value.generation = g
  closed {value : Made} {store : Store} : value ∈ values → value.Refers store →
    .store store ∈ values

namespace Census

variable {census : Census} {ω : Type}

/-- **Identity.** Two values of one generation are one value. -/
theorem eq_of_generation {a b : Made} (ha : a ∈ census.values) (hb : b ∈ census.values)
    (same : a.generation = b.generation) : a = b := by
  obtain ⟨i, hi⟩ := List.mem_iff_getElem?.1 ha
  obtain ⟨j, hj⟩ := List.mem_iff_getElem?.1 hb
  obtain rfl : i = j := by rw [← census.generation hi, ← census.generation hj, same]
  exact Option.some.inj (hi.symm.trans hj)

theorem generation_lt {value : Made} (h : value ∈ census.values) :
    value.generation < census.values.length := by
  obtain ⟨i, hi⟩ := List.mem_iff_getElem?.1 h
  rw [census.generation hi]
  exact (List.getElem?_eq_some_iff.1 hi).1

/-- Nothing was made. -/
def empty : Census where
  values := []
  generation h := by cases h
  closed h := by cases h

/-- Adds the value of the next generation. -/
def add (census : Census) (value : Made) (next : value.generation = census.values.length)
    (known : ∀ store, value.Refers store → .store store ∈ census.values) : Census where
  values := census.values ++ [value]
  generation {g other} h := by
    rw [List.getElem?_append] at h
    split at h
    · exact census.generation h
    · next above =>
      obtain ⟨first, ⟨⟩⟩ := Option.ite_none_right_eq_some.1 (List.getElem?_singleton.symm.trans h)
      exact next.trans (Nat.le_antisymm (Nat.le_of_not_lt above) (Nat.sub_eq_zero_iff_le.1 first))
  closed {other store} h refers := by
    rcases List.mem_append.1 h with h | h
    · exact List.mem_append_left _ (census.closed h refers)
    · obtain rfl := List.mem_singleton.1 h
      exact List.mem_append_left _ (known store refers)

/-- A census that has more values than another. -/
def Extends (census' census : Census) : Prop :=
  census.values <+: census'.values

theorem Extends.refl (census : Census) : census.Extends census :=
  List.prefix_rfl

theorem Extends.trans {a b c : Census} (h : b.Extends a) (h' : c.Extends b) : c.Extends a :=
  List.IsPrefix.trans h h'

theorem Extends.mem {census census' : Census} {value : Made} (h : census'.Extends census)
    (known : value ∈ census.values) : value ∈ census'.values :=
  List.IsPrefix.subset h known

/-- A census becomes another one by constructions, each of which makes the value of the
    next generation of values that are known by then. -/
inductive Records (census : Census) : List Construction → Census → Prop
  | nothing : Records census [] census
  | make {constructions : List Construction} {construction : Construction} {value : Made}
      {before after : Census} (earlier : Records census constructions before)
      (parts : ∀ part ∈ construction.parts, part ∈ before.values)
      (made : construction.make? before.values.length = some value)
      (values : after.values = before.values ++ [value]) :
      Records census (constructions ++ [construction]) after

namespace Records

variable {census' census'' : Census} {constructions constructions' : List Construction}

theorem trans (h : census.Records constructions census')
    (h' : census'.Records constructions' census'') :
    census.Records (constructions ++ constructions') census'' := by
  induction h' with
  | nothing => rwa [List.append_nil]
  | make _ parts made values ih => exact List.append_assoc .. ▸ ih.make parts made values

theorem grown (h : census.Records constructions census') : census'.Extends census := by
  induction h with
  | nothing => exact .refl census
  | @make _ _ value before after _ _ _ values ih =>
    have last : after.Extends before := ⟨[value], values.symm⟩
    exact ih.trans last

theorem length_values (h : census.Records constructions census') :
    census'.values.length = census.values.length + constructions.length := by
  induction h with
  | nothing => rfl
  | make _ _ _ values ih =>
    rw [values, List.length_append, List.length_append, ih, Nat.add_assoc]
    rfl

end Records

/-! ## The values of a client -/

/-- The census has the values that a client has cached or handed over, and one
    for each generation that was given out. -/
structure Lists (census : Census) (client : Client ω) : Prop where
  issued : census.values.length = client.ledger.issued
  regions {id : RegionId} {region : Region} : client.cache.regions.get? id = some region →
    .region region ∈ census.values
  stores {id : StoreId} {store : Store} : client.cache.stores[id]? = some store →
    .store store ∈ census.values
  waiting {store : Store} : store ∈ client.scheduler.waiting → .store store ∈ census.values

variable {client : Client ω}

/-- A client may make one more value, of values that are known. -/
theorem Lists.make (h : census.Lists client) (construction : Construction) {value : Made}
    (made : construction.make? client.ledger.issued = some value)
    (parts : ∀ part ∈ construction.parts, part ∈ census.values) :
    ∃ census' : Census, census.Records [construction] census' ∧ value ∈ census'.values ∧
      census'.Lists { client with ledger := client.ledger.issue.2 } := by
  rw [← h.issued] at made
  let census' := census.add value (Construction.generation_of_make? made) fun store refers =>
    match Construction.refers_of_make? made refers with
    | .inl part => parts _ part
    | .inr ⟨_, part, refers⟩ => census.closed (parts _ part) refers
  have recorded : census.Records [construction] census' := .make .nothing parts made rfl
  have more := recorded.grown
  refine ⟨census', recorded, List.mem_append_right _ (List.mem_singleton_self value), ?_,
    fun present => more.mem (h.regions present), fun present => more.mem (h.stores present),
    fun handed => more.mem (h.waiting handed)⟩
  change (census.values ++ [value]).length = client.ledger.issued + 1
  rw [List.length_append, h.issued, List.length_singleton]

/-- A region that is known may be cached. -/
theorem Lists.insert (h : census.Lists client) {region : Region}
    (known : .region region ∈ census.values) :
    census.Lists (client.withRegions (client.cache.regions.insert region).2) where
  issued := h.issued
  regions present := by
    rcases RegionTable.get?_of_insert present with ⟨-, rfl⟩ | old
    · exact known
    · exact h.regions old
  stores := h.stores
  waiting := h.waiting

/-- A client may drop what it has. -/
theorem Lists.of_less (h : census.Lists client) {client' : Client ω}
    (issued : client'.ledger.issued = client.ledger.issued)
    (regions : ∀ {id region}, client'.cache.regions.get? id = some region →
      client.cache.regions.get? id = some region)
    (stores : ∀ {id : StoreId} {store}, client'.cache.stores[id]? = some store →
      client.cache.stores[id]? = some store)
    (waiting : ∀ {store}, store ∈ client'.scheduler.waiting → store ∈ client.scheduler.waiting) :
    census.Lists client' where
  issued := h.issued.trans issued.symm
  regions present := h.regions (regions present)
  stores present := h.stores (stores present)
  waiting handed := h.waiting (waiting handed)

/-! ## Updates and invalidations -/

theorem Lists.updateRegion (h : census.Lists client) (expected : Option Region)
    {replacement : Region} (known : .region replacement ∈ census.values) :
    census.Lists (client.updateRegion expected replacement).2 := by
  obtain ⟨_, _, eq⟩ := client.updateRegion_snd expected replacement
  have inserted := h.insert known
  rw [eq]
  split
  · exact ⟨inserted.issued, inserted.regions, inserted.stores, inserted.waiting⟩
  · exact ⟨h.issued, h.regions, h.stores, h.waiting⟩

theorem Lists.updateStore (h : census.Lists client) (old : Store) {new : Store}
    (known : .store new ∈ census.values) : census.Lists (client.updateStore old new).2 := by
  cases applied : (client.updateStore old new).1 with
  | false =>
    rw [client.updateStore_snd_of_refused old new applied]
    exact ⟨h.issued, h.regions, h.stores, h.waiting⟩
  | true =>
    obtain ⟨_, eq⟩ := client.updateStore_snd_of_applied old new applied
    rw [eq]
    refine ⟨h.issued, h.regions, fun {id store} present => ?_, fun {store} handed => ?_⟩
    · simp only [Std.ExtTreeMap.getElem?_insert] at present
      split at present
      · exact Option.some.inj present ▸ known
      · exact h.stores present
    · dsimp only at handed
      split at handed
      · rcases Scheduler.mem_waiting_schedule handed with rfl | before
        · exact known
        · exact h.waiting before
      · exact h.waiting handed

theorem Lists.invalidateRegion (h : census.Lists client) (region : Region) :
    census.Lists (client.invalidateRegion region).2 := by
  obtain ⟨_, _, eq⟩ := client.invalidateRegion_snd region
  rw [eq]
  refine h.of_less rfl (fun present => ?_) id id
  dsimp only at present
  split at present
  · exact RegionTable.get?_of_erase present
  · exact present

theorem Lists.invalidateLedBy (h : census.Lists client) (store : Store) :
    census.Lists (client.invalidateLedBy store).2 := by
  obtain ⟨_, _, eq⟩ := client.invalidateLedBy_snd store
  rw [eq]
  refine h.of_less rfl (fun present => ?_) id id
  dsimp only at present
  split at present
  · exact RegionTable.get?_of_evict present
  · exact present

theorem Lists.invalidateStore (h : census.Lists client) (id : StoreId) :
    census.Lists (client.invalidateStore id).2 := by
  obtain ⟨_, _, _, eq⟩ := client.invalidateStore_snd id
  rw [eq]
  refine h.of_less rfl (fun h => h) (fun present => ?_) (fun h => h)
  rw [Std.ExtTreeMap.getElem?_erase] at present
  exact (Option.ite_none_left_eq_some.1 present).2

theorem Lists.clear (h : census.Lists client) : census.Lists client.clear := by
  obtain ⟨_, _, eq⟩ := client.clear_eq
  rw [eq]
  exact h.of_less rfl (fun present => by simp at present) id id

theorem Lists.withQueue (h : census.Lists client) {queue : WatchQueue}
    (known : ∀ store ∈ queue.values, .store store ∈ census.values) :
    census.Lists (client.withQueue queue) := by
  obtain ⟨scheduler, eq, same | rfl⟩ := client.withQueue_eq queue
  · rw [eq, same]
    exact h
  · rw [eq]
    exact ⟨h.issued, h.regions, h.stores, fun handed => known _ handed⟩

/-- What a step of a round makes, if anything, is in the census then. -/
theorem Lists.moves (h : census.Lists client) {round round' : Round} {client' : Client ω}
    (moved : round.Moves client round' client')
    (known : ∀ store ∈ round.stores, .store store ∈ census.values) :
    ∃ (reconnected : Option Store) (census' : Census),
      census.Records (reconnected.toList.map .reconnected) census' ∧ census'.Lists client' ∧
        ∀ store ∈ round'.stores, .store store ∈ census'.values := by
  cases moved with
  | settles sub =>
    exact ⟨none, census, .nothing, ⟨h.issued, h.regions, h.stores, h.waiting⟩,
      fun store member => known store (sub member)⟩
  | evicts _ sub =>
    exact ⟨none, census, .nothing, h.invalidateLedBy _,
      fun store member => known store (sub member)⟩
  | drops _ sub =>
    exact ⟨none, census, .nothing, h.invalidateStore _,
      fun store member => known store (sub member)⟩
  | @makes store _ _ stage sub =>
    have part : .store store ∈ census.values :=
      known store (by simp [Round.mem_stores, stage, Stage.stores])
    obtain ⟨census', recorded, direct, lists⟩ := h.make (.reconnected store) rfl
      (by simpa [Construction.parts] using part)
    refine ⟨some store, census', recorded,
      ⟨lists.issued, lists.regions, lists.stores, lists.waiting⟩, fun other member => ?_⟩
    rcases List.mem_cons.1 (sub member) with rfl | before
    · exact direct
    · exact recorded.grown.mem (known other before)
  | @installs store direct _ stage sub =>
    refine ⟨none, census, .nothing, h.updateStore store (known direct ?_),
      fun store member => known store (sub member)⟩
    simp [Round.mem_stores, stage, Stage.stores]

end Census

/-! ## Lookups -/

namespace Lookup

open Census

variable {ω : Type} [Authority ω] {census : Census} {client : Client ω} {budget : Backoffer}

theorem LoadsStore.listed {id : StoreId} {out : Outcome ω (Option Store)}
    (h : LoadsStore id budget client out) (lists : census.Lists client) :
    ∃ (loaded : Option StoreDescriptor) (census' : Census),
      census.Records (loaded.toList.map .store) census' ∧ census'.Lists out.2 := by
  cases h with
  | cached => exact ⟨none, census, .nothing, lists⟩
  | failed =>
    exact ⟨none, census, .nothing, lists.issued, lists.regions, lists.stores, lists.waiting⟩
  | @tombstoned descriptor =>
    obtain ⟨census', recorded, -, lists'⟩ :=
      lists.make (.store descriptor) rfl (by simp [Construction.parts])
    exact ⟨some descriptor, census', recorded, lists'.issued, lists'.regions, lists'.stores,
      lists'.waiting⟩
  | @fetched descriptor =>
    obtain ⟨census', recorded, known, lists'⟩ :=
      lists.make (.store descriptor) rfl (by simp [Construction.parts])
    refine ⟨some descriptor, census', recorded, lists'.issued, lists'.regions,
      fun {other store} present => ?_, lists'.waiting⟩
    simp only [Client.withStores, Std.ExtTreeMap.getElem?_insert] at present
    split at present
    · cases present
      exact known
    · exact lists'.stores present

/-- Loading stores makes what is needed, and the census has what was loaded. -/
theorem LoadsStores.listed {peers : List Peer} {out : Outcome ω (List Store)}
    (h : LoadsStores peers budget client out) : ∀ {census : Census}, census.Lists client →
      ∃ (loaded : List StoreDescriptor) (census' : Census),
        census.Records (loaded.map .store) census' ∧ census'.Lists out.2 ∧
          ∀ stores, out.1.1 = .ok stores → ∀ store ∈ stores, .store store ∈ census'.values := by
  induction h with
  | nil =>
    intro census lists
    refine ⟨[], census, .nothing, lists, ?_⟩
    rintro _ ⟨⟩ store ⟨⟩
  | @cons peer _ _ _ _ _ _ _ found _ first _ ih =>
    intro census lists
    obtain ⟨loaded₁, census₁, recorded₁, lists₁⟩ := first.listed lists
    obtain ⟨loaded₂, census₂, recorded₂, lists₂, known⟩ := ih lists₁
    refine ⟨loaded₁.toList ++ loaded₂, census₂, ?_, lists₂, ?_⟩
    · exact List.map_append ▸ recorded₁.trans recorded₂
    rintro _ ⟨⟩ store member
    rcases List.mem_append.1 member with here | there
    · obtain rfl := Option.mem_toList.1 here
      exact recorded₂.grown.mem (lists₁.stores first.cached_of_ok)
    · exact known _ rfl store there
  | first failure =>
    intro census lists
    obtain ⟨loaded, census', recorded, lists'⟩ := failure.listed lists
    refine ⟨loaded.toList, census', recorded, lists', ?_⟩
    rintro _ ⟨⟩
  | later first _ ih =>
    intro census lists
    obtain ⟨loaded₁, census₁, recorded₁, lists₁⟩ := first.listed lists
    obtain ⟨loaded₂, census₂, recorded₂, lists₂, -⟩ := ih lists₁
    refine ⟨loaded₁.toList ++ loaded₂, census₂, ?_, lists₂, ?_⟩
    · exact List.map_append ▸ recorded₁.trans recorded₂
    rintro _ ⟨⟩

/-- The census of a client after a lookup of a region, with what it returned. -/
def ListsResult (census census' : Census) (out : Outcome ω Region) : Prop :=
  census'.Extends census ∧ census'.Lists out.2 ∧
    ∀ region, out.1.1 = .ok region → .region region ∈ census'.values

theorem Fetches.listed {query : RegionQuery} {out : Outcome ω (Region × List Region)}
    (h : Fetches query budget client out) (lists : census.Lists client) :
    ∃ constructions census', Construction.OfFetch constructions ∧
      census.Records constructions census' ∧ ListsResult census census' (announce out) := by
  have asked (world : ω) : census.Lists (heard client .regionFetch world) :=
    ⟨lists.issued, lists.regions, lists.stores, lists.waiting⟩
  cases h with
  | failed =>
    exact ⟨_, census, .stores [], .nothing, .refl census, asked _, by rintro _ ⟨⟩⟩
  | storeless _ failure =>
    obtain ⟨loaded, census', recorded, lists', -⟩ := failure.listed (asked _)
    exact ⟨_, census', .stores loaded, recorded, recorded.grown, lists', by rintro _ ⟨⟩⟩
  | @invalid descriptor leader _ _ _ stores client' _ _ _ loads made =>
    cases made
    obtain ⟨loaded, census₁, recorded₁, lists₁, known⟩ := loads.listed (asked _)
    obtain ⟨census₂, recorded₂, -, lists₂⟩ := lists₁.make (.region descriptor leader stores) rfl
      (by simpa [Construction.parts] using known stores rfl)
    have recorded := recorded₁.trans recorded₂
    exact ⟨_, census₂, .region loaded descriptor leader stores, recorded, recorded.grown, lists₂,
      by rintro _ ⟨⟩⟩
  | @cached descriptor leader _ _ _ stores client' _ _ evicted regions _ loads made _ inserted =>
    cases made
    obtain ⟨loaded, census₁, recorded₁, lists₁, known⟩ := loads.listed (asked _)
    obtain ⟨census₂, recorded₂, region, lists₂⟩ :=
      lists₁.make (.region descriptor leader stores) rfl
        (by simpa [Construction.parts] using known stores rfl)
    have recorded := recorded₁.trans recorded₂
    have table : regions = (client'.cache.regions.insert
        (Region.create descriptor leader stores client'.ledger).1).2 :=
      (congrArg Prod.snd inserted).symm
    have lists₃ := lists₂.insert region
    refine ⟨_, census₂, .region loaded descriptor leader stores, recorded, recorded.grown, ?_, ?_⟩
    · rw [announce, Client.announceEvicted_eq, table]
      exact ⟨lists₃.issued, lists₃.regions, lists₃.stores, lists₃.waiting⟩
    · rintro _ ⟨⟩
      exact region

theorem listed_regionByKey (lists : census.Lists client) (key : Key) (budget : Backoffer) :
    ∃ constructions census', Construction.OfFetch constructions ∧
      census.Records constructions census' ∧
        ListsResult census census' ((regionByKey key).outcome budget client) := by
  cases h : client.cache.regions.find? key with
  | some region =>
    rw [outcome_regionByKey_hit budget h]
    obtain ⟨id, present⟩ := RegionTable.get?_of_find? h
    refine ⟨_, census, .stores [], .nothing, .refl census,
      ⟨lists.issued, lists.regions, lists.stores, lists.waiting⟩, ?_⟩
    rintro _ ⟨⟩
    exact lists.regions present
  | none =>
    rw [outcome_regionByKey_miss budget h]
    exact (fetches _ _ _).listed ⟨lists.issued, lists.regions, lists.stores, lists.waiting⟩

theorem listed_regionById (lists : census.Lists client) (id : RegionId) (budget : Backoffer) :
    ∃ constructions census', Construction.OfFetch constructions ∧
      census.Records constructions census' ∧
        ListsResult census census' ((regionById id).outcome budget client) := by
  cases h : client.cache.regions.get? id with
  | some region =>
    rw [outcome_regionById_hit budget h]
    refine ⟨_, census, .stores [], .nothing, .refl census, lists, ?_⟩
    rintro _ ⟨⟩
    exact lists.regions h
  | none =>
    rw [outcome_regionById_miss budget h]
    exact (fetches _ _ _).listed lists

theorem listed_storeById (lists : census.Lists client) (id : StoreId) (budget : Backoffer) :
    ∃ (loaded : Option StoreDescriptor) (census' : Census),
      census.Records (loaded.toList.map .store) census' ∧
      census'.Lists ((storeById id).outcome budget client).2 ∧
      ∀ store, ((storeById id).outcome budget client).1.1 = .ok store →
        .store store ∈ census'.values := by
  have loads := loadsStore id budget client
  rw [outcome_storeById]
  generalize (loadStore id).outcome budget client = out at loads ⊢
  obtain ⟨loaded, census', recorded, lists'⟩ := loads.listed lists
  refine ⟨loaded, census', recorded, ?_⟩
  obtain ⟨⟨_ | _ | store, budget'⟩, client'⟩ := out
  · exact ⟨lists', by rintro _ ⟨⟩⟩
  · exact ⟨lists', by rintro _ ⟨⟩⟩
  · refine ⟨lists', ?_⟩
    rintro _ ⟨⟩
    exact lists'.stores loads.cached_of_ok

end Lookup
end RegionRouting
