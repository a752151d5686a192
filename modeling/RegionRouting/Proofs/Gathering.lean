/-
  Region routing — the stores that a lookup gathers.

  While the stores of some peers are loaded one by one, the cached stores grow, and
  what was cached for one peer is found for the next.  So a store is asked for
  as long as it is told of as tombstoned, and no longer.

  * `Gains` relates the cached stores before and after to what was told meanwhile;
    `Gains.append` is the step from one peer to the next;
  * `Client.Loads`: moreover, what was told has been written down, and numbered;
  * `Lookup.LoadsStores.loads` and `Lookup.LoadsStores.falters`: that is what
    loading the stores of some peers comes to, up to its end or to a failure.
-/
import RegionRouting.Proofs.Answers
import RegionRouting.Proofs.LookupEffect

namespace RegionRouting

/-! ## Stores that were told of -/

/-- The calls about stores that were answered, each with the store that it was
    about. -/
abbrev Replies := List (StoreId × StoreDescriptor)

/-- What is written down of such calls. -/
def Replies.entries (replies : Replies) : List Entry :=
  replies.flatMap fun (asked, descriptor) => [.asked (.store asked), .toldStore asked descriptor]

/-- Some stores were to be loaded, and calls about them were answered.  Those that
    were cached are cached still; the others that were told of and are alive were
    added, in values that are numbered as they came.  Each store that was not
    cached has been asked for, and none after it was told of as alive. -/
structure Gains (stores : Std.ExtTreeMap StoreId Store) (issued : Generation)
    (ids : List StoreId) (replies : Replies) (stores' : Std.ExtTreeMap StoreId Store) : Prop where
  cached (id : StoreId) (store : Store) : stores'[id]? = some store ↔
    stores[id]? = some store ∨ ∃ descriptor generation,
      ((id, descriptor), generation) ∈ replies.zipIdx issued ∧
        descriptor.state ≠ .tombstone ∧ store = .direct descriptor generation
  sought : (replies.map Prod.fst).Sublist ids
  absent {id : StoreId} {descriptor : StoreDescriptor} : (id, descriptor) ∈ replies →
    stores[id]? = none
  asked {id : StoreId} : id ∈ ids → stores[id]? = none → ∃ descriptor, (id, descriptor) ∈ replies
  once : replies.Pairwise fun a b => a.1 = b.1 → a.2.state = .tombstone

namespace Gains

variable {stores stores₁ stores₂ : Std.ExtTreeMap StoreId Store} {issued : Generation}
  {ids ids' : List StoreId} {replies replies' : Replies} {id : StoreId} {store : Store}
  {descriptor : StoreDescriptor}

/-- Nothing is asked for what is cached. -/
theorem of_cached (present : ∀ id ∈ ids, stores[id]?.isSome) :
    Gains stores issued ids [] stores where
  cached id store := by simp
  sought := List.nil_sublist ids
  absent member := nomatch member
  asked {id} member vacant := by
    have there := present id member
    rw [vacant] at there
    cases there
  once := .nil

/-- Without ids to load, nothing is gained. -/
theorem nil : Gains stores issued [] [] stores :=
  of_cached (by simp)

/-- What is gained by asking for one store. -/
theorem of_reply (vacant : stores[id]? = none)
    (cached : ∀ other store, stores₁[other]? = some store ↔ stores[other]? = some store ∨
      other = id ∧ descriptor.state ≠ .tombstone ∧ store = .direct descriptor issued) :
    Gains stores issued [id] [(id, descriptor)] stores₁ where
  cached other store := by
    rw [cached]
    refine or_congr_right ?_
    simp [and_assoc]
  sought := List.Sublist.refl [id]
  absent member := by
    obtain ⟨⟩ := List.mem_singleton.1 member
    exact vacant
  asked member _ := by
    obtain rfl := List.mem_singleton.1 member
    exact ⟨descriptor, List.mem_singleton_self _⟩
  once := List.pairwise_singleton _ _

theorem of_tombstone (vacant : stores[id]? = none) (dead : descriptor.state = .tombstone) :
    Gains stores issued [id] [(id, descriptor)] stores :=
  of_reply vacant fun other store => by simp [dead]

theorem of_alive (vacant : stores[id]? = none) (alive : descriptor.state ≠ .tombstone) :
    Gains stores issued [id] [(id, descriptor)] (stores.insert id (.direct descriptor issued)) := by
  refine of_reply vacant fun other store => ?_
  simp only [Std.ExtTreeMap.getElem?_insert, Std.LawfulEqCmp.compare_eq_iff_eq]
  by_cases own : id = other
  · subst own
    simp [vacant, alive, eq_comm]
  · simp [own, eq_comm]

variable (h : Gains stores issued ids replies stores₁)
include h

/-- What was cached is cached still. -/
theorem kept (before : stores[id]? = some store) : stores₁[id]? = some store :=
  (h.cached id store).2 (.inl before)

theorem vacant_before (vacant : stores₁[id]? = none) : stores[id]? = none := by
  cases before : stores[id]? with
  | none => rfl
  | some store => exact (h.kept before).symm.trans vacant

/-- What was told of as alive is cached. -/
theorem cached_of_alive (member : (id, descriptor) ∈ replies)
    (alive : descriptor.state ≠ .tombstone) :
    ∃ generation, stores₁[id]? = some (.direct descriptor generation) := by
  rw [← List.zipIdx_map_fst issued replies] at member
  obtain ⟨⟨_, generation⟩, numbered, rfl⟩ := List.mem_map.1 member
  exact ⟨generation, (h.cached _ _).2 (.inr ⟨descriptor, generation, numbered, alive, rfl⟩)⟩

/-- What has been added was to be loaded. -/
theorem mem_of_new (vacant : stores[id]? = none) (present : stores₁[id]? = some store) :
    id ∈ ids := by
  rcases (h.cached id store).1 present with before | ⟨descriptor, generation, member, -, -⟩
  · cases vacant.symm.trans before
  · exact h.sought.subset (List.mem_map.2 ⟨_, List.fst_mem_of_mem_zipIdx member, rfl⟩)

/-- **One peer after another.** What the first has gained, the next finds cached. -/
theorem append (h' : Gains stores₁ (issued + replies.length) ids' replies' stores₂) :
    Gains stores issued (ids ++ ids') (replies ++ replies') stores₂ where
  cached id store := by
    rw [h'.cached, h.cached, List.zipIdx_append]
    simp only [List.mem_append, or_and_right, exists_or, or_assoc]
  sought := by
    rw [List.map_append]
    exact h.sought.append h'.sought
  absent member := by
    rcases List.mem_append.1 member with first | later
    · exact h.absent first
    · exact h.vacant_before (h'.absent later)
  asked {id} member vacant := by
    rcases List.mem_append.1 member with first | later
    · obtain ⟨descriptor, told⟩ := h.asked first vacant
      exact ⟨descriptor, List.mem_append_left _ told⟩
    · cases between : stores₁[id]? with
      | none =>
        obtain ⟨descriptor, told⟩ := h'.asked later between
        exact ⟨descriptor, List.mem_append_right _ told⟩
      | some store =>
        obtain ⟨descriptor, told⟩ := h.asked (h.mem_of_new vacant between) vacant
        exact ⟨descriptor, List.mem_append_left _ told⟩
  once := by
    refine List.pairwise_append.2 ⟨h.once, h'.once, ?_⟩
    rintro ⟨id, descriptor⟩ first ⟨id', descriptor'⟩ later same
    by_contra alive
    obtain ⟨generation, present⟩ := h.cached_of_alive first alive
    have vacant := h'.absent later
    obtain rfl : id = id' := same
    cases vacant.symm.trans present

end Gains

/-! ## Loading stores -/

variable {ω : Type}

/-- From one client to the other, some stores were loaded.  What was told of them is
    written down, and each reply has taken a generation. -/
structure Client.Loads (client : Client (Logged ω)) (ids : List StoreId) (replies : Replies)
    (client' : Client (Logged ω)) : Prop where
  gains : Gains client.cache.stores client.ledger.issued ids replies client'.cache.stores
  issued : client'.ledger.issued = client.ledger.issued + replies.length
  log : client'.world.log = client.world.log ++ replies.entries

theorem Client.Loads.append {client client₁ client₂ : Client (Logged ω)} {ids ids' : List StoreId}
    {replies replies' : Replies} (h : client.Loads ids replies client₁)
    (h' : client₁.Loads ids' replies' client₂) :
    client.Loads (ids ++ ids') (replies ++ replies') client₂ where
  gains := h.gains.append (h.issued ▸ h'.gains)
  issued := by rw [h'.issued, h.issued, List.length_append, Nat.add_assoc]
  log := by
    rw [h'.log, h.log, List.append_assoc]
    exact congrArg (client.world.log ++ ·) List.flatMap_append.symm

namespace Lookup

variable [Authority ω] {budget budget' : Backoffer} {client client' : Client (Logged ω)}

/-- A store that was loaded is the cached one, if that is alive. -/
theorem LoadsStore.loads {id : StoreId} {found : Option Store}
    (h : LoadsStore id budget client ((.ok found, budget'), client')) :
    ∃ replies, client.Loads [id] replies client' ∧ ∀ store, found = some store ↔
      client'.cache.stores[id]? = some store ∧ store.isTombstone = false := by
  generalize result : (Except.ok found : Except RouteError (Option Store)) = answer at h
  cases h with
  | failed => cases result
  | @cached store present =>
    cases result
    have loaded : client.Loads [id] [] client := by
      refine ⟨.of_cached ?_, rfl, (List.append_nil _).symm⟩
      intro other member
      rw [List.mem_singleton.1 member, present]
      rfl
    refine ⟨[], loaded, fun other => ?_⟩
    rw [present]
    cases dead : store.isTombstone <;> grind
  | @tombstoned descriptor _ world absent answer dead =>
    cases result
    have loaded : client.Loads [id] [(id, descriptor)]
        ((heard client .storeFetch world).create (Store.create descriptor)).2 :=
      ⟨.of_tombstone absent dead, rfl, log_of_answer answer⟩
    refine ⟨_, loaded, fun other => ?_⟩
    have vacant : ((heard client .storeFetch world).create
        (Store.create descriptor)).2.cache.stores[id]? = none := absent
    simp [vacant]
  | @fetched descriptor _ world absent answer alive =>
    cases result
    refine ⟨_, ⟨.of_alive absent alive, rfl, log_of_answer answer⟩, fun other => ?_⟩
    rw [Client.withStores, Std.ExtTreeMap.getElem?_insert_self]
    refine ⟨?_, And.left⟩
    rintro ⟨⟩
    exact ⟨rfl, beq_eq_false_iff_ne.2 alive⟩

/-- Where a store could not be loaded, the call is all that is left of it. -/
theorem LoadsStore.falters {id : StoreId} {error : RouteError}
    (h : LoadsStore id budget client ((.error error, budget'), client')) :
    client'.cache.stores = client.cache.stores ∧
      client'.world.log = client.world.log ++ [.asked (.store id)] := by
  generalize result : (Except.error error : Except RouteError (Option Store)) = answer at h
  cases h with
  | failed _ answer => exact ⟨rfl, log_of_answer answer⟩
  | cached | tombstoned | fetched => cases result

/-- **The stores of some peers.** In the end, those that were loaded are the cached
    stores of the peers, without the tombstoned. -/
theorem LoadsStores.loads {peers : List Peer} {out : Outcome (Logged ω) (List Store)}
    (h : LoadsStores peers budget client out) : ∀ {stores}, out.1.1 = .ok stores →
      ∃ replies, client.Loads (peers.map (·.store)) replies out.2 ∧
        ∀ store, store ∈ stores ↔ ∃ peer ∈ peers,
          out.2.cache.stores[peer.store]? = some store ∧ store.isTombstone = false := by
  induction h with
  | nil =>
    rintro _ ⟨⟩
    exact ⟨[], ⟨.nil, rfl, (List.append_nil _).symm⟩, by simp⟩
  | @cons peer peers _ _ _ client client₁ client₂ found stores first _ ih =>
    rintro _ ⟨⟩
    obtain ⟨replies, loads, own⟩ := first.loads
    obtain ⟨replies', loads', others⟩ := ih rfl
    refine ⟨replies ++ replies', loads.append loads', fun store => ?_⟩
    rw [List.mem_append, Option.mem_toList, own, others, List.exists_mem_cons_iff]
    constructor
    · rintro (⟨present, alive⟩ | later)
      · exact .inl ⟨loads'.gains.kept present, alive⟩
      · exact .inr later
    · rintro (⟨present, alive⟩ | later)
      · cases between : client₁.cache.stores[peer.store]? with
        | some other =>
          cases (loads'.gains.kept between).symm.trans present
          exact .inl ⟨rfl, alive⟩
        | none =>
          -- a later peer on the same store has brought it
          obtain ⟨other, member, same⟩ :=
            List.mem_map.1 (loads'.gains.mem_of_new between present)
          exact .inr ⟨other, member, same ▸ present, alive⟩
      · exact .inr later
  | first | later => rintro _ ⟨⟩

/-- **A failure** is that of one peer, once the stores of those before it were
    loaded. -/
theorem LoadsStores.falters {peers : List Peer} {out : Outcome (Logged ω) (List Store)}
    (h : LoadsStores peers budget client out) : ∀ {error}, out.1.1 = .error error →
      ∃ loaded peer rest replies, peers = loaded ++ peer :: rest ∧
        Gains client.cache.stores client.ledger.issued (loaded.map (·.store)) replies
          out.2.cache.stores ∧
        out.2.world.log = client.world.log ++ replies.entries ++ [.asked (.store peer.store)] := by
  induction h with
  | nil | cons => rintro _ ⟨⟩
  | @first peer peers _ _ client _ _ failure =>
    rintro _ -
    obtain ⟨same, log⟩ := failure.falters
    refine ⟨[], peer, peers, [], rfl, same ▸ .nil, ?_⟩
    rw [log]
    exact congrArg (· ++ _) (List.append_nil _).symm
  | @later peer peers _ _ _ client _ _ _ _ first _ ih =>
    rintro error failed
    obtain ⟨replies, loads, -⟩ := first.loads
    obtain ⟨loaded, next, rest, replies', rfl, gains, log⟩ := ih failed
    refine ⟨peer :: loaded, next, rest, replies ++ replies', rfl,
      loads.gains.append (loads.issued ▸ gains), ?_⟩
    rw [log, loads.log, List.append_assoc client.world.log]
    exact congrArg (client.world.log ++ · ++ _) List.flatMap_append.symm

end Lookup
end RegionRouting
