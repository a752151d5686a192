/-
  Region routing — identity by generation.

  A copy of a value is the value; anything else that is made has a generation of its own.
  So what a generation tells apart are constructions: those of a run are numbered, over all
  its actions and whatever they make, and a value stems from the construction whose number
  it has.

  * `Scene.Knows`: the values that anyone may come by, in the cache, with the scheduler, in
    a round, in someone's hands, or through another value;
  * `Run.History`: the constructions of each action of a run, such that each value that is
    known stems from one of them (`Run.exists_history`);
  * `Run.Identifies` says what generations are good for, and `Run.identity_sound` that
    they are in every run.
-/
import RegionRouting.Proofs.LedRegions
import RegionRouting.Proofs.RunCensus

namespace RegionRouting

/-! ## Numbered constructions -/

/-- The generation in 64 bits, as a counter has it that begins with one and wraps. -/
def Made.word (value : Made) : UInt64 :=
  .ofNat (value.generation + 1)

theorem Made.generation_of_word {a b : Made} {bound : Nat} (fits : bound < UInt64.size)
    (ha : a.generation < bound) (hb : b.generation < bound) (same : a.word = b.word) :
    a.generation = b.generation := by
  have words := congrArg UInt64.toNat same
  rw [word, word, UInt64.toNat_ofNat', UInt64.toNat_ofNat',
    Nat.mod_eq_of_lt (Nat.lt_of_le_of_lt ha fits),
    Nat.mod_eq_of_lt (Nat.lt_of_le_of_lt hb fits)] at words
  exact Nat.succ.inj words

/-- The value is what the construction of its number makes. -/
def Made.StemsFrom (value : Made) (constructions : List Construction) : Prop :=
  ∃ construction, constructions[value.generation]? = some construction ∧
    construction.make? value.generation = some value

namespace Made.StemsFrom

variable {a b value : Made} {constructions more : List Construction}

theorem generation_lt (h : value.StemsFrom constructions) :
    value.generation < constructions.length := by
  obtain ⟨_, numbered, -⟩ := h
  exact (List.getElem?_eq_some_iff.1 numbered).1

theorem mono (h : value.StemsFrom constructions) (le : constructions <+: more) :
    value.StemsFrom more := by
  obtain ⟨construction, numbered, made⟩ := h
  obtain ⟨later, rfl⟩ := le
  have inside := (List.getElem?_eq_some_iff.1 numbered).1
  exact ⟨construction, (List.getElem?_append_left inside).trans numbered, made⟩

/-- **One construction.** Values of one generation stem from one construction, which makes
    one value. -/
theorem eq_of_generation (ha : a.StemsFrom constructions) (hb : b.StemsFrom constructions)
    (same : a.generation = b.generation) : a = b := by
  obtain ⟨one, numbered, made⟩ := ha
  obtain ⟨other, numbered', made'⟩ := hb
  rw [same] at numbered made
  cases numbered.symm.trans numbered'
  exact Option.some.inj (made.symm.trans made')

end Made.StemsFrom

namespace Census.Records

variable {constructions : List Construction} {census : Census}

theorem length_of_empty (h : Census.empty.Records constructions census) :
    census.values.length = constructions.length :=
  h.length_values.trans (Nat.zero_add _)

/-- Each construction makes a value, of values with smaller numbers. -/
theorem makes (h : Census.empty.Records constructions census) {number : Nat}
    {construction : Construction} (numbered : constructions[number]? = some construction) :
    ∃ value, census.values[number]? = some value ∧ construction.make? number = some value ∧
      ∀ part ∈ construction.parts, part.generation < number := by
  induction h generalizing construction with
  | nothing => cases numbered
  | @make earlier last value before after recorded parts made values ih =>
    have length := recorded.length_of_empty
    rw [List.getElem?_append] at numbered
    split at numbered
    · next inside =>
      obtain ⟨value, found, made, older⟩ := ih numbered
      refine ⟨value, ?_, made, older⟩
      rw [values, List.getElem?_append_left (length ▸ inside), found]
    · next beyond =>
      obtain ⟨first, ⟨⟩⟩ :=
        Option.ite_none_right_eq_some.1 (List.getElem?_singleton.symm.trans numbered)
      obtain rfl : number = before.values.length := by omega
      refine ⟨value, ?_, made, fun part among => before.generation_lt (parts part among)⟩
      rw [values, List.getElem?_append_right (Nat.le_refl _), Nat.sub_self]
      rfl

/-- What is in the census stems from its constructions. -/
theorem stemsFrom (h : Census.empty.Records constructions census) {value : Made}
    (known : value ∈ census.values) : value.StemsFrom constructions := by
  have below := census.generation_lt known
  rw [h.length_of_empty] at below
  obtain ⟨made, found, makes, -⟩ := h.makes (List.getElem?_eq_getElem below)
  have same := census.eq_of_generation (List.mem_of_getElem? found) known (census.generation found)
  exact ⟨_, List.getElem?_eq_getElem below, same ▸ makes⟩

end Census.Records

/-! ## What is known -/

variable {ω : Type}

/-- The values that someone may come by: those in the cache, those that wait for a health
    check or are in a round, those given out, and the stores that any of these refers to. -/
inductive Scene.Knows (scene : Scene ω) : Made → Prop
  | cachedRegion {id : RegionId} {region : Region}
      (h : scene.client.cache.regions.get? id = some region) : Knows scene (.region region)
  | cachedStore {id : StoreId} {store : Store}
      (h : scene.client.cache.stores[id]? = some store) : Knows scene (.store store)
  | waiting {store : Store} (h : store ∈ scene.client.scheduler.waiting) :
      Knows scene (.store store)
  | inRound {round : Round} {store : Store} (h : round ∈ scene.rounds)
      (member : store ∈ round.stores) : Knows scene (.store store)
  | givenRegion {region : Region} (h : region ∈ scene.regions) : Knows scene (.region region)
  | givenStore {store : Store} (h : store ∈ scene.stores) : Knows scene (.store store)
  | referred {value : Made} {store : Store} (h : Knows scene value)
      (refers : value.Refers store) : Knows scene (.store store)

namespace Scene

variable {scene : Scene ω}

theorem HoldsStore.knows {store : Store} (h : scene.HoldsStore store) :
    scene.Knows (.store store) := by
  induction h with
  | given member => exact .givenStore member
  | inRound running member => exact .inRound running member
  | ofRegion member refers => exact .referred (.givenRegion member) ⟨_, refers⟩
  | proxy _ forwards ih => exact .referred ih forwards

/-- A census of a scene has all that is known. -/
theorem Knows.listed {value : Made} (h : scene.Knows value) {census : Census}
    (lists : census.ListsScene scene) : value ∈ census.values := by
  induction h with
  | cachedRegion present => exact lists.regions present
  | cachedStore present => exact lists.stores present
  | waiting handed => exact lists.waiting handed
  | inRound running member => exact lists.rounds running member
  | givenRegion member => exact lists.givenRegions member
  | givenStore member => exact lists.givenStores member
  | referred _ refers ih => exact census.closed ih refers

end Scene

/-! ## The history of a run -/

namespace Run

variable [Authority ω] [Prober ω] (run : Run ω)

/-- The constructions of each action of a run, in order.  Up to any moment they are as many
    as the generations that were given out; each makes a value that has its number, of values
    with smaller ones; and whatever is known stems from one of them. -/
structure History (history : List (List Construction)) : Prop where
  carried : List.Forall₂ Action.Constructs run.actions history
  issued (i : Nat) : (history.take i).flatten.length = (run.moment i).client.ledger.issued
  makes {number : Nat} {construction : Construction} :
    history.flatten[number]? = some construction →
    ∃ value, construction.make? number = some value ∧ value.generation = number ∧
      ∀ part ∈ construction.parts, part.generation < number
  stems {i : Nat} {value : Made} : (run.moment i).Knows value →
    value.StemsFrom (history.take i).flatten

/-- A history up to a moment, with a census of each moment before. -/
structure Chronicle (n : Nat) (history : List (List Construction)) : Prop where
  carried : List.Forall₂ Action.Constructs (run.actions.take n) history
  censuses (i : Nat) (le : i ≤ n) : ∃ census : Census,
    Census.empty.Records (history.take i).flatten census ∧ census.ListsScene (run.moment i)

/-- Each action adds its constructions. -/
theorem exists_chronicle (n : Nat) (le : n ≤ run.actions.length) :
    ∃ history, run.Chronicle n history := by
  induction n with
  | zero =>
    refine ⟨[], .nil, fun i le => ?_⟩
    obtain rfl := Nat.le_zero.1 le
    exact ⟨.empty, .nothing, run.census_start⟩
  | succ n ih =>
    obtain ⟨history, chronicle⟩ := ih (Nat.le_of_succ_le le)
    have played : run.actions[n]? = some run.actions[n] := List.getElem?_eq_getElem le
    obtain ⟨census, recorded, lists⟩ := chronicle.censuses n (Nat.le_refl n)
    obtain ⟨made, census', constructs, more, lists'⟩ := lists.play (run.moment_allows played)
    have length : history.length = n := by
      rw [← chronicle.carried.length_eq, List.length_take_of_le (Nat.le_of_succ_le le)]
    refine ⟨history ++ [made], ?_, fun i le => ?_⟩
    · rw [List.take_add_one, played]
      exact List.rel_append chronicle.carried (.cons constructs .nil)
    · rcases Nat.lt_or_eq_of_le le with before | rfl
      · have earlier : (history ++ [made]).take i = history.take i :=
          List.take_append_of_le_length (by omega)
        rw [earlier]
        exact chronicle.censuses i (Nat.le_of_lt_succ before)
      · refine ⟨census', ?_, by rwa [run.moment_succ played]⟩
        rw [List.take_of_length_le (by simp [length]), List.flatten_concat]
        rw [List.take_of_length_le (Nat.le_of_eq length)] at recorded
        exact recorded.trans more

/-- **History.** Every run has one. -/
theorem exists_history : ∃ history, run.History history := by
  obtain ⟨history, chronicle⟩ := run.exists_chronicle run.actions.length (Nat.le_refl _)
  have carried : List.Forall₂ Action.Constructs run.actions history := by
    simpa using chronicle.carried
  have census (i : Nat) : ∃ census : Census,
      Census.empty.Records (history.take i).flatten census ∧ census.ListsScene (run.moment i) := by
    rcases Nat.le_total i run.actions.length with le | ge
    · exact chronicle.censuses i le
    · -- past the last action nothing happens
      have last := chronicle.censuses _ (Nat.le_refl run.actions.length)
      rw [moment, List.take_of_length_le ge, List.take_of_length_le (carried.length_eq ▸ ge)]
      rwa [moment, List.take_length, carried.length_eq, List.take_length] at last
  refine ⟨history, carried, fun i => ?_, fun {number construction} numbered => ?_,
    fun {i value} known => ?_⟩
  · obtain ⟨census, recorded, lists⟩ := census i
    rw [← lists.issued, recorded.length_of_empty]
  · obtain ⟨census, recorded, -⟩ := census history.length
    rw [List.take_length] at recorded
    obtain ⟨value, -, made, older⟩ := recorded.makes numbered
    exact ⟨value, made, Construction.generation_of_make? made, older⟩
  · obtain ⟨census, recorded, lists⟩ := census i
    exact recorded.stemsFrom (known.listed lists)

/-! ## What generations tell -/

variable {run} in
/-- What is known at one moment and at a later one stems from one history. -/
theorem History.eq_of_generation {history : List (List Construction)} (h : run.History history)
    {i j : Nat} {a b : Made} (ha : (run.moment i).Knows a) (hb : (run.moment j).Knows b)
    (same : a.generation = b.generation) : a = b := by
  have part (k : Nat) : (history.take k).flatten <+: history.flatten :=
    ⟨(history.drop k).flatten, by rw [← List.flatten_append, List.take_append_drop]⟩
  exact ((h.stems ha).mono (part i)).eq_of_generation ((h.stems hb).mono (part j)) same

variable {run} in
theorem History.generation_lt {history : List (List Construction)} (h : run.History history)
    {i j : Nat} (le : i ≤ j) {value : Made} (known : (run.moment i).Knows value) :
    value.generation < (run.moment j).client.ledger.issued := by
  have below := (h.stems known).generation_lt
  rw [h.issued i] at below
  exact Nat.lt_of_lt_of_le below (run.issued_mono le)

/-- Two values that are known at any moments of a run are the same only if they are one; a
    region is never taken for a store; what is made has a generation that nothing known by
    then has; and the words of a counter tell as much, until it has wrapped. -/
structure Identifies : Prop where
  regions {i j : Nat} {a b : Region} : (run.moment i).Knows (.region a) →
    (run.moment j).Knows (.region b) → (a.isSame b ↔ a = b)
  stores {i j : Nat} {a b : Store} : (run.moment i).Knows (.store a) →
    (run.moment j).Knows (.store b) → (a.isSame b ↔ a = b)
  apart {i j : Nat} {region : Region} {store : Store} : (run.moment i).Knows (.region region) →
    (run.moment j).Knows (.store store) → region.generation ≠ store.generation
  fresh {i j : Nat} {value made : Made} {construction : Construction} : i ≤ j →
    (run.moment i).Knows value →
    construction.make? (run.moment j).client.ledger.issued = some made →
    value.generation ≠ made.generation
  words {i j k : Nat} {a b : Made} : (run.moment k).client.ledger.issued < UInt64.size →
    i ≤ k → j ≤ k → (run.moment i).Knows a → (run.moment j).Knows b → a.word = b.word → a = b

/-- The cached value that an invalidation or an update finds to be the one that is presented
    is that very value, and so of its id; and only values that are known are presented. -/
structure Guarded : Prop where
  holds {i j : Nat} {region : Region} : (run.moment j).Knows (.region region) →
    ((run.moment i).client.cache.regions.holds region ↔
      (run.moment i).client.cache.regions.get? region.id = some region)
  expects {i j : Nat} {id : RegionId} {region : Region} : (run.moment j).Knows (.region region) →
    (Client.expects ((run.moment i).client.cache.regions.get? id) (some region) ↔
      (run.moment i).client.cache.regions.get? id = some region ∧ region.id = id)
  holdsStore {i j : Nat} {store : Store} : (run.moment j).Knows (.store store) →
    ((run.moment i).client.cache.holdsStore store ↔
      (run.moment i).client.cache.stores[store.id]? = some store)
  presented {i : Nat} {action : Action ω} : run.actions[i]? = some action →
    (∀ region ∈ action.regions, (run.moment i).Knows (.region region)) ∧
      ∀ store ∈ action.stores, (run.moment i).Knows (.store store)

theorem identifies : run.Identifies := by
  obtain ⟨history, known⟩ := run.exists_history
  refine ⟨fun ha hb => ⟨fun same => ?_, ?_⟩, fun ha hb => ⟨fun same => ?_, ?_⟩, ?_, ?_, ?_⟩
  · exact Made.region.inj (known.eq_of_generation ha hb (beq_iff_eq.1 same))
  · rintro rfl
    exact beq_self_eq_true _
  · exact Made.store.inj (known.eq_of_generation ha hb (beq_iff_eq.1 same))
  · rintro rfl
    exact beq_self_eq_true _
  · intro i j region store ha hb same
    cases known.eq_of_generation ha hb same
  · intro i j value made construction le before makes
    rw [Construction.generation_of_make? makes]
    exact Nat.ne_of_lt (known.generation_lt le before)
  · intro i j k a b few le le' ha hb same
    exact known.eq_of_generation ha hb
      (Made.generation_of_word few (known.generation_lt le ha) (known.generation_lt le' hb) same)

theorem guarded : run.Guarded where
  holds {i j region} known := by
    rw [RegionTable.holds_iff]
    constructor
    · rintro ⟨cached, present, same⟩
      obtain rfl := (run.identifies.regions (.cachedRegion present) known).1 same
      exact present
    · intro present
      exact ⟨region, present, beq_self_eq_true _⟩
  expects {i j id region} known := by
    rw [Client.expects_some_iff]
    constructor
    · rintro ⟨cached, present, same⟩
      obtain rfl := (run.identifies.regions (.cachedRegion present) known).1 same
      exact ⟨present, (run.wellFormed_moment i).id_of_get? present⟩
    · rintro ⟨present, -⟩
      exact ⟨region, present, beq_self_eq_true _⟩
  holdsStore {i j store} known := by
    rw [Cache.holdsStore_iff]
    constructor
    · rintro ⟨cached, present, same⟩
      obtain rfl := (run.identifies.stores (.cachedStore present) known).1 (beq_iff_eq.2 same)
      exact present
    · intro present
      exact ⟨store, present, rfl⟩
  presented played :=
    ⟨fun region member => .givenRegion ((run.moment_allows played).regions region member),
      fun store member => ((run.moment_allows played).stores store member).knows⟩

/-- **Identity.** In every run the constructions are numbered by the generations, each known
    value stems from the one of its number, generations tell values apart, and no guard of
    the cache takes one value for another. -/
theorem identity_sound : (∃ history, run.History history) ∧ run.Identifies ∧ run.Guarded :=
  ⟨run.exists_history, run.identifies, run.guarded⟩

end Run
end RegionRouting
