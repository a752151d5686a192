/-
  Region routing — the account of a round of health checks.

  A round takes every waiting store off the queue, and settles one after the other.
  Meanwhile the rest of the program goes on: it may change the cache as it likes, and
  hand more stores over to the checker.  No store is lost on the way, and none is
  counted twice.

  * `Fate` is what becomes of a store, and `Round.Turns` lists what a step may do,
    with the fate of the store that it settles, if it does;
  * `Round.Accounts`: the stores taken are those settled, the one under way and those
    waiting; those kept and the tally follow from the fates;
  * `Checker.Lawful` is what a checker has to keep to, and `Checker.Hands` what may
    be done beside its round;
  * `Checker.Progress` is a round with other things done in between, and
    `Checker.Progress.accounts` says what waits when it is over.
-/
import RegionRouting.Proofs.Watch

namespace RegionRouting

variable {ω : Type}

/-! ## Fates -/

/-- What becomes of a store that a round has taken. -/
inductive Fate where
  | recovered
  | removed
  | stale
  | retained
  deriving DecidableEq

/-- Counts a store of that fate. -/
def Fate.counts : Fate → Tally → Tally
  | recovered => Round.recovered
  | removed => Round.removed
  | stale => Round.stale
  | retained => fun tally => { tally with retained := tally.retained + 1 }

namespace Tally

/-- The tally of some fates. -/
def of (fates : List Fate) : Tally where
  recovered := fates.count .recovered
  removed := fates.count .removed
  stale := fates.count .stale
  retained := fates.count .retained

/-- How many stores were counted. -/
def total (tally : Tally) : Nat :=
  tally.recovered + tally.removed + tally.stale + tally.retained

theorem total_of (fates : List Fate) : (of fates).total = fates.length := by
  induction fates with
  | nil => rfl
  | cons fate fates ih =>
    simp only [total, of] at ih ⊢
    cases fate <;> simp only [List.count_cons, List.length_cons, ← ih] <;> grind

theorem of_concat (fates : List Fate) (fate : Fate) :
    of (fates ++ [fate]) = fate.counts (of fates) := by
  cases fate <;> simp [of, Fate.counts, Round.recovered, Round.removed, Round.stale]

end Tally

/-- The stores among those settled that are to be put back. -/
def retained (settled : List (Store × Fate)) : List Store :=
  (settled.filter (·.2 = .retained)).map Prod.fst

theorem mem_retained {settled : List (Store × Fate)} {store : Store} :
    store ∈ retained settled ↔ (store, .retained) ∈ settled := by
  simp [retained]

theorem retained_concat (settled : List (Store × Fate)) (store : Store) (fate : Fate) :
    retained (settled ++ [(store, fate)]) =
      retained settled ++ if fate = .retained then [store] else [] := by
  unfold retained
  rw [List.filter_append, List.map_append]
  cases fate <;> rfl

/-! ## What a step does -/

/-- The store that a stage asks after. -/
def Stage.inspects? : Stage → Option Store
  | .call store | .ask store _ | .evict store | .probe store | .listen store => some store
  | .examine | .drop _ | .install .. => none

theorem Stage.subject?_of_inspects? {stage : Stage} {store : Store}
    (inspects : stage.inspects? = some store) : stage.subject? = some store := by
  cases stage <;> first | exact inspects | cases inspects

namespace Round

variable {round round' : Round} {client client' : Client ω} {settled : List (Store × Fate)}

/-- What a step may do to a round and to the client, and the store that it settles,
    with its fate.  A round that is over does nothing more. -/
inductive Turns (round : Round) (client : Client ω) :
    Option (Store × Fate) → Round → Client ω → Prop
  | idles (ended : round.isOver) : Turns round client none round client
  | takes {store : Store} {waiting : List Store} (stage : round.stage = .examine)
      (first : round.waiting = store :: waiting) (held : client.cache.holdsStore store) :
      Turns round client none { round with waiting, stage := .call store } client
  | misses {store : Store} {waiting : List Store} (stage : round.stage = .examine)
      (first : round.waiting = store :: waiting) (other : ¬client.cache.holdsStore store) :
      Turns round client (some (store, .stale)) ({ round with waiting }.settle stale) client
  | inspects {store : Store} {next : Stage} {world : ω} (stage : round.stage.inspects? = some store)
      (after : next.inspects? = some store) :
      Turns round client none { round with stage := next } { client with world }
  | retains {store : Store} {world : ω} (stage : round.stage.inspects? = some store) :
      Turns round client (some (store, .retained)) (round.keep store) { client with world }
  | evicts {store : Store} (stage : round.stage = .evict store) :
      Turns round client none { round with stage := .drop store } (client.invalidateLedBy store).2
  | removes {store : Store} (stage : round.stage = .drop store) :
      Turns round client (some (store, .removed)) (round.settle removed)
        (client.invalidateStore store.id).2
  | answers {store : Store} {world : ω} (stage : round.stage = .listen store) :
      Turns round client none
        { round with stage := .install store (.direct store.descriptor client.ledger.issued) }
        { client with world, ledger := client.ledger.issue.2 }
  | recovers {store direct : Store} (stage : round.stage = .install store direct)
      (applied : (client.updateStore store direct).1 = true) :
      Turns round client (some (store, .recovered)) (round.settle recovered)
        (client.updateStore store direct).2
  | loses {store direct : Store} (stage : round.stage = .install store direct)
      (refused : (client.updateStore store direct).1 = false) :
      Turns round client (some (store, .stale)) (round.settle stale)
        (client.updateStore store direct).2

/-- The list is complete. -/
theorem turns [Authority ω] [Prober ω] (round : Round) (client : Client ω) :
    ∃ settled, round.Turns client settled (round.step client).2.1 (round.step client).2.2 := by
  obtain ⟨waiting, stage, kept, tally⟩ := round
  cases stage with
  | examine =>
    cases waiting with
    | nil => exact ⟨none, .idles rfl⟩
    | cons store waiting =>
      simp only [step, examine]
      split
      · next held => exact ⟨none, .takes rfl rfl held⟩
      · next other => exact ⟨_, .misses rfl rfl other⟩
  | call store => exact ⟨none, .inspects rfl rfl⟩
  | ask store budget =>
    simp only [step, ask]
    split
    · refine ⟨none, .inspects rfl ?_⟩
      split <;> rfl
    · exact ⟨_, .retains rfl⟩
    · split
      · exact ⟨_, .retains rfl⟩
      · exact ⟨none, .inspects rfl rfl⟩
  | evict store => exact ⟨none, .evicts rfl⟩
  | drop store => exact ⟨_, .removes rfl⟩
  | probe store => exact ⟨none, .inspects rfl rfl⟩
  | listen store =>
    simp only [step, listen]
    split
    · exact ⟨none, .answers rfl⟩
    · exact ⟨_, .retains rfl⟩
  | install store direct =>
    cases applied : (client.updateStore store direct).1 with
    | true =>
      simp only [step, install, applied]
      exact ⟨_, .recovers rfl applied⟩
    | false =>
      simp only [step, install, applied]
      exact ⟨_, .loses rfl applied⟩

/-! ## The account -/

/-- A round accounts for the stores that it has taken.  Each is settled, under way or
    waiting; the stores kept are those whose fate it is, and the tally counts the
    fates. -/
structure Accounts (round : Round) (drained : List Store) (settled : List (Store × Fate)) :
    Prop where
  drained : drained = settled.map Prod.fst ++ (round.stage.subject?.toList ++ round.waiting)
  kept : round.kept = retained settled
  tally : round.tally = .of (settled.map Prod.snd)

/-- When it is over, every store that it has taken is settled. -/
theorem Accounts.drained_of_isOver {drained : List Store} (h : round.Accounts drained settled)
    (ended : round.isOver) : drained = settled.map Prod.fst := by
  obtain ⟨waiting, stage, kept, tally⟩ := round
  cases stage with
  | examine =>
    obtain rfl : waiting = [] := by simpa [isOver] using ended
    rw [h.drained]
    exact List.append_nil _
  | _ => cases ended

section
variable {drained : List Store} {store : Store}

theorem Accounts.take (h : round.Accounts drained settled) {waiting : List Store}
    (stage : round.stage = .examine) (first : round.waiting = store :: waiting) :
    Accounts { round with waiting, stage := .call store } drained settled where
  drained := by
    rw [h.drained, stage, first]
    rfl
  kept := h.kept
  tally := h.tally

/-- To go on to another stage with the same store is no matter. -/
theorem Accounts.goesOn (h : round.Accounts drained settled) {next : Stage}
    (same : next.subject? = round.stage.subject?) :
    Accounts { round with stage := next } drained settled where
  drained := by
    rw [h.drained, ← same]
  kept := h.kept
  tally := h.tally

theorem Accounts.settle (h : round.Accounts drained settled) (fate : Fate)
    (subject : round.stage.subject? = some store) (dropped : fate ≠ .retained) :
    (round.settle fate.counts).Accounts drained (settled ++ [(store, fate)]) where
  drained := by
    rw [h.drained, subject, List.map_append, List.append_assoc]
    rfl
  kept := by
    rw [retained_concat, if_neg dropped, List.append_nil]
    exact h.kept
  tally := by
    rw [List.map_append, List.map_singleton, Tally.of_concat, ← h.tally]
    rfl

theorem Accounts.keep (h : round.Accounts drained settled)
    (subject : round.stage.subject? = some store) :
    (round.keep store).Accounts drained (settled ++ [(store, .retained)]) where
  drained := by
    rw [h.drained, subject, List.map_append, List.append_assoc]
    rfl
  kept := by
    rw [retained_concat, if_pos rfl, ← h.kept]
    rfl
  tally := by
    rw [List.map_append, List.map_singleton, Tally.of_concat, ← h.tally]
    rfl

/-- **One step** leaves the account in order, with the store that it settles. -/
theorem Accounts.turn (h : round.Accounts drained settled) {more : Option (Store × Fate)}
    (turn : round.Turns client more round' client') :
    round'.Accounts drained (settled ++ more.toList) := by
  cases turn with
  | idles => simpa using h
  | takes stage first => simpa using h.take stage first
  | misses stage first => exact (h.take stage first).settle .stale rfl nofun
  | inspects stage after =>
    simpa using h.goesOn ((Stage.subject?_of_inspects? after).trans
      (Stage.subject?_of_inspects? stage).symm)
  | retains stage => exact h.keep (Stage.subject?_of_inspects? stage)
  | evicts stage | answers stage => simpa using h.goesOn (by rw [stage]; rfl)
  | removes stage => exact h.settle .removed (by rw [stage]; rfl) nofun
  | recovers stage => exact h.settle .recovered (by rw [stage]; rfl) nofun
  | loses stage => exact h.settle .stale (by rw [stage]; rfl) nofun

end

end Round

/-! ## What waits -/

namespace WatchQueue

variable {queue : WatchQueue}

/-- Each store waits under its own id. -/
def Keyed (queue : WatchQueue) : Prop :=
  ∀ (id : StoreId) (store : Store), queue.pending[id]? = some store → store.id = id

theorem Keyed.mem_values_iff (keyed : queue.Keyed) {store : Store} :
    store ∈ queue.values ↔ queue.pending[store.id]? = some store := by
  rw [mem_values]
  constructor
  · rintro ⟨id, waiting⟩
    rwa [keyed id store waiting]
  · exact fun waiting => ⟨_, waiting⟩

/-- The stores that wait have ids of their own, in whatever order they are taken. -/
theorem Keyed.nodup_of_perm (keyed : queue.Keyed) {drained : List Store}
    (order : drained.Perm queue.values) : (drained.map Store.id).Nodup :=
  ((order.map Store.id).nodup_iff).2 (nodup_values fun {id store} => keyed id store)

theorem Keyed.empty : Keyed {} := by
  intro id store waiting
  simp at waiting

theorem Keyed.schedule (keyed : queue.Keyed) (store : Store) : (queue.schedule store).Keyed := by
  intro id other waiting
  rw [getElem?_schedule] at waiting
  split at waiting
  · next here =>
    cases waiting
    exact here.symm
  · exact keyed id other waiting

theorem Keyed.foldl_schedule (handed : List Store) {queue : WatchQueue} (keyed : queue.Keyed) :
    (handed.foldl WatchQueue.schedule queue).Keyed := by
  induction handed generalizing queue with
  | nil => exact keyed
  | cons store handed ih => exact ih (keyed.schedule store)

theorem Keyed.restore (keyed : queue.Keyed) (kept : List Store) : (queue.restore kept).Keyed := by
  intro id store waiting
  rw [getElem?_restore] at waiting
  rcases Option.or_eq_some_iff.1 waiting with before | ⟨-, back⟩
  · exact keyed id store before
  · simpa using List.find?_some back

theorem length_values (queue : WatchQueue) : queue.values.length = queue.size := by
  rw [values, List.length_map, Std.ExtTreeMap.length_toList]
  rfl

/-- Of the stores that were handed over, the last one under an id. -/
def lastUnder (id : StoreId) (handed : List Store) : Option Store :=
  handed.reverse.find? (·.id = id)

/-- What was handed over last waits, or else what has waited before. -/
theorem getElem?_foldl_schedule (handed : List Store) (queue : WatchQueue) (id : StoreId) :
    (handed.foldl schedule queue).pending[id]? =
      (lastUnder id handed).or queue.pending[id]? := by
  unfold lastUnder
  induction handed generalizing queue with
  | nil => rfl
  | cons store handed ih =>
    rw [List.foldl_cons, ih, getElem?_schedule, List.reverse_cons, List.find?_append,
      Option.or_assoc]
    by_cases here : store.id = id
    · simp [here]
    · simp [here, eq_comm (a := id)]

end WatchQueue

/-! ## Checkers -/

namespace Checker

/-- A checker that is at work on a client: it finds its queue as it has left it. -/
def Installed (checker : Checker ω) (client : Client ω) : Prop :=
  ∀ queue, checker.queue (checker.setQueue queue client) = queue

/-- Some stores were handed over to the checker, one after the other; nothing else
    was done to its queue, whatever was done to the cache. -/
structure Hands (checker : Checker ω) (client : Client ω) (handed : List Store)
    (client' : Client ω) : Prop where
  queue : checker.queue client' = handed.foldl WatchQueue.schedule (checker.queue client)
  installed : checker.Installed client → checker.Installed client'

/-- A checker whose queue is a part of the client that is apart from the cache and the
    ledger, and that a round leaves alone. -/
structure Lawful [Authority ω] [Prober ω] (checker : Checker ω) : Prop where
  cache (queue : WatchQueue) (client : Client ω) :
    (checker.setQueue queue client).cache = client.cache
  ledger (queue : WatchQueue) (client : Client ω) :
    (checker.setQueue queue client).ledger = client.ledger
  installed {client : Client ω} : checker.Installed client → ∀ queue,
    checker.Installed (checker.setQueue queue client)
  step {round : Round} (client : Client ω) : round.InstallsDirect →
    checker.Hands client [] (round.step client).2.2

/-- A round that a checker has begun with the stores that have waited, in any order.
    Each of its steps is made in time; in between, stores were handed over, and whatever
    else was done.  The list has those handed over since it began. -/
inductive Progress [Authority ω] [Prober ω] (checker : Checker ω) (client : Client ω)
    (drained : List Store) : List Store → Round → Client ω → Prop
  | begun (order : drained.Perm (checker.queue client).values) :
      Progress checker client drained [] { waiting := drained } (checker.setQueue {} client)
  | stepped {handed : List Store} {round : Round} {client₁ : Client ω}
      (before : Progress checker client drained handed round client₁) :
      Progress checker client drained handed (round.step client₁).2.1 (round.step client₁).2.2
  | beside {handed more : List Store} {round : Round} {client₁ client₂ : Client ω}
      (before : Progress checker client drained handed round client₁)
      (hands : checker.Hands client₁ more client₂) :
      Progress checker client drained (handed ++ more) round client₂

/-- The account that a round leaves.  All stores that have waited are settled, and
    nothing else is; the tally counts them by their fates.  Under each id there waits
    the store that was handed over last during the round, or else the one that has
    waited there before, if it was retained; nothing else waits. -/
structure Accounts (checker : Checker ω) (client : Client ω) (handed : List Store)
    (settled : List (Store × Fate)) (tally : Tally) (client' : Client ω) : Prop where
  drained : (settled.map Prod.fst).Perm (checker.queue client).values
  fates : tally = .of (settled.map Prod.snd)
  total : tally.total = (checker.queue client).size
  pending (id : StoreId) : (checker.queue client').pending[id]? =
    (WatchQueue.lastUnder id handed).or
      ((checker.queue client).pending[id]?.filter fun store => (store, .retained) ∈ settled)

section
variable [Authority ω] [Prober ω] {checker : Checker ω} {client client' : Client ω}
  {drained handed : List Store} {round : Round}

/-- To schedule a store is to hand it over. -/
theorem Lawful.hands_schedule (lawful : checker.Lawful) (installed : checker.Installed client)
    (store : Store) : checker.Hands client [store] (checker.schedule store client) where
  queue := installed _
  installed _ := lawful.installed installed _

/-- What is kept of a round under way. -/
structure Progress.Kept (checker : Checker ω) (handed : List Store) (round : Round)
    (client' : Client ω) : Prop where
  direct : round.InstallsDirect
  installed : checker.Installed client'
  queue : checker.queue client' = handed.foldl WatchQueue.schedule {}

theorem Progress.kept (h : checker.Progress client drained handed round client')
    (lawful : checker.Lawful) (installed : checker.Installed client) :
    Kept checker handed round client' := by
  induction h with
  | begun => exact ⟨by rintro _ _ ⟨⟩, lawful.installed installed {}, installed {}⟩
  | @stepped _ round client₁ _ ih =>
    have stepped := lawful.step client₁ ih.direct
    exact ⟨round.installsDirect_step client₁, stepped.installed ih.installed,
      stepped.queue.trans ih.queue⟩
  | beside _ hands ih =>
    refine ⟨ih.direct, hands.installed ih.installed, ?_⟩
    rw [hands.queue, ih.queue, List.foldl_append]

theorem Progress.order (h : checker.Progress client drained handed round client') :
    drained.Perm (checker.queue client).values := by
  induction h with
  | begun order => exact order
  | stepped _ ih | beside _ _ ih => exact ih

theorem Progress.settled (h : checker.Progress client drained handed round client') :
    ∃ settled, round.Accounts drained settled := by
  induction h with
  | begun => exact ⟨[], rfl, rfl, rfl⟩
  | @stepped _ round client₁ _ ih =>
    obtain ⟨settled, accounts⟩ := ih
    obtain ⟨more, turn⟩ := round.turns client₁
    exact ⟨_, accounts.turn turn⟩
  | beside _ _ ih => exact ih

/-- What a round puts back under an id is the store that it has taken there, if that
    was retained. -/
theorem find?_retained {queue : WatchQueue} (keyed : queue.Keyed) {settled : List (Store × Fate)}
    (taken : ∀ entry ∈ settled, entry.1 ∈ queue.values) (id : StoreId) :
    (retained settled).find? (·.id = id) =
      queue.pending[id]?.filter fun store => (store, .retained) ∈ settled := by
  ext store
  rw [Option.filter_eq_some_iff, decide_eq_true_iff]
  constructor
  · intro found
    have kept := mem_retained.1 (List.mem_of_find?_eq_some found)
    obtain rfl : store.id = id := by simpa using List.find?_some found
    exact ⟨keyed.mem_values_iff.1 (taken _ kept), kept⟩
  · rintro ⟨waiting, kept⟩
    obtain rfl := keyed id store waiting
    -- whatever else is kept under the id has waited there too
    have alone : ∀ other ∈ retained settled, other.id = store.id → other = store := by
      intro other member same
      have waits := keyed.mem_values_iff.1 (taken _ (mem_retained.1 member))
      rw [same] at waits
      exact Option.some.inj (waits.symm.trans waiting)
    cases found : (retained settled).find? (·.id = store.id) with
    | none => simpa using List.find?_eq_none.1 found store (mem_retained.2 kept)
    | some other =>
      have same : other.id = store.id := by simpa using List.find?_some found
      exact congrArg some (alone other (List.mem_of_find?_eq_some found) same)

/-- **The account.** When a round is over, and has put back what it has kept, its
    account is in order. -/
theorem Progress.accounts (h : checker.Progress client drained handed round client')
    (lawful : checker.Lawful) (installed : checker.Installed client)
    (keyed : (checker.queue client).Keyed) (ended : round.isOver) {settled : List (Store × Fate)}
    (accounts : round.Accounts drained settled) :
    checker.Accounts client handed settled round.tally (checker.finish round client') := by
  have order : (settled.map Prod.fst).Perm (checker.queue client).values :=
    accounts.drained_of_isOver ended ▸ h.order
  have kept := h.kept lawful installed
  have count : settled.length = (checker.queue client).size := by
    rw [← WatchQueue.length_values, ← order.length_eq, List.length_map]
  refine ⟨order, accounts.tally, ?_, fun id => ?_⟩
  · rw [accounts.tally, Tally.total_of, List.length_map, count]
  · have taken : ∀ entry ∈ settled, entry.1 ∈ (checker.queue client).values := fun entry member =>
      order.subset (List.mem_map_of_mem member)
    rw [finish, kept.installed, WatchQueue.getElem?_restore, kept.queue,
      WatchQueue.getElem?_foldl_schedule, accounts.kept, find?_retained keyed taken]
    simp

end

end Checker
end RegionRouting
