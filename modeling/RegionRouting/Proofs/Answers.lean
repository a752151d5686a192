/-
  Region routing — worlds that write down what the authority tells.

  A transcript has the calls alone.  What a lookup makes of the cache depends on
  the answers as well, and these are written down here.

  * `Logged ω` is a world that works as `ω` does, and writes down each call when
    it is placed, and each answer that tells of a region or a store;
  * `Lookup.log_of_answer`: a call leaves an entry for itself, and one for what it
    was told, if it did not fail; its retries leave none.  `Lookup.log_of_region` goes
    on from there.
-/
import RegionRouting.Proofs.Outcome
import RegionRouting.Health.Round

namespace RegionRouting

/-- What is written down of the authority: that it was asked, and what it told. -/
inductive Entry where
  | asked (call : Call)
  | toldRegion (placement : RegionDescriptor × Peer)
  | toldStore (asked : StoreId) (descriptor : StoreDescriptor)
  deriving DecidableEq

variable {α ω : Type}

/-- What is written down of a result: an error tells nothing. -/
def told (entry : α → Entry) : Except RouteError α → List Entry
  | .ok a => [entry a]
  | .error _ => []

/-- What is written down of an attempt: a fault tells nothing. -/
def Attempt.told (entry : α → Entry) : Attempt α → List Entry
  | answer result => RegionRouting.told entry result
  | fault _ => []

/-- A world, and what its authority was asked and has told so far. -/
structure Logged (ω : Type) where
  world : ω
  log : List Entry := []

namespace Logged

/-- Makes an attempt, and writes down what it tells. -/
def writing (entry : α → Entry) (attempt : ω → Attempt α × ω) (logged : Logged ω) :
    Attempt α × Logged ω :=
  let (answer, world) := attempt logged.world
  (answer, { world, log := logged.log ++ answer.told entry })

instance [Authority ω] : Authority (Logged ω) where
  place call logged :=
    let (delay, world) := Authority.place call logged.world
    (delay, { world, log := logged.log ++ [.asked call] })
  region query := writing .toldRegion (Authority.region query)
  store id := writing (.toldStore id) (Authority.store id)

instance [Prober ω] : Prober (Logged ω) where
  send store logged := { logged with world := Prober.send store logged.world }
  answers store logged :=
    let (answer, world) := Prober.answers store logged.world
    (answer, { logged with world })

end Logged

namespace Lookup

/-- Of all attempts at a call, the last one tells what is written down. -/
theorem log_persist (entry : α → Entry) (attempt : ω → Attempt α × ω) (budget : Backoffer)
    (client : Client (Logged ω)) :
    let out := (budget.persist (σ := Client (Logged ω))
      (·.onWorld (Logged.writing entry attempt))).run client
    out.2.world.log = client.world.log ++ told entry out.1.1 := by
  induction budget using Backoffer.persist.induct generalizing client with
  | case1 budget ih =>
    rw [Backoffer.persist]
    simp only [Routine.run, Client.onWorld, Logged.writing]
    cases (attempt client.world.world).1 with
    | answer result => rfl
    | fault error =>
      simp only [Attempt.told, List.append_nil]
      split
      · exact (List.append_nil _).symm
      · next granted =>
        exact ih _ _ _ granted { client with
          world := { world := (attempt client.world.world).2, log := client.world.log } }

/-- A call is written down when it is placed, and what it is told when it comes
    back. -/
theorem log_of_answer [Authority ω] {entry : α → Entry} {attempt : ω → Attempt α × ω}
    {call : Call} {update : Update} {budget budget' : Backoffer} {client : Client (Logged ω)}
    {result : Except RouteError α} {world : Logged ω}
    (answer : (ask call (Logged.writing entry attempt)).outcome budget (client.record update) =
      ((result, budget'), heard client update world)) :
    world.log = client.world.log ++ .asked call :: told entry result := by
  let placed := ((client.record update).onWorld (Authority.place call)).2
  have persisted := log_persist entry attempt budget placed
  change (budget.persist (σ := Client (Logged ω))
    (·.onWorld (Logged.writing entry attempt))).run placed = _ at answer
  rw [answer] at persisted
  change world.log = (client.world.log ++ [.asked call]) ++ told entry result at persisted
  rw [persisted, List.append_assoc, List.singleton_append]

/-- A region call that was told of a region, and what was written down later. -/
theorem log_of_region [Authority ω] {query : RegionQuery} {placement : RegionDescriptor × Peer}
    {budget budget' : Backoffer} {client client' : Client (Logged ω)} {world : Logged ω}
    {later : List Entry}
    (answer : (askRegion query).outcome budget (client.record .regionFetch) =
      ((.ok placement, budget'), heard client .regionFetch world))
    (log : client'.world.log = (heard client .regionFetch world).world.log ++ later) :
    client'.world.log = client.world.log ++
      .asked (.region query) :: .toldRegion placement :: later := by
  have asked : world.log = client.world.log ++ [.asked (.region query), .toldRegion placement] :=
    log_of_answer answer
  change client'.world.log = world.log ++ later at log
  rw [log, asked, List.append_assoc]
  rfl

end Lookup
end RegionRouting
