/-
  Region routing — worlds that keep a transcript.

  `Observed ω` is a world that works as `ω` does, and writes down each call to
  the authority when it is placed (its retries are part of it) and each probe
  when it is sent.
-/
import RegionRouting.Health.Round

namespace RegionRouting

/-- A world, the calls that its authority has received, and the stores that
    were probed. -/
structure Observed (ω : Type) where
  world : ω
  calls : List Call := []
  probed : List StoreId := []

namespace Observed

variable {ω α : Type}

/-- Acts on the world that is observed. -/
def inside (f : ω → α × ω) (observed : Observed ω) : α × Observed ω :=
  let (result, world) := f observed.world
  (result, { observed with world })

instance [Authority ω] : Authority (Observed ω) where
  place call observed :=
    { observed with calls := observed.calls ++ [call] }.inside (Authority.place call)
  region query := inside (Authority.region query)
  store id := inside (Authority.store id)

instance [Prober ω] : Prober (Observed ω) where
  send store observed :=
    { observed with
      world := Prober.send store observed.world
      probed := observed.probed ++ [store.id] }
  answers store := inside (Prober.answers store)

/-- The same world with nothing written down. -/
def forget (observed : Observed ω) : Observed ω :=
  { world := observed.world }

end Observed
end RegionRouting
