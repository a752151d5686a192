/-
  Region routing — what an operation shows to someone who watches it.

  Who watches an operation sees the calls that it places, the faults that their
  attempts meet, and how long it sleeps: after a call is placed until it is heard,
  and after a fault before the next attempt, which is a wait.

  * `Monitored ω` is a world that works as `ω` does, and writes down calls and
    faults;
  * `Routine.Shows`: what a routine may show, and what it may come to, among
    others who change the client as they like; a bind shows the one after the
    other (`shows_bind`);
  * `Routine.signs` is what it shows on its own.
-/
import RegionRouting.Proofs.Heedless

namespace RegionRouting

/-! ## Signs -/

/-- What can be seen of an operation. -/
inductive Sign where
  | placed (call : Call)
  | faulted (error : AuthorityError)
  | slept (ms : Nat)
  deriving DecidableEq

/-- The sleeps that are waits: all but those until a call is heard. -/
def waits : List Sign → List Nat
  | .placed _ :: .slept _ :: signs => waits signs
  | .slept ms :: signs => ms :: waits signs
  | _ :: signs => waits signs
  | [] => []

variable {α β ω : Type}

/-- What an attempt shows. -/
def Attempt.signs : Attempt α → List Sign
  | .answer _ => []
  | .fault error => [.faulted error]

/-- A world, and the signs of its authority so far. -/
structure Monitored (ω : Type) where
  world : ω
  signs : List Sign := []

namespace Monitored

/-- Makes an attempt in the world that is monitored. -/
def attempt (f : ω → Attempt α × ω) (monitored : Monitored ω) : Attempt α × Monitored ω :=
  let (attempt, world) := f monitored.world
  (attempt, { world, signs := monitored.signs ++ attempt.signs })

instance [Authority ω] : Authority (Monitored ω) where
  place call monitored :=
    let (delay, world) := Authority.place call monitored.world
    (delay, { world, signs := monitored.signs ++ [.placed call] })
  region query := attempt (Authority.region query)
  store id := attempt (Authority.store id)

end Monitored

/-- What has been written down from one client to the other. -/
def Client.shown (client client' : Client (Monitored ω)) : List Sign :=
  client'.world.signs.drop client.world.signs.length

namespace Client

variable {client client' : Client (Monitored ω)}

theorem shown_of_append {signs : List Sign}
    (h : client'.world.signs = client.world.signs ++ signs) : client.shown client' = signs := by
  rw [shown, h, List.drop_left]

theorem shown_of_eq (h : client'.world.signs = client.world.signs) : client.shown client' = [] :=
  shown_of_append (h.trans (List.append_nil _).symm)

end Client

/-! ## Routines -/

namespace Routine

/-- The routine may show the signs and come to the result, if each act of it finds
    the state that others have left. -/
inductive Shows : Routine (Client (Monitored ω)) α → List Sign → α → Prop
  | done (result : α) : Shows (.done result) [] result
  | act {change : Client (Monitored ω) → Client (Monitored ω)}
      {next : Client (Monitored ω) → Routine (Client (Monitored ω)) α} {signs : List Sign}
      {result : α} (found : Client (Monitored ω)) (h : Shows (next found) signs result) :
      Shows (.act change next) (found.shown (change found) ++ signs) result
  | acquire {next : Routine (Client (Monitored ω)) α} {signs : List Sign} {result : α}
      (h : Shows next signs result) : Shows (.acquire next) signs result
  | release {next : Routine (Client (Monitored ω)) α} {signs : List Sign} {result : α}
      (h : Shows next signs result) : Shows (.release next) signs result
  | sleep {ms : Nat} {next : Routine (Client (Monitored ω)) α} {signs : List Sign} {result : α}
      (h : Shows next signs result) : Shows (.sleep ms next) (.slept ms :: signs) result

section
variable {routine : Routine (Client (Monitored ω)) α} {signs : List Sign} {result : α}

theorem shows_done {a : α} :
    (done a : Routine (Client (Monitored ω)) α).Shows signs result ↔ signs = [] ∧ result = a := by
  constructor
  · intro h
    cases h
    exact ⟨rfl, rfl⟩
  · rintro ⟨rfl, rfl⟩
    exact .done result

theorem shows_act {change : Client (Monitored ω) → Client (Monitored ω)}
    {next : Client (Monitored ω) → Routine (Client (Monitored ω)) α} :
    (act change next).Shows signs result ↔ ∃ found rest,
      signs = found.shown (change found) ++ rest ∧ (next found).Shows rest result := by
  constructor
  · intro h
    cases h with
    | act found h => exact ⟨found, _, rfl, h⟩
  · rintro ⟨found, rest, rfl, h⟩
    exact .act found h

theorem shows_acquire : (acquire routine).Shows signs result ↔ routine.Shows signs result := by
  constructor
  · intro h
    cases h
    assumption
  · exact .acquire

theorem shows_release : (release routine).Shows signs result ↔ routine.Shows signs result := by
  constructor
  · intro h
    cases h
    assumption
  · exact .release

theorem shows_sleep {ms : Nat} : (sleep ms routine).Shows signs result ↔
    ∃ rest, signs = .slept ms :: rest ∧ routine.Shows rest result := by
  constructor
  · intro h
    cases h with
    | sleep h => exact ⟨_, rfl, h⟩
  · rintro ⟨rest, rfl, h⟩
    exact .sleep h

/-- One routine after the other shows what the first shows, and then the second. -/
theorem shows_bind {next : α → Routine (Client (Monitored ω)) β} {b : β} :
    (routine.bind next).Shows signs b ↔ ∃ before a rest, signs = before ++ rest ∧
      routine.Shows before a ∧ (next a).Shows rest b := by
  induction routine generalizing signs with
  | done a =>
    constructor
    · intro h
      exact ⟨[], a, signs, rfl, .done a, h⟩
    · rintro ⟨before, a', rest, rfl, h, h'⟩
      obtain ⟨rfl, rfl⟩ := shows_done.1 h
      exact h'
  | act change next' ih =>
    simp only [bind, shows_act, ih]
    constructor
    · rintro ⟨found, _, rfl, before, a, rest, rfl, h, h'⟩
      exact ⟨_, a, rest, (List.append_assoc ..).symm, ⟨found, before, rfl, h⟩, h'⟩
    · rintro ⟨_, a, rest, rfl, ⟨found, before, rfl, h⟩, h'⟩
      exact ⟨found, _, List.append_assoc .., before, a, rest, rfl, h, h'⟩
  | acquire _ ih => simpa only [bind, shows_acquire] using ih
  | release _ ih => simpa only [bind, shows_release] using ih
  | sleep ms _ ih =>
    simp only [bind, shows_sleep, ih]
    constructor
    · rintro ⟨_, rfl, before, a, rest, rfl, h, h'⟩
      exact ⟨.slept ms :: before, a, rest, rfl, ⟨before, rfl, h⟩, h'⟩
    · rintro ⟨_, a, rest, rfl, ⟨before, rfl, h⟩, h'⟩
      exact ⟨before ++ rest, rfl, before, a, rest, rfl, h, h'⟩

theorem shows_perform {f : Client (Monitored ω) → α × Client (Monitored ω)} :
    (perform f).Shows signs result ↔ ∃ found, signs = found.shown (f found).2 ∧
      result = (f found).1 := by
  rw [perform, shows_act]
  constructor
  · rintro ⟨found, rest, rfl, h⟩
    obtain ⟨rfl, rfl⟩ := shows_done.1 h
    exact ⟨found, List.append_nil _, rfl⟩
  · rintro ⟨found, rfl, rfl⟩
    exact ⟨found, [], (List.append_nil _).symm, .done _⟩

theorem shows_exclusively :
    (exclusively routine).Shows signs result ↔ routine.Shows signs result := by
  rw [exclusively, shows_acquire, shows_bind]
  constructor
  · rintro ⟨before, a, rest, rfl, h, h'⟩
    obtain ⟨rfl, rfl⟩ := shows_done.1 (shows_release.1 h')
    rwa [List.append_nil]
  · intro h
    exact ⟨signs, result, [], (List.append_nil _).symm, h, .release (.done result)⟩

end

/-- What a routine shows that has the client to itself. -/
def signs : Routine (Client (Monitored ω)) α → Client (Monitored ω) → List Sign
  | done _, _ => []
  | act change next, client =>
    client.shown (change client) ++ (next client).signs (change client)
  | acquire next, client | release next, client => next.signs client
  | sleep ms next, client => .slept ms :: next.signs client

/-- What a routine shows on a client is among what it may show. -/
theorem shows_signs (routine : Routine (Client (Monitored ω)) α) (client : Client (Monitored ω)) :
    routine.Shows (routine.signs client) (routine.run client).1 := by
  induction routine generalizing client with
  | done result => exact .done result
  | act change next ih => exact .act client (ih client (change client))
  | acquire _ ih => exact .acquire (ih client)
  | release _ ih => exact .release (ih client)
  | sleep _ _ ih => exact .sleep (ih client)

end Routine
end RegionRouting
