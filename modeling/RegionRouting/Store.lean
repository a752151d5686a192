/-
  Region routing — store values and their ledger.

  A `Store` is an immutable value: the descriptor of a node, perhaps with the
  proxy through which traffic to it is forwarded.  Values are told apart by
  generation, not by content: each value that is made takes a new number from
  the ledger, and two values are the same only if they have the same number.

  Reachability is the one thing about a value that changes.  It is kept in the
  ledger, by generation, so that everyone who holds a value sees the change.

  * `Ledger.issue` gives out a generation never given out before;
  * `Store.create`, `Store.forwardThrough` and `Store.reconnect` make values;
  * `Ledger.reaches`, `Ledger.markReachable` and `Ledger.markUnreachable` read
    and set the reachability of a value.
-/
import RegionRouting.Topology
import Std.Data.ExtTreeSet

namespace RegionRouting

/-! ## The ledger -/

/-- The number that tells a region or store value from all others.  It is meant for
    runs that make fewer than 2^64 values: the counter that gives it out is a word,
    which wraps then.  That the words of a run tell its values apart until it does is
    `Run.Identifies.words`. -/
abbrev Generation := Nat

/-- The generations given out so far, which are those below `issued`, and
    those of the store values that are judged unreachable. -/
structure Ledger where
  issued : Generation := 0
  unreachable : Std.ExtTreeSet Generation := ∅

namespace Ledger

/-- Gives out the next generation. -/
def issue (ledger : Ledger) : Generation × Ledger :=
  (ledger.issued, { ledger with issued := ledger.issued + 1 })

end Ledger

/-! ## Store values -/

/-- A node of the cluster as a client sees it: reached directly, or through
    the store that forwards to it. -/
inductive Store where
  | direct (descriptor : StoreDescriptor) (generation : Generation)
  | forwarded (descriptor : StoreDescriptor) (generation : Generation) (proxy : Store)
  deriving DecidableEq

namespace Store

def descriptor : Store → StoreDescriptor
  | direct descriptor _ | forwarded descriptor _ _ => descriptor

def generation : Store → Generation
  | direct _ generation | forwarded _ generation _ => generation

/-- The store that forwards to this one, if it is not reached directly. -/
def proxy? : Store → Option Store
  | direct _ _ => none
  | forwarded _ _ proxy => some proxy

def id (store : Store) : StoreId :=
  store.descriptor.id

def isTombstone (store : Store) : Bool :=
  store.descriptor.state == .tombstone

def hasLabel (store : Store) (label : StoreLabel) : Bool :=
  store.descriptor.labels.contains label

/-- Are the two one value?  Equal content is not enough. -/
def isSame (a b : Store) : Bool :=
  a.generation == b.generation

end Store

/-! ## Reachability -/

namespace Ledger

/-- Is the value thought to answer on its own address? -/
def reaches (ledger : Ledger) (store : Store) : Bool :=
  !ledger.unreachable.contains store.generation

def markReachable (ledger : Ledger) (store : Store) : Ledger :=
  { ledger with unreachable := ledger.unreachable.erase store.generation }

def markUnreachable (ledger : Ledger) (store : Store) : Ledger :=
  { ledger with unreachable := ledger.unreachable.insert store.generation }

end Ledger

/-! ## Making values -/

namespace Store

/-- A new value for a node that is reached directly. -/
def create (descriptor : StoreDescriptor) (ledger : Ledger) : Store × Ledger :=
  let (generation, ledger) := ledger.issue
  (direct descriptor generation, ledger)

/-- A new value for the same node, reached through a proxy and judged as
    reachable as the old one. -/
def forwardThrough (store proxy : Store) (ledger : Ledger) : Store × Ledger :=
  let (generation, issued) := ledger.issue
  let successor := forwarded store.descriptor generation proxy
  (successor, if ledger.reaches store then issued else issued.markUnreachable successor)

/-- A new value for the same node, reached directly again. -/
def reconnect (store : Store) (ledger : Ledger) : Store × Ledger :=
  create store.descriptor ledger

/-- The store as a log shows it. -/
def text (ledger : Ledger) (store : Store) : String :=
  let d := store.descriptor
  s!"store \x7bid: {d.id.text}, addr: {d.address}, state: {Named.name d.state}, " ++
    s!"reachable: {ledger.reaches store}\x7d"

end Store
end RegionRouting
