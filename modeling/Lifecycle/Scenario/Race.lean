import Lifecycle.Concurrent.RoundRobin
import Lifecycle.Mapping
import Lifecycle.Scenario.EntityType

/-! A race: threads that resolve the listeners of a few types at the same time. What is reported of
it does not depend on who wins.
-/

namespace Lifecycle.Scenario

open Lifecycle.Concurrent

/-- What came of the calls for one type: how many there were, how many gave a listener, and how
many different listeners those were.
-/
structure Tally where
  asked : Nat
  resolved : Nat
  distinct : Nat
  deriving DecidableEq, Repr

/-- The listener of a reply that gives one. -/
def listener? : Reply → Option Listener
  | .found listener => listener
  | _ => none

def Tally.of (replies : List Reply) : Tally :=
  let serials := (replies.filterMap listener?).map Listener.serial
  ⟨replies.length, serials.length, serials.eraseDups.length⟩

/-- A race: the types, which threads take turn by turn, how many threads there are, and how often
each of them asks.
-/
structure Race where
  mapped : Mappings
  types : List EntityType
  threads : Nat
  rounds : Nat

namespace Race

def requests (race : Race) (thread : ThreadId) : List Request :=
  match race.types[thread % race.types.length]? with
  | some type => List.replicate race.rounds (.find type.instanceClass none)
  | none => []

def verdict (race : Race) (cls : EntityClass) : Verdict :=
  if race.mapped.contains cls.key then .mapped else .unmapped

/-- The machine when every call has come back. A call takes no more than twelve steps, its
beginning included, and somebody takes a step in every pass.
-/
def outcome (race : Race) : Machine :=
  let ground : Ground := ⟨⟨⟨0, "primary"⟩, default⟩, .fixed 0 0⟩
  (Machine.initial ((List.range race.threads).map race.requests)).passes ground race.verdict
    (12 * race.threads * race.rounds)

/-- What came of the calls of those threads that asked for the type at the given position. -/
def tally (race : Race) (final : Machine) (position : Nat) : Tally :=
  let threads := final.threads.zipIdx.filter (fun entry =>
    entry.2 % race.types.length == position)
  .of (threads.flatMap (fun entry => entry.1.replies.map Prod.snd))

/-- The tally of each type, and the statistics in the end. -/
def report (race : Race) : List Tally × Stats :=
  let final := race.outcome
  ((List.range race.types.length).map (race.tally final), final.shared.cache.stats)

end Race

end Lifecycle.Scenario
