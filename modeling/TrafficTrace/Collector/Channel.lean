import TrafficTrace.Collector.Feed

/-! The channel of a live source and the loop that reads it. Every turn looks at the channel first,
and at the ticker only when nothing waits there. What was sent before the last sender went is still
received. -/
namespace TrafficTrace

/-- The events that wait in a channel, and whether every sender is gone. -/
structure Channel where
  waiting : List Event
  closed : Bool
deriving DecidableEq

namespace Channel

/-- What a look at a channel finds. -/
inductive Sight where
  | event (e : Event) (rest : Channel)
  | ended
  | nothing
deriving DecidableEq

def look : Channel → Sight
  | ⟨e :: rest, closed⟩ => .event e ⟨rest, closed⟩
  | ⟨[], true⟩ => .ended
  | ⟨[], false⟩ => .nothing

/-- One turn of the loop: its time, what was sent since the turn before, whether the last sender has
gone by now, and whether the ticker has rung. -/
structure Turn where
  now : Instant
  sent : List Event
  left : Bool
  rung : Bool
deriving DecidableEq

/-- The channel when a turn begins. Nothing is sent to a closed one. -/
def reached (c : Channel) (t : Turn) : Channel :=
  if c.closed then c else ⟨c.waiting ++ t.sent, t.left⟩

/-- What the loop hands on, turn by turn, until the source ends. -/
def occurrences (c : Channel) : List Turn → List (Instant × Feed.Occurrence)
  | [] => []
  | t :: rest =>
    match (c.reached t).look with
    | .event e c => (t.now, .event e) :: c.occurrences rest
    | .ended => []
    | .nothing =>
      if t.rung then (t.now, .tick) :: (c.reached t).occurrences rest
      else (c.reached t).occurrences rest

/-- A source that is quiet for a turn, sends an event while the ticker rings, and goes. -/
example (e : Event) :
    occurrences ⟨[], false⟩ [⟨0, [], false, true⟩, ⟨5, [e], false, true⟩, ⟨6, [], true, true⟩] =
      [(0, .tick), (5, .event e)] := rfl

end Channel

end TrafficTrace
