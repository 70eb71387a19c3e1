import TrafficTrace.Daemon.LongPoll

/-! A directory that answers from lists, with which a daemon can be tried out. When a list is used up
polls are never answered, and heartbeats are taken at once. -/
namespace TrafficTrace

structure PollScript where
  polls : List (Reply ActiveTraceDiff)
  watches : List (TraceId × List (Reply TraceActivity))
  heartbeats : List (Reply Unit)

namespace Directory

/-- The first reply for a trace, and the script without it. -/
def takeWatch (trace : TraceId) :
    List (TraceId × List (Reply TraceActivity)) →
      Option (Reply TraceActivity) × List (TraceId × List (Reply TraceActivity))
  | [] => (none, [])
  | (t, rs) :: rest =>
    if t = trace then (rs.head?, (t, rs.tail) :: rest)
    else
      let (r, rest) := takeWatch trace rest
      (r, (t, rs) :: rest)

def scripted : Directory PollScript where
  activeTraces _ _ _ s :=
    (s.polls.head?.getD ⟨none, .ok ⟨[], []⟩⟩, { s with polls := s.polls.tail })
  deactivation _ trace _ s :=
    let (r, watches) := takeWatch trace s.watches
    (r.getD ⟨none, .ok ⟨true⟩⟩, { s with watches := watches })
  heartbeat _ _ s :=
    (s.heartbeats.head?.getD ⟨some 0, .ok ()⟩, { s with heartbeats := s.heartbeats.tail })

end Directory

end TrafficTrace
