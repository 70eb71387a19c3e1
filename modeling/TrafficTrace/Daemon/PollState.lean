import TrafficTrace.Time.Duration

/-! The state of a poll loop. Failures in a row double the wait before the next poll up to a limit;
any other outcome ends the row. -/
namespace TrafficTrace

inductive PollPhase where
  | idle
  | polling
  | diffReceived
  | timedOut
  | backoff
deriving DecidableEq, Repr

def PollPhase.name : PollPhase → String
  | idle => "Idle"
  | polling => "Polling"
  | diffReceived => "DiffReceived"
  | timedOut => "TimedOut"
  | backoff => "Backoff"

/-- How a poll ended, without what it brought. -/
inductive PollResult where
  | changed
  | timedOut
  | failed
deriving DecidableEq, Repr

structure PollState where
  phase : PollPhase
  /-- Failures in a row, in 32 bits. -/
  failures : Nat
  errorBackoff : Duration
  maxErrorBackoff : Duration
deriving DecidableEq, Repr

namespace PollState

def failureLimit : Nat := UInt32.size - 1

def start (errorBackoff maxErrorBackoff : Duration) : PollState :=
  ⟨.idle, 0, errorBackoff, max maxErrorBackoff errorBackoff⟩

def standard : PollState := start (.ofSecs 5) (.ofSecs 60)

def begin_ (s : PollState) : PollState := { s with phase := .polling }

def observe (s : PollState) : PollResult → PollState
  | .changed => { s with phase := .diffReceived, failures := 0 }
  | .timedOut => { s with phase := .timedOut, failures := 0 }
  | .failed => { s with phase := .backoff, failures := min (s.failures + 1) failureLimit }

def settle (s : PollState) : PollState := { s with phase := .idle }

/-- The wait before the next poll. The doubling ends after 16 steps. -/
def nextDelay (s : PollState) : Duration :=
  if s.phase = .backoff ∧ s.failures ≠ 0 then
    min (s.errorBackoff.mul (Nat.pow 2 (min (s.failures - 1) 16))) s.maxErrorBackoff
  else .zero

/-- What can happen to a poll state. -/
inductive Call where
  | begin_
  | observe (r : PollResult)
  | settle
deriving DecidableEq, Repr

def step (s : PollState) : Call → PollState
  | .begin_ => s.begin_
  | .observe r => s.observe r
  | .settle => s.settle

def run (s : PollState) (calls : List Call) : PollState := calls.foldl step s

example : (standard.run (List.replicate 3 (.observe .failed))).nextDelay = .ofSecs 20 := by
  decide +kernel

end PollState

end TrafficTrace
