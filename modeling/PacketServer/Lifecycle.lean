/-!
# The phases of a server's life

A server goes through `created`, `initialized`, `starting` and `started` to
`shutdown`; a start that fails goes from `starting` to `shutdown`. Each edge
is one atomic attempt, which succeeds only in the phase that it starts from,
so of several attempts at one edge at most one wins.

## Main results

* `attempt_lost` — an attempt that does not win changes nothing.
* `Transition.ways_along` — an edge leads from the ways to its source to those
  to its target.
-/

namespace PacketServer

/-- A phase of a server's life. -/
inductive Phase
  | created | initialized | starting | started | shutdown
deriving DecidableEq

/-- The name of a phase. -/
def Phase.text : Phase → String
  | created => "created"
  | initialized => "initialized"
  | starting => "starting"
  | started => "started"
  | shutdown => "shutdown"

/-- A phase in a log. -/
def Phase.logText : Phase → String
  | created => "Created"
  | initialized => "Initialized"
  | starting => "Starting"
  | started => "Started"
  | shutdown => "Shutdown"

/-- An edge between two phases. -/
inductive Transition
  | init | beginStart | markStarted | abortStart | beginStop
deriving DecidableEq

/-- The ways to a phase, by their edges. -/
def Phase.ways : Phase → List (List Transition)
  | created => [[]]
  | initialized => [[.init]]
  | starting => [[.init, .beginStart]]
  | started => [[.init, .beginStart, .markStarted]]
  | shutdown =>
    [[.init, .beginStart, .markStarted, .beginStop], [.init, .beginStart, .abortStart]]

theorem Phase.ways_nodup (phase : Phase) : ∀ way ∈ phase.ways, way.Nodup := by
  cases phase <;> decide

namespace Transition

/-- Where an edge starts. -/
def source : Transition → Phase
  | init => .created
  | beginStart => .initialized
  | markStarted => .starting
  | abortStart => .starting
  | beginStop => .started

/-- Where an edge ends. -/
def target : Transition → Phase
  | init => .initialized
  | beginStart => .starting
  | markStarted => .started
  | abortStart => .shutdown
  | beginStop => .shutdown

/-- One attempt at an edge: whether it wins, and the phase after it. -/
def attempt (t : Transition) (phase : Phase) : Bool × Phase :=
  if phase = t.source then (true, t.target) else (false, phase)

theorem attempt_lost {t : Transition} {phase : Phase}
    (h : (t.attempt phase).1 = false) : (t.attempt phase).2 = phase := by
  unfold attempt at h ⊢; split <;> simp_all

theorem ways_along (edge : Transition) :
    ∀ way ∈ edge.source.ways, way ++ [edge] ∈ edge.target.ways := by
  cases edge <;> decide

/-- Attempts one after the other: which of them win, and the phase at the end.
Whoever makes them, atomic attempts come in some order. -/
def attemptAll : List Transition → Phase → List Bool × Phase
  | [], phase => ([], phase)
  | t :: ts, phase =>
    let (won, phase) := t.attempt phase
    let (later, phase) := attemptAll ts phase
    (won :: later, phase)

/-- The number of winners among `n` attempts at the same edge, and the phase
after them. -/
def race (t : Transition) (n : Nat) (phase : Phase) : Nat × Phase :=
  let (won, phase) := attemptAll (List.replicate n t) phase
  (won.count true, phase)

end Transition

end PacketServer
