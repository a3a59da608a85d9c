import PacketServer.Lifecycle

/-!
# The cell of a server's phase

The phase is kept in one byte that threads share. They read it, and they bid
for edges: a bid compares the byte with the number of the edge's source and, if
the two are equal, exchanges it for the number of the edge's target. Nothing
comes between the two, so the bids of all threads come in some order, and
`Cell.run` makes them in a given one.

## Main results

* `Cell.attempt_ofPhase` — a bid at a cell is an attempt at the phase in it.
* `Cell.run_ofPhase` — and so are bids one after the other.
-/

namespace PacketServer

/-- The number of a phase in memory. -/
def Phase.code : Phase → UInt8
  | created => 0
  | initialized => 1
  | starting => 2
  | started => 3
  | shutdown => 4

/-- The phase that a number in memory stands for; one that no phase has counts
as the last phase. -/
def Phase.ofCode (code : UInt8) : Phase :=
  if code = 0 then .created
  else if code = 1 then .initialized
  else if code = 2 then .starting
  else if code = 3 then .started
  else .shutdown

theorem Phase.ofCode_code (phase : Phase) : ofCode phase.code = phase := by
  cases phase <;> rfl

theorem Phase.code_inj {phase phase' : Phase} : phase.code = phase'.code ↔ phase = phase' := by
  constructor
  · intro same
    rw [← phase.ofCode_code, same, phase'.ofCode_code]
  · exact congrArg code

/-- What a thread attempts. -/
structure Bid where
  /-- Who makes the attempt. -/
  thread : Nat
  edge : Transition
deriving DecidableEq

/-- A byte that threads share. -/
structure Cell where
  byte : UInt8
deriving DecidableEq

namespace Cell

/-- The cell that holds a phase. -/
def ofPhase (phase : Phase) : Cell := ⟨phase.code⟩

/-- A new cell. -/
def fresh : Cell := ofPhase .created

/-- Reads the phase. -/
def get (c : Cell) : Phase := .ofCode c.byte

/-- Exchanges the byte if it is the expected one; in either case the answer is
the byte that was found. -/
def compareExchange (c : Cell) (expected replacement : UInt8) : Except UInt8 UInt8 × Cell :=
  if c.byte = expected then (.ok c.byte, ⟨replacement⟩) else (.error c.byte, c)

/-- Bids for an edge: whether the bid wins, and the cell behind it. -/
def attempt (c : Cell) (edge : Transition) : Bool × Cell :=
  let (found, c) := c.compareExchange edge.source.code edge.target.code
  (found.isOk, c)

/-- Makes bids one after the other: which of them win, and the cell at the end. -/
def run (c : Cell) : List Bid → List (Bid × Bool) × Cell
  | [] => ([], c)
  | bid :: bids =>
    let (won, c) := c.attempt bid.edge
    let (log, c) := run c bids
    ((bid, won) :: log, c)

/-- The edges that were won, in the order of the bids. -/
def wins (log : List (Bid × Bool)) : List Transition := (log.filter (·.2)).map (·.1.edge)

@[simp] theorem get_ofPhase (phase : Phase) : (ofPhase phase).get = phase := phase.ofCode_code

theorem attempt_eq (c : Cell) (edge : Transition) :
    c.attempt edge =
      if c.byte = edge.source.code then (true, ofPhase edge.target) else (false, c) := by
  unfold attempt compareExchange
  by_cases meets : c.byte = edge.source.code
  · simp only [if_pos meets]
    rfl
  · simp only [if_neg meets]
    rfl

/-- **A bid at a cell is an attempt at the phase in it.** -/
theorem attempt_ofPhase (edge : Transition) (phase : Phase) :
    (ofPhase phase).attempt edge =
      ((edge.attempt phase).1, ofPhase (edge.attempt phase).2) := by
  have meets : (ofPhase phase).byte = edge.source.code ↔ phase = edge.source := Phase.code_inj
  rw [attempt_eq, Transition.attempt]
  by_cases here : phase = edge.source
  · rw [if_pos here, if_pos (meets.mpr here)]
  · rw [if_neg here, if_neg fun same => here (meets.mp same)]

theorem run_ofPhase (bids : List Bid) (phase : Phase) :
    ((ofPhase phase).run bids).1.map (·.2) =
        (Transition.attemptAll (bids.map (·.edge)) phase).1 ∧
      ((ofPhase phase).run bids).2 =
        ofPhase (Transition.attemptAll (bids.map (·.edge)) phase).2 := by
  induction bids generalizing phase with
  | nil => exact ⟨rfl, rfl⟩
  | cons bid bids ih =>
    obtain ⟨answers, cell⟩ := ih (bid.edge.attempt phase).2
    simp only [run, attempt_ofPhase, List.map_cons, Transition.attemptAll, answers, cell, and_self]

end Cell

end PacketServer
