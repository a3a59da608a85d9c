import PacketServer.BufferPool.Basic

/-!
# Who holds which buffer

The state of a pool together with the buffers that its borrowers hold, each
under a number of the borrower's choice, and the operations on both. A pool
and its clones are one and the same pool.
-/

namespace PacketServer.BufferPool

/-- A pool and the buffers that are out. -/
structure Loans where
  pool : BufferPool
  /-- The buffers that are out, by their borrower's number, in its order. -/
  held : List (Nat × Buffer) := []
deriving DecidableEq

/-- What a borrower does. -/
inductive Loans.Op
  | acquire (id : Nat)
  | drop (id : Nat)
  | extend (id : Nat) (s : Bytes)
  | reserve (id n : Nat)
  | truncate (id n : Nat)
  | clear (id : Nat)
deriving DecidableEq

namespace Loans

/-- Nobody holds a buffer of a new pool. -/
def ofPolicy (policy : BufferPolicy) : Loans := { pool := .ofPolicy policy }

/-- The buffer held under a number. -/
def find? (l : Loans) (id : Nat) : Option Buffer := l.held.lookup id

/-- The entries of a table without the one of `id`. -/
def without (id : Nat) (held : List (Nat × Buffer)) : List (Nat × Buffer) :=
  held.filter fun entry => entry.1 != id

/-- The entries of a table in rising order, with a new one. -/
def place (id : Nat) (b : Buffer) : List (Nat × Buffer) → List (Nat × Buffer)
  | [] => [(id, b)]
  | entry :: held =>
    if id < entry.1 then (id, b) :: entry :: held
    else if id = entry.1 then (id, b) :: held
    else entry :: place id b held

/-- Gives the buffer under a number back, if there is one. -/
def drop (l : Loans) (id : Nat) : Loans :=
  match l.find? id with
  | some b => { pool := l.pool.release b, held := without id l.held }
  | none => l

/-- Borrows a buffer; one that is held under the same number goes back after
the new one was lent. -/
def acquire (l : Loans) (id : Nat) : Loans :=
  let (b, pool) := l.pool.acquire
  let l := drop { l with pool := pool } id
  { l with held := place id b l.held }

/-- Changes the buffer under a number, if there is one. -/
def modify (l : Loans) (id : Nat) (f : Buffer → Buffer) : Loans :=
  { l with held := l.held.map fun entry => if entry.1 = id then (id, f entry.2) else entry }

/-- One operation. -/
def step (l : Loans) : Op → Loans
  | .acquire id => l.acquire id
  | .drop id => l.drop id
  | .extend id s => l.modify id (·.extend s)
  | .reserve id n => l.modify id (·.reserve n)
  | .truncate id n => l.modify id (·.truncate n)
  | .clear id => l.modify id (·.clear)

/-- A sequence of operations. -/
def run (l : Loans) (ops : List Op) : Loans := ops.foldl step l

/-- All buffers that are out go back, in the order of their numbers. -/
def dropAll (l : Loans) : Loans := (l.held.map (·.1)).foldl drop l

end Loans

end PacketServer.BufferPool
