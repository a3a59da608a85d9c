import PacketServer.Connection.Run
import PacketServer.Proofs.BufferPool.Lending

/-!
# The buffers that a connection borrows

A connection is one borrower of its pool among others. It acquires a buffer for
reading and one for writing, each under a number that nobody else has, uses them
for as long as it lives, and drops them, the latter first. What the others hold
stays where it is.

A pool is *clean* if the buffers that wait in it are empty. Then so are those that
it lends, and a new connection has what stands in its two buffers: nothing. What a
connection leaves in them does not come to anybody's sight, since a buffer that
comes back is emptied: the pool is as clean as before.

## Main results

* `Loans.borrow_two` — two buffers that are borrowed, changed and given back.
* `Connection.run_borrows` — this is what a run does to its pool, beginning with
  what stands in the buffers and leaving the pool clean.
-/

namespace PacketServer

namespace BufferPool

/-- The buffers that wait for a borrower are empty. -/
def Clean (pool : BufferPool) : Prop := ∀ b ∈ pool.free, b.data = []

theorem clean_ofPolicy (policy : BufferPolicy) : (ofPolicy policy).Clean := by
  simp [Clean, ofPolicy]

variable {pool : BufferPool}

/-- A clean pool lends an empty buffer, and stays clean. -/
theorem Clean.acquire (clean : pool.Clean) :
    pool.acquire.1.data = [] ∧ pool.acquire.2.Clean := by
  unfold Clean at clean ⊢
  unfold BufferPool.acquire
  cases waits : pool.free with
  | nil => simp [Buffer.ofCapacity]
  | cons b free =>
    rw [waits] at clean
    obtain ⟨empty, rest⟩ := List.forall_mem_cons.mp clean
    exact ⟨(b.data_reserve _).trans empty, rest⟩

/-- What comes back is emptied. -/
theorem Clean.release (clean : pool.Clean) (b : Buffer) : (pool.release b).Clean := by
  unfold BufferPool.release
  dsimp only
  split
  · intro b' member
    rcases List.mem_append.mp member with old | new
    · exact clean b' old
    · rw [List.mem_singleton.mp new]
      rfl
  · exact clean

namespace Loans

variable {l : Loans} {held : List (Nat × Buffer)} {b : Buffer} {id key : Nat}
  {f : Buffer → Buffer}

/-! ## A new number in a table -/

theorem mem_keys_place (b : Buffer) (absent : id ∉ keys held) :
    key ∈ keys (place id b held) ↔ key = id ∨ key ∈ keys held :=
  ((perm_place b absent).map _).mem_iff.trans List.mem_cons

theorem without_place (b : Buffer) (absent : id ∉ keys held) :
    without id (place id b held) = held := by
  induction held with
  | nil => simp [place, without]
  | cons entry held ih =>
    obtain ⟨other, rest⟩ := absent_cons absent
    unfold place
    split
    · simpa [without] using without_of_absent absent
    · have kept : without id (entry :: place id b held) =
          entry :: without id (place id b held) := by
        simp [without, Ne.symm other]
      rw [kept, ih rest]

/-- What the change of the buffer under a number does to an entry of a table. -/
def change (id : Nat) (f : Buffer → Buffer) (entry : Nat × Buffer) : Nat × Buffer :=
  if entry.1 = id then (id, f entry.2) else entry

theorem change_own (id : Nat) (f : Buffer → Buffer) (b : Buffer) :
    change id f (id, b) = (id, f b) := if_pos rfl

theorem change_other (other : key ≠ id) (f : Buffer → Buffer) (b : Buffer) :
    change id f (key, b) = (key, b) := if_neg other

theorem fst_change (id : Nat) (f : Buffer → Buffer) (entry : Nat × Buffer) :
    (change id f entry).1 = entry.1 := by
  unfold change
  split
  · rename_i same
    exact same.symm
  · rfl

theorem map_change_of_absent (f : Buffer → Buffer) (absent : id ∉ keys held) :
    held.map (change id f) = held := by
  refine (List.map_congr_left fun entry member => ?_).trans (List.map_id _)
  have other : entry.1 ≠ id := fun same => absent (same ▸ List.mem_map_of_mem member)
  exact change_other other f entry.2

/-- Changing the entries of a table leaves each in its place. -/
theorem map_change_place (id key : Nat) (f : Buffer → Buffer) (b : Buffer)
    (held : List (Nat × Buffer)) :
    (place key b held).map (change id f) =
      place key (change id f (key, b)).2 (held.map (change id f)) := by
  have moved : change id f (key, b) = (key, (change id f (key, b)).2) :=
    Prod.ext (fst_change id f (key, b)) rfl
  induction held with
  | nil => exact congrArg (· :: []) moved
  | cons entry held ih =>
    rw [List.map_cons, place, place, fst_change]
    split
    · rw [List.map_cons, List.map_cons, moved]
    · split
      · rw [List.map_cons, moved]
      · rw [List.map_cons, ih]

/-! ## A borrower among others -/

theorem modify_eq (l : Loans) (id : Nat) (f : Buffer → Buffer) :
    l.modify id f = { l with held := l.held.map (change id f) } := rfl

theorem acquire_of_absent (absent : id ∉ keys l.held) :
    l.acquire id =
      { pool := l.pool.acquire.2, held := place id l.pool.acquire.1 l.held } := by
  have missing : l.held.lookup id = none := by
    rw [List.lookup_eq_none_iff]
    intro entry member
    have other : id ≠ entry.1 := fun same => absent (same ▸ List.mem_map_of_mem member)
    simpa using other
  simp only [acquire, drop, find?, missing]

theorem drop_place (pool : BufferPool) (b : Buffer) (absent : id ∉ keys held) :
    drop { pool := pool, held := place id b held } id =
      { pool := pool.release b, held := held } := by
  simp only [drop, find?, lookup_place b absent, without_place b absent]

/-- **Two buffers are borrowed, changed and given back**, the second one first: what
others hold is as before. -/
theorem borrow_two (l : Loans) {first second : Nat} (f g : Buffer → Buffer)
    (free : first ∉ keys l.held) (free' : second ∉ keys l.held) (apart : second ≠ first) :
    ((((((l.acquire first).acquire second).modify first f).modify second g).drop second).drop
        first) =
      { pool := (l.pool.acquire.2.acquire.2.release (g l.pool.acquire.2.acquire.1)).release
          (f l.pool.acquire.1)
        held := l.held } := by
  have unused (b : Buffer) : second ∉ keys (place first b l.held) := fun member =>
    ((mem_keys_place b free).mp member).elim apart free'
  -- Both changes act under their own number only, wherever it stands in the table.
  have changed : ((((l.acquire first).acquire second).modify first f).modify second g) =
      { pool := l.pool.acquire.2.acquire.2
        held := place second (g l.pool.acquire.2.acquire.1)
          (place first (f l.pool.acquire.1) l.held) } := by
    rw [acquire_of_absent free, acquire_of_absent (unused _), modify_eq, modify_eq]
    simp only [map_change_place, change_own, change_other apart, change_other apart.symm,
      map_change_of_absent _ free, map_change_of_absent _ free']
  rw [changed, drop_place _ _ (unused _), drop_place _ _ free]

end Loans

end BufferPool

namespace Connection

open BufferPool (Loans Clean)

variable {σ ν : Type}

/-- What becomes of the loans of a pool if a connection that comes to the state of
`k` borrows its buffers there, under the numbers `r` and `w`. -/
def borrow (k : Connection σ ν) (growth : Growth) (r w : Nat) (l : Loans) : Loans :=
  let l := (l.acquire r).acquire w
  let l := (l.modify r (k.readBuffer growth)).modify w (k.writeBuffer growth)
  (l.drop w).drop r

/-- A run does to its pool what the borrowing of two buffers does. -/
theorem run_borrow (k : Connection σ ν) (polls : List Poll) (growth : Growth) (l : Loans)
    {r w : Nat} (free : r ∉ Loans.keys l.held) (free' : w ∉ Loans.keys l.held) (apart : w ≠ r) :
    (k.run polls l.pool growth).2.1.borrow growth r w l =
      { l with pool := (k.run polls l.pool growth).2.2 } :=
  Loans.borrow_two l _ _ free free' apart

/-- How a connection uses a pool that it finds as `pool` and leaves as `pool'`, if it
begins as `k` and ends as `k'`. -/
structure Borrows (k : Connection σ ν) (pool : BufferPool) (growth : Growth)
    (k' : Connection σ ν) (pool' : BufferPool) : Prop where
  /-- As many buffers are out as before. -/
  outstanding : pool'.outstanding = pool.outstanding
  /-- The pool is as if two buffers had been borrowed, had come to hold what the
  connection holds in the end, and had been dropped; others hold what they held. -/
  borrowed : ∀ held r w, r ∉ Loans.keys held → w ∉ Loans.keys held → w ≠ r →
    k'.borrow growth r w { pool := pool, held := held } = { pool := pool', held := held }
  /-- The connection begins with what stands in the buffers that it is lent. -/
  began : pool.Clean → k.readBuffer {} pool.acquire.1 = pool.acquire.1 ∧
    k.writeBuffer {} pool.acquire.2.acquire.1 = pool.acquire.2.acquire.1
  /-- What it leaves in them is not left in the pool. -/
  clean : pool.Clean → pool'.Clean

/-- **A run is a borrower among others.** -/
theorem run_borrows (spec : Spec σ ν) (context : Context) (user : σ) (stream : Stream)
    (cancelled : Bool) (polls : List Poll) (pool : BufferPool) (growth : Growth) :
    let k := ofSpec spec context user stream cancelled
    let outcome := k.run polls pool growth
    Borrows k pool growth outcome.2.1 outcome.2.2 := by
  intro k outcome
  refine
    { outstanding := k.run_outstanding polls pool growth
      borrowed := fun held r w => k.run_borrow polls growth { pool := pool, held := held }
      began := fun clean => ?_
      clean := fun clean => (clean.acquire.2.acquire.2.release _).release _ }
  obtain ⟨forReading, clean'⟩ := clean.acquire
  obtain ⟨forWriting, -⟩ := clean'.acquire
  exact ⟨congrArg (Buffer.mk · _) forReading.symm, congrArg (Buffer.mk · _) forWriting.symm⟩

end Connection

end PacketServer
