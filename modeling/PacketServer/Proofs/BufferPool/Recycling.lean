import PacketServer.Proofs.BufferPool.Lending

/-!
# Recycling is invisible

What borrowers can see of a pool, apart from the room in their buffers, is the
bytes under every number and how many buffers are out: a `View`. A borrower
that knew nothing of pools would expect each operation to do to this view what
`View.step` says: a buffer that is acquired is empty, and only its own borrower
changes it.

A pool of any policy keeps to that, since what it keeps is empty and stays out
of everybody's reach. Two pools can therefore not be told apart, be it that one
of them lends used buffers and the other new ones only, and what a borrower
finds in its buffer is what it did to the buffer itself.

## Main results

* `Loans.view_step` — an operation does to the view what is expected of it.
* `Loans.views_eq` — so do sequences of operations, view by view.
* `View.lent_run` — a view shows under a number only what was done under it.
* `Loans.recycling_invisible` — used buffers are as good as new ones.
-/

namespace PacketServer.BufferPool

/-- The number under which an operation is done. -/
def Loans.Op.number : Loans.Op → Nat
  | .acquire id | .drop id | .extend id _ | .reserve id _ | .truncate id _ | .clear id => id

/-- What an operation does to the bytes under its number, if a buffer is held there. -/
def Loans.Op.effect : Loans.Op → Option Bytes → Option Bytes
  | .acquire _, _ => some []
  | .drop _, _ => none
  | .extend _ s, content => content.map (· ++ s)
  | .reserve _ _, content => content
  | .truncate _ n, content => content.map (·.take n)
  | .clear _, content => content.map fun _ => []

/-- What can be seen of a pool and its borrowers' buffers. -/
@[ext]
structure View where
  /-- The bytes in the buffer that is held under a number. -/
  lent : Nat → Option Bytes
  /-- How many buffers are out. -/
  outstanding : Nat

namespace View

/-- What is expected of an operation. -/
def step (v : View) (op : Loans.Op) : View where
  lent id := if id = op.number then op.effect (v.lent id) else v.lent id
  outstanding :=
    v.outstanding + (op.effect (v.lent op.number)).isSome.toNat -
      (v.lent op.number).isSome.toNat

theorem lent_step_own (v : View) (op : Loans.Op) :
    (v.step op).lent op.number = op.effect (v.lent op.number) := if_pos rfl

theorem lent_step_other {op : Loans.Op} {id : Nat} (v : View) (other : id ≠ op.number) :
    (v.step op).lent id = v.lent id := if_neg other

/-- A view is the expected one if it is so under the operation's number, the
same under all others, and counts as expected. -/
theorem eq_step {v v' : View} (op : Loans.Op)
    (own : v'.lent op.number = op.effect (v.lent op.number))
    (others : ∀ id, id ≠ op.number → v'.lent id = v.lent id)
    (count : v'.outstanding = (v.step op).outstanding) : v' = v.step op := by
  ext1
  · funext id
    by_cases here : id = op.number
    · rw [here, lent_step_own, own]
    · rw [lent_step_other v here, others id here]
  · exact count

/-- What is expected of a sequence of operations. -/
def run (v : View) (ops : List Loans.Op) : View := ops.foldl step v

/-- The views after each operation of a sequence. -/
def trace (v : View) : List Loans.Op → List View
  | [] => []
  | op :: ops => v.step op :: trace (v.step op) ops

/-- **A view shows under a number only what was done under it.** -/
theorem lent_run (v : View) (ops : List Loans.Op) (id : Nat) :
    (v.run ops).lent id =
      (ops.filter (·.number = id)).foldl (fun content op => op.effect content) (v.lent id) := by
  induction ops generalizing v with
  | nil => rfl
  | cons op ops ih =>
    show ((v.step op).run ops).lent id = _
    rw [ih]
    by_cases own : op.number = id
    · subst own
      rw [lent_step_own, List.filter_cons_of_pos (by simp), List.foldl_cons]
    · have other : id ≠ op.number := fun same => own same.symm
      rw [lent_step_other v other, List.filter_cons_of_neg (by simpa using own)]

end View

namespace Loans

variable {policy : BufferPolicy} {l : Loans} {held : List (Nat × Buffer)} {b : Buffer}
  {id key : Nat}

/-- What can be seen. -/
def view (l : Loans) : View where
  lent id := (l.find? id).map (·.data)
  outstanding := l.pool.outstanding

/-- What can be seen after each operation of a sequence. -/
def views (l : Loans) : List Op → List View
  | [] => []
  | op :: ops => (l.step op).view :: views (l.step op) ops

/-! ## Looking up other numbers -/

theorem lookup_place_other (b : Buffer) (other : key ≠ id) :
    (place id b held).lookup key = held.lookup key := by
  have miss : (key == id) = false := beq_eq_false_iff_ne.mpr other
  induction held with
  | nil => rw [place, List.lookup_cons, miss]
  | cons entry held ih =>
    obtain ⟨number, buffer⟩ := entry
    unfold place
    split
    · rw [List.lookup_cons, miss]
    · split
      · rename_i same
        obtain rfl : id = number := same
        simp only [List.lookup_cons, miss]
      · simp only [List.lookup_cons, ih]

theorem lookup_without (id key : Nat) (held : List (Nat × Buffer)) :
    (without id held).lookup key = if key = id then none else held.lookup key := by
  induction held with
  | nil => simp [without]
  | cons entry held ih =>
    obtain ⟨number, buffer⟩ := entry
    by_cases gone : number = id
    · have rest : without id ((number, buffer) :: held) = without id held := by
        simp [without, gone]
      rw [rest, ih, gone]
      split
      · rfl
      · rename_i other
        rw [List.lookup_cons, beq_eq_false_iff_ne.mpr other]
    · have rest : without id ((number, buffer) :: held) =
          (number, buffer) :: without id held := by
        simp [without, gone]
      rw [rest, List.lookup_cons, List.lookup_cons, ih]
      split
      · rename_i here
        rw [if_neg fun same => gone ((beq_iff_eq.mp here).symm.trans same)]
      · rfl

theorem lookup_map (id key : Nat) (f : Buffer → Buffer) (held : List (Nat × Buffer)) :
    (held.map fun entry => if entry.1 = id then (id, f entry.2) else entry).lookup key =
      if key = id then (held.lookup id).map f else held.lookup key := by
  induction held with
  | nil => simp
  | cons entry held ih =>
    obtain ⟨number, buffer⟩ := entry
    rw [List.map_cons]
    by_cases here : number = id
    · subst here
      rw [if_pos rfl, List.lookup_cons_self, List.lookup_cons]
      by_cases mine : key = number
      · simp [mine]
      · rw [List.lookup_cons, beq_eq_false_iff_ne.mpr mine, ih, if_neg mine, if_neg mine]
    · have miss : (id == number) = false := beq_eq_false_iff_ne.mpr fun same => here same.symm
      rw [if_neg here, List.lookup_cons, List.lookup_cons, List.lookup_cons, miss, ih]
      split
      · rename_i found
        rw [if_neg fun same => here ((beq_iff_eq.mp found).symm.trans same)]
      · rfl

/-! ## What operations do to the view -/

theorem lent_view (l : Loans) (id : Nat) : l.view.lent id = (l.find? id).map (·.data) := rfl

theorem view_drop (l : Loans) (id : Nat) : (l.drop id).view = l.view.step (.drop id) := by
  cases found : l.find? id with
  | none =>
    have nothing : l.view.lent id = none := by rw [lent_view, found, Option.map_none]
    rw [drop, found]
    refine View.eq_step (.drop id) nothing (fun _ _ => rfl) ?_
    simp [view, View.step, Op.number, Op.effect, found]
  | some b =>
    rw [drop, found]
    refine View.eq_step (.drop id) ?_ (fun key (other : key ≠ id) => ?_) ?_
    · show ((without id l.held).lookup id).map (·.data) = none
      rw [lookup_without, if_pos rfl, Option.map_none]
    · show ((without id l.held).lookup key).map (·.data) = l.view.lent key
      rw [lookup_without, if_neg other, lent_view, find?]
    · simp [view, View.step, Op.number, Op.effect, found]

theorem view_modify {f : Buffer → Buffer} (l : Loans) (op : Op)
    (data : ∀ b : Option Buffer, op.effect (b.map (·.data)) = (b.map f).map (·.data)) :
    (l.modify op.number f).view = l.view.step op := by
  have changed (key : Nat) : (l.modify op.number f).find? key =
      if key = op.number then (l.find? op.number).map f else l.find? key :=
    lookup_map op.number key f l.held
  refine View.eq_step op ?_ (fun key other => ?_) ?_
  · rw [lent_view, lent_view, changed, if_pos rfl, data]
  · rw [lent_view, lent_view, changed, if_neg other]
  · simp [view, View.step, modify, data]

/-- Borrowing shows an empty buffer: what the pool lends is empty, and what was
held under the number goes back. -/
theorem view_acquire (sound : Sound policy 0 l) (id : Nat) :
    (l.acquire id).view = l.view.step (.acquire id) := by
  -- The new buffer is out before an old one under the same number is back.
  let lent : Loans := { l with pool := l.pool.acquire.2 }
  have dropped : (lent.drop id).view = lent.view.step (.drop id) := lent.view_drop id
  have absent : id ∉ keys (lent.drop id).held := fun member => (keys_drop member).2 rfl
  refine View.eq_step (.acquire id) ?_ (fun key (other : key ≠ id) => ?_) ?_
  · show ((place id l.pool.acquire.1 (lent.drop id).held).lookup id).map (·.data) = some []
    rw [lookup_place _ absent, Option.map_some, sound.acquired.1]
  · show ((place id l.pool.acquire.1 (lent.drop id).held).lookup key).map (·.data) = _
    rw [lookup_place_other _ other]
    exact (congrFun (congrArg View.lent dropped) key).trans (lent.view.lent_step_other other)
  · have count := congrArg View.outstanding dropped
    simpa [view, View.step, Op.number, Op.effect, lent, acquire, find?] using count

/-- **An operation does to the view what is expected of it**, whatever the pool keeps. -/
theorem view_step (sound : Sound policy 0 l) (op : Op) : (l.step op).view = l.view.step op := by
  cases op with
  | acquire id => exact view_acquire sound id
  | drop id => exact l.view_drop id
  | extend id s => exact l.view_modify (.extend id s) fun b => by cases b <;> simp [Op.effect]
  | reserve id n => exact l.view_modify (.reserve id n) fun b => by cases b <;> simp [Op.effect]
  | truncate id n => exact l.view_modify (.truncate id n) fun b => by cases b <;> rfl
  | clear id => exact l.view_modify (.clear id) fun b => by cases b <;> rfl

/-! ## Runs -/

theorem view_run (sound : Sound policy 0 l) (ops : List Op) :
    (l.run ops).view = l.view.run ops := by
  induction ops generalizing l with
  | nil => rfl
  | cons op ops ih =>
    show ((l.step op).run ops).view = (l.view.step op).run ops
    rw [ih (sound.step op), view_step sound]

/-- **Sequences of operations do to the view what is expected of them**, one
by one. -/
theorem views_eq (sound : Sound policy 0 l) (ops : List Op) : l.views ops = l.view.trace ops := by
  induction ops generalizing l with
  | nil => rfl
  | cons op ops ih => rw [views, ih (sound.step op), view_step sound, View.trace]

/-- Nothing is to be seen of a new pool. -/
theorem view_ofPolicy (policy : BufferPolicy) : (ofPolicy policy).view = ⟨fun _ => none, 0⟩ := rfl

/-- **Recycling is invisible.** After each of any operations, be they asked of
the pool or of a clone, the same buffers are held with the same bytes in them,
and as many are out, whether the pool lends used buffers or new ones only. What
is in a buffer is what was done under its number since it was acquired,
whatever was done before and by others. -/
theorem recycling_invisible (capacity size : Nat) (ops : List Op) :
    (ofPolicy (.pooled capacity size)).views ops = (ofPolicy (.unpooled size)).views ops ∧
    ∀ policy before id,
      (((ofPolicy policy).run (before ++ .acquire id :: ops)).find? id).map (·.data) =
        (ops.filter (·.number = id)).foldl (fun content op => op.effect content) (some []) := by
  constructor
  · rw [views_eq (sound_ofPolicy _), views_eq (sound_ofPolicy _), view_ofPolicy, view_ofPolicy]
  · intro policy before id
    let acquired := ((ofPolicy policy).view.run before).step (.acquire id)
    have split : (ofPolicy policy).view.run (before ++ .acquire id :: ops) = acquired.run ops := by
      rw [View.run, List.foldl_append, List.foldl_cons]
      rfl
    have empty : acquired.lent id = some [] := View.lent_step_own _ (.acquire id)
    show ((ofPolicy policy).run (before ++ .acquire id :: ops)).view.lent id = _
    rw [view_run (sound_ofPolicy policy), split, acquired.lent_run, empty]

/-- A buffer that was filled by one borrower is empty for the next. -/
example :
    ((ofPolicy (.pooled 1 4)).run
      [.acquire 0, .extend 0 [1, 2, 3, 4, 5], .drop 0, .acquire 1]).find? 1 = some ⟨[], 8⟩ := by
  decide

end Loans

end PacketServer.BufferPool
