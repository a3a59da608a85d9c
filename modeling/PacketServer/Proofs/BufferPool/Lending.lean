import PacketServer.BufferPool.Loans

/-!
# Lending and keeping buffers

A pool counts the buffers that are out, one for each that a borrower holds, and
keeps what comes back if there is a place for it and it has not grown too much.
What is kept is empty and still has the nominal room, since no borrower can
take room away, so what is lent next serves as well as a new buffer.

A buffer that is borrowed under a number which is taken already is out before
the other one is given back. Between the two the count is one ahead of the
table, and the invariant says by how much.

## Main results

* `Loans.perm_without`, `Loans.perm_place` — the table of a borrower's buffers.
* `Loans.Sound.step` — an operation keeps pool and table in accord.
* `Loans.run_lending` — what pools do.
-/

namespace PacketServer.BufferPool.Loans

variable {policy : BufferPolicy} {l : Loans} {held : List (Nat × Buffer)} {b : Buffer} {id n : Nat}

/-! ## The table -/

/-- The numbers under which buffers are held. -/
def keys (held : List (Nat × Buffer)) : List Nat := held.map (·.1)

theorem without_of_absent (absent : id ∉ keys held) : without id held = held := by
  refine List.filter_eq_self.mpr fun entry member => ?_
  have other : entry.1 ≠ id := fun same => absent (same ▸ List.mem_map_of_mem member)
  simpa using other

theorem absent_cons {entry : Nat × Buffer} (absent : id ∉ keys (entry :: held)) :
    id ≠ entry.1 ∧ id ∉ keys held :=
  not_or.mp fun member => absent (List.mem_cons.mpr member)

/-- A buffer that is held stands once in the table. -/
theorem perm_without (nodup : (keys held).Nodup) (found : held.lookup id = some b) :
    held.Perm ((id, b) :: without id held) := by
  induction held with
  | nil => simp at found
  | cons entry held ih =>
    obtain ⟨key, buffer⟩ := entry
    obtain ⟨absent, nodup⟩ := List.nodup_cons.mp nodup
    by_cases same : id = key
    · subst same
      obtain rfl : buffer = b := by simpa using found
      have rest : without id ((id, buffer) :: held) = held := by
        simpa [without] using without_of_absent absent
      rw [rest]
    · have other : key ≠ id := fun h => same h.symm
      have found : held.lookup id = some b := by
        simpa [List.lookup_cons, beq_eq_false_iff_ne.mpr same] using found
      have rest : without id ((key, buffer) :: held) = (key, buffer) :: without id held := by
        simp [without, other]
      rw [rest]
      exact ((ih nodup found).cons _).trans (List.Perm.swap ..)

theorem absent_of_lookup (missing : held.lookup id = none) : id ∉ keys held := by
  rw [List.lookup_eq_none_iff] at missing
  intro member
  obtain ⟨entry, present, rfl⟩ := List.mem_map.mp member
  simpa using missing entry present

/-- A buffer that is put under a new number stands once in the table. -/
theorem perm_place (b : Buffer) (absent : id ∉ keys held) :
    (place id b held).Perm ((id, b) :: held) := by
  induction held with
  | nil => exact .refl _
  | cons entry held ih =>
    obtain ⟨other, absent⟩ := absent_cons absent
    unfold place
    split
    · exact .refl _
    · exact ((ih absent).cons entry).trans (List.Perm.swap ..)

theorem lookup_place (b : Buffer) (absent : id ∉ keys held) :
    (place id b held).lookup id = some b := by
  induction held with
  | nil => simp [place]
  | cons entry held ih =>
    obtain ⟨key, buffer⟩ := entry
    obtain ⟨other, rest⟩ := absent_cons absent
    unfold place
    split
    · simp
    · simpa [List.lookup_cons, beq_eq_false_iff_ne.mpr other, other] using ih rest

/-! ## Pool and table -/

/-- What is known of a buffer that a pool keeps. -/
structure Kept (policy : BufferPolicy) (b : Buffer) : Prop where
  empty : b.data = []
  roomy : policy.bufferSize ≤ b.capacity
  grown : b.capacity ≤ 8 * policy.bufferSize

/-- A pool, and the buffers that are held. The pool counts `n` buffers more,
which are on their way to a borrower. -/
structure Sound (policy : BufferPolicy) (n : Nat) (l : Loans) : Prop where
  obeys : l.pool.policy = policy
  keys : (keys l.held).Nodup
  counted : l.pool.outstanding = l.held.length + n
  places : l.pool.free.length ≤ policy.keeps
  kept : ∀ b ∈ l.pool.free, Kept policy b
  held : ∀ entry ∈ l.held, policy.bufferSize ≤ entry.2.capacity

theorem reserve_of_room (room : b.data.length + n ≤ b.capacity) : b.reserve n = b := by
  simp [Buffer.reserve, room]

/-- **What a pool lends**: the buffer that has waited longest, or a new one if
none waits. -/
theorem Sound.acquire_pool (sound : Sound policy n l) :
    (l.pool.free = [] ∧ l.pool.acquire =
      (.ofCapacity policy.bufferSize, { l.pool with outstanding := l.pool.outstanding + 1 })) ∨
    ∃ b free, l.pool.free = b :: free ∧ Kept policy b ∧ l.pool.acquire =
      (b, { l.pool with free := free, outstanding := l.pool.outstanding + 1 }) := by
  obtain rfl := sound.obeys
  cases waits : l.pool.free with
  | nil =>
    have room : (Buffer.ofCapacity l.pool.policy.bufferSize).reserve l.pool.policy.bufferSize =
        .ofCapacity l.pool.policy.bufferSize := reserve_of_room (by simp [Buffer.ofCapacity])
    exact .inl ⟨rfl, by simp [BufferPool.acquire, waits, room]⟩
  | cons b free =>
    have kept := sound.kept b (by simp [waits])
    have room : b.reserve l.pool.policy.bufferSize = b :=
      reserve_of_room (by simpa [kept.empty] using kept.roomy)
    exact .inr ⟨b, free, rfl, kept, by simp [BufferPool.acquire, waits, room]⟩

/-- What is lent is empty and has the nominal room. -/
theorem Sound.acquired (sound : Sound policy n l) :
    l.pool.acquire.1.data = [] ∧ policy.bufferSize ≤ l.pool.acquire.1.capacity := by
  rcases sound.acquire_pool with ⟨-, new⟩ | ⟨b, free, -, kept, old⟩
  · rw [new]
    exact ⟨rfl, Nat.le_refl _⟩
  · rw [old]
    exact ⟨kept.empty, kept.roomy⟩

/-- A buffer that is lent is on its way. -/
theorem Sound.lend (sound : Sound policy n l) :
    Sound policy (n + 1) { l with pool := l.pool.acquire.2 } := by
  rcases sound.acquire_pool with ⟨-, new⟩ | ⟨b, free, waits, -, old⟩
  · rw [new]
    exact { sound with counted := congrArg (· + 1) sound.counted }
  · rw [old]
    have places : (b :: free).length ≤ policy.keeps := waits ▸ sound.places
    exact
      { sound with
        counted := congrArg (· + 1) sound.counted
        places := Nat.le_of_succ_le places
        kept := fun b' member => sound.kept b' (by simp [waits, member]) }

/-- A buffer arrives at its borrower. -/
theorem Sound.place (sound : Sound policy (n + 1) l) (absent : id ∉ Loans.keys l.held)
    (roomy : policy.bufferSize ≤ b.capacity) :
    Sound policy n { l with held := place id b l.held } := by
  have perm := perm_place b absent
  refine { sound with keys := ?_, counted := ?_, held := ?_ }
  · exact ((perm.map _).nodup_iff).mpr (List.nodup_cons.mpr ⟨absent, sound.keys⟩)
  · have length := perm.length_eq
    have counted := sound.counted
    simp only [List.length_cons] at length
    simp only [length]
    omega
  · intro entry member
    rcases List.mem_cons.mp (perm.mem_iff.mp member) with rfl | old
    · exact roomy
    · exact sound.held entry old

/-- **A buffer comes back**: the pool keeps it, emptied, if it has a place for it. -/
theorem Sound.release (sound : Sound policy n l) (found : l.find? id = some b) :
    Sound policy n { pool := l.pool.release b, held := without id l.held } := by
  obtain rfl := sound.obeys
  have perm := perm_without sound.keys found
  have length := perm.length_eq
  have counted := sound.counted
  have roomy : l.pool.policy.bufferSize ≤ b.capacity :=
    sound.held (id, b) (perm.mem_iff.mpr List.mem_cons_self)
  have keys : (Loans.keys (without id l.held)).Nodup :=
    (List.nodup_cons.mp ((perm.map _).nodup_iff.mp sound.keys)).2
  have held (entry : Nat × Buffer) (member : entry ∈ without id l.held) :
      l.pool.policy.bufferSize ≤ entry.2.capacity :=
    sound.held entry (perm.mem_iff.mpr (List.mem_cons_of_mem _ member))
  have counted : l.pool.outstanding - 1 = (without id l.held).length + n := by
    simp only [List.length_cons] at length
    omega
  unfold BufferPool.release
  dsimp only
  split
  · rename_i goes
    simp only [Bool.and_eq_true, decide_eq_true_eq] at goes
    obtain ⟨⟨-, grown⟩, place⟩ := goes
    refine
      { obeys := rfl, keys := keys, counted := counted, places := ?_, kept := ?_
        held := held }
    · simpa using Nat.succ_le_of_lt place
    · intro b' member
      rcases List.mem_append.mp member with old | new
      · exact sound.kept b' old
      · obtain rfl := List.mem_singleton.mp new
        exact ⟨rfl, roomy, by rw [Nat.mul_comm]; exact grown⟩
  · exact { sound with obeys := rfl, keys := keys, counted := counted, held := held }

theorem Sound.drop (sound : Sound policy n l) (id : Nat) : Sound policy n (l.drop id) := by
  unfold Loans.drop
  split
  · rename_i b found
    exact sound.release found
  · exact sound

theorem keys_drop {key : Nat} (member : key ∈ keys (l.drop id).held) :
    key ∈ keys l.held ∧ key ≠ id := by
  unfold Loans.drop at member
  split at member
  · simp only [keys, without, List.mem_map, List.mem_filter] at member ⊢
    obtain ⟨entry, ⟨old, other⟩, rfl⟩ := member
    exact ⟨⟨entry, old, rfl⟩, by simpa using other⟩
  · rename_i missing
    refine ⟨member, ?_⟩
    rintro rfl
    exact absent_of_lookup missing member

theorem Sound.acquire (sound : Sound policy n l) (id : Nat) : Sound policy n (l.acquire id) :=
  (sound.lend.drop id).place (fun member => (keys_drop member).2 rfl) sound.acquired.2

/-- What borrowers do with their buffers takes no room away. -/
theorem Sound.modify {f : Buffer → Buffer} (sound : Sound policy n l) (id : Nat)
    (grows : ∀ b : Buffer, b.capacity ≤ (f b).capacity) : Sound policy n (l.modify id f) := by
  refine { sound with keys := ?_, counted := ?_, held := ?_ }
  · have same : Loans.keys (l.modify id f).held = Loans.keys l.held := by
      simp only [Loans.keys, Loans.modify, List.map_map]
      refine List.map_congr_left fun entry _ => ?_
      by_cases here : entry.1 = id <;> simp [here]
    rw [same]
    exact sound.keys
  · simpa [Loans.modify] using sound.counted
  · intro entry member
    obtain ⟨before, old, rfl⟩ := List.mem_map.mp member
    have roomy := sound.held before old
    split
    · exact Nat.le_trans roomy (grows before.2)
    · exact roomy

/-- **An operation keeps pool and table in accord.** -/
theorem Sound.step (sound : Sound policy n l) (op : Op) : Sound policy n (l.step op) := by
  cases op with
  | acquire id => exact sound.acquire id
  | drop id => exact sound.drop id
  | extend id s => exact sound.modify (f := (·.extend s)) id (·.capacity_le_reserve s.length)
  | reserve id n => exact sound.modify (f := (·.reserve n)) id (·.capacity_le_reserve n)
  | truncate id n => exact sound.modify (f := (·.truncate n)) id fun _ => Nat.le_refl _
  | clear id => exact sound.modify (f := (·.clear)) id fun _ => Nat.le_refl _

theorem Sound.run (sound : Sound policy n l) (ops : List Op) : Sound policy n (l.run ops) := by
  induction ops generalizing l with
  | nil => exact sound
  | cons op ops ih => exact ih (sound.step op)

theorem sound_ofPolicy (policy : BufferPolicy) : Sound policy 0 (ofPolicy policy) := by
  constructor <;> simp [ofPolicy, BufferPool.ofPolicy, keys]

/-! ## The end -/

theorem Sound.drops (sound : Sound policy n l) (ids : List Nat) :
    Sound policy n (ids.foldl Loans.drop l) ∧
      ∀ key ∈ Loans.keys (ids.foldl Loans.drop l).held, key ∈ Loans.keys l.held ∧ key ∉ ids := by
  induction ids generalizing l with
  | nil => exact ⟨sound, fun key member => ⟨member, List.not_mem_nil⟩⟩
  | cons id ids ih =>
    obtain ⟨sound', left⟩ := ih (sound.drop id)
    refine ⟨sound', fun key member => ?_⟩
    obtain ⟨old, notLater⟩ := left key member
    obtain ⟨old, notNow⟩ := keys_drop old
    exact ⟨old, by simp [notNow, notLater]⟩

theorem Sound.dropAll (sound : Sound policy n l) :
    l.dropAll.held = [] ∧ l.dropAll.pool.outstanding = n := by
  obtain ⟨sound', left⟩ := sound.drops (Loans.keys l.held)
  have none : l.dropAll.held = [] := by
    refine List.eq_nil_iff_forall_not_mem.mpr fun entry member => ?_
    have gone := left entry.1 (List.mem_map_of_mem member)
    exact gone.2 gone.1
  refine ⟨none, ?_⟩
  have counted : l.dropAll.pool.outstanding = l.dropAll.held.length + n := sound'.counted
  simpa [none] using counted

/-- What is known of a pool and its borrowers. -/
structure Lending (policy : BufferPolicy) (l : Loans) : Prop where
  /-- A pool counts the buffers that are out. -/
  counted : l.pool.outstanding = l.held.length
  /-- What comes back was counted. -/
  returned : ∀ id, (l.find? id).isSome = true →
    (l.drop id).pool.outstanding + 1 = l.pool.outstanding
  /-- Nothing is out when all have given back what they held. -/
  dropped : l.dropAll.held = [] ∧ l.dropAll.pool.outstanding = 0
  idle : match policy with
    | .pooled capacity _ => l.pool.idle ≤ max capacity 1
    | .unpooled _ => l.pool.idle = 0
  kept : ∀ b ∈ l.pool.free,
    b.data = [] ∧ policy.bufferSize ≤ b.capacity ∧ b.capacity ≤ 8 * policy.bufferSize
  /-- What is borrowed next is empty and has the nominal room. -/
  acquired : ∀ id, ∃ b, (l.acquire id).find? id = some b ∧ b.data = [] ∧
    policy.bufferSize ≤ b.capacity
  /-- If a buffer waits, the one that has waited longest is borrowed next, as it is. -/
  reused : ∀ b free, l.pool.free = b :: free → l.pool.acquire =
    (b, { l.pool with free := free, outstanding := l.pool.outstanding + 1 }) ∧
      ∀ id, (l.acquire id).find? id = some b

/-- **What pools do**, whatever is borrowed, done to the buffers and given back,
in whatever order. -/
theorem run_lending (policy : BufferPolicy) (ops : List Op) :
    Lending policy ((ofPolicy policy).run ops) := by
  have sound := (sound_ofPolicy policy).run ops
  generalize (ofPolicy policy).run ops = l at sound
  have borrowed (id : Nat) : (l.acquire id).find? id = some l.pool.acquire.1 :=
    lookup_place _ fun member => (keys_drop member).2 rfl
  refine
    { counted := sound.counted
      returned := ?_
      dropped := sound.dropAll
      idle := ?_
      kept := fun b member => ?_
      acquired := fun id => ⟨_, borrowed id, sound.acquired⟩
      reused := ?_ }
  · intro id found
    obtain ⟨b, found⟩ := Option.isSome_iff_exists.mp found
    have length := (perm_without sound.keys found).length_eq
    have counted : (l.drop id).pool.outstanding = (l.drop id).held.length := (sound.drop id).counted
    have before : l.pool.outstanding = l.held.length := sound.counted
    have table : (l.drop id).held = without id l.held := by simp [Loans.drop, found]
    rw [counted, before, table, length, List.length_cons]
  · have places := sound.places
    cases policy with
    | pooled capacity size => exact places
    | unpooled size => exact Nat.le_zero.mp places
  · have kept := sound.kept b member
    exact ⟨kept.empty, kept.roomy, kept.grown⟩
  · intro b free waits
    rcases sound.acquire_pool with ⟨none, -⟩ | ⟨b', free', waits', -, old⟩
    · simp [none] at waits
    · obtain ⟨rfl, rfl⟩ := List.cons.inj (waits.symm.trans waits')
      exact ⟨old, fun id => by rw [borrowed id, old]⟩

end PacketServer.BufferPool.Loans
