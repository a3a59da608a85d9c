import Mathlib.Data.List.Induction
import PacketServer.Proofs.Completion.Delivery

/-!
# A receiver half asked again

A receiver half that has yielded to `tryRecv` is still held, so it can be asked
again. It has finished by then: asked by `tryRecv` it reports the abandonment,
although the listener half was told an outcome, and it must not be waited on.

This is the only way to the one and to the other. `Taken` says of the operations
before that they leave such a half; where it does not hold, whoever asks is told
the first outcome or nothing.

## Main results

* `finished_iff_taken` — when a receiver half has finished.
* `reports_iff_taken` — which runs report an abandonment that was none, and which
  misuse the receiver half.
* `told_seven_misreported` — a run of either kind.
-/

namespace PacketServer.Completion

variable {α : Type} {c d : Channel α} {op : Op α} {ops : List (Op α)} {answer : Answer α}

/-! ## Taken outcomes -/

/-- A `tryRecv` was answered with an outcome or the abandonment, and the receiver
half has been neither given up nor waited on since. -/
def Taken (ops : List (Op α)) : Prop :=
  ∃ front back, ops = front ++ .tryRecv :: back ∧
    (Channel.fresh.after front).tryRecv.1.yield?.isSome = true ∧
    ∀ op ∈ back, op.dropsReceiver = false ∧ op ≠ .wait

/-- Only giving the receiver half up, or waiting on it, takes a finished half
away. -/
theorem finished_run (finished : c.receiver = .finished)
    (held : ∀ op ∈ ops, op.dropsReceiver = false ∧ op ≠ .wait) :
    (c.after ops).receiver = .finished := by
  induction ops generalizing c with
  | nil => exact finished
  | cons op ops ih =>
    rw [List.forall_mem_cons] at held
    obtain ⟨⟨kept, waits⟩, held⟩ := held
    have still : (c.step op).2.receiver = .finished := by
      rw [(step_steps c op).receiver_eq]
      cases op <;> simp_all [Op.dropsReceiver, Op.asks, Op.leaving]
    exact ih still held

/-- A `tryRecv` that yields leaves the receiver half finished. -/
theorem Steps.finishes (steps : Steps c .tryRecv answer d) (yields : answer.yield?.isSome = true) :
    d.receiver = .finished := by
  cases steps with
  | refused | delayed => simp [Op.refusal, Op.delay, Answer.yield?] at yields
  | yielded => rfl
  | repeated finished => exact finished

/-- A receiver half has finished only if it had before, or yields to `tryRecv`. -/
theorem Steps.of_finished (steps : Steps c op answer d) (finished : d.receiver = .finished) :
    c.receiver = .finished ∧ op.dropsReceiver = false ∧ op ≠ .wait ∨
      op = .tryRecv ∧ answer.yield?.isSome = true := by
  cases steps with
  | told o => exact .inl ⟨by simpa using finished, rfl, by simp⟩
  | unlistened => exact .inl ⟨finished, rfl, by simp⟩
  | unreceived | misused => simp at finished
  | refused _ gone => simp [gone] at finished
  | delayed _ waiting => simp [waiting] at finished
  | yielded asks => cases op <;> simp_all [Op.asks, Op.leaving, Answer.yield?]
  | repeated => exact .inr ⟨rfl, rfl⟩

theorem finished_iff_taken :
    (Channel.fresh.after ops).receiver = .finished ↔ Taken ops := by
  constructor
  · intro finished
    induction ops using List.reverseRecOn with
    | nil => simp [Channel.fresh] at finished
    | append_singleton ops op ih =>
      rw [after_append] at finished
      obtain ⟨before, kept⟩ | ⟨rfl, yields⟩ :=
        (step_steps (Channel.fresh.after ops) op).of_finished finished
      · obtain ⟨front, back, rfl, yields, held⟩ := ih before
        refine ⟨front, back ++ [op], by simp, yields, ?_⟩
        rw [List.forall_mem_append]
        exact ⟨held, by simpa using kept⟩
      · exact ⟨ops, [], rfl, yields, by simp⟩
  · rintro ⟨front, back, rfl, yields, held⟩
    rw [after_append, after_cons]
    exact finished_run ((step_steps _ .tryRecv).finishes yields) held

/-! ## Answers of a run -/

/-- An answer of a run is one operation's, at the channel that those before it
left. -/
theorem mem_answers :
    answer ∈ c.answers ops ↔
      ∃ before op after, ops = before ++ op :: after ∧ ((c.after before).step op).1 = answer := by
  constructor
  · intro mem
    induction ops generalizing c with
    | nil => simp at mem
    | cons op ops ih =>
      rw [answers_cons, List.mem_cons] at mem
      obtain rfl | later := mem
      · exact ⟨[], op, ops, rfl, rfl⟩
      · obtain ⟨before, op', after, rfl, answers⟩ := ih later
        exact ⟨op :: before, op', after, rfl, answers⟩
  · rintro ⟨before, op, after, rfl, rfl⟩
    simp

/-- Only a wait on a finished receiver half misuses it. -/
theorem Steps.misuse_iff (steps : Steps c op answer d) :
    answer = .misuse ↔ op = .wait ∧ c.receiver = .finished := by
  cases steps with
  | told | unlistened | unreceived | repeated => simp
  | refused _ gone => cases op <;> simp [Op.refusal, gone]
  | delayed _ waiting => cases op <;> simp [Op.delay, waiting]
  | yielded _ waiting => simp [waiting]
  | misused finished => simp [finished]

/-- What is ready is the first outcome, if there will ever be one. -/
theorem ready_eq_first {first o : Outcome α} (told : (c.after ops).told = some first)
    (ready : c.ready = some o) : o = first := by
  rw [told_run] at told
  unfold Channel.ready at ready
  cases before : c.told with
  | some o' => simp_all
  | none => cases listening : c.listening <;> simp_all

/-- Where the first outcome is not the abandonment itself, the abandonment is
reported only by a `tryRecv` on a finished receiver half. -/
theorem Steps.abandonment_iff (steps : Steps c op answer d)
    (ready : c.ready ≠ some (.error abandoned)) :
    answer = .outcome (.error abandoned) ↔ op = .tryRecv ∧ c.receiver = .finished := by
  cases steps with
  | told | unlistened | unreceived | misused => simp
  | refused _ gone => cases op <;> simp [Op.refusal, gone]
  | delayed _ waiting => cases op <;> simp [Op.delay, waiting]
  | yielded _ waiting some =>
    rw [some] at ready
    simpa [waiting] using ready
  | repeated finished => simp [finished]

/-- A run misuses the receiver half exactly if it waits on one whose outcome was
taken. If an outcome reached the listener half, a run reports the abandonment
exactly if it tries a receiver half again whose outcome was taken. -/
theorem reports_iff_taken (ops : List (Op α)) :
    (.misuse ∈ Channel.fresh.answers ops ↔
      ∃ before after, ops = before ++ .wait :: after ∧ Taken before) ∧
    ∀ first, (reaching ops).head? = some first → first ≠ .error abandoned →
      (.outcome (.error abandoned) ∈ Channel.fresh.answers ops ↔
        ∃ before after, ops = before ++ .tryRecv :: after ∧ Taken before) := by
  refine ⟨?_, fun first reaches own => ?_⟩
  · rw [mem_answers]
    constructor
    · rintro ⟨before, op, after, rfl, misuse⟩
      obtain ⟨rfl, finished⟩ := (step_steps _ op).misuse_iff.mp misuse
      exact ⟨before, after, rfl, finished_iff_taken.mp finished⟩
    · rintro ⟨before, after, rfl, taken⟩
      exact ⟨before, .wait, after, rfl,
        (step_steps _ _).misuse_iff.mpr ⟨rfl, finished_iff_taken.mpr taken⟩⟩
  · rw [mem_answers]
    have ready {before rest : List (Op α)} (split : ops = before ++ rest) :
        (Channel.fresh.after before).ready ≠ some (.error abandoned) := by
      rw [← told_after, split, after_append] at reaches
      exact fun ready => own (ready_eq_first reaches ready).symm
    constructor
    · rintro ⟨before, op, after, split, answer⟩
      obtain ⟨rfl, finished⟩ := ((step_steps _ op).abandonment_iff (ready split)).mp answer
      exact ⟨before, after, split, finished_iff_taken.mp finished⟩
    · rintro ⟨before, after, split, taken⟩
      exact ⟨before, .tryRecv, after, split,
        ((step_steps _ _).abandonment_iff (ready split)).mpr
          ⟨rfl, finished_iff_taken.mpr taken⟩⟩

/-- The second `tryRecv` on a channel that was told a value is such a one. -/
theorem told_seven_abandoned :
    .outcome (.error abandoned) ∈
      Channel.fresh.answers [.notify (.ok (7 : UInt16)), .tryRecv, .tryRecv] :=
  ((reports_iff_taken _).2 (.ok 7) rfl (by simp)).mpr
    ⟨[.notify (.ok 7), .tryRecv], [], rfl, [.notify (.ok 7)], [], rfl, rfl, by simp⟩

/-- Told a value, a channel reports an abandonment to the second `tryRecv`, and
does not bear a wait behind the first. -/
theorem told_seven_misreported :
    reaching [.notify (.ok 7), .tryRecv, .tryRecv] = [(.ok 7 : Outcome UInt16)] ∧
    Channel.fresh.answers [.notify (.ok 7), .tryRecv, .tryRecv] =
      [.nothing, .outcome (.ok (7 : UInt16)), .outcome (.error abandoned)] ∧
    Channel.fresh.answers [.notify (.ok 7), .tryRecv, .wait] =
      [.nothing, .outcome (.ok (7 : UInt16)), .misuse] :=
  ⟨rfl, rfl, rfl⟩

end PacketServer.Completion
