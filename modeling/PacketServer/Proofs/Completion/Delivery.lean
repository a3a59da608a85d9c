import Mathlib.Data.List.Forall2
import PacketServer.Completion

/-!
# What a completion channel delivers

The two halves of a channel are given up, told and asked in any order, by any
number of callers. A channel lets one operation happen at a time, so what they
all do is one list of operations; a call that waits stands in it where it comes
back.

What is there for the receiver depends on the operations before alone: `due` is
the first outcome that reached the listener half, or the abandonment once that
half was given up untold. The first answer that carries anything carries what is
due.

That later outcomes are not delivered, and the first one not twice, cannot be
seen in the answers: two outcomes may be equal, and one may be the very fault of
an abandoned channel. It is said instead by changing them. Whatever outcomes the
callers bring, with the same operations otherwise, the answers are the same
except in one place at most, and there stands the first outcome. The invariant
behind it is `Channel.Alike`: two such runs keep channels that differ in the
outcome told only.

## Main results

* `step_steps` — what one operation can do.
* `told_after`, `listening_after` — what a run makes of the listener half.
* `waiting_run` — a receiver half that has yielded nothing still waits.
* `answers_of_not_waiting`, `settles` — where answers depend on outcomes.
* `delivers_first_once` — what a channel promises, after any run.
-/

namespace PacketServer.Completion

variable {α : Type} {c c' d : Channel α} {op op' : Op α} {ops ops' : List (Op α)}
  {answer : Answer α}

/-! ## Runs -/

/-- The answers to a sequence of operations. -/
def Channel.answers (c : Channel α) (ops : List (Op α)) : List (Answer α) := (c.run ops).1

/-- The channel after a sequence of operations. -/
def Channel.after (c : Channel α) (ops : List (Op α)) : Channel α := (c.run ops).2

@[simp] theorem answers_nil : c.answers [] = [] := rfl

@[simp] theorem after_nil : c.after [] = c := rfl

@[simp] theorem answers_cons :
    c.answers (op :: ops) = (c.step op).1 :: (c.step op).2.answers ops := rfl

@[simp] theorem after_cons : c.after (op :: ops) = (c.step op).2.after ops := rfl

@[simp] theorem after_append (c : Channel α) (ops ops' : List (Op α)) :
    c.after (ops ++ ops') = (c.after ops).after ops' := by
  induction ops generalizing c with
  | nil => rfl
  | cons op ops ih => exact ih (c.step op).2

@[simp] theorem answers_append (c : Channel α) (ops ops' : List (Op α)) :
    c.answers (ops ++ ops') = c.answers ops ++ (c.after ops).answers ops' := by
  induction ops generalizing c with
  | nil => rfl
  | cons op ops ih => exact congrArg ((c.step op).1 :: ·) (ih (c.step op).2)

/-! ## What is due -/

/-- Whether the operation gives up the listener half. -/
def Op.dropsListener : Op α → Bool
  | .dropListener => true
  | _ => false

/-- Whether the operation gives up the receiver half. -/
def Op.dropsReceiver : Op α → Bool
  | .dropReceiver => true
  | _ => false

/-- Whether the operation asks the receiver half for the outcome. -/
def Op.asks : Op α → Bool
  | .tryRecv | .wait => true
  | _ => false

/-- The outcomes that reach the listener half: those it is told before it is
given up. -/
def reaching : List (Op α) → List (Outcome α)
  | [] => []
  | .notify o :: ops => o :: reaching ops
  | .dropListener :: _ => []
  | .dropReceiver :: ops | .tryRecv :: ops | .wait :: ops => reaching ops

/-- What there is for the receiver after a sequence of operations: the first
outcome that reached the listener half; the abandonment if that half was given
up without any; else nothing. -/
def due (ops : List (Op α)) : Option (Outcome α) :=
  match reaching ops with
  | first :: _ => some first
  | [] => if ops.any Op.dropsListener then some (.error abandoned) else none

/-- What an answer carries. -/
def Answer.yield? : Answer α → Option (Outcome α)
  | .outcome o => some o
  | _ => none

/-- The answer of a receiver half that is gone. -/
def Op.refusal : Op α → Answer α
  | .tryRecv => .noReceiver
  | _ => .wouldBlock

/-- The answer of a receiver half for which nothing is there. -/
def Op.delay : Op α → Answer α
  | .tryRecv => .pending
  | _ => .wouldBlock

/-- What an operation leaves of a receiver half that yields to it. -/
def Op.leaving : Op α → Receiver
  | .tryRecv => .finished
  | _ => .gone

/-! ## One operation -/

/-- What an operation does to a channel, with its answer. -/
inductive Steps (c : Channel α) : Op α → Answer α → Channel α → Prop
  | told (o : Outcome α) : Steps c (.notify o) .nothing (c.notify o)
  | unlistened : Steps c .dropListener .nothing { c with listening := false }
  | unreceived : Steps c .dropReceiver .nothing { c with receiver := .gone }
  /-- There is no receiver half to ask. -/
  | refused {op : Op α} (asks : op.asks = true) (gone : c.receiver = .gone) :
      Steps c op op.refusal c
  /-- The receiver half waits, and nothing is there. -/
  | delayed {op : Op α} (asks : op.asks = true) (waiting : c.receiver = .waiting)
      (ready : c.ready = none) : Steps c op op.delay c
  /-- The receiver half waits and takes what is there. -/
  | yielded {op : Op α} {o : Outcome α} (asks : op.asks = true)
      (waiting : c.receiver = .waiting) (ready : c.ready = some o) :
      Steps c op (.outcome o) { c with receiver := op.leaving }
  /-- The receiver half has finished, and is asked again. -/
  | repeated (finished : c.receiver = .finished) :
      Steps c .tryRecv (.outcome (.error abandoned)) c
  /-- The receiver half has finished, and is waited on. -/
  | misused (finished : c.receiver = .finished) :
      Steps c .wait .misuse { c with receiver := .gone }

theorem step_steps (c : Channel α) (op : Op α) : Steps c op (c.step op).1 (c.step op).2 := by
  cases op with
  | notify o => exact .told o
  | dropListener => exact .unlistened
  | dropReceiver => exact .unreceived
  | tryRecv =>
    show Steps c .tryRecv c.tryRecv.1 c.tryRecv.2
    unfold Channel.tryRecv
    cases hr : c.receiver with
    | gone => exact .refused rfl hr
    | finished => exact .repeated hr
    | waiting =>
      cases ready : c.ready with
      | none => exact .delayed rfl hr ready
      | some o => exact .yielded rfl hr ready
  | wait =>
    show Steps c .wait c.wait.1 c.wait.2
    unfold Channel.wait
    cases hr : c.receiver with
    | gone => exact .refused rfl hr
    | finished => exact .misused hr
    | waiting =>
      cases ready : c.ready with
      | none => exact .delayed rfl hr ready
      | some o => exact .yielded rfl hr ready

/-- Only a notification tells the listener half anything. -/
theorem Steps.told_eq (steps : Steps c op answer d) :
    d.told = c.told.or (if c.listening then (reaching [op]).head? else none) := by
  cases steps with
  | told o =>
    rw [notify_told]
    cases c.listening <;> cases c.told <;> rfl
  | refused asks | delayed asks | yielded asks => cases op <;> simp_all [Op.asks, reaching]
  | _ => simp [reaching]

theorem Steps.listening_eq (steps : Steps c op answer d) :
    d.listening = (c.listening && !op.dropsListener) := by
  cases steps with
  | told o =>
    show (c.notify o).listening = _
    unfold Channel.notify
    split <;> simp [Op.dropsListener]
  | refused asks | delayed asks | yielded asks => cases op <;> simp_all [Op.asks, Op.dropsListener]
  | _ => simp [Op.dropsListener]

@[simp] theorem notify_receiver (c : Channel α) (o : Outcome α) :
    (c.notify o).receiver = c.receiver := by
  unfold Channel.notify
  split <;> rfl

/-- A waiting receiver half goes on waiting unless it yields or is given up. -/
theorem Steps.waiting (steps : Steps c op answer d) (waiting : c.receiver = .waiting)
    (quiet : answer.yield? = none) (held : op.dropsReceiver = false) :
    d.receiver = .waiting := by
  cases steps with
  | told o => simpa using waiting
  | unlistened | delayed => exact waiting
  | unreceived => simp [Op.dropsReceiver] at held
  | refused _ gone => exact waiting
  | yielded => simp [Answer.yield?] at quiet
  | repeated finished | misused finished => simp [finished] at waiting

/-- What becomes of the receiver half. -/
theorem Steps.receiver_eq (steps : Steps c op answer d) :
    d.receiver =
      if op.dropsReceiver = true then .gone
      else if op.asks = true ∧ (c.receiver = .finished ∨
          c.receiver = .waiting ∧ c.ready.isSome = true) then op.leaving
      else c.receiver := by
  cases steps with
  | told o => simp [Op.dropsReceiver, Op.asks]
  | unlistened | unreceived => simp [Op.dropsReceiver, Op.asks]
  | refused asks gone => cases op <;> simp_all [Op.dropsReceiver, Op.asks]
  | delayed asks waiting ready | yielded asks waiting ready =>
    cases op <;> simp_all [Op.dropsReceiver, Op.asks]
  | repeated finished | misused finished => simp [finished, Op.dropsReceiver, Op.asks, Op.leaving]

/-- A receiver half that does not wait never will. -/
theorem Steps.not_waiting (steps : Steps c op answer d) (still : c.receiver ≠ .waiting) :
    d.receiver ≠ .waiting := by
  rw [steps.receiver_eq]
  split
  · simp
  · split
    · cases op <;> simp [Op.leaving]
    · exact still

/-- A receiver half that is given up stays gone. -/
theorem Steps.gone (steps : Steps c op answer d)
    (gone : c.receiver = .gone ∨ op.dropsReceiver = true) : d.receiver = .gone := by
  rw [steps.receiver_eq]
  obtain gone | dropped := gone
  · simp [gone]
  · simp [dropped]

/-- A receiver half that does not wait yields the abandonment or nothing. -/
theorem Steps.yield_of_not_waiting (steps : Steps c op answer d) (still : c.receiver ≠ .waiting) :
    ∀ o, answer.yield? = some o → o = .error abandoned := by
  intro o yields
  cases steps with
  | delayed _ waiting | yielded _ waiting => exact absurd waiting still
  | repeated => simpa [Answer.yield?, eq_comm] using yields
  | refused => cases op <;> simp [Op.refusal, Answer.yield?] at yields
  | _ => simp [Answer.yield?] at yields

/-- A receiver half that is gone refuses. -/
theorem Steps.refused_of_gone (steps : Steps c op answer d) (asks : op.asks = true)
    (gone : c.receiver = .gone) : answer = op.refusal := by
  cases steps with
  | told | unlistened | unreceived => simp [Op.asks] at asks
  | refused => rfl
  | delayed _ waiting | yielded _ waiting => simp [gone] at waiting
  | repeated finished | misused finished => simp [gone] at finished

/-- A receiver half that waits answers with what is ready. -/
theorem Steps.asked (steps : Steps c op answer d) (asks : op.asks = true)
    (waiting : c.receiver = .waiting) :
    answer = match c.ready with
      | some o => .outcome o
      | none => op.delay := by
  cases steps with
  | told | unlistened | unreceived => simp [Op.asks] at asks
  | refused _ gone => simp [gone] at waiting
  | delayed _ _ ready | yielded _ _ ready => rw [ready]
  | repeated finished | misused finished => simp [finished] at waiting

/-! ## What a run makes of the halves -/

/-- The first outcome that reaches the listener half is the one it is told. -/
theorem told_run (c : Channel α) (ops : List (Op α)) :
    (c.after ops).told = c.told.or (if c.listening then (reaching ops).head? else none) := by
  induction ops generalizing c with
  | nil => simp [reaching]
  | cons op ops ih =>
    rw [after_cons, ih, (step_steps c op).told_eq, (step_steps c op).listening_eq]
    cases c.listening <;> cases op <;> simp [reaching, Op.dropsListener]

theorem listening_run (c : Channel α) (ops : List (Op α)) :
    (c.after ops).listening = (c.listening && !ops.any Op.dropsListener) := by
  induction ops generalizing c with
  | nil => simp
  | cons op ops ih =>
    rw [after_cons, ih, (step_steps c op).listening_eq, List.any_cons, Bool.not_or,
      Bool.and_assoc]

theorem told_after (ops : List (Op α)) :
    (Channel.fresh.after ops).told = (reaching ops).head? := by
  simp [told_run, Channel.fresh]

theorem listening_after (ops : List (Op α)) :
    (Channel.fresh.after ops).listening = !ops.any Op.dropsListener := by
  simp [listening_run, Channel.fresh]

/-- What a fresh channel has ready is what is due. -/
theorem ready_after (ops : List (Op α)) : (Channel.fresh.after ops).ready = due ops := by
  unfold Channel.ready due
  rw [told_after, listening_after]
  cases reaching ops with
  | cons first later => rfl
  | nil => cases ops.any Op.dropsListener <;> rfl

/-- A receiver half that has yielded nothing and was not given up still waits. -/
theorem waiting_run (waiting : c.receiver = .waiting)
    (quiet : ∀ a ∈ c.answers ops, a.yield? = none) (held : ops.any Op.dropsReceiver = false) :
    (c.after ops).receiver = .waiting := by
  induction ops generalizing c with
  | nil => exact waiting
  | cons op ops ih =>
    rw [answers_cons, List.forall_mem_cons] at quiet
    rw [List.any_cons, Bool.or_eq_false_iff] at held
    exact ih ((step_steps c op).waiting waiting quiet.1 held.1) quiet.2 held.2

/-- A receiver half that was given up is gone. -/
theorem gone_run (gone : c.receiver = .gone ∨ ops.any Op.dropsReceiver = true) :
    (c.after ops).receiver = .gone := by
  induction ops generalizing c with
  | nil => simpa using gone
  | cons op ops ih =>
    rw [List.any_cons, Bool.or_eq_true, ← or_assoc] at gone
    exact ih (gone.imp_left (step_steps c op).gone)

/-! ## Changing the outcomes -/

/-- The same operation, but for the outcome that it may bring. -/
inductive Op.Alike : Op α → Op α → Prop
  | notify (o o' : Outcome α) : Alike (.notify o) (.notify o')
  | same (op : Op α) : Alike op op

/-- The same channel, but for the outcome that it may have been told. -/
structure Channel.Alike (c c' : Channel α) : Prop where
  told : c.told.isSome = c'.told.isSome
  listening : c.listening = c'.listening
  receiver : c.receiver = c'.receiver

/-- Whether an operation takes the outcome that the channel was told. -/
def Channel.Takes (c : Channel α) (op : Op α) : Prop :=
  c.receiver = .waiting ∧ op.asks = true ∧ c.told.isSome = true

theorem Channel.Alike.refl (c : Channel α) : c.Alike c := ⟨rfl, rfl, rfl⟩

theorem Channel.Alike.takes (alike : c.Alike c') (same : op.Alike op') :
    c.Takes op ↔ c'.Takes op' := by
  unfold Channel.Takes
  rw [alike.told, alike.receiver]
  cases same <;> rfl

/-- Channels that are alike have the same ready, unless it is an outcome. -/
theorem Channel.Alike.ready (alike : c.Alike c') (untold : c.told.isSome = false) :
    c.ready = c'.ready := by
  have untold' : c'.told = none := by simpa [untold] using alike.told.symm
  rw [Option.isSome_eq_false_iff, Option.isNone_iff_eq_none] at untold
  simp only [Channel.ready, untold, untold', alike.listening]

theorem Channel.Alike.ready_isSome (alike : c.Alike c') : c.ready.isSome = c'.ready.isSome := by
  have told := alike.told
  unfold Channel.ready
  cases h : c.told <;> cases h' : c'.told <;> simp_all [alike.listening]

theorem Op.Alike.flags (same : op.Alike op') :
    op.dropsListener = op'.dropsListener ∧ op.dropsReceiver = op'.dropsReceiver ∧
      op.asks = op'.asks ∧ op.leaving = op'.leaving ∧
      (reaching [op]).head?.isSome = (reaching [op']).head?.isSome := by
  cases same <;> exact ⟨rfl, rfl, rfl, rfl, rfl⟩

/-- An operation keeps channels alike. -/
theorem Channel.Alike.step (alike : c.Alike c') (same : op.Alike op') :
    (c.step op).2.Alike (c'.step op').2 := by
  obtain ⟨unlistened, unreceived, asks, leaving, reaches⟩ := same.flags
  refine ⟨?_, ?_, ?_⟩
  · rw [(step_steps c op).told_eq, (step_steps c' op').told_eq, Option.isSome_or,
      Option.isSome_or, alike.told, alike.listening]
    cases c'.listening
    · rfl
    · exact congrArg _ reaches
  · rw [(step_steps c op).listening_eq, (step_steps c' op').listening_eq, alike.listening,
      unlistened]
  · rw [(step_steps c op).receiver_eq, (step_steps c' op').receiver_eq, alike.receiver,
      alike.ready_isSome, unreceived, asks, leaving]

/-- An operation that does not take the outcome told is answered alike. -/
theorem Channel.Alike.step_answer (alike : c.Alike c') (same : op.Alike op')
    (leaves : ¬ c.Takes op) : (c'.step op').1 = (c.step op).1 := by
  have ready (waiting : c.receiver = .waiting) (asks : op.asks = true) : c'.ready = c.ready :=
    (alike.ready (by simpa [Channel.Takes, waiting, asks] using leaves)).symm
  cases same with
  | notify o o' => rfl
  | same =>
    cases op with
    | notify | dropListener | dropReceiver => rfl
    | tryRecv =>
      show c'.tryRecv.1 = c.tryRecv.1
      unfold Channel.tryRecv
      rw [← alike.receiver]
      cases hr : c.receiver with
      | gone | finished => rfl
      | waiting => rw [ready hr rfl]; cases c.ready <;> rfl
    | wait =>
      show c'.wait.1 = c.wait.1
      unfold Channel.wait
      rw [← alike.receiver]
      cases hr : c.receiver with
      | gone | finished => rfl
      | waiting => rw [ready hr rfl]; cases c.ready <;> rfl

/-- A receiver half that does not wait yields nothing but the abandonment,
whatever outcomes are brought. -/
theorem answers_of_not_waiting (ops : List (Op α)) (still : c.receiver ≠ .waiting) :
    (∀ a ∈ c.answers ops, ∀ o, a.yield? = some o → o = .error abandoned) ∧
      ∀ c' ops', c.Alike c' → List.Forall₂ Op.Alike ops ops' →
        c'.answers ops' = c.answers ops := by
  induction ops generalizing c with
  | nil =>
    refine ⟨by simp, ?_⟩
    rintro c' ops' - ⟨⟩
    rfl
  | cons op ops ih =>
    have steps := step_steps c op
    obtain ⟨yields, agree⟩ := ih (steps.not_waiting still)
    refine ⟨?_, ?_⟩
    · rw [answers_cons, List.forall_mem_cons]
      exact ⟨steps.yield_of_not_waiting still, yields⟩
    · rintro c' _ alike (_ | ⟨same, sames⟩)
      rw [answers_cons, answers_cons, alike.step_answer same fun takes => still takes.1,
        agree _ _ (alike.step same) sames]


/-- Where the answers depend on the outcomes that are brought: nowhere, and
nothing but the abandonment is yielded; or in one place, where the first outcome
that the channel was told is yielded, as the first thing of all. -/
def Channel.Settles (c : Channel α) (ops : List (Op α)) : Prop :=
  ((∀ a ∈ c.answers ops, ∀ o, a.yield? = some o → o = .error abandoned) ∧
    ∀ c' ops', c.Alike c' → List.Forall₂ Op.Alike ops ops' →
      c'.answers ops' = c.answers ops) ∨
  ∃ front back, (∀ a ∈ front, a.yield? = none) ∧
    (∀ a ∈ back, ∀ o, a.yield? = some o → o = .error abandoned) ∧
    ∀ c' ops', c.Alike c' → List.Forall₂ Op.Alike ops ops' →
      ∃ first, (c'.after ops').told = some first ∧
        c'.answers ops' = front ++ .outcome first :: back

/-- An operation that takes the outcome told is answered with it. -/
theorem answer_of_takes (takes : c.Takes op) :
    ∃ o, c.told = some o ∧ (c.step op).1 = .outcome o ∧ (c.step op).2.receiver ≠ .waiting := by
  obtain ⟨waiting, asks, told⟩ := takes
  obtain ⟨o, htold⟩ := Option.isSome_iff_exists.mp told
  have ready : c.ready = some o := by simp [Channel.ready, htold]
  have answer := (step_steps c op).asked asks waiting
  refine ⟨o, htold, by simpa [ready] using answer, ?_⟩
  rw [(step_steps c op).receiver_eq]
  cases op <;> simp_all [Op.asks, Op.dropsReceiver, Op.leaving]

/-- What is yielded is the outcome told or the abandonment. -/
theorem Steps.yields {o : Outcome α} (steps : Steps c op answer d) (leaves : ¬ c.Takes op)
    (yields : answer.yield? = some o) : o = .error abandoned ∧ d.receiver ≠ .waiting := by
  by_cases waiting : c.receiver = .waiting
  · cases steps with
    | told | unlistened | unreceived | misused => simp [Answer.yield?] at yields
    | refused _ gone => simp [gone] at waiting
    | delayed => cases op <;> simp [Op.delay, Answer.yield?] at yields
    | repeated finished => simp [finished] at waiting
    | yielded asks _ ready =>
      have untold : c.told = none := by simpa [Channel.Takes, waiting, asks] using leaves
      rw [Channel.ready, untold] at ready
      simp only [Answer.yield?, Option.some.injEq] at yields
      refine ⟨?_, by cases op <;> simp [Op.leaving]⟩
      cases hl : c.listening <;> simp_all
  · exact ⟨steps.yield_of_not_waiting waiting o yields, steps.not_waiting waiting⟩

theorem told_stays {o : Outcome α} (told : c.told = some o) (ops : List (Op α)) :
    (c.after ops).told = some o := by
  rw [told_run, told, Option.some_or]

/-- One place at most depends on the outcomes. -/
theorem settles (c : Channel α) (ops : List (Op α)) : c.Settles ops := by
  induction ops generalizing c with
  | nil =>
    left
    refine ⟨by simp, ?_⟩
    rintro c' ops' - ⟨⟩
    rfl
  | cons op ops ih =>
    by_cases takes : c.Takes op
    · -- The outcome is taken here, and the half that took it yields no other.
      right
      obtain ⟨-, -, -, still⟩ := answer_of_takes takes
      obtain ⟨yields, agree⟩ := answers_of_not_waiting ops still
      refine ⟨[], (c.step op).2.answers ops, by simp, yields, ?_⟩
      rintro c' _ alike (_ | ⟨same, sames⟩)
      obtain ⟨first, told, answer, -⟩ := answer_of_takes ((alike.takes same).mp takes)
      refine ⟨first, told_stays told _, ?_⟩
      rw [answers_cons, answer, agree _ _ (alike.step same) sames, List.nil_append]
    · cases yields : (c.step op).1.yield? with
      | some o =>
        -- The abandonment is yielded, and the half that yielded it no outcome.
        left
        obtain ⟨abandons, still⟩ := (step_steps c op).yields takes yields
        obtain ⟨later, agree⟩ := answers_of_not_waiting ops still
        refine ⟨?_, ?_⟩
        · rw [answers_cons, List.forall_mem_cons, yields]
          exact ⟨fun _ same => Option.some.inj same ▸ abandons, later⟩
        · rintro c' _ alike (_ | ⟨same, sames⟩)
          rw [answers_cons, answers_cons, alike.step_answer same takes,
            agree _ _ (alike.step same) sames]
      | none =>
        obtain ⟨later, agree⟩ | ⟨front, back, quiet, later, agree⟩ := ih (c.step op).2
        · left
          refine ⟨?_, ?_⟩
          · rw [answers_cons, List.forall_mem_cons, yields]
            exact ⟨by simp, later⟩
          · rintro c' _ alike (_ | ⟨same, sames⟩)
            rw [answers_cons, answers_cons, alike.step_answer same takes,
              agree _ _ (alike.step same) sames]
        · right
          refine ⟨(c.step op).1 :: front, back, List.forall_mem_cons.mpr ⟨yields, quiet⟩, later, ?_⟩
          rintro c' _ alike (_ | ⟨same, sames⟩)
          obtain ⟨first, told, answers⟩ := agree _ _ (alike.step same) sames
          refine ⟨first, told, ?_⟩
          rw [answers_cons, answers, alike.step_answer same takes, List.cons_append]

/-! ## What a channel promises -/

theorem ready_eq_none : c.ready = none ↔ c.told = none ∧ c.listening = true := by
  unfold Channel.ready
  cases c.told <;> simp

/-- Nothing is yielded, and nothing used up, while nothing is ready. -/
theorem Steps.quiet (steps : Steps c op answer d) (unfinished : c.receiver ≠ .finished)
    (ready : c.ready = none) : answer.yield? = none ∧ d.receiver ≠ .finished := by
  cases steps with
  | told o => exact ⟨rfl, by simpa using unfinished⟩
  | unlistened => exact ⟨rfl, unfinished⟩
  | unreceived => exact ⟨rfl, by simp⟩
  | refused => exact ⟨by cases op <;> rfl, unfinished⟩
  | delayed => exact ⟨by cases op <;> rfl, unfinished⟩
  | yielded _ _ some => simp [some] at ready
  | repeated finished | misused finished => exact absurd finished unfinished

/-- As long as nothing is ready, nothing has been yielded. -/
theorem quiet_run (unfinished : c.receiver ≠ .finished) (ready : (c.after ops).ready = none) :
    ∀ a ∈ c.answers ops, a.yield? = none := by
  induction ops generalizing c with
  | nil => simp
  | cons op ops ih =>
    rw [answers_cons, List.forall_mem_cons]
    have before : c.ready = none := by
      rw [ready_eq_none, told_run, listening_run] at ready
      rw [ready_eq_none]
      simp_all
    obtain ⟨quiet, still⟩ := (step_steps c op).quiet unfinished before
    exact ⟨quiet, ih still ready⟩

/-- What a channel promises after a sequence of operations. -/
structure Delivers (ops : List (Op α)) : Prop where
  /-- The listener half is completed once it has been told an outcome, whatever
  has become of the receiver half. -/
  completed : (Channel.fresh.after ops).isCompleted = true ↔ reaching ops ≠ []
  /-- As long as the listener half is held and untold, nothing is yielded. -/
  silent : ops.any Op.dropsListener = false → reaching ops = [] →
    (∀ a ∈ Channel.fresh.answers ops, a.yield? = none) ∧
      (Channel.fresh.after ops).tryRecv.1 =
        if ops.any Op.dropsReceiver then .noReceiver else .pending
  /-- A receiver half that is held and has yielded nothing yields what is due. -/
  first : (∀ a ∈ Channel.fresh.answers ops, a.yield? = none) →
    ops.any Op.dropsReceiver = false → ∀ op : Op α, op.asks = true →
      ((Channel.fresh.after ops).step op).1 =
        match due ops with
        | some o => .outcome o
        | none => op.delay
  /-- Whatever outcomes are brought instead, the answers are the same and carry
  none of them; or they are the same but for one, which is the first that carries
  anything, and that one carries the first outcome. -/
  once : ((∀ a ∈ Channel.fresh.answers ops, ∀ o, a.yield? = some o → o = .error abandoned) ∧
      ∀ ops', List.Forall₂ Op.Alike ops ops' →
        Channel.fresh.answers ops' = Channel.fresh.answers ops) ∨
    ∃ front back, (∀ a ∈ front, a.yield? = none) ∧
      (∀ a ∈ back, ∀ o, a.yield? = some o → o = .error abandoned) ∧
      ∀ ops', List.Forall₂ Op.Alike ops ops' →
        ∃ first, (reaching ops').head? = some first ∧
          Channel.fresh.answers ops' = front ++ .outcome first :: back

/-- Whatever is done with a channel, by whomever and in whatever order, it
delivers the first outcome once, and the abandonment only for want of one. -/
theorem delivers_first_once (ops : List (Op α)) : Delivers ops where
  completed := by
    rw [Channel.isCompleted, told_after]
    cases reaching ops <;> simp
  silent held untold := by
    have ready : (Channel.fresh.after ops).ready = none := by
      rw [ready_after, due, untold, held]
      rfl
    have quiet := quiet_run (by simp [Channel.fresh]) ready
    refine ⟨quiet, ?_⟩
    show ((Channel.fresh.after ops).step .tryRecv).1 = _
    cases dropped : ops.any Op.dropsReceiver with
    | true => exact (step_steps _ _).refused_of_gone rfl (gone_run (.inr dropped))
    | false =>
      have answer := (step_steps _ .tryRecv).asked rfl (waiting_run rfl quiet dropped)
      rwa [ready] at answer
  first quiet held op asks := by
    rw [← ready_after]
    exact (step_steps _ op).asked asks (waiting_run rfl quiet held)
  once := by
    obtain ⟨yields, agree⟩ | ⟨front, back, quiet, yields, agree⟩ := settles Channel.fresh ops
    · exact .inl ⟨yields, fun ops' same => agree _ ops' (.refl _) same⟩
    · refine .inr ⟨front, back, quiet, yields, fun ops' same => ?_⟩
      obtain ⟨first, told, answers⟩ := agree _ ops' (.refl _) same
      exact ⟨first, (told_after ops').symm.trans told, answers⟩

/-- The second outcome is ignored, and the first one is taken once. -/
example :
    Channel.fresh.answers
        [.tryRecv, .notify (.ok 8080), .notify (.error abandoned), .dropListener, .tryRecv] =
      [.pending, .nothing, .nothing, .nothing, .outcome (.ok 8080)] := rfl

end PacketServer.Completion
