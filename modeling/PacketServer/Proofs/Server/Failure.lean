import PacketServer.Proofs.Server.Ownership
import PacketServer.Proofs.Server.Run

/-!
# A start that fails

A start fails if its groups cannot be built, if the address cannot be bound, or
if the bound address cannot be looked up. It has published nothing by then. It
tells its listener, aborts, and shuts down what it has put into the slot; it is
never kept waiting, since nobody else has the lock of the slot. Whatever calls
go on meanwhile, and whatever calls are made later, lose: nothing but their own
course changes any more.

## Main results

* `Reachable.withheld` — nothing is published before the address was looked up.
* `Fails.step` — what is known of a start behind its failure.
* `Spent.step` — on a server whose start has failed every call is refused.
* `Reachable.failed_start` — what becomes of a start that fails, and of the
  server.
-/

namespace PacketServer.Server

variable {config : Config} {world : World} {s s₁ s' : System} {bindings : List Address}
  {t j : Nat} {c c' d : Call} {cause : Fault} {label : Label} {labels : List Label}

/-! ## Before anything is published -/

/-- The points of a start at which it has published nothing. -/
def Point.withholds : Point → Bool
  | .build | .store _ | .bind | .lookUp _ | .publishPool _ => true
  | _ => false

/-- The points at which a start publishes. -/
def Point.publishes : Point → Bool
  | .publishPool _ | .publishAddress _ => true
  | _ => false

/-- Neither a pool nor an address was published. -/
def System.Unpublished (s : System) : Prop := s.localAddress = none ∧ s.pool = none

/-- Nothing is published while starts withhold it. -/
structure Withheld (s : System) : Prop where
  early : s.phase = .created ∨ s.phase = .initialized → s.Unpublished
  starts : ∀ c ∈ s.calls, c.point.withholds = true → s.Unpublished

theorem Move.unpublished (move : Move config world t s c s₁ c')
    (elsewhere : c.point.publishes = false) (unpublished : s.Unpublished) : s₁.Unpublished := by
  cases move with
  | poolPublished here | addressPublished here => simp [here, Point.publishes] at elsewhere
  | _ => exact unpublished

/-- A start that withholds did so before, or has just begun. -/
theorem Move.withholds (move : Move config world t s c s₁ c')
    (withholds : c'.point.withholds = true) :
    c.point.publishes = false ∧ (c.point.withholds = true ∨ s.phase = .initialized) := by
  cases move with
  | begun here opens => exact ⟨by rw [here]; rfl, .inr opens⟩
  | built here | stored here | bound here | lookedUp here =>
    simp [here, Point.publishes, Point.withholds]
  | initialized here opens =>
    simp only [Call.goto] at withholds
    split at withholds <;> simp [Point.withholds] at withholds
  | abortedTaken here free =>
    cases slot : s.slot <;>
      simp [Call.goto, After.taken, After.resume, slot, Point.withholds] at withholds
  | @stopLost after here closed =>
    cases after <;> simp [Call.goto, After.answered, Point.withholds] at withholds
  | @taken after port here free =>
    cases slot : s.slot <;>
      simp [Call.goto, After.taken, After.resume, slot, Point.withholds] at withholds
  | @shutLast stage g after port here last =>
    cases port <;> cases after <;> simp [Call.goto, After.resume, Point.withholds] at withholds
  | @confirmed after port here =>
    cases after <;> simp [Call.goto, After.answered, Point.withholds] at withholds
  | _ => simp [Call.goto, Point.withholds] at withholds

theorem Standing.withholds {localAddress : Option Address} {point : Point}
    (stands : Standing config bindings localAddress c point) (withholds : point.withholds = true) :
    .beginStart ∈ c.won := by
  cases point <;> simp [Point.withholds] at withholds <;> exact stands.past rfl

theorem Standing.publishes {localAddress : Option Address} {point : Point}
    (stands : Standing config bindings localAddress c point) (publishes : point.publishes = true) :
    .beginStart ∈ c.won := by
  cases point <;> simp [Point.publishes] at publishes <;> exact stands.past rfl

theorem Withheld.move (withheld : Withheld s) (settled : Settled config s bindings)
    (present : s.calls[t]? = some c) (move : Move config world t s c s₁ c') :
    Withheld (s₁.place t c') := by
  have stands := settled.standing c (List.mem_of_getElem? present)
  have member := List.mem_of_getElem? present
  constructor
  · intro early
    have early := move.early early
    refine move.unpublished ?_ (withheld.early early)
    refine Bool.eq_false_iff.mpr fun publishes => ?_
    have late := settled.winners.begun present (stands.publishes publishes)
    exact early.elim late.1 late.2
  · intro d hd withholds
    obtain ⟨j, placed⟩ := List.mem_iff_getElem?.mp hd
    rcases System.place_calls_cases placed with ⟨rfl, rfl⟩ | ⟨other, old⟩
    · obtain ⟨elsewhere, before⟩ := move.withholds withholds
      refine move.unpublished elsewhere ?_
      rcases before with withholds | initialized
      · exact withheld.starts c member withholds
      · exact withheld.early (.inr initialized)
    · rw [move.calls] at old
      have member' := List.mem_of_getElem? old
      refine move.unpublished ?_ (withheld.starts d member' withholds)
      -- Two starts under way would have won the same beginning.
      refine Bool.eq_false_iff.mpr fun publishes => ?_
      exact other (settled.winners.unique old present
        ((settled.standing d member').withholds withholds) (stands.publishes publishes))

theorem Withheld.step (withheld : Withheld s) (settled : Settled config s bindings)
    (made : s.step config label = some s') : Withheld s' := by
  cases step_cases made with
  | called kind listened =>
    refine ⟨withheld.early, fun d hd withholds => ?_⟩
    rcases List.mem_append.mp hd with old | anew
    · exact withheld.starts d old withholds
    · obtain rfl := List.mem_singleton.mp anew
      cases kind <;> simp [Kind.entry, Point.withholds] at withholds
  | moved present move => exact withheld.move settled present move
  | looped present goes => exact ⟨withheld.early, withheld.starts⟩
  | tasked present goes => exact ⟨withheld.early, withheld.starts⟩

/-- **Nothing is published before the address was looked up.** -/
theorem Reachable.withheld (reachable : Reachable config s) : Withheld s := by
  induction reachable with
  | new => exact ⟨fun _ => ⟨rfl, rfl⟩, by simp [System.fresh]⟩
  | step label before made ih =>
    obtain ⟨bindings, history⟩ := before.history
    exact ih.step history.settled made

/-! ## Behind the failure -/

/-- The next step of a start fails: its groups cannot be built, the address
cannot be bound, or what was bound cannot be looked up. -/
inductive Call.Fails (c : Call) (world : World) (cause : Fault) : Prop
  | building (here : c.point = .build) (sound : world.crashes = false)
      (fails : world.build = .error cause)
  | binding (here : c.point = .bind) (sound : world.crashes = false)
      (fails : world.bind = .error cause)
  | lookingUp {address : Address} (here : c.point = .lookUp address)
      (fails : world.lookUp = .error cause)

theorem Call.Fails.withholds (fails : c.Fails world cause) : c.point.withholds = true := by
  cases fails <;> simp [*, Point.withholds]

theorem Call.Fails.advance (fails : c.Fails world cause) (present : s.calls[t]? = some c) :
    s.step config (.advance t world) = some (s.place t (c.goto (.reportFailure cause))) := by
  show s.advance config world t = _
  unfold System.advance
  cases fails <;> simp [*, System.goto_present present]

/-- How a start ends that failed. -/
def failure (config : Config) (cause : Fault) : Ending :=
  .answer (.error (System.startFault config cause))

/-- What is known of a start that failed, at a point behind its failure. -/
def Failed (config : Config) (cause : Fault) (c : Call) : Point → Prop
  | .reportFailure cause' => cause' = cause ∧ c.told = []
  | .cleanUp ending | .abort ending =>
    ending = failure config cause ∧ c.told = c.heard (.error cause)
  | .takeAborted ending | .shut _ _ (.finish ending) none | .ended ending =>
    ending = failure config cause ∧ c.told = c.heard (.error cause) ∧ .abortStart ∈ c.won
  | _ => False

/-- How many steps a start that failed has left at most. -/
def Point.left : Point → Nat
  | .reportFailure _ => 11
  | .cleanUp _ => 10
  | .abort _ => 9
  | .takeAborted _ => 8
  | .shut stage .. => stage.left
  | _ => 0

/-- A start that failed goes on to its end, step by step. -/
theorem Move.failed (move : Move config world t s c s₁ c')
    (failed : Failed config cause c c.point) (unmarked : .markStarted ∉ c.won)
    (holds : Holding s.shared t c c.point) :
    Failed config cause c' c'.point ∧ .markStarted ∉ c'.won ∧ c'.point.left < c.point.left := by
  cases move with
  | failureReported here =>
    rw [here] at failed ⊢
    obtain ⟨rfl, told⟩ := failed
    exact ⟨⟨rfl, by simp [told]⟩, unmarked, by simp [Call.goto, Point.left]⟩
  | cleanStarting here starting =>
    rw [here] at failed ⊢
    exact ⟨failed, unmarked, by simp [Call.goto, Point.left]⟩
  | cleanStarted here started =>
    rw [here] at holds
    rcases holds with ⟨starting, -⟩ | ⟨marked, -⟩
    · exact absurd (started.symm.trans starting) (by decide)
    · exact absurd marked unmarked
  | clean here notStarting notStarted =>
    rw [here] at holds
    rcases holds with ⟨starting, -⟩ | ⟨marked, -⟩
    · exact absurd starting notStarting
    · exact absurd marked unmarked
  | aborted here opens =>
    rw [here] at failed ⊢
    refine ⟨⟨failed.1, failed.2, by simp [Call.goto]⟩, ?_, by simp [Call.goto, Point.left]⟩
    simpa [Call.goto] using unmarked
  | notAborted here closed =>
    rw [here] at holds
    exact absurd holds.1 closed
  | abortedTaken here free =>
    rw [here] at failed ⊢
    cases s.slot with
    | none => exact ⟨failed, unmarked, by simp [Call.goto, Point.left, After.taken, After.resume]⟩
    | some g =>
      refine ⟨failed, unmarked, ?_⟩
      simp [Call.goto, Point.left, After.taken, ShutdownStage.left]
  | @shut stage next g after port here goesOn =>
    rw [here] at failed ⊢
    cases after <;> cases port <;> simp only [Failed] at failed
    exact ⟨failed, unmarked, ShutdownStage.next_left goesOn⟩
  | @shutLast stage g after port here last =>
    rw [here] at failed ⊢
    cases after <;> cases port <;> simp only [Failed] at failed
    exact ⟨failed, unmarked, stage.left_pos⟩
  | _ here => simp [here, Failed] at failed

/-- What is known of the server and of its start that failed. -/
structure Failing (config : Config) (cause : Fault) (t : Nat) (s : System) (c : Call) : Prop where
  unpublished : s.Unpublished
  present : s.calls[t]? = some c
  begun : .beginStart ∈ c.won
  unmarked : .markStarted ∉ c.won
  failed : Failed config cause c c.point

theorem Failed.silent (failed : Failed config cause c c.point) : c.point.publishes = false := by
  cases here : c.point <;> simp [here, Failed] at failed <;> rfl

/-- **What is known of a start behind its failure**, whoever makes a step. -/
theorem Failing.step (failing : Failing config cause t s c) (custody : Custody s)
    (settled : Settled config s bindings) (made : s.step config label = some s') :
    ∃ c', Failing config cause t s' c' ∧
      c'.point.left + (if label.isOf t then 1 else 0) ≤ c.point.left := by
  have present := failing.present
  cases step_cases made with
  | called kind listened =>
    exact ⟨c, { failing with present := System.enter_old present }, by simp [Label.isOf]⟩
  | looped there goes => exact ⟨c, { failing with }, by simp [Label.isOf]⟩
  | tasked there goes => exact ⟨c, { failing with }, by simp [Label.isOf]⟩
  | @moved j world d d' s₁ there move =>
    by_cases own : j = t
    · subst own
      obtain rfl : c = d := Option.some.inj (present.symm.trans there)
      obtain ⟨failed, unmarked, nearer⟩ :=
        move.failed failing.failed failing.unmarked (custody.holding j c present)
      refine ⟨d', ?_, by simpa [Label.isOf] using Nat.succ_le_of_lt nearer⟩
      exact
        { unpublished := move.unpublished failing.failed.silent failing.unpublished
          present := System.place_self present move.calls
          begun := move.keeps_won failing.begun
          unmarked := unmarked
          failed := failed }
    · refine ⟨c, ?_, by simp [Label.isOf, own]⟩
      have stands := settled.standing d (List.mem_of_getElem? there)
      have elsewhere : d.point.publishes = false := by
        refine Bool.eq_false_iff.mpr fun publishes => own ?_
        exact settled.winners.unique there present (stands.publishes publishes) failing.begun
      exact
        { failing with
          unpublished := move.unpublished elsewhere failing.unpublished
          present := step_keeps made present (by simpa [Label.isOf] using own) }

/-- Nobody keeps a start waiting that failed. -/
theorem Failing.goesOn (failing : Failing config cause t s c) (custody : Custody s)
    (settled : Settled config s bindings) (unended : c.ending = none) (world : World) :
    (s.step config (.advance t world)).isSome = true := by
  have present := failing.present
  have failed := failing.failed
  show (s.advance config world t).isSome = true
  unfold System.advance
  cases here : c.point with
  | takeAborted ending =>
    have free := custody.unlocked settled present failing.begun (by rw [here]; rfl)
    simp [present, here, free]
  | cleanUp ending =>
    cases s.phase <;> simp [present, here]
  | abort ending =>
    simp only [present, here, Option.bind_eq_bind, Option.bind_some]
    split <;> rfl
  | ended ending => simp [Call.ending, here] at unended
  | reportFailure | shut => simp [present, here]
  | _ => simp [here, Failed] at failed

/-! ## When every call is refused -/

/-- What refuses a call at a point, on a server whose start has failed. -/
def Point.refusal : Point → Option LifecycleError
  | .attemptInit => some .alreadyInitialized
  | .attemptStart => some .notStartable
  | .attemptStop .reply => some .alreadyShutdown
  | _ => none

/-- What refuses a call of a kind. -/
def Kind.refusal : Kind → LifecycleError
  | init | boot => .alreadyInitialized
  | start => .notStartable
  | stop => .alreadyShutdown

/-- A call that was refused: it says so, and its listener was told if it is a
start or a stop. -/
structure Call.Refused (c : Call) : Prop where
  answer : c.answer = some (.error (.lifecycle c.kind.refusal))
  won : c.won = []
  told : c.told = if c.kind = .start ∨ c.kind = .stop then
    c.heard (.error (.lifecycle c.kind.refusal)) else []

/-- A call that has made no step. -/
structure Call.Unmade (c : Call) : Prop where
  point : c.point = c.kind.entry
  won : c.won = []
  told : c.told = []

/-- A server on which a start has failed: nothing goes on there but calls that
will be refused. -/
structure Spent (s : System) : Prop where
  phase : s.phase = .shutdown
  dormant : ∀ g ∈ s.groups, g.Dormant
  calls : ∀ c ∈ s.calls, c.ending.isSome = true ∨ c.point.refusal.isSome = true

theorem Kind.entry_refusal (kind : Kind) : kind.entry.refusal = some kind.refusal := by
  cases kind <;> rfl

/-- A refusal changes its call and nothing else. -/
theorem Move.refused {refusal : LifecycleError} (move : Move config world t s c s₁ c')
    (phase : s.phase = .shutdown) (refused : c.point.refusal = some refusal) :
    s₁ = s ∧ c'.answer = some (.error (.lifecycle refusal)) ∧ c'.won = c.won ∧
      (c.Unmade → c'.Refused) := by
  have entry (unmade : c.Unmade) : c.kind.entry = c.point := unmade.point.symm
  cases move with
  | initialized here opens | begun here opens | stopBegun here opens => simp [phase] at opens
  | notInitialized here closed =>
    obtain rfl : .alreadyInitialized = refusal := by simpa [Point.refusal, here] using refused
    refine ⟨rfl, rfl, rfl, fun unmade => ?_⟩
    have entry := entry unmade
    cases kind : c.kind <;> simp only [kind, here, Kind.entry, reduceCtorEq] at entry
    all_goals
      constructor <;> simp [Call.answer, Call.goto, kind, Kind.refusal, unmade.won, unmade.told]
  | notBegun here closed =>
    obtain rfl : .notStartable = refusal := by simpa [Point.refusal, here] using refused
    refine ⟨rfl, rfl, rfl, fun unmade => ?_⟩
    have entry := entry unmade
    cases kind : c.kind <;> simp only [kind, here, Kind.entry, reduceCtorEq] at entry
    constructor <;>
      simp [Call.answer, Call.goto, Call.hear, Call.heard, kind, Kind.refusal, unmade.won,
        unmade.told]
  | @stopLost after here closed =>
    cases after with
    | finish ending => simp [Point.refusal, here] at refused
    | reply =>
      obtain rfl : .alreadyShutdown = refusal := by simpa [Point.refusal, here] using refused
      refine ⟨rfl, rfl, rfl, fun unmade => ?_⟩
      have entry := entry unmade
      cases kind : c.kind <;> simp only [kind, here, Kind.entry, reduceCtorEq] at entry
      constructor <;>
        simp [Call.answer, Call.goto, Call.hear, Call.hearStop, Call.heard, After.answered, kind,
          Kind.refusal, unmade.won, unmade.told]
  | _ here => simp [here, Point.refusal] at refused

/-- **A call that is about to be refused is refused**, with its next step. -/
theorem advance_refused {refusal : LifecycleError} (phase : s.phase = .shutdown)
    (present : s.calls[t]? = some c) (refused : c.point.refusal = some refusal) (world : World) :
    ∃ c', s.step config (.advance t world) = some (s.place t c') ∧
      c'.answer = some (.error (.lifecycle refusal)) ∧ c'.won = c.won ∧
        (c.Unmade → c'.Refused) := by
  obtain ⟨edge, attempts⟩ : ∃ edge, c.point.edge? = some edge := by
    cases here : c.point <;> simp [here, Point.refusal, Point.edge?] at refused ⊢
  have closed : s.phase ≠ edge.source := by
    rw [phase]
    cases edge <;> decide
  obtain ⟨c', made, -, -⟩ : ∃ c', s.advance config world t = some (s.place t c') ∧
      c'.won = c.won ∧ c'.ending.isSome = true := advance_lost present attempts closed
  obtain ⟨d, there, s₁, d', move, same⟩ := advance_move made
  obtain rfl : c = d := Option.some.inj (present.symm.trans there)
  obtain ⟨rfl, refused⟩ := move.refused phase refused
  exact ⟨d', made.trans (congrArg some same), refused⟩

/-- What a step does to a server on which a start has failed: a call is made, or
one is refused. -/
inductive Spending (s : System) : Label → System → Prop
  | called (kind : Kind) (listened : Bool) :
      Spending s (.call kind listened) (s.enter kind listened)
  | refused {t : Nat} {c c' : Call} {world : World} {refusal : LifecycleError}
      (present : s.calls[t]? = some c) (refused : c.point.refusal = some refusal)
      (answer : c'.answer = some (.error (.lifecycle refusal)))
      (told : c.Unmade → c'.Refused) : Spending s (.advance t world) (s.place t c')

theorem Spent.spending (spent : Spent s) (made : s.step config label = some s') :
    Spending s label s' := by
  cases step_cases made with
  | called kind listened => exact .called kind listened
  | @moved t world c c' s₁ present move =>
    rcases spent.calls c (List.mem_of_getElem? present) with ended | refused
    · simp [move.unended] at ended
    · obtain ⟨refusal, refused⟩ := Option.isSome_iff_exists.mp refused
      obtain ⟨rfl, answer, -, told⟩ := move.refused spent.phase refused
      exact .refused present refused answer told
  | looped present goes =>
    exact absurd (spent.dormant _ (List.mem_of_getElem? present))
      (Groups.loopStep_stir goes).not_dormant
  | tasked present goes =>
    exact absurd (spent.dormant _ (List.mem_of_getElem? present))
      (Groups.taskStep_stir goes).not_dormant

theorem Call.ending_of_answered {result : Except Fault Unit} (answer : c.answer = some result) :
    c.ending.isSome = true := by
  rw [Call.ending_of_answer answer]
  rfl

/-- **On a server whose start has failed** nothing changes but calls. -/
theorem Spending.spent (spending : Spending s label s') (spent : Spent s) :
    Spent s' ∧ s' = { s with calls := s'.calls } := by
  cases spending with
  | called kind listened =>
    refine ⟨{ spent with calls := fun d hd => ?_ }, rfl⟩
    rcases List.mem_append.mp hd with old | anew
    · exact spent.calls d old
    · obtain rfl := List.mem_singleton.mp anew
      exact .inr (by simp [kind.entry_refusal])
  | refused present refused answer told =>
    refine ⟨{ spent with calls := fun d hd => ?_ }, rfl⟩
    obtain ⟨j, placed⟩ := List.mem_iff_getElem?.mp hd
    rcases System.place_calls_cases placed with ⟨-, rfl⟩ | ⟨-, old⟩
    · exact .inl (Call.ending_of_answered answer)
    · exact spent.calls d (List.mem_of_getElem? old)

/-- What is known of a server, and of the calls on it, since a start on it has
failed. -/
structure Since (s s' : System) : Prop where
  spent : Spent s'
  /-- Nothing has changed but calls. -/
  unchanged : s' = { s with calls := s'.calls }
  /-- Calls that had ended are as they were. -/
  kept : ∀ (j : Nat) (d : Call), s.calls[j]? = some d → d.ending.isSome = true →
    s'.calls[j]? = some d
  /-- Calls that were made since have been refused, unless they have made no
  step. -/
  refused : ∀ (j : Nat) (d : Call), s.calls.length ≤ j → s'.calls[j]? = some d →
    d.Unmade ∨ d.Refused

/-- **Whatever call has not ended is refused** with its next step. -/
theorem Spent.pending (spent : Spent s) (present : s.calls[j]? = some d) (unended : d.ending = none)
    (world : World) :
    ∃ refusal, d.point.refusal = some refusal ∧ ∃ d',
      s.step config (.advance j world) = some (s.place j d') ∧
        d'.answer = some (.error (.lifecycle refusal)) ∧ d'.won = d.won ∧
          (d.Unmade → d'.Refused) := by
  rcases spent.calls d (List.mem_of_getElem? present) with ended | refused
  · simp [unended] at ended
  · obtain ⟨refusal, refused⟩ := Option.isSome_iff_exists.mp refused
    exact ⟨refusal, refused, advance_refused spent.phase present refused world⟩

theorem Since.refl (spent : Spent s) : Since s s where
  spent := spent
  unchanged := rfl
  kept := fun _ _ present _ => present
  refused := by
    intro j d late present
    obtain ⟨hlt, -⟩ := List.getElem?_eq_some_iff.mp present
    omega

/-- A call made since the start failed, behind a step. -/
theorem Since.latecomer {s₂ : System} (since : Since s s₁) (spending : Spending s₁ label s₂)
    (late : s.calls.length ≤ j) (present : s₂.calls[j]? = some d) : d.Unmade ∨ d.Refused := by
  cases spending with
  | called kind listened =>
    rcases Nat.lt_or_ge j s₁.calls.length with old | anew
    · refine since.refused j d late ?_
      simpa [System.enter, List.getElem?_append_left old] using present
    · simp only [System.enter, List.getElem?_append_right anew, List.getElem?_singleton] at present
      split at present
      · cases present
        exact .inl ⟨rfl, rfl, rfl⟩
      · cases present
  | @refused t c c' world refusal there refused answer told =>
    rcases System.place_calls_cases present with ⟨rfl, rfl⟩ | ⟨-, old⟩
    · rcases since.refused j c late there with unmade | refused'
      · exact .inr (told unmade)
      · have here := Call.point_of_ending (Call.ending_of_answer refused'.answer)
        simp [here, Point.refusal] at refused
    · exact since.refused j d late old

/-- **Later on nothing changes but calls**, and they are refused. -/
theorem Since.run (spent : Spent s) (ran : s.run config labels = some s') : Since s s' := by
  refine System.run_induction (motive := fun _ s' => Since s s') (.refl spent) ?_ ran
  intro labels label s₁ s₂ since made
  have spending := since.spent.spending made
  obtain ⟨spent, same⟩ := spending.spent since.spent
  exact
    { spent := spent
      unchanged := by rw [same, since.unchanged]
      kept := fun j d present ended => step_ended made (since.kept j d present ended) ended
      refused := fun j d late present => since.latecomer spending late present }

/-! ## What becomes of the server -/

/-- A server that a start has cleaned up which failed. -/
structure Cleaned (config : Config) (s : System) : Prop where
  phase : s.phase = .shutdown
  slot : s.slot = none
  localAddress : s.localAddress = none
  pool : s.pool = none
  groups : ∀ g ∈ s.groups, g.shutdowns = 1 ∧ g.Down
  port : s.port config = config.port

/-- What becomes of the start of number `t`, which has just failed, and of the
server, in any run from there. -/
structure FailedStart (config : Config) (cause : Fault) (t : Nat) (s : System) : Prop where
  /-- The start returns: it never waits, and makes at most eleven steps. -/
  returns : ∀ labels s', s.run config labels = some s' → labels.countP (·.isOf t) ≤ 11 ∧
    ∃ c, s'.calls[t]? = some c ∧
      (c.ending.isSome = true ∨ ∀ world, (s'.step config (.advance t world)).isSome = true)
  /-- Its listener is told of the failure, and of nothing else. -/
  told : ∀ labels s' c, s.run config labels = some s' → s'.calls[t]? = some c →
    c.told = [] ∨ c.told = c.heard (.error cause)
  /-- It returns the cause that its listener was told, and leaves nothing. -/
  returned : ∀ labels s' c, s.run config labels = some s' → s'.calls[t]? = some c →
    c.ending.isSome = true →
      c.answer = some (.error
        (.service ("server start exception, port=" ++ config.port.text) cause)) ∧
      c.told = c.heard (.error cause) ∧ Cleaned config s'
  /-- Behind its return every call is refused, and nothing changes. -/
  final : ∀ labels s' c, s.run config labels = some s' → s'.calls[t]? = some c →
    c.ending.isSome = true → ∀ labels' s'', s'.run config labels' = some s'' →
      Since s' s'' ∧ ∀ j d world, s''.calls[j]? = some d → d.ending = none →
        ∃ refusal, d.point.refusal = some refusal ∧ ∃ d',
          s''.step config (.advance j world) = some (s''.place j d') ∧
            d'.answer = some (.error (.lifecycle refusal)) ∧ d'.won = d.won ∧
              (d.Unmade → d'.Refused)

theorem Failing.told (failing : Failing config cause t s c) :
    c.told = [] ∨ c.told = c.heard (.error cause) := by
  have failed := failing.failed
  cases here : c.point with
  | reportFailure cause' =>
    rw [here] at failed
    exact .inl failed.2
  | cleanUp | abort =>
    rw [here] at failed
    exact .inr failed.2
  | takeAborted | ended =>
    rw [here] at failed
    exact .inr failed.2.1
  | shut stage g after port =>
    rw [here] at failed
    cases after <;> cases port <;> simp only [Failed] at failed
    exact .inr failed.2.1
  | _ => simp [here, Failed] at failed

/-- What a start that failed has come to when it has ended. -/
theorem Failing.ended (failing : Failing config cause t s c) (ended : c.ending.isSome = true) :
    c.answer = some (.error (System.startFault config cause)) ∧
      c.told = c.heard (.error cause) ∧ .abortStart ∈ c.won := by
  obtain ⟨ending, here⟩ := Call.ended_of_isSome ended
  have failed := failing.failed
  rw [here] at failed
  obtain ⟨rfl, told, aborted⟩ := failed
  exact ⟨by simp [Call.answer, here, failure], told, aborted⟩

theorem Failing.cleaned (failing : Failing config cause t s c) (custody : Custody s)
    (ended : c.ending.isSome = true) : Cleaned config s := by
  obtain ⟨-, -, aborted⟩ := failing.ended ended
  obtain ⟨ending, here⟩ := Call.ended_of_isSome ended
  have holds := custody.holding t c failing.present
  rw [here] at holds
  obtain ⟨phase, -, left⟩ := holds.1 failing.begun
  obtain ⟨empty, down⟩ := left aborted
  obtain ⟨noAddress, noPool⟩ := failing.unpublished
  exact
    { phase := phase
      slot := empty
      localAddress := noAddress
      pool := noPool
      groups := fun g hg => ⟨(custody.orderly g hg).down (down g hg).workers, down g hg⟩
      port := by simp [System.port, noAddress] }

/-- Behind a start that failed there are only calls that have ended, or are about
to be refused. -/
theorem Failing.spent (failing : Failing config cause t s c) (custody : Custody s)
    (settled : Settled config s bindings) (ended : c.ending.isSome = true) : Spent s := by
  have present := failing.present
  obtain ⟨-, -, aborted⟩ := failing.ended ended
  have winners := settled.winners
  refine
    { phase := winners.shutdown present aborted rfl
      dormant := custody.dormant ?_
      calls := ?_ }
  · intro marked
    obtain ⟨d, hd, marked⟩ := List.mem_flatMap.mp marked
    obtain ⟨j, there⟩ := List.mem_iff_getElem?.mp hd
    exact (winners.aborted present there aborted).1 marked
  · intro d hd
    obtain ⟨j, there⟩ := List.mem_iff_getElem?.mp hd
    have stands := settled.standing d hd
    -- Another call has begun no start, and none has begun a stop.
    have unstopped : .beginStop ∉ d.won := (winners.aborted present there aborted).2
    have begun (begun : .beginStart ∈ d.won) : d.ending.isSome = true := by
      obtain rfl : j = t := winners.unique there present begun failing.begun
      obtain rfl : c = d := Option.some.inj (present.symm.trans there)
      exact ended
    cases here : d.point with
    | attemptInit | attemptStart => exact .inr rfl
    | attemptStop after =>
      cases after with
      | reply => exact .inr rfl
      | finish ending =>
        rw [here] at stands
        exact .inl (begun stands.1.2.1)
    | ended ending => exact .inl (by simp [Call.ending, here])
    | readPort | take | confirm =>
      rw [here] at stands
      exact absurd (stands.past rfl) unstopped
    | shut stage g after port =>
      rw [here] at stands
      cases port with
      | none =>
        obtain ⟨ending, -, started, -⟩ := stands
        exact .inl (begun started.2.1)
      | some port => exact absurd (stands.past rfl) unstopped
    | _ =>
      rw [here] at stands
      exact .inl (begun (stands.past rfl))

/-- A start that has just failed. -/
theorem Call.Fails.failing (fails : c.Fails world cause) (reachable : Reachable config s)
    (present : s.calls[t]? = some c) :
    Failing config cause t (s.place t (c.goto (.reportFailure cause)))
      (c.goto (.reportFailure cause)) := by
  obtain ⟨bindings, history⟩ := reachable.history
  have member := List.mem_of_getElem? present
  have stands := history.settled.standing c member
  have unmarked : .markStarted ∉ c.won := by
    intro marked
    have winnable := reachable.custody.winnable c member _ marked
    cases fails with
    | building here | binding here | lookingUp here => simp [here, Point.winnable] at winnable
  have told : c.told = [] := by
    cases fails with
    | building here | binding here | lookingUp here =>
      rw [here] at stands
      exact stands.2.1
  exact
    { unpublished := reachable.withheld.starts c member fails.withholds
      present := System.place_self present rfl
      begun := stands.withholds fails.withholds
      unmarked := unmarked
      failed := ⟨rfl, told⟩ }

/-- What is known of a start that failed, in any run from there. -/
theorem Failing.run (failing : Failing config cause t s c) (reachable : Reachable config s)
    (ran : s.run config labels = some s') :
    Reachable config s' ∧ ∃ c', Failing config cause t s' c' ∧
      c'.point.left + labels.countP (·.isOf t) ≤ c.point.left := by
  refine System.run_induction (motive := fun labels s' => Reachable config s' ∧
    ∃ c', Failing config cause t s' c' ∧
      c'.point.left + labels.countP (·.isOf t) ≤ c.point.left) ?_ ?_ ran
  · exact ⟨reachable, c, failing, by simp⟩
  · rintro labels label s₁ s₂ ⟨reachable, c₁, failing, nearer⟩ made
    obtain ⟨bindings, history⟩ := reachable.history
    obtain ⟨c₂, failing, step⟩ := failing.step reachable.custody history.settled made
    refine ⟨.step label reachable made, c₂, failing, ?_⟩
    rw [List.countP_append, List.countP_singleton]
    omega

theorem Point.left_le (point : Point) : point.left ≤ 11 := by
  cases point with
  | shut stage => cases stage <;> simp [Point.left, ShutdownStage.left]
  | _ => simp [Point.left]

/-- Every run from a failure takes the start to its end and the server to its
own. -/
theorem Failing.failedStart (failing : Failing config cause t s c)
    (reachable : Reachable config s) : FailedStart config cause t s := by
  have later {labels s' c'} (ran : s.run config labels = some s')
      (present : s'.calls[t]? = some c') :
      Reachable config s' ∧ Failing config cause t s' c' := by
    obtain ⟨reachable, d, failing, -⟩ := failing.run reachable ran
    obtain rfl : d = c' := Option.some.inj (failing.present.symm.trans present)
    exact ⟨reachable, failing⟩
  refine { returns := ?_, told := ?_, returned := ?_, final := ?_ }
  · intro labels s' ran
    obtain ⟨reachable, d, failing, few⟩ := failing.run reachable ran
    obtain ⟨bindings, history⟩ := reachable.history
    have most := c.point.left_le
    refine ⟨by omega, d, failing.present, ?_⟩
    cases ended : d.ending with
    | some ending => exact .inl rfl
    | none => exact .inr (failing.goesOn reachable.custody history.settled ended)
  · intro labels s' c' ran present
    exact (later ran present).2.told
  · intro labels s' c' ran present ended
    obtain ⟨reachable, failing⟩ := later ran present
    obtain ⟨answer, told, -⟩ := failing.ended ended
    exact ⟨answer, told, failing.cleaned reachable.custody ended⟩
  · intro labels s' c' ran present ended labels' s'' ran'
    obtain ⟨reachable, failing⟩ := later ran present
    obtain ⟨bindings, history⟩ := reachable.history
    have since := Since.run (failing.spent reachable.custody history.settled ended) ran'
    exact ⟨since, fun j d world present unended => since.spent.pending present unended world⟩

/-- **What becomes of a start that fails**, and of the server, whatever calls go
on meanwhile and are made later. -/
theorem Reachable.failed_start (reachable : Reachable config s) (present : s.calls[t]? = some c)
    (fails : c.Fails world cause) :
    ∃ s₁, s.step config (.advance t world) = some s₁ ∧ FailedStart config cause t s₁ := by
  have made : s.step config (.advance t world) = _ := fails.advance present
  exact ⟨_, made, (fails.failing reachable present).failedStart (.step _ reachable made)⟩

/-- A stop and another start come while the server is starting, then the address
cannot be bound. The start returns with its groups shut down, and a second round
of calls is refused. -/
theorem failed_start_of_occupied_address :
    let config := Config.ofPort none (.number 80)
    let cause := Fault.closed
    let world : World := { bind := .error cause }
    let calls : List Label := [.call .init false, .call .start true, .call .start true,
      .call .stop true]
    let before := calls ++ [0, 1, 1, 2, 1, 3].map (Label.advance · world)
    let later := List.replicate 11 (Label.advance 1 world) ++ calls ++
      [7, 6, 5, 4].map (Label.advance · world)
    ∃ s c, System.fresh.run config before = some s ∧ s.calls[1]? = some c ∧
      c.Fails world cause ∧ ∃ s₁, s.step config (.advance 1 world) = some s₁ ∧
        FailedStart config cause 1 s₁ ∧ ∃ s', s₁.run config later = some s' ∧
          s'.groups.map (·.shutdowns) = [1] ∧
          s'.calls.map (fun c => (c.answer.map (·.toOption), c.told.map (·.toOption))) =
            [(some (some ()), []), (some none, [none]), (some none, [none]), (some none, [none]),
              (some none, []), (some none, [none]), (some none, [none]), (some none, [none])] := by
  intro config cause world calls before later
  have binds : ((System.fresh.run config before).map fun s => (s.calls[1]?).map
      (·.binds { bind := .ok (Address.ofIp .any4 (.assigned 1)) })) =
      some (some [Address.ofIp .any4 (.assigned 1)]) := by
    decide +kernel
  have ends : ((System.fresh.run config (before ++ .advance 1 world :: later)).map fun s =>
      (s.groups.map (·.shutdowns),
        s.calls.map fun c => (c.answer.map (·.toOption), c.told.map (·.toOption)))) =
      some ([1], [(some (some ()), []), (some none, [none]), (some none, [none]),
        (some none, [none]), (some none, []), (some none, [none]), (some none, [none]),
        (some none, [none])]) := by
    decide +kernel
  obtain ⟨s, ran, seen⟩ := Option.map_eq_some_iff.mp binds
  obtain ⟨c, present, here⟩ := Option.map_eq_some_iff.mp seen
  have here : c.point = .bind := by
    refine Classical.byContradiction fun elsewhere => ?_
    simp [Call.binds_of_point elsewhere] at here
  have fails : c.Fails world cause := .binding here rfl rfl
  obtain ⟨s₁, made, failed⟩ := (Reachable.new.run ran).failed_start present fails
  obtain ⟨s', ran', seen⟩ := Option.map_eq_some_iff.mp ends
  rw [System.run_append, ran, Option.bind_some, System.run_cons, made, Option.bind_some] at ran'
  obtain ⟨shut, answers⟩ := Prod.mk.inj seen
  exact ⟨s, c, ran, present, fails, s₁, made, failed, s', ran', shut, answers⟩

end PacketServer.Server
