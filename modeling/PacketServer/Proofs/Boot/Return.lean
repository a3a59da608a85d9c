import PacketServer.Proofs.Boot.Course

/-!
# A boot chain comes to an end

The thread of a chain makes at most four steps for each job, and if it cannot
make any it is at its end or waits for a first event. So if every job that is
started has a first event at some time, and the thread does not rest for ever,
the chain comes to an end.

## Main results

* `Chain.countP_isThread_le` — the steps of the thread are few.
* `Chain.Sound.canMove` — the thread can go on, or waits for a first event.
* `Fair.returns` — a chain whose jobs have first events comes to an end.
-/

namespace PacketServer.Boot

variable {names : List String} {c c' : Chain} {line : Line} {labels : List Label}
  {label : Label} {result : Except BootFault Unit}

/-! ## The steps of the thread -/

/-- Whether it is the thread of the chain that makes a step. -/
def Label.isThread : Label → Bool
  | .use .. => false
  | _ => true

/-- How many steps the thread makes from a point until it is about to run the
next job, or one more. -/
def Point.work : Point → Nat
  | .running => 4
  | .waiting => 3
  | .taken _ => 2
  | .next => 1
  | .finished _ => 0

/-- How many steps the thread makes at most. -/
def Chain.work (c : Chain) : Nat := 4 * c.remaining.length + c.point.work

/-- The thread of the chain can make a step. -/
def Chain.CanMove (c : Chain) : Prop :=
  ∃ label, label.isThread = true ∧ (c.step label).isSome = true

theorem Turn.work_lt (turn : Turn c label c') (thread : label.isThread = true) :
    c'.work < c.work := by
  cases turn with
  | ended here none => simp [Chain.work, Point.work, here]
  | launched here more =>
    simp only [Chain.work, Point.work, here, more, List.length_cons]
    omega
  | cameBack here | received here last found => simp [Chain.work, Point.work, here, Chain.onLast]
  | @hungUp event here =>
    cases event <;> simp [Chain.work, Point.work, here, Chain.onLast, Chain.react]
  | used present held => simp [Label.isThread] at thread

/-- What others do leaves the thread where it is. -/
theorem Turn.still (turn : Turn c label c') (others : label.isThread = false) :
    c'.work = c.work ∧ c'.point = c.point ∧ c'.lines.length = c.lines.length := by
  cases turn with
  | used present held => exact ⟨rfl, rfl, List.length_modify ..⟩
  | _ => simp [Label.isThread] at others

theorem Turn.length_le (turn : Turn c label c') : c.lines.length ≤ c'.lines.length := by
  cases turn with
  | launched here more => simp
  | hungUp here => simp [Chain.react_lines, Chain.onLast]
  | _ => simp [Chain.onLast]

/-- **The steps of the thread are few**, whatever others do in between. -/
theorem Chain.countP_isThread_le (followed : c.follow labels = some c') :
    labels.countP (·.isThread) + c'.work ≤ c.work := by
  induction labels generalizing c with
  | nil =>
    cases followed
    simp
  | cons label labels ih =>
    obtain ⟨c₁, made, followed⟩ := Option.bind_eq_some_iff.mp followed
    have rest := ih followed
    have turn := step_turn made
    cases thread : label.isThread with
    | true =>
      have less := turn.work_lt thread
      simp only [List.countP_cons, thread, if_true]
      omega
    | false =>
      have same := (turn.still thread).1
      simp only [List.countP_cons, thread, Bool.false_eq_true, if_false]
      omega

/-- **The thread can go on** unless it is at its end, or waits for a first
event. -/
theorem Chain.Sound.canMove (sound : c.Sound names)
    (unfinished : ∀ result, c.point ≠ .finished result)
    (event : c.point = .waiting →
      ∃ line, c.lines.getLast? = some line ∧ line.firstEvent?.isSome = true) : c.CanMove := by
  cases here : c.point with
  | next =>
    refine ⟨.launch, rfl, ?_⟩
    cases more : c.remaining <;> simp [Chain.step, here, more]
  | running => exact ⟨.comeBack, rfl, by simp [Chain.step, here]⟩
  | waiting =>
    obtain ⟨line, last, known⟩ := event here
    obtain ⟨signal, known⟩ := Option.isSome_iff_exists.mp known
    have found : line.find? = some signal := (sound.opened here last).find?.trans known
    exact ⟨.receive, rfl, by simp [Chain.step, here, last, found]⟩
  | taken signal => exact ⟨.hangUp, rfl, by simp [Chain.step, here]⟩
  | finished result => exact absurd here (unfinished result)

/-- A chain at its end stays there. -/
theorem Chain.not_canMove (isOver : c.point = .finished result) : ¬ c.CanMove := by
  rintro ⟨label, thread, made⟩
  cases label <;> simp [Chain.step, isOver, Label.isThread] at made thread

/-! ## Runs without an end -/

/-- A run of a chain, step by step, on which every job that is started has a
first event at some time. -/
structure Fair (names : List String) (run : Nat → Chain) : Prop where
  start : run 0 = .ofNames names
  /-- Somebody makes a step, or nobody does. -/
  steps : ∀ k, run (k + 1) = run k ∨ ∃ label, (run k).step label = some (run (k + 1))
  events : ∀ (k i : Nat) (line : Line), (run k).lines[i]? = some line → ∃ (k' : Nat) (line' : Line),
    k ≤ k' ∧ (run k').lines[i]? = some line' ∧ line'.firstEvent?.isSome = true
  /-- The thread of the chain, in a job or between jobs, does not rest for ever
  when it can go on. -/
  thread : ∀ k, (∀ k', k ≤ k' → (run k').CanMove) → ∃ k' label, k ≤ k' ∧
    label.isThread = true ∧ (run k').step label = some (run (k' + 1))

section

variable {run : Nat → Chain} {k k' : Nat}

theorem Fair.sound (fair : Fair names run) (k : Nat) : (run k).Sound names := by
  induction k with
  | zero =>
    rw [fair.start]
    exact Chain.sound_ofNames
  | succ k ih =>
    rcases fair.steps k with same | ⟨label, made⟩
    · rw [same]
      exact ih
    · exact ih.turn (step_turn made)

/-- As long as the thread makes no step it stays where it is. -/
theorem Fair.still (fair : Fair names run) (later : k ≤ k') :
    (run k').work < (run k).work ∨ (run k').work = (run k).work ∧
      (run k').point = (run k).point ∧ (run k').lines.length = (run k).lines.length := by
  induction later with
  | refl => exact .inr ⟨rfl, rfl, rfl⟩
  | @step k' later ih =>
    rcases fair.steps k' with same | ⟨label, made⟩
    · rw [same]
      exact ih
    · have turn := step_turn made
      cases thread : label.isThread with
      | true =>
        have less : (run (k' + 1)).work < (run k').work := turn.work_lt thread
        show (run (k' + 1)).work < _ ∨ _
        omega
      | false =>
        obtain ⟨work, point, length⟩ := turn.still thread
        rw [work, point, length]
        exact ih

theorem Fair.firstEvent (fair : Fair names run) (later : k ≤ k') {i : Nat} {event : Signal}
    (present : (run k).lines[i]? = some line) (known : line.firstEvent? = some event) :
    ∃ line', (run k').lines[i]? = some line' ∧ line'.firstEvent? = some event := by
  induction later with
  | refl => exact ⟨line, present, known⟩
  | @step k' later ih =>
    obtain ⟨line', present', known'⟩ := ih
    rcases fair.steps k' with same | ⟨label, made⟩
    · rw [same]
      exact ⟨line', present', known'⟩
    · exact (step_turn made).firstEvent present' known'

/-- **The thread goes on** as long as it is not at its end. -/
theorem Fair.advances (fair : Fair names run) (k : Nat)
    (unfinished : ∀ result, (run k).point ≠ .finished result) :
    ∃ k', k ≤ k' ∧ (run k').work < (run k).work := by
  refine Classical.byContradiction fun rests => ?_
  have still (k' : Nat) (later : k ≤ k') : (run k').work = (run k).work ∧
      (run k').point = (run k).point ∧ (run k').lines.length = (run k).lines.length := by
    rcases fair.still later with less | same
    · exact absurd ⟨k', later, less⟩ rests
    · exact same
  -- From some time on there is the first event that the thread may wait for.
  obtain ⟨k₁, later, event⟩ : ∃ k₁, k ≤ k₁ ∧ ((run k).point = .waiting → ∃ line,
      (run k₁).lines.getLast? = some line ∧ line.firstEvent?.isSome = true) := by
    by_cases waiting : (run k).point = .waiting
    · obtain ⟨line, last, -⟩ := (fair.sound k).exists_last
        ((fair.sound k).started (by simp [waiting]) (by simp [waiting]))
      rw [List.getLast?_eq_getElem?] at last
      obtain ⟨k₁, line₁, later, present, known⟩ := fair.events k _ line last
      refine ⟨k₁, later, fun _ => ⟨line₁, ?_, known⟩⟩
      rw [List.getLast?_eq_getElem?, (still k₁ later).2.2, present]
    · exact ⟨k, Nat.le_refl k, fun here => absurd here waiting⟩
  have moves (k' : Nat) (later' : k₁ ≤ k') : (run k').CanMove := by
    obtain ⟨-, point, length⟩ := still k' (Nat.le_trans later later')
    refine (fair.sound k').canMove (fun result => point ▸ unfinished result) fun waiting => ?_
    obtain ⟨line, last, known⟩ := event (point ▸ waiting)
    obtain ⟨signal, known⟩ := Option.isSome_iff_exists.mp known
    rw [List.getLast?_eq_getElem?, (still k₁ later).2.2] at last
    obtain ⟨line', present, known⟩ := fair.firstEvent later' last known
    exact ⟨line', by rw [List.getLast?_eq_getElem?, length, present], by simp [known]⟩
  obtain ⟨k₂, label, later₂, thread, made⟩ := fair.thread k₁ moves
  have less := (step_turn made).work_lt thread
  have same := (still k₂ (Nat.le_trans later later₂)).1
  have same' := (still (k₂ + 1) (by omega)).1
  omega

/-- **A chain whose jobs have first events comes to an end.** -/
theorem Fair.returns (fair : Fair names run) : ∃ k result, (run k).point = .finished result := by
  have from_ (n : Nat) : ∀ k, (run k).work = n → ∃ k result, (run k).point = .finished result := by
    induction n using Nat.strongRecOn with
    | _ n ih =>
      rintro k rfl
      by_cases isOver : ∃ result, (run k).point = .finished result
      · exact ⟨k, isOver⟩
      · obtain ⟨k', -, less⟩ := fair.advances k fun result here => isOver ⟨result, here⟩
        exact ih _ less k' rfl
  exact from_ _ 0 rfl

end

/-! ## Runs with an end -/

theorem Chain.follow_append (c : Chain) (first second : List Label) :
    c.follow (first ++ second) = (c.follow first).bind (·.follow second) := by
  induction first generalizing c with
  | nil => rfl
  | cons label labels ih => simp [Chain.follow, ih, Option.bind_assoc]

theorem Chain.length_follow (followed : c.follow labels = some c') :
    c.lines.length ≤ c'.lines.length := by
  induction labels generalizing c with
  | nil =>
    cases followed
    exact Nat.le_refl _
  | cons label labels ih =>
    obtain ⟨c₁, made, followed⟩ := Option.bind_eq_some_iff.mp followed
    exact Nat.le_trans (step_turn made).length_le (ih followed)

/-- All jobs of a chain that is at its end have had their first events. -/
theorem Chain.Sound.firstEvent_of_finished (sound : c.Sound names)
    (isOver : c.point = .finished result) {i : Nat} (present : c.lines[i]? = some line) :
    line.firstEvent?.isSome = true := by
  obtain ⟨hlt, -⟩ := List.getElem?_eq_some_iff.mp present
  rcases Nat.lt_or_ge (i + 1) c.lines.length with early | atLast
  · simp [(sound.passed i line present early).event]
  · have last := sound.last i line present (by omega)
    rw [isOver] at last
    cases result with
    | ok => simp [last.event]
    | error fault => simp [last.2]

/-- A run that comes to its end is fair if nothing happens behind it. -/
theorem Fair.of_finished (followed : (Chain.ofNames names).follow labels = some c)
    (isOver : c.point = .finished result) :
    Fair names fun k => ((Chain.ofNames names).follow (labels.take k)).getD c := by
  have reached (k : Nat) : ∃ c₁, (Chain.ofNames names).follow (labels.take k) = some c₁ ∧
      c₁.follow (labels.drop k) = some c := by
    rw [← List.take_append_drop k labels, Chain.follow_append] at followed
    exact Option.bind_eq_some_iff.mp followed
  have ended {k : Nat} (behind : labels.length ≤ k) :
      ((Chain.ofNames names).follow (labels.take k)).getD c = c := by
    rw [List.take_of_length_le behind, followed]
    rfl
  refine { start := by simp [Chain.follow], steps := fun k => ?_, events := ?_, thread := ?_ }
  · rcases Nat.lt_or_ge k labels.length with before | behind
    · right
      obtain ⟨c₁, here, -⟩ := reached k
      obtain ⟨c₂, there, -⟩ := reached (k + 1)
      refine ⟨labels[k], ?_⟩
      have step := there
      rw [List.take_succ_eq_append_getElem before, Chain.follow_append, here] at step
      simpa [here, there, Chain.follow] using step
    · left
      rw [ended behind, ended (by omega)]
  · intro k i line present
    obtain ⟨c₁, here, rest⟩ := reached k
    simp only [here, Option.getD_some] at present
    obtain ⟨hlt, -⟩ := List.getElem?_eq_some_iff.mp present
    have grown := Chain.length_follow rest
    have present' : c.lines[i]? = some c.lines[i] := List.getElem?_eq_getElem (by omega)
    refine ⟨max k labels.length, c.lines[i], Nat.le_max_left .., ?_, ?_⟩
    · rw [ended (Nat.le_max_right ..)]
      exact present'
    · exact (Chain.sound followed).firstEvent_of_finished isOver present'
  · intro k moves
    have moves := moves (max k labels.length) (Nat.le_max_left ..)
    rw [ended (Nat.le_max_right ..)] at moves
    exact absurd moves (Chain.not_canMove isOver)

end PacketServer.Boot
