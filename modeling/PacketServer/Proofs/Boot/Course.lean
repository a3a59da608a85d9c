import PacketServer.Boot.Chain

/-!
# The course of a boot chain

Whatever is done with the handles of jobs, and whenever, the first event of a
job stays what it is once it is there, and as long as the chain has not taken
it, it is what the chain finds. So behind every job but the one started last
there is a return and a first event to proceed, and what the chain makes of the
job started last is what its first event says.

## Main results

* `step_turn` — what a step of a chain is.
* `Use.firstEvent` — a first event is final.
* `Chain.Sound.turn`, `Chain.sound` — what is known of a chain at any time.
-/

namespace PacketServer.Boot

variable {names : List String} {c c' : Chain} {line before : Line} {event : Signal}
  {labels : List Label} {i : Nat}

/-! ## Lines -/

/-- The chain listens to a line and has taken nothing: the slot has the first
signal. -/
structure Line.Opened (l : Line) : Prop where
  listening : l.listening = true
  slot : l.slot = l.sent.head?

/-- The job returned, and its first event was to proceed. -/
structure Line.Passed (l : Line) : Prop where
  returned : l.returned = true
  event : l.firstEvent? = some .proceed

/-- **The chain finds the first event.** -/
theorem Line.Opened.find? (opened : line.Opened) : line.find? = line.firstEvent? := by
  rw [Line.find?, Line.firstEvent?, opened.slot]

@[simp] theorem Use.run_job (use : Use) : (use.run line).job = line.job := by
  cases use <;> rfl

@[simp] theorem Use.run_returned (use : Use) : (use.run line).returned = line.returned := by
  cases use <;> rfl

/-- A line that was ever signalled on keeps its first signal. -/
theorem Line.head?_send (signal : Signal) :
    (line.send signal).sent.head? = line.sent.head?.or (some signal) := by
  simp [Line.send, List.head?_append]

theorem Line.Opened.send (opened : line.Opened) (signal : Signal) : (line.send signal).Opened where
  listening := opened.listening
  slot := by
    rw [Line.head?_send, ← opened.slot]
    simp [Line.send, opened.listening]

theorem Use.opened (use : Use) (opened : line.Opened) : (use.run line).Opened := by
  cases use with
  | send signal => exact opened.send signal
  | tell outcome => exact opened.send _
  | clone | drop => exact ⟨opened.listening, opened.slot⟩

theorem Line.firstEvent?_send (held : line.handles ≠ 0) (signal : Signal)
    (known : line.firstEvent? = some event) : (line.send signal).firstEvent? = some event := by
  unfold Line.firstEvent? at known ⊢
  rw [Line.head?_send]
  cases first : line.sent.head? with
  | none => simp [first, held] at known
  | some signal' => simpa [first] using known

/-- **A first event is final**, whatever is done with a handle. -/
theorem Use.firstEvent (use : Use) (held : line.handles ≠ 0)
    (known : line.firstEvent? = some event) : (use.run line).firstEvent? = some event := by
  cases use with
  | send signal => exact Line.firstEvent?_send held signal known
  | tell outcome => exact Line.firstEvent?_send held _ known
  | clone | drop =>
    unfold Line.firstEvent? at known ⊢
    cases first : line.sent.head? with
    | none => simp [first, held] at known
    | some signal => simpa [Use.run, first] using known

theorem Use.passed (use : Use) (held : line.handles ≠ 0) (passed : line.Passed) :
    (use.run line).Passed :=
  ⟨use.run_returned.trans passed.returned, use.firstEvent held passed.event⟩

/-! ## Steps -/

/-- The steps of a chain, by their labels. -/
inductive Turn (c : Chain) : Label → Chain → Prop
  | ended (here : c.point = .next) (none : c.remaining = []) :
      Turn c .launch { c with point := .finished (.ok ()) }
  | launched {job : String} {jobs : List String} (here : c.point = .next)
      (more : c.remaining = job :: jobs) :
      Turn c .launch { remaining := jobs, lines := c.lines ++ [{ job := job }], point := .running }
  | cameBack (here : c.point = .running) :
      Turn c .comeBack { c.onLast Line.comeBack with point := .waiting }
  | received {line : Line} {event : Signal} (here : c.point = .waiting)
      (last : c.lines.getLast? = some line) (found : line.find? = some event) :
      Turn c .receive { c.onLast Line.take with point := .taken event }
  | hungUp {event : Signal} (here : c.point = .taken event) :
      Turn c .hangUp ((c.onLast Line.close).react event)
  | used {i : Nat} {use : Use} {line : Line} (present : c.lines[i]? = some line)
      (held : line.handles ≠ 0) :
      Turn c (.use i use) { c with lines := c.lines.modify i use.run }

theorem step_turn {label : Label} (made : c.step label = some c') : Turn c label c' := by
  cases label with
  | launch =>
    simp only [Chain.step] at made
    split at made
    · rename_i here none
      cases made
      exact .ended here none
    · rename_i here more
      cases made
      exact .launched here more
    · cases made
  | comeBack =>
    simp only [Chain.step] at made
    split at made
    · rename_i here
      cases made
      exact .cameBack here
    · cases made
  | receive =>
    simp only [Chain.step] at made
    split at made
    · rename_i here
      obtain ⟨line, last, made⟩ := Option.bind_eq_some_iff.mp made
      obtain ⟨event, found, made⟩ := Option.bind_eq_some_iff.mp made
      cases made
      exact .received here last found
    · cases made
  | hangUp =>
    simp only [Chain.step] at made
    split at made
    · rename_i event here
      cases made
      exact .hungUp here
    · cases made
  | use i use =>
    obtain ⟨line, present, made⟩ := Option.bind_eq_some_iff.mp made
    split at made
    · cases made
    · rename_i held
      cases made
      exact .used present held

theorem Turn.step {label : Label} (turn : Turn c label c') : c.step label = some c' := by
  cases turn with
  | ended here none => simp [Chain.step, here, none]
  | launched here more => simp [Chain.step, here, more]
  | cameBack here => simp [Chain.step, here]
  | received here last found => simp [Chain.step, here, last, found]
  | hungUp here => simp [Chain.step, here]
  | used present held => simp [Chain.step, Chain.onLine, present, held]

theorem Chain.react_lines (c : Chain) (event : Signal) : (c.react event).lines = c.lines := by
  cases event <;> rfl

/-- A line behind a change of one line. -/
theorem getElem?_modify_cases {f : Line → Line} {j : Nat} {lines : List Line}
    (present : (lines.modify i f)[j]? = some line) :
    ∃ before, lines[j]? = some before ∧ (i = j ∧ line = f before ∨ i ≠ j ∧ line = before) := by
  rw [List.getElem?_modify, Option.map_eq_map, Option.map_eq_some_iff] at present
  obtain ⟨before, present, changed⟩ := present
  refine ⟨before, present, ?_⟩
  by_cases same : i = j
  · exact .inl ⟨same, by simp [← changed, same]⟩
  · exact .inr ⟨same, by simp [← changed, same]⟩

/-! ## What is known of a chain -/

/-- What is known of the line of the job started last. -/
def Point.Last : Point → Line → Prop
  | .next, l | .finished (.ok ()), l => l.Passed
  | .running, l => l.Opened
  | .waiting, l => l.Opened ∧ l.returned = true
  | .taken event, l => l.returned = true ∧ l.firstEvent? = some event
  | .finished (.error fault), l => l.returned = true ∧ l.firstEvent? = some (.abort fault)

/-- What is known of a chain at any time. -/
structure Chain.Sound (names : List String) (c : Chain) : Prop where
  /-- Jobs are started in order, each once. -/
  jobs : c.lines.map (·.job) ++ c.remaining = names
  passed : ∀ i line, c.lines[i]? = some line → i + 1 < c.lines.length → line.Passed
  last : ∀ i line, c.lines[i]? = some line → i + 1 = c.lines.length → c.point.Last line
  started : c.point ≠ .next → c.point ≠ .finished (.ok ()) → c.lines ≠ []
  complete : c.point = .finished (.ok ()) → c.remaining = []

theorem Use.last (use : Use) {point : Point} (held : line.handles ≠ 0) (last : point.Last line) :
    point.Last (use.run line) := by
  cases point with
  | next => exact use.passed held last
  | running => exact use.opened last
  | waiting => exact ⟨use.opened last.1, use.run_returned.trans last.2⟩
  | taken event => exact ⟨use.run_returned.trans last.1, use.firstEvent held last.2⟩
  | finished result =>
    cases result with
    | ok => exact use.passed held last
    | error fault => exact ⟨use.run_returned.trans last.1, use.firstEvent held last.2⟩

/-- The line of the last job, and what is known of it. -/
theorem Chain.Sound.exists_last (sound : c.Sound names) (started : c.lines ≠ []) :
    ∃ line, c.lines.getLast? = some line ∧ c.point.Last line := by
  obtain ⟨line, last⟩ := Option.isSome_iff_exists.mp (List.getLast?_isSome.mpr started)
  refine ⟨line, last, sound.last (c.lines.length - 1) line ?_ ?_⟩
  · rwa [← List.getLast?_eq_getElem?]
  · have := List.length_pos_iff.mpr started
    omega

/-- A chain that waits listens to the last line. -/
theorem Chain.Sound.opened (sound : c.Sound names) (here : c.point = .waiting)
    (last : c.lines.getLast? = some line) : line.Opened := by
  have started : c.lines ≠ [] := by
    rintro none
    simp [none] at last
  obtain ⟨line', last', holds⟩ := sound.exists_last started
  obtain rfl : line = line' := Option.some.inj (last.symm.trans last')
  rw [here] at holds
  exact holds.1

/-- What keeps jobs and passed lines, and brings the last line along, keeps a
chain sound. -/
theorem Chain.Sound.relines {lines : List Line} {point : Point} (sound : c.Sound names)
    (length : lines.length = c.lines.length)
    (each : ∀ i line, lines[i]? = some line → ∃ before, c.lines[i]? = some before ∧
      line.job = before.job ∧ (i + 1 < c.lines.length → before.Passed → line.Passed) ∧
      (i + 1 = c.lines.length → c.point.Last before → point.Last line))
    (started : point ≠ .next → point ≠ .finished (.ok ()) → c.lines ≠ [])
    (complete : point = .finished (.ok ()) → c.remaining = []) :
    Chain.Sound names { c with lines := lines, point := point } where
  jobs := by
    have kept : lines.map (·.job) = c.lines.map (·.job) := by
      refine List.ext_getElem (by simp [length]) fun i hi hi' => ?_
      have hi : i < lines.length := by simpa using hi
      obtain ⟨before, present, job, -⟩ := each i _ (List.getElem?_eq_getElem hi)
      obtain ⟨_, rfl⟩ := List.getElem?_eq_some_iff.mp present
      simpa using job
    show lines.map (·.job) ++ c.remaining = names
    rw [kept]
    exact sound.jobs
  passed i line present early := by
    obtain ⟨before, old, -, passed, -⟩ := each i line present
    have early : i + 1 < c.lines.length := length ▸ early
    exact passed early (sound.passed i before old early)
  last i line present atLast := by
    obtain ⟨before, old, -, -, last⟩ := each i line present
    have atLast : i + 1 = c.lines.length := atLast.trans length
    exact last atLast (sound.last i before old atLast)
  started notNext notOk := by
    have some := List.length_pos_iff.mpr (started notNext notOk)
    exact List.length_pos_iff.mp (length ▸ some)
  complete := complete

/-- The chain changes the last line, and goes on to another point. -/
theorem Chain.Sound.onLast {f : Line → Line} {point : Point} (sound : c.Sound names)
    (job : ∀ l, (f l).job = l.job) (started : c.lines ≠ [])
    (last : ∀ l, c.lines.getLast? = some l → c.point.Last l → point.Last (f l))
    (more : point ≠ .finished (.ok ())) :
    Chain.Sound names { c.onLast f with point := point } := by
  refine sound.relines (List.length_modify ..) ?_ (fun _ _ => started) fun isOver =>
    absurd isOver more
  intro i line present
  have some := List.length_pos_iff.mpr started
  obtain ⟨before, old, ⟨atLast, rfl⟩ | ⟨early, rfl⟩⟩ := getElem?_modify_cases present
  · refine ⟨before, old, job before, fun early => by omega, fun _ holds => ?_⟩
    exact last before (by rw [List.getLast?_eq_getElem?, atLast, old]) holds
  · exact ⟨line, old, rfl, fun _ passed => passed, fun atLast => by omega⟩

theorem Chain.Sound.turn {label : Label} (sound : c.Sound names) (turn : Turn c label c') :
    c'.Sound names := by
  have started {point : Point} (here : c.point = point) (h : point ≠ .next)
      (h' : point ≠ .finished (.ok ())) : c.lines ≠ [] :=
    sound.started (by rw [here]; exact h) (by rw [here]; exact h')
  cases turn with
  | ended here none =>
    refine
      { sound with
        last := ?_, started := fun _ isOver => absurd rfl isOver, complete := fun _ => none }
    intro i line present atLast
    have passed := sound.last i line present atLast
    rwa [here] at passed
  | @launched job jobs here more =>
    refine
      { jobs := by simp [← sound.jobs, more], passed := ?_, last := ?_, started := by simp
        complete := by simp }
    · intro i line present early
      have early : i < c.lines.length := by simpa using early
      rw [List.getElem?_append_left early] at present
      rcases Nat.lt_or_ge (i + 1) c.lines.length with earlier | atLast
      · exact sound.passed i line present earlier
      · have passed := sound.last i line present (by omega)
        rwa [here] at passed
    · intro i line present atLast
      obtain rfl : i = c.lines.length := by simpa using atLast
      obtain rfl : { job := job } = line := by simpa using present
      exact ⟨rfl, rfl⟩
  | cameBack here =>
    refine sound.onLast (fun _ => rfl) (started here (by simp) (by simp)) ?_ (by simp)
    intro l _ opened
    rw [here] at opened
    exact ⟨⟨opened.listening, opened.slot⟩, rfl⟩
  | @received line event here last found =>
    refine sound.onLast (fun _ => rfl) (started here (by simp) (by simp)) ?_ (by simp)
    intro l last' holds
    rw [here] at holds
    obtain rfl : line = l := Option.some.inj (last.symm.trans last')
    exact ⟨holds.2, holds.1.find?.symm.trans found⟩
  | @hungUp event here =>
    have nonempty := started here (by simp) (by simp)
    cases event with
    | proceed =>
      refine sound.onLast (fun _ => rfl) nonempty ?_ (by simp)
      intro l _ holds
      rw [here] at holds
      exact ⟨holds.1, holds.2⟩
    | abort fault =>
      refine sound.onLast (fun _ => rfl) nonempty ?_ (by simp)
      intro l _ holds
      rw [here] at holds
      exact ⟨holds.1, holds.2⟩
  | @used i use line present held =>
    refine sound.relines (List.length_modify ..) ?_ sound.started sound.complete
    intro j line' present'
    obtain ⟨before, old, ⟨rfl, rfl⟩ | ⟨-, rfl⟩⟩ := getElem?_modify_cases present'
    · obtain rfl : line = before := Option.some.inj (present.symm.trans old)
      exact ⟨line, old, use.run_job, fun _ => use.passed held, fun _ => use.last held⟩
    · exact ⟨line', old, rfl, fun _ passed => passed, fun _ last => last⟩

theorem Chain.sound_ofNames : (ofNames names).Sound names := by
  constructor <;> simp [ofNames]

theorem Chain.Sound.follow (sound : c.Sound names) (followed : c.follow labels = some c') :
    c'.Sound names := by
  induction labels generalizing c with
  | nil =>
    cases followed
    exact sound
  | cons label labels ih =>
    obtain ⟨c₁, made, followed⟩ := Option.bind_eq_some_iff.mp followed
    exact ih (sound.turn (step_turn made)) followed

/-- **What is known of a chain at any time.** -/
theorem Chain.sound (followed : (ofNames names).follow labels = some c) : c.Sound names :=
  sound_ofNames.follow followed

/-! ## First events -/

/-- The first events of the jobs that were started stay what they are. -/
theorem Turn.firstEvent {label : Label} (turn : Turn c label c') (present : c.lines[i]? = some line)
    (known : line.firstEvent? = some event) :
    ∃ line', c'.lines[i]? = some line' ∧ line'.firstEvent? = some event := by
  have onLast {f : Line → Line} (same : ∀ l, (f l).firstEvent? = l.firstEvent?) :
      ∃ line', (c.onLast f).lines[i]? = some line' ∧ line'.firstEvent? = some event := by
    simp only [Chain.onLast, List.getElem?_modify, present, Option.map_eq_map, Option.map_some]
    refine ⟨_, rfl, ?_⟩
    split
    · exact (same line).trans known
    · exact known
  cases turn with
  | ended => exact ⟨line, present, known⟩
  | launched =>
    obtain ⟨hlt, -⟩ := List.getElem?_eq_some_iff.mp present
    exact ⟨line, by rw [List.getElem?_append_left hlt, present], known⟩
  | cameBack | received => exact onLast fun _ => rfl
  | hungUp =>
    rw [Chain.react_lines]
    exact onLast fun _ => rfl
  | @used j use line₀ present₀ held =>
    simp only [List.getElem?_modify, present, Option.map_eq_map, Option.map_some]
    refine ⟨_, rfl, ?_⟩
    split
    · rename_i same
      subst same
      obtain rfl : line₀ = line := Option.some.inj (present₀.symm.trans present)
      exact use.firstEvent held known
    · exact known

theorem Chain.firstEvent_follow (followed : c.follow labels = some c')
    (present : c.lines[i]? = some line) (known : line.firstEvent? = some event) :
    ∃ line', c'.lines[i]? = some line' ∧ line'.firstEvent? = some event := by
  induction labels generalizing c line with
  | nil =>
    cases followed
    exact ⟨line, present, known⟩
  | cons label labels ih =>
    obtain ⟨c₁, made, followed⟩ := Option.bind_eq_some_iff.mp followed
    obtain ⟨line₁, present, known⟩ := (step_turn made).firstEvent present known
    exact ih followed present known

end PacketServer.Boot
