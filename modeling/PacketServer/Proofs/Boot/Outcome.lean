import Mathlib.Data.List.Basic
import PacketServer.Proofs.Boot.Return
import PacketServer.Proofs.Boot.Surplus

/-!
# What a boot chain comes to

The result of a chain is what the first events of its jobs make of it, taken in
order, just as if each job had done all of its signalling before it returned.
Surplus signals have no part in it, and there is a result as soon as there are
the first events.

## Main results

* `Chain.Sound.sequential` — a chain comes to what running its jobs one by one
  comes to.
* `Chain.course` — what chains come to.
-/

namespace PacketServer.Boot

variable {names : List String} {c c' : Chain} {line : Line} {labels : List Label}
  {result : Except BootFault Unit}

/-! ## One job after the other -/

/-- A job that signals all that was signalled on a line, and returns. -/
def Line.script (l : Line) : Job Unit where
  name := l.job
  run s := (l.sent, s)

/-- A first event is the first event of what was signalled. -/
theorem Line.firstEvent_sent {event : Signal} (known : line.firstEvent? = some event) :
    firstEvent line.job line.sent = event := by
  unfold Line.firstEvent? at known
  unfold firstEvent
  cases first : line.sent.head? with
  | some signal => simpa [first] using known
  | none =>
    by_cases none_left : line.handles = 0
    · simpa [first, none_left] using known
    · simp [first, none_left] at known

theorem run_passed {lines : List Line} (passed : ∀ line ∈ lines, line.Passed) :
    run (lines.map Line.script) () = (.ok (), ()) := by
  induction lines with
  | nil => rfl
  | cons line lines ih =>
    have event := Line.firstEvent_sent (passed line List.mem_cons_self).event
    have rest := ih fun l hl => passed l (List.mem_cons_of_mem line hl)
    simpa [run, Line.script, event] using rest

/-- All lines but the last are passed. -/
theorem Chain.Sound.passed_dropLast (sound : c.Sound names) :
    ∀ line ∈ c.lines.dropLast, line.Passed := by
  intro line member
  obtain ⟨i, present⟩ := List.mem_iff_getElem?.mp member
  obtain ⟨hlt, -⟩ := List.getElem?_eq_some_iff.mp present
  rw [List.length_dropLast] at hlt
  rw [List.getElem?_dropLast, if_pos hlt] at present
  exact sound.passed i line present (by omega)

/-- If the last line is passed as well, all are. -/
theorem Chain.Sound.passed_all (sound : c.Sound names)
    (last : ∀ line, c.point.Last line → line.Passed) : ∀ line ∈ c.lines, line.Passed := by
  intro line member
  obtain ⟨i, present⟩ := List.mem_iff_getElem?.mp member
  obtain ⟨hlt, -⟩ := List.getElem?_eq_some_iff.mp present
  rcases Nat.lt_or_ge (i + 1) c.lines.length with early | atLast
  · exact sound.passed i line present early
  · exact last line (sound.last i line present (by omega))

/-- A chain that failed did so with the abort of the job started last. -/
theorem Chain.Sound.failed {fault : BootFault} (sound : c.Sound names)
    (isOver : c.point = .finished (.error fault)) :
    ∃ line, c.lines.getLast? = some line ∧ line.returned = true ∧
      line.firstEvent? = some (.abort fault) := by
  have started : c.lines ≠ [] := sound.started (by simp [isOver]) (by simp [isOver])
  obtain ⟨line, last, holds⟩ := sound.exists_last started
  rw [isOver] at holds
  exact ⟨line, last, holds⟩

/-- **A chain comes to what running its jobs one by one comes to**, whenever
they signalled, and whatever the jobs do that were not started. -/
theorem Chain.Sound.sequential (sound : c.Sound names) (isOver : c.point = .finished result)
    {others : List (Job Unit)} (left : Boot.names others = c.remaining) :
    (run (c.lines.map Line.script ++ others) ()).1 = result := by
  cases result with
  | ok =>
    have all : ∀ line ∈ c.lines, line.Passed :=
      sound.passed_all fun line last => by rwa [isOver] at last
    rw [sound.complete isOver] at left
    obtain rfl : others = [] := List.map_eq_nil_iff.mp left
    rw [List.append_nil, run_passed all]
  | error fault =>
    obtain ⟨line, last, -, event⟩ := sound.failed isOver
    have event := Line.firstEvent_sent event
    have lines := List.dropLast_append_getLast? line last
    rw [← lines, List.map_append, List.append_assoc, run_append, run_passed sound.passed_dropLast]
    simp [run, Line.script, event]

/-! ## Runs -/

/-- The fault that a chain ended with, if it failed. -/
def Chain.fault? (c : Chain) : Option BootFault :=
  match c.point with
  | .finished (.error fault) => some fault
  | _ => none

theorem Chain.point_of_fault? {fault : BootFault} (failed : c.fault? = some fault) :
    c.point = .finished (.error fault) := by
  unfold Chain.fault? at failed
  split at failed <;> simp_all

/-- What a run of a chain comes to. -/
structure Course (names : List String) (labels : List Label) (c : Chain) : Prop where
  /-- Jobs are started in order, each once. -/
  jobs : c.lines.map (·.job) ++ c.remaining = names
  /-- A job is started when the one before it has returned, with a first event
  to proceed. -/
  passed : ∀ (i : Nat) (line : Line), c.lines[i]? = some line → i + 1 < c.lines.length →
    line.returned = true ∧ line.firstEvent? = some .proceed
  /-- First events stay what they are. -/
  steady : ∀ labels' c', c.follow labels' = some c' → ∀ (i : Nat) (line : Line) (event : Signal),
    c.lines[i]? = some line → line.firstEvent? = some event →
      ∃ line', c'.lines[i]? = some line' ∧ line'.firstEvent? = some event
  /-- A chain ends well if all of its jobs were run, with first events to proceed. -/
  succeeded : ∀ result, c.point = .finished result → (result = .ok () ↔
    c.remaining = [] ∧ ∀ line ∈ c.lines, line.firstEvent? = some .proceed)
  /-- Otherwise the job started last has a first event to abort, which is the result. -/
  failed : ∀ fault, c.point = .finished (.error fault) → ∃ line, c.lines.getLast? = some line ∧
    line.returned = true ∧ line.firstEvent? = some (.abort fault)
  /-- The result is what the jobs come to one by one. -/
  sequential : ∀ result, c.point = .finished result →
    ∀ others : List (Job Unit), Boot.names others = c.remaining →
      (run (c.lines.map Line.script ++ others) ()).1 = result
  /-- The run goes the same way if each job signals once at most. -/
  surplus : ∃ few c', few.Sublist labels ∧
    few.filter (·.signaller?.isNone) = labels.filter (·.signaller?.isNone) ∧
    (∀ i, few.countP (·.signaller? == some i) ≤ 1) ∧
    (Chain.ofNames names).follow few = some c' ∧ c.Alike c'
  /-- The thread makes at most four steps for each job, and one more. -/
  steps : labels.countP (·.isThread) + c.work ≤ 4 * names.length + 1

/-- **What chains come to**, whatever their jobs signal, and whenever: every run
takes its course, and comes to an end if all first events are there at some time. -/
theorem Chain.course (names : List String) :
    (∀ labels c, (ofNames names).follow labels = some c → Course names labels c) ∧
      ∀ run, Fair names run → ∃ k result, (run k).point = .finished result := by
  refine ⟨fun labels c followed => ?_, fun run fair => fair.returns⟩
  have sound := Chain.sound followed
  refine
    { jobs := sound.jobs
      passed := fun i line present early => ?_
      steady := fun labels' c' followed' i line event present known =>
        Chain.firstEvent_follow followed' present known
      succeeded := ?_
      failed := fun fault isOver => sound.failed isOver
      sequential := fun result isOver others left => sound.sequential isOver left
      surplus := Chain.surplus followed
      steps := Chain.countP_isThread_le followed }
  · have passed := sound.passed i line present early
    exact ⟨passed.returned, passed.event⟩
  · intro result isOver
    constructor
    · rintro rfl
      have all := sound.passed_all fun line last => by rwa [isOver] at last
      exact ⟨sound.complete isOver, fun line member => (all line member).event⟩
    · rintro ⟨-, all⟩
      cases result with
      | ok => rfl
      | error fault =>
        obtain ⟨line, last, -, event⟩ := sound.failed isOver
        have proceeds := all line (List.mem_of_getLast? last)
        rw [event] at proceeds
        cases proceeds

/-- The first job signals three times, twice before it is waited for and once
behind the taking of its first signal, and once more while the second job runs,
which gives its handle up without a signal. The third job is not run. -/
theorem course_of_surplus_signals :
    let names := ["first", "second", "third"]
    let abort : Signal := .abort (.job "late" none)
    let labels : List Label := [.launch, .use 0 .clone, .use 0 (.send .proceed),
      .use 0 (.send abort), .comeBack, .receive, .use 0 (.send abort), .hangUp, .launch,
      .use 0 (.tell (.error .closed)), .use 1 .drop, .comeBack, .receive, .hangUp]
    (∃ c, (Chain.ofNames names).follow labels = some c ∧ c.lines.map (·.sent.length) = [4, 0] ∧
      c.fault? = some (.interrupted "second") ∧ Course names labels c) ∧
    ∃ run, Fair names run ∧ ∃ k result, (run k).point = .finished result := by
  intro names abort labels
  have ended : ((Chain.ofNames names).follow labels).map
      (fun c => (c.lines.map (·.sent.length), c.fault?)) =
      some ([4, 0], some (.interrupted "second")) := by
    decide +kernel
  obtain ⟨c, followed, seen⟩ := Option.map_eq_some_iff.mp ended
  obtain ⟨sent, failed⟩ := Prod.mk.inj seen
  have fair := Fair.of_finished followed (Chain.point_of_fault? failed)
  exact ⟨⟨c, followed, sent, failed, (Chain.course names).1 labels c followed⟩, _, fair,
    (Chain.course names).2 _ fair⟩

end PacketServer.Boot
