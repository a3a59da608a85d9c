import PacketServer.Proofs.Boot.Course

/-!
# Surplus signals

What a job signals behind its first signal, be it before or after the chain has
taken that one, and be it while later jobs run, comes to nothing: a run goes
the same way without it. Two chains are alike if they differ in such signals
only. A step of one chain is a step of the other, unless it is a surplus
signal, and that leaves them alike.

## Main results

* `Turn.alike` — alike chains make the same steps.
* `Turn.surplus` — a surplus signal changes nothing that counts.
* `Chain.surplus` — a run goes the same way without them.
-/

namespace PacketServer.Boot

variable {names : List String} {c c' d : Chain} {line line' : Line} {labels : List Label}
  {label : Label} {i : Nat} {seen : List Nat}

/-- What counts of a line, with its first signal alone. -/
structure Gist where
  job : String
  handles : Nat
  first : Option Signal
  listening : Bool
  returned : Bool

def Line.gist (l : Line) : Gist := ⟨l.job, l.handles, l.sent.head?, l.listening, l.returned⟩

/-- The job that signals in a step. -/
def Label.signaller? : Label → Option Nat
  | .use i (.send _) | .use i (.tell _) => some i
  | _ => none

/-- A job has signalled. -/
def Chain.Signalled (c : Chain) (i : Nat) : Prop := ∃ line, c.lines[i]? = some line ∧ line.sent ≠ []

/-- Two chains that differ in surplus signals only. -/
structure Chain.Alike (c c' : Chain) : Prop where
  remaining : c.remaining = c'.remaining
  lines : c.lines.map Line.gist = c'.lines.map Line.gist
  point : c.point = c'.point

/-- A run without the signals of jobs that have been seen to signal. -/
def firstSignals (seen : List Nat) : List Label → List Label
  | [] => []
  | label :: labels =>
    match label.signaller? with
    | none => label :: firstSignals seen labels
    | some i =>
      if i ∈ seen then firstSignals seen labels else label :: firstSignals (i :: seen) labels

/-! ## What is left of a run -/

theorem firstSignals_sublist : (firstSignals seen labels).Sublist labels := by
  induction labels generalizing seen with
  | nil => exact .slnil
  | cons label labels ih =>
    unfold firstSignals
    split
    · exact ih.cons_cons label
    · split
      · exact ih.cons label
      · exact ih.cons_cons label

/-- Nothing but signals is left out. -/
theorem filter_firstSignals :
    (firstSignals seen labels).filter (·.signaller?.isNone) =
      labels.filter (·.signaller?.isNone) := by
  induction labels generalizing seen with
  | nil => rfl
  | cons label labels ih =>
    unfold firstSignals
    split
    · rename_i mute
      simp [mute, ih]
    · rename_i i signals
      split <;> simp [signals, ih]

/-- One signal of each job is left at most, and none of those seen. -/
theorem countP_firstSignals (seen : List Nat) (labels : List Label) (i : Nat) :
    (firstSignals seen labels).countP (·.signaller? == some i) ≤ if i ∈ seen then 0 else 1 := by
  induction labels generalizing seen with
  | nil => simp [firstSignals]
  | cons label labels ih =>
    unfold firstSignals
    split
    · rename_i mute
      simpa [List.countP_cons, mute] using ih seen
    · rename_i j signals
      by_cases known : j ∈ seen
      · simpa [known] using ih seen
      · have rest := ih (j :: seen)
        rw [if_neg known, List.countP_cons, signals]
        by_cases same : j = i
        · subst same
          have none : (firstSignals (j :: seen) labels).countP (·.signaller? == some j) = 0 := by
            simpa using rest
          simp [known, none]
        · have other : i ≠ j := fun h => same h.symm
          simpa [same, other, List.mem_cons] using rest

/-! ## Alike chains -/

theorem Chain.Alike.trans (alike : c.Alike c') (alike' : c'.Alike d) : c.Alike d :=
  ⟨alike.remaining.trans alike'.remaining, alike.lines.trans alike'.lines,
    alike.point.trans alike'.point⟩

theorem Line.firstEvent?_gist (same : line.gist = line'.gist) :
    line.firstEvent? = line'.firstEvent? := by
  obtain ⟨job, handles, first, -⟩ := Gist.mk.inj same
  rw [Line.firstEvent?, Line.firstEvent?, first, handles, job]

theorem Use.gist (use : Use) (same : line.gist = line'.gist) :
    (use.run line).gist = (use.run line').gist := by
  obtain ⟨job, handles, first, listening, returned⟩ := Gist.mk.inj same
  cases use <;>
    simp [Line.gist, Use.run, Line.send, List.head?_append, job, handles, first, listening,
      returned]

/-- Behind the first signal of a job another one does not count. -/
theorem Use.gist_surplus {use : Use} (signals : (Label.use i use).signaller?.isSome = true)
    (signalled : line.sent ≠ []) : (use.run line).gist = line.gist := by
  obtain ⟨first, rest, sent⟩ := List.exists_cons_of_ne_nil signalled
  cases use with
  | send signal | tell outcome => simp [Line.gist, Use.run, Line.send, sent]
  | clone | drop => simp [Label.signaller?] at signals

theorem Chain.Alike.exists_line (alike : c.Alike c') (present : c.lines[i]? = some line) :
    ∃ line', c'.lines[i]? = some line' ∧ line.gist = line'.gist := by
  have same : (c.lines.map Line.gist)[i]? = (c'.lines.map Line.gist)[i]? := by rw [alike.lines]
  rw [List.getElem?_map, List.getElem?_map, present] at same
  obtain ⟨line', present', same⟩ := Option.map_eq_some_iff.mp same.symm
  exact ⟨line', present', same.symm⟩

/-- Alike lines stay alike when the same is done to both. -/
theorem gists_modify {lines lines' : List Line} {f : Line → Line}
    (alike : lines.map Line.gist = lines'.map Line.gist)
    (same : ∀ l l' : Line, l.gist = l'.gist → (f l).gist = (f l').gist) (i : Nat) :
    (lines.modify i f).map Line.gist = (lines'.modify i f).map Line.gist := by
  refine List.ext_getElem? fun j => ?_
  have there : (lines.map Line.gist)[j]? = (lines'.map Line.gist)[j]? := by rw [alike]
  simp only [List.getElem?_map, List.getElem?_modify] at there ⊢
  cases first : lines[j]? <;> cases second : lines'[j]? <;> simp [first, second] at there ⊢
  split
  · exact same _ _ there
  · exact there

theorem Chain.Alike.length (alike : c.Alike c') : c.lines.length = c'.lines.length := by
  simpa using congrArg List.length alike.lines

theorem Chain.Alike.onLast {f : Line → Line} {point : Point} (alike : c.Alike c')
    (same : ∀ l l' : Line, l.gist = l'.gist → (f l).gist = (f l').gist) :
    Chain.Alike { c.onLast f with point := point } { c'.onLast f with point := point } where
  remaining := alike.remaining
  lines := by
    show (c.lines.modify _ f).map Line.gist = (c'.lines.modify _ f).map Line.gist
    rw [alike.length]
    exact gists_modify alike.lines same _
  point := rfl

/-- **Alike chains make the same steps.** -/
theorem Turn.alike (turn : Turn c label d) (alike : c.Alike c') (sound : c.Sound names)
    (sound' : c'.Sound names) : ∃ d', Turn c' label d' ∧ d.Alike d' := by
  have goes {point : Point} (here : c.point = point) : c'.point = point := alike.point ▸ here
  have left {jobs : List String} (more : c.remaining = jobs) : c'.remaining = jobs :=
    alike.remaining ▸ more
  cases turn with
  | ended here none => exact ⟨_, .ended (goes here) (left none), alike.remaining, alike.lines, rfl⟩
  | launched here more =>
    exact ⟨_, .launched (goes here) (left more), rfl, by simp [alike.lines], rfl⟩
  | cameBack here =>
    refine ⟨_, .cameBack (goes here), alike.onLast fun l l' same => ?_⟩
    simp_all [Line.gist, Line.comeBack]
  | @received line event here last found =>
    rw [List.getLast?_eq_getElem?] at last
    obtain ⟨line', last', same⟩ := alike.exists_line last
    rw [alike.length, ← List.getLast?_eq_getElem?] at last'
    rw [← List.getLast?_eq_getElem?] at last
    -- Both chains find the first event, which is the same.
    have opened := (sound.opened here last).find?
    have opened' := (sound'.opened (goes here) last').find?
    have found' : line'.find? = some event := by
      rw [opened', ← Line.firstEvent?_gist same, ← opened, found]
    refine ⟨_, .received (goes here) last' found', alike.onLast fun l l' same => ?_⟩
    simpa [Line.gist, Line.take] using same
  | @hungUp event here =>
    have closed (l l' : Line) (same : l.gist = l'.gist) : l.close.gist = l'.close.gist := by
      simp_all [Line.gist, Line.close]
    refine ⟨_, .hungUp (goes here), ?_⟩
    cases event <;> exact alike.onLast closed
  | @used i use line present held =>
    obtain ⟨line', present', same⟩ := alike.exists_line present
    have held' : line'.handles ≠ 0 := (Gist.mk.inj same).2.1 ▸ held
    refine ⟨_, .used present' held', alike.remaining, ?_, alike.point⟩
    exact gists_modify alike.lines (fun _ _ => use.gist) i

/-- **A surplus signal** changes nothing that counts. -/
theorem Turn.surplus (turn : Turn c label d) (signals : label.signaller? = some i)
    (signalled : c.Signalled i) : d.Alike c := by
  cases turn with
  | @used j use line present held =>
    obtain rfl : j = i := by cases use <;> simp_all [Label.signaller?]
    obtain ⟨line', present', signalled⟩ := signalled
    obtain rfl : line = line' := Option.some.inj (present.symm.trans present')
    have same : (use.run line).gist = line.gist :=
      Use.gist_surplus (by rw [signals]; rfl) signalled
    refine ⟨rfl, List.ext_getElem? fun k => ?_, rfl⟩
    simp only [List.getElem?_map, List.getElem?_modify]
    by_cases here : j = k
    · subst here
      simp [present, same]
    · simp [here]
  | _ => simp [Label.signaller?] at signals

/-- Who has signalled, behind a step. -/
theorem Turn.signalled (turn : Turn c label d) :
    d.Signalled i ↔ label.signaller? = some i ∨ c.Signalled i := by
  have onLast (f : Line → Line) (same : ∀ l, (f l).sent = l.sent) :
      (∃ line, (c.onLast f).lines[i]? = some line ∧ line.sent ≠ []) ↔ c.Signalled i := by
    simp only [Chain.Signalled, Chain.onLast, List.getElem?_modify]
    cases c.lines[i]? with
    | none => simp
    | some l => by_cases last : c.lines.length - 1 = i <;> simp [last, same]
  have mute (nobody : label.signaller? = none) :
      c.Signalled i ↔ label.signaller? = some i ∨ c.Signalled i := by simp [nobody]
  cases turn with
  | ended here none => exact mute rfl
  | launched here more =>
    -- The new line has no signal.
    simp only [Chain.Signalled, Label.signaller?, List.getElem?_append]
    split
    · simp
    · rename_i anew
      simp only [List.getElem?_eq_none (Nat.not_lt.mp anew), List.getElem?_singleton]
      split <;> simp +contextual [eq_comm]
  | cameBack here => exact (onLast Line.comeBack fun _ => rfl).trans (mute rfl)
  | received here last found => exact (onLast Line.take fun _ => rfl).trans (mute rfl)
  | @hungUp event here =>
    rw [Chain.Signalled, Chain.react_lines]
    exact (onLast Line.close fun _ => rfl).trans (mute rfl)
  | @used j use line present held =>
    simp only [Chain.Signalled, List.getElem?_modify]
    by_cases here : j = i
    · subst here
      cases use <;> simp [present, Use.run, Line.send, Label.signaller?]
    · cases use <;> simp [here, Label.signaller?]

theorem Chain.Alike.follow (alike : c.Alike c') (sound : c.Sound names) (sound' : c'.Sound names)
    (known : ∀ i, i ∈ seen ↔ c.Signalled i) (followed : c.follow labels = some d) :
    ∃ d', c'.follow (firstSignals seen labels) = some d' ∧ d.Alike d' := by
  induction labels generalizing c c' seen with
  | nil =>
    cases followed
    exact ⟨c', rfl, alike⟩
  | cons label labels ih =>
    obtain ⟨c₁, made, followed⟩ := Option.bind_eq_some_iff.mp followed
    have turn := step_turn made
    have sound₁ := sound.turn turn
    obtain ⟨c₁', turn', alike₁⟩ := turn.alike alike sound sound'
    have made' := turn'.step
    unfold firstSignals
    split
    · rename_i mute
      have known₁ (i : Nat) : i ∈ seen ↔ c₁.Signalled i := by simp [turn.signalled, mute, known]
      obtain ⟨d', followed', alike'⟩ :=
        ih alike₁ sound₁ (sound'.turn turn') known₁ followed
      exact ⟨d', by simp [Chain.follow, made', followed'], alike'⟩
    · rename_i i signals
      split
      · rename_i old
        have known₁ (j : Nat) : j ∈ seen ↔ c₁.Signalled j := by
          rw [turn.signalled, signals, known]
          refine ⟨.inr, fun h => h.elim (fun new => ?_) id⟩
          exact Option.some.inj new ▸ (known i).mp old
        have alike₁ := (turn.surplus signals ((known i).mp old)).trans alike
        exact ih alike₁ sound₁ sound' known₁ followed
      · have known₁ (j : Nat) : j ∈ i :: seen ↔ c₁.Signalled j := by
          rw [turn.signalled, signals, List.mem_cons, known, Option.some_inj, eq_comm]
        obtain ⟨d', followed', alike'⟩ :=
          ih alike₁ sound₁ (sound'.turn turn') known₁ followed
        exact ⟨d', by simp [Chain.follow, made', followed'], alike'⟩

/-- **A run goes the same way without surplus signals.** -/
theorem Chain.surplus (followed : (ofNames names).follow labels = some c) :
    ∃ few c', few.Sublist labels ∧
      few.filter (·.signaller?.isNone) = labels.filter (·.signaller?.isNone) ∧
      (∀ i, few.countP (·.signaller? == some i) ≤ 1) ∧
      (ofNames names).follow few = some c' ∧ c.Alike c' := by
  have known (i : Nat) : i ∈ ([] : List Nat) ↔ (ofNames names).Signalled i := by
    simp [Chain.Signalled, ofNames]
  have alike : (ofNames names).Alike (ofNames names) := ⟨rfl, rfl, rfl⟩
  obtain ⟨c', followed', same⟩ := alike.follow sound_ofNames sound_ofNames known followed
  refine ⟨_, c', firstSignals_sublist, filter_firstSignals, fun i => ?_, followed', same⟩
  simpa using countP_firstSignals [] labels i

end PacketServer.Boot
