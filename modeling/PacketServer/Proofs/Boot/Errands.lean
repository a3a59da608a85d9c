import PacketServer.Proofs.Boot.Course
import PacketServer.Proofs.Boot.Findings

/-!
# Errands among chains and other calls

Each step of an ensemble is a step of its server or a few steps of one of its
chains, so the server and the chains are in states that they come to by
themselves. Beside them each errand has its own: the call that it makes, the
handles of its job, and what was signalled on its line. Nobody else touches
these, so what is known of an errand stays behind the steps of all others.

## Main results

* `step_stride` — the steps of an ensemble.
* `Turn.leaves` — what a chain leaves alone.
* `Ensemble.Sound.stride` — what is known of errands stays.
-/

namespace PacketServer.Boot

open Server (World System Reachable)

variable {config : Config} {boots : Nat → Nat → Bool} {s s' : Ensemble} {label : Ensemble.Label}
  {labels : List Ensemble.Label} {e d e' : Errand} {n m k i : Nat} {c c' c₁ : Chain} {line : Line}
  {call : Server.Call}

/-! ## Chains -/

theorem Chain.latest_eq (last : i + 1 = c.lines.length) : c.latest = i := by
  rw [Chain.latest]
  omega

/-- The handle that a job keeps until it returns. -/
def Chain.spare (c : Chain) (i : Nat) : Nat :=
  match c.point with
  | .running => if i + 1 = c.lines.length then 1 else 0
  | _ => 0

/-- The chain leaves a line alone: what was signalled on it, and the handles
that the job has given to others. -/
def Chain.Leaves (c c' : Chain) (i : Nat) : Prop :=
  ∀ line, c.lines[i]? = some line → ∃ line', c'.lines[i]? = some line' ∧ line'.sent = line.sent ∧
    line'.handles + c.spare i = line.handles + c'.spare i

theorem Chain.Leaves.trans (first : c.Leaves c₁ i) (second : c₁.Leaves c' i) : c.Leaves c' i := by
  intro line present
  obtain ⟨line₁, present, sent, handles⟩ := first line present
  obtain ⟨line₂, present, sent', handles'⟩ := second line₁ present
  exact ⟨line₂, present, sent'.trans sent, by omega⟩

/-- A change of a line that is another, or that keeps signals and handles. -/
theorem getElem?_modify_leaves {lines : List Line} {j : Nat} {f : Line → Line}
    (present : lines[i]? = some line)
    (same : j = i → (f line).sent = line.sent ∧ (f line).handles = line.handles) :
    ∃ line', (lines.modify j f)[i]? = some line' ∧ line'.sent = line.sent ∧
      line'.handles = line.handles := by
  refine ⟨if j = i then f line else line, by simp [List.getElem?_modify, present], ?_⟩
  split
  · rename_i one
    exact same one
  · exact ⟨rfl, rfl⟩

/-- **What a chain leaves alone**: the lines whose handles are not used, and
whose job does not return. -/
theorem Turn.leaves {label : Label} (turn : Turn c label c') (unused : ∀ use, label ≠ .use i use)
    (stays : label = .comeBack → i + 1 ≠ c.lines.length) : c.Leaves c' i := by
  intro line present
  obtain ⟨hlt, -⟩ := List.getElem?_eq_some_iff.mp present
  cases turn with
  | ended here none => exact ⟨line, present, rfl, by simp [Chain.spare, here]⟩
  | launched here more =>
    refine ⟨line, by rw [List.getElem?_append_left hlt, present], rfl, ?_⟩
    simp [Chain.spare, here]
    omega
  | cameBack here =>
    have stays := stays rfl
    obtain ⟨line', there, sent, handles⟩ :=
      getElem?_modify_leaves (f := Line.comeBack) (j := c.lines.length - 1) present
        fun _ => ⟨rfl, rfl⟩
    exact ⟨line', there, sent, by simp [Chain.spare, here, stays, handles]⟩
  | received here last found =>
    obtain ⟨line', there, sent, handles⟩ :=
      getElem?_modify_leaves (f := Line.take) (j := c.lines.length - 1) present
        fun _ => ⟨rfl, rfl⟩
    exact ⟨line', there, sent, by simp [Chain.spare, here, handles]⟩
  | @hungUp event here =>
    obtain ⟨line', there, sent, handles⟩ :=
      getElem?_modify_leaves (f := Line.close) (j := c.lines.length - 1) present
        fun _ => ⟨rfl, rfl⟩
    refine ⟨line', by rw [Chain.react_lines]; exact there, sent, ?_⟩
    cases event <;> simp [Chain.spare, Chain.react, here, handles]
  | @used j use line' there held =>
    have apart : j ≠ i := fun one => unused use (by rw [one])
    obtain ⟨line', there, sent, handles⟩ :=
      getElem?_modify_leaves (f := use.run) present fun one => absurd one apart
    exact ⟨line', there, sent, by simp [Chain.spare, handles]⟩

/-- What the use of a handle makes of its own line. -/
theorem Turn.uses {use : Use} (turn : Turn c (.use i use) c') :
    ∃ line, c.lines[i]? = some line ∧ line.handles ≠ 0 ∧ c'.lines[i]? = some (use.run line) ∧
      c'.point = c.point ∧ c'.lines.length = c.lines.length := by
  cases turn with
  | used present held =>
    exact ⟨_, present, held, by simp [present], rfl, List.length_modify ..⟩

theorem Chain.spare_congr (point : c'.point = c.point)
    (length : c'.lines.length = c.lines.length) (i : Nat) : c'.spare i = c.spare i := by
  simp only [Chain.spare, point, length]

/-- The steps of a chain some of whose jobs boot the server. -/
inductive Bustle (boots spawned : Nat → Bool) (c : Chain) : Label → Chain → Prop
  | plain {label : Label} {c' : Chain} (turn : Turn c label c')
      (unused : ∀ i use, label = .use i use → boots i = false)
      (returns : label = .comeBack → boots c.latest = false) : Bustle boots spawned c label c'
  | cameBack {c₁ c' : Chain} (isBoot : boots c.latest = true) (sent : spawned c.latest = true)
      (gives : Turn c (.use c.latest .drop) c₁) (returns : Turn c₁ .comeBack c') :
      Bustle boots spawned c .comeBack c'

theorem chainStep_bustle {boots spawned : Nat → Bool} {label : Label}
    (made : Ensemble.chainStep boots spawned c label = some c') :
    Bustle boots spawned c label c' := by
  cases label with
  | use j use =>
    simp only [Ensemble.chainStep] at made
    split at made
    · cases made
    · rename_i notBoot
      refine .plain (step_turn made) (fun i use same => ?_) (by simp)
      cases same
      simpa using notBoot
  | comeBack =>
    simp only [Ensemble.chainStep] at made
    split at made
    · rename_i isBoot
      split at made
      · rename_i sent
        obtain ⟨c₁, gives, returns⟩ := Option.bind_eq_some_iff.mp made
        exact .cameBack isBoot sent (step_turn gives) (step_turn returns)
      · cases made
    · rename_i notBoot
      exact .plain (step_turn made) (by simp) fun _ => by simpa using notBoot
  | launch | receive | hangUp => exact .plain (step_turn made) (by simp) (by simp)

theorem Bustle.sound {boots spawned : Nat → Bool} {label : Label} {jobs : List String}
    (bustle : Bustle boots spawned c label c') (sound : c.Sound jobs) : c'.Sound jobs := by
  cases bustle with
  | plain turn => exact sound.turn turn
  | cameBack isBoot sent gives returns => exact (sound.turn gives).turn returns

/-- The job of an errand gives up its spare handle when it returns. -/
theorem Turn.leaves_return (gives : Turn c (.use i .drop) c₁) (returns : Turn c₁ .comeBack c')
    (last : i + 1 = c.lines.length) : c.Leaves c' i := by
  intro line present
  obtain ⟨line', there, held, after, point, length⟩ := gives.uses
  obtain rfl : line = line' := Option.some.inj (present.symm.trans there)
  cases returns with
  | cameBack here =>
    obtain ⟨line', there, sent, handles⟩ :=
      getElem?_modify_leaves (f := Line.comeBack) (j := c₁.lines.length - 1) after
        fun _ => ⟨rfl, rfl⟩
    refine ⟨line', there, sent, ?_⟩
    simp only [handles, Use.run, Chain.spare, ← point, here, last, if_true]
    omega

/-- A chain leaves the line of an errand alone. -/
theorem Bustle.leaves {boots spawned : Nat → Bool} {label : Label}
    (bustle : Bustle boots spawned c label c') (isBoot : boots i = true)
    (present : c.lines[i]? = some line) : c.Leaves c' i := by
  obtain ⟨hlt, -⟩ := List.getElem?_eq_some_iff.mp present
  cases bustle with
  | plain turn unused returns =>
    refine turn.leaves (fun use same => ?_) fun same last => ?_
    · simp [unused i use same] at isBoot
    · simp [← Chain.latest_eq last, returns same] at isBoot
  | cameBack _ sent gives returns =>
    by_cases last : i + 1 = c.lines.length
    · obtain rfl := Chain.latest_eq last
      exact gives.leaves_return returns last
    · have length : _ = c.lines.length := gives.uses.choose_spec.2.2.2.2
      have apart : i ≠ c.latest := by
        rw [Chain.latest]
        omega
      exact (gives.leaves (by simp [apart.symm]) (by simp)).trans
        (returns.leaves (by simp) fun _ => length ▸ last)

/-- A job that has not spawned its errand has signalled nothing, and runs. -/
def Line.Idle (c : Chain) (i : Nat) (line : Line) : Prop :=
  line.sent = [] ∧ line.handles = 1 ∧ c.point = .running ∧ i + 1 = c.lines.length

/-- A chain does nothing to a job that has not spawned its errand. -/
theorem Bustle.idle {boots spawned : Nat → Bool} {label : Label}
    (bustle : Bustle boots spawned c label c')
    (idle : ∀ i line, c.lines[i]? = some line → boots i = true → spawned i = false →
      line.Idle c i)
    (present : c'.lines[i]? = some line) (isBoot : boots i = true) (unspawned : spawned i = false) :
    line.Idle c' i := by
  cases bustle with
  | plain turn unused returns =>
    cases turn with
    | ended here none =>
      have runs := (idle i line present isBoot unspawned).2.2.1
      simp [here] at runs
    | launched here more =>
      rcases Nat.lt_or_ge i c.lines.length with old | anew
      · rw [List.getElem?_append_left old] at present
        have runs := (idle i line present isBoot unspawned).2.2.1
        simp [here] at runs
      · simp only [List.getElem?_append_right anew, List.getElem?_singleton] at present
        split at present
        · cases present
          exact ⟨rfl, rfl, rfl, by simp; omega⟩
        · cases present
    | cameBack here =>
      obtain ⟨before, there, -⟩ := getElem?_modify_cases present
      have last := (idle i before there isBoot unspawned).2.2.2
      simp [← Chain.latest_eq last, returns rfl] at isBoot
    | received here last found =>
      obtain ⟨before, there, -⟩ := getElem?_modify_cases present
      have runs := (idle i before there isBoot unspawned).2.2.1
      simp [here] at runs
    | hungUp here =>
      rw [Chain.react_lines] at present
      obtain ⟨before, there, -⟩ := getElem?_modify_cases present
      have runs := (idle i before there isBoot unspawned).2.2.1
      simp [here] at runs
    | @used j use line' there held =>
      obtain ⟨before, there, ⟨rfl, -⟩ | ⟨-, rfl⟩⟩ := getElem?_modify_cases present
      · simp [unused j use rfl] at isBoot
      · obtain ⟨sent, handles, runs, last⟩ := idle i line there isBoot unspawned
        exact ⟨sent, handles, runs, by simpa using last⟩
  | cameBack _ sent gives returns =>
    have there : ∃ before, c.lines[i]? = some before := by
      cases gives with
      | used =>
        cases returns with
        | cameBack =>
          obtain ⟨middle, there, -⟩ := getElem?_modify_cases present
          obtain ⟨before, there, -⟩ := getElem?_modify_cases there
          exact ⟨before, there⟩
    obtain ⟨before, there⟩ := there
    have last := (idle i before there isBoot unspawned).2.2.2
    rw [Chain.latest_eq last, unspawned] at sent
    cases sent

/-! ## Steps -/

/-- How an errand uses a handle with its next step: it sends what it owes, gives
a handle up at the end, or clones its handle before the start. -/
inductive Errand.Uses (port : Port) (e : Errand) (call : Server.Call) : Use → Errand → Prop
  | sends {signal : Signal} (owed : (callSignals port call)[e.sent]? = some signal) :
      Uses port e call (.send signal) { e with sent := e.sent + 1 }
  | gives {handles : Nat} (silent : (callSignals port call)[e.sent]? = none)
      (ended : call.ending.isSome = true) (held : e.handles = handles + 1) :
      Uses port e call .drop { e with handles := handles }
  | clones (silent : (callSignals port call)[e.sent]? = none)
      (here : call.point = .attemptStart) (single : e.handles = 1) :
      Uses port e call .clone { e with handles := 2 }

/-- The steps of an ensemble, by their labels. -/
inductive Stride (config : Config) (boots : Nat → Nat → Bool) (s : Ensemble) :
    Ensemble.Label → Ensemble → Prop
  | others {label : Server.Label} {server : System}
      (apart : ∀ e ∈ s.errands, label.isOf e.call = false)
      (made : s.server.step config label = some server) :
      Stride config boots s (.server label) { s with server := server }
  | chained {k : Nat} {label : Label} {c c' : Chain} (present : s.chains[k]? = some c)
      (bustle : Bustle (boots k) (s.spawned k) c label c') :
      Stride config boots s (.chain k label) { s with chains := s.chains.set k c' }
  | spawned {k : Nat} {c c' : Chain} (present : s.chains[k]? = some c)
      (here : c.point = .running) (isBoot : boots k c.latest = true)
      (anew : s.spawned k c.latest = false) (turn : Turn c (.use c.latest .clone) c') :
      Stride config boots s (.spawn k)
        { server := s.server.enter .boot true
          chains := s.chains.set k c'
          errands := s.errands ++
            [{ chain := k, line := c.latest, call := s.server.calls.length }] }
  | used {n : Nat} {world : World} {e e' : Errand} {call : Server.Call} {c c' : Chain} {use : Use}
      (present : s.errands[n]? = some e) (calling : s.server.calls[e.call]? = some call)
      (chain : s.chains[e.chain]? = some c) (uses : e.Uses config.port call use e')
      (turn : Turn c (.use e.line use) c') :
      Stride config boots s (.work n world)
        ({ s with chains := s.chains.set e.chain c' }.putErrand n e')
  | worked {n : Nat} {world : World} {e : Errand} {call : Server.Call} {server : System}
      (present : s.errands[n]? = some e) (calling : s.server.calls[e.call]? = some call)
      (silent : (callSignals config.port call)[e.sent]? = none)
      (cloned : call.point = .attemptStart → e.handles ≠ 1)
      (made : s.server.step config (.advance e.call world) = some server) :
      Stride config boots s (.work n world)
        ({ s with server := server }.putErrand n
          { e with met := e.met ++ findings s.server.phase world call.point })

theorem Errand.makes_isOf (e : Errand) (label : Server.Label) :
    e.makes label = label.isOf e.call := by
  cases label with
  | advance t world => exact BEq.comm
  | _ => rfl

/-- The use of a handle is a step of the chain. -/
theorem useHandle_eq_some {use : Use} (made : s.useHandle n e use e' = some s') :
    ∃ c c', s.chains[e.chain]? = some c ∧ Turn c (.use e.line use) c' ∧
      s' = { s with chains := s.chains.set e.chain c' }.putErrand n e' := by
  obtain ⟨c, present, made⟩ := Option.bind_eq_some_iff.mp made
  obtain ⟨c', turned, same⟩ := Option.bind_eq_some_iff.mp made
  cases same
  exact ⟨c, c', present, step_turn turned, rfl⟩

theorem workStep_stride {world : World} (made : s.workStep config n world = some s') :
    Stride config boots s (.work n world) s' := by
  obtain ⟨e, present, made⟩ := Option.bind_eq_some_iff.mp made
  obtain ⟨call, calling, made⟩ := Option.bind_eq_some_iff.mp made
  split at made
  · rename_i signal _ _ owed
    obtain ⟨c, c', chain, turn, rfl⟩ := useHandle_eq_some made
    exact .used present calling chain (.sends owed) turn
  · cases made
  · rename_i ending handles silent here held
    obtain ⟨c, c', chain, turn, rfl⟩ := useHandle_eq_some made
    have ended : call.ending.isSome = true := by simp [Server.Call.ending, here]
    exact .used present calling chain (.gives silent ended held) turn
  · rename_i silent here single
    obtain ⟨c, c', chain, turn, rfl⟩ := useHandle_eq_some made
    exact .used present calling chain (.clones silent here single) turn
  · rename_i silent _ _ cloned
    obtain ⟨server, stepped, same⟩ := Option.bind_eq_some_iff.mp made
    cases same
    exact .worked present calling silent cloned stepped

theorem step_stride (made : s.step config boots label = some s') :
    Stride config boots s label s' := by
  cases label with
  | server label =>
    simp only [Ensemble.step] at made
    split at made
    · cases made
    · rename_i apart
      obtain ⟨server, stepped, rfl⟩ := Option.map_eq_some_iff.mp made
      refine .others (fun e member => ?_) stepped
      rw [← e.makes_isOf]
      simpa using fun makes => apart (List.any_eq_true.mpr ⟨e, member, makes⟩)
  | chain k label =>
    obtain ⟨c, present, made⟩ := Option.bind_eq_some_iff.mp made
    obtain ⟨c', stepped, same⟩ := Option.bind_eq_some_iff.mp made
    cases same
    exact .chained present (chainStep_bustle stepped)
  | spawn k =>
    obtain ⟨c, present, made⟩ := Option.bind_eq_some_iff.mp made
    split at made
    · rename_i here
      split at made
      · rename_i free
        simp only [Bool.and_eq_true, Bool.not_eq_true'] at free
        obtain ⟨c', turned, same⟩ := Option.bind_eq_some_iff.mp made
        cases same
        exact .spawned present here free.1 free.2 (step_turn turned)
      · cases made
    · cases made
  | work n world => exact workStep_stride made

/-! ## What is known of errands -/

/-- The job of an errand: its chain, and its line there. -/
def Errand.job (e : Errand) : Nat × Nat := (e.chain, e.line)

/-- What is known of an errand: its call is where its findings lead, its line has
the signals that it has sent, and it has all handles but the spare one until it
is done. -/
structure Errand.Kept (config : Config) (s : Ensemble) (e : Errand) (call : Server.Call)
    (c : Chain) (line : Line) : Prop where
  calling : s.server.calls[e.call]? = some call
  chain : s.chains[e.chain]? = some c
  present : c.lines[e.line]? = some line
  kind : call.kind = .boot
  listened : call.listened = true
  abreast : Abreast call e.met call.point
  tells : Tells call e.met
  sent : line.sent = (callSignals config.port call).take e.sent
  few : e.sent ≤ (callSignals config.port call).length
  handles : line.handles = e.handles + c.spare e.line
  pair : e.handles ≤ 2
  done : e.handles = 0 → call.ending.isSome = true ∧ (callSignals config.port call).length = e.sent

/-- What is known of an ensemble at any time. -/
structure Ensemble.Sound (config : Config) (boots : Nat → Nat → Bool) (s : Ensemble) : Prop where
  reachable : Reachable config s.server
  chains : ∀ (k : Nat) (c : Chain), s.chains[k]? = some c → ∃ jobs, c.Sound jobs
  errands : ∀ (n : Nat) (e : Errand), s.errands[n]? = some e →
    boots e.chain e.line = true ∧ ∃ call c line, e.Kept config s call c line
  /-- No two errands share their job, or their call. -/
  jobs : (s.errands.map Errand.job).Nodup
  calls : (s.errands.map Errand.call).Nodup
  /-- A job that has not spawned its errand has signalled nothing, and runs. -/
  idle : ∀ (k i : Nat) (c : Chain) (line : Line), s.chains[k]? = some c → c.lines[i]? = some line →
    boots k i = true → s.spawned k i = false → line.Idle c i

/-! ## Who an errand is -/

theorem spawned_iff : s.spawned k i = true ↔ (k, i) ∈ s.errands.map Errand.job := by
  simp [Ensemble.spawned, Errand.job]

theorem index_eq {α : Type} {f : Errand → α} {errands : List Errand}
    (nodup : (errands.map f).Nodup) (first : errands[m]? = some d) (second : errands[n]? = some e)
    (same : f d = f e) : m = n := by
  have hlt : m < (errands.map f).length := by
    simpa using (List.getElem?_eq_some_iff.mp first).1
  refine (List.getElem?_inj hlt nodup).mp ?_
  rw [List.getElem?_map, List.getElem?_map, first, second]
  exact congrArg some same

/-- The errands after one of them has changed. -/
theorem putErrand_cases (there : (s.putErrand n e').errands[m]? = some d) :
    (m = n ∧ d = e') ∨ (m ≠ n ∧ s.errands[m]? = some d) := by
  rw [Ensemble.putErrand, List.getElem?_set] at there
  by_cases same : n = m
  · rw [if_pos same] at there
    split at there
    · exact .inl ⟨same.symm, (Option.some.inj there).symm⟩
    · exact absurd there (by simp)
  · rw [if_neg same] at there
    exact .inr ⟨Ne.symm same, there⟩

/-- An errand that goes on is who it is. -/
theorem map_putErrand {α : Type} {f : Errand → α} (present : s.errands[n]? = some e)
    (same : f e' = f e) : (s.putErrand n e').errands.map f = s.errands.map f := by
  obtain ⟨hlt, rfl⟩ := List.getElem?_eq_some_iff.mp present
  refine List.ext_getElem (by simp [Ensemble.putErrand]) fun j hj hj' => ?_
  simp only [Ensemble.putErrand, List.map_set, List.getElem_set, List.getElem_map]
  split
  · rename_i own
    subst own
    exact same
  · rfl

/-- The chains after one of them has changed. -/
theorem chains_set_cases {chains : List Chain} {j : Nat} {d : Chain}
    (there : (chains.set k c')[j]? = some d) :
    (j = k ∧ d = c') ∨ (j ≠ k ∧ chains[j]? = some d) := by
  rw [List.getElem?_set] at there
  by_cases same : k = j
  · rw [if_pos same] at there
    split at there
    · exact .inl ⟨same.symm, (Option.some.inj there).symm⟩
    · exact absurd there (by simp)
  · rw [if_neg same] at there
    exact .inr ⟨Ne.symm same, there⟩

/-! ## Errands and the steps of others -/

/-- The use of a handle leaves the errand who it is. -/
theorem Errand.Uses.alike {port : Port} {use : Use} (uses : e.Uses port call use e') :
    e'.job = e.job ∧ e'.call = e.call := by
  cases uses <;> exact ⟨rfl, rfl⟩

theorem Chain.leaves_refl (c : Chain) (i : Nat) : c.Leaves c i :=
  fun line present => ⟨line, present, rfl, rfl⟩

/-- What is known of an errand stays when its call is left alone, and its line. -/
theorem Errand.Kept.leave (kept : e.Kept config s call c line)
    (calling : s'.server.calls[e.call]? = some call) (chain : s'.chains[e.chain]? = some c')
    (leaves : c.Leaves c' e.line) : ∃ line', e.Kept config s' call c' line' := by
  obtain ⟨line', present, sent, handles⟩ := leaves line kept.present
  have before := kept.handles
  exact ⟨line',
    { kept with
      calling := calling
      chain := chain
      present := present
      sent := sent.trans kept.sent
      handles := by omega }⟩

/-- What is known of an errand stays when a chain makes a step that leaves its
line alone. -/
theorem Errand.Kept.set {d d' : Chain} (kept : e.Kept config s call c line)
    (there : s.chains[k]? = some d) (leaves : e.chain = k → d.Leaves d' e.line)
    (calling : s'.server.calls[e.call]? = some call) (chains : s'.chains = s.chains.set k d') :
    ∃ c line, e.Kept config s' call c line := by
  by_cases own : e.chain = k
  · subst own
    obtain rfl : c = d := Option.some.inj (kept.chain.symm.trans there)
    obtain ⟨hlt, -⟩ := List.getElem?_eq_some_iff.mp there
    exact ⟨d', kept.leave calling (by simp [chains, hlt]) (leaves rfl)⟩
  · refine ⟨c, kept.leave calling ?_ (c.leaves_refl _)⟩
    rw [chains, List.getElem?_set_ne (Ne.symm own), kept.chain]

/-- What is known of an errand behind the use of a handle. -/
theorem Errand.Uses.kept {use : Use} (uses : e.Uses config.port call use e')
    (kept : e.Kept config s call c line) (turn : Turn c (.use e.line use) c')
    (calling : s'.server.calls[e.call]? = some call) (chain : s'.chains[e.chain]? = some c') :
    e'.Kept config s' call c' (use.run line) := by
  obtain ⟨line', there, held, present, point, length⟩ := turn.uses
  obtain rfl : line = line' := Option.some.inj (kept.present.symm.trans there)
  have spare := Chain.spare_congr point length e.line
  have few := kept.few
  have handles := kept.handles
  cases uses with
  | @sends signal owed =>
    obtain ⟨hlt, -⟩ := List.getElem?_eq_some_iff.mp owed
    exact
      { kept with
        calling := calling
        chain := chain
        present := present
        sent := by rw [List.take_add_one, owed, ← kept.sent]; rfl
        few := hlt
        handles := handles.trans (by rw [spare])
        pair := kept.pair
        done := fun none => absurd (kept.done none).2 (by omega) }
  | gives silent ended one =>
    have all := List.getElem?_eq_none_iff.mp silent
    exact
      { kept with
        calling := calling
        chain := chain
        present := present
        handles := by simp only [Use.run, spare]; omega
        pair := by have := kept.pair; simp only; omega
        done := fun _ => ⟨ended, Nat.le_antisymm all few⟩ }
  | clones silent here one =>
    exact
      { kept with
        calling := calling
        chain := chain
        present := present
        handles := by simp only [Use.run, spare]; omega
        pair := Nat.le_refl 2
        done := by simp }

/-- What is known of an errand behind a step of its call. -/
theorem Errand.Kept.worked {world : World} {server : System} (kept : e.Kept config s call c line)
    (reachable : Reachable config s.server)
    (made : s.server.step config (.advance e.call world) = some server) (errands : List Errand) :
    ∃ call', Errand.Kept config { server := server, chains := s.chains, errands := errands }
      { e with met := e.met ++ findings s.server.phase world call.point } call' c line := by
  cases Server.step_cases made with
  | @moved _ _ d call' server₁ there move =>
    obtain rfl : call = d := Option.some.inj (kept.calling.symm.trans there)
    have kind : call'.kind = .boot ∧ call'.listened = true := by
      rw [move.kept.1, move.kept.2]
      exact ⟨kept.kind, kept.listened⟩
    have abreast := kept.abreast.move move kept.kind kept.listened
      (reachable.custody.holding e.call call there)
    have few := kept.few
    -- Either nothing has been owed so far, or what is owed stays.
    have owed : callSignals config.port call = [] ∨
        callSignals config.port call' = callSignals config.port call := by
      rcases kept.abreast.signals config.port with none | ⟨signal, one⟩
      · exact .inl none
      · exact .inr ((abreast.owes move one).trans one.symm)
    refine ⟨call',
      { kept with
        calling := System.place_self there move.calls
        chain := kept.chain
        kind := kind.1
        listened := kind.2
        abreast := abreast
        tells := kept.tells.meets (Move.meets move)
        sent := ?_
        few := ?_
        done := ?_ }⟩
    · rcases owed with none | same
      · have zero : e.sent = 0 := by simpa [none] using few
        simpa [zero] using kept.sent
      · rw [same]
        exact kept.sent
    · rcases owed with none | same
      · have zero : e.sent = 0 := by simpa [none] using few
        simp [zero]
      · rw [same]
        exact few
    · intro none
      have ended := (kept.done none).1
      simp [move.unended] at ended

namespace Ensemble

theorem Sound.others {label : Server.Label} {server : System} (sound : s.Sound config boots)
    (apart : ∀ e ∈ s.errands, label.isOf e.call = false)
    (made : s.server.step config label = some server) :
    Sound config boots { s with server := server } :=
  { sound with
    reachable := .step label sound.reachable made
    errands := fun n e present => by
      obtain ⟨isBoot, call, c, line, kept⟩ := sound.errands n e present
      have calling := Server.step_keeps made kept.calling (apart e (List.mem_of_getElem? present))
      exact ⟨isBoot, call, c, kept.leave calling kept.chain (c.leaves_refl _)⟩
    idle := sound.idle }

theorem Sound.chained {label : Boot.Label} (sound : s.Sound config boots)
    (present : s.chains[k]? = some c) (bustle : Bustle (boots k) (s.spawned k) c label c') :
    Sound config boots { s with chains := s.chains.set k c' } := by
  refine { sound with chains := ?_, errands := ?_, idle := ?_ }
  · intro j d there
    rcases chains_set_cases there with ⟨rfl, rfl⟩ | ⟨-, there⟩
    · obtain ⟨jobs, before⟩ := sound.chains j c present
      exact ⟨jobs, bustle.sound before⟩
    · exact sound.chains j d there
  · intro n e there
    obtain ⟨isBoot, call, c₀, line, kept⟩ := sound.errands n e there
    refine ⟨isBoot, call, kept.set present ?_ kept.calling rfl⟩
    rintro rfl
    obtain rfl : c₀ = c := Option.some.inj (kept.chain.symm.trans present)
    exact bustle.leaves isBoot kept.present
  · intro j i d line there atLine isBoot unspawned
    rcases chains_set_cases there with ⟨rfl, rfl⟩ | ⟨-, there⟩
    · have before := fun i line => sound.idle j i c line present
      exact bustle.idle before atLine isBoot unspawned
    · exact sound.idle j i d line there atLine isBoot unspawned

/-- What is known of an errand that is spawned. -/
theorem kept_spawned {c c' : Chain} (present : s.chains[k]? = some c)
    (idle : line.Idle c c.latest) (turn : Turn c (.use c.latest .clone) c')
    (atLine : c.lines[c.latest]? = some line) (errands : List Errand) :
    Errand.Kept config
      { server := s.server.enter .boot true, chains := s.chains.set k c', errands := errands }
      { chain := k, line := c.latest, call := s.server.calls.length }
      { kind := .boot, listened := true, point := .attemptInit } c' (Use.clone.run line) := by
  obtain ⟨hlt, -⟩ := List.getElem?_eq_some_iff.mp present
  obtain ⟨sent, handles, runs, last⟩ := idle
  obtain ⟨line', there, held, after, point, length⟩ := turn.uses
  obtain rfl : line = line' := Option.some.inj (atLine.symm.trans there)
  exact
    { calling := by simp [System.enter, Server.Kind.entry]
      chain := by simp [hlt]
      present := after
      kind := rfl
      listened := rfl
      abreast := ⟨rfl, rfl, rfl⟩
      tells := ⟨by simp, by simp⟩
      sent := by simp [Use.run, sent]
      few := by simp
      handles := by simp [Use.run, handles, Chain.spare, point, length, runs, last]
      pair := by simp
      done := by simp }

theorem Sound.spawned {c c' : Chain} (sound : s.Sound config boots)
    (present : s.chains[k]? = some c) (isBoot : boots k c.latest = true)
    (anew : s.spawned k c.latest = false) (turn : Turn c (.use c.latest .clone) c') :
    Sound config boots
      { server := s.server.enter .boot true
        chains := s.chains.set k c'
        errands := s.errands ++
          [{ chain := k, line := c.latest, call := s.server.calls.length }] } := by
  have unspawned : (k, c.latest) ∉ s.errands.map Errand.job := by
    rw [← spawned_iff, anew]
    simp
  obtain ⟨line, atLine, held, after, point, length⟩ := turn.uses
  have idle := sound.idle k c.latest c line present atLine isBoot anew
  refine
    { reachable := .step (.call .boot true) sound.reachable rfl
      chains := ?_
      errands := ?_
      jobs := ?_
      calls := ?_
      idle := ?_ }
  · intro j d there
    rcases chains_set_cases there with ⟨rfl, rfl⟩ | ⟨-, there⟩
    · obtain ⟨jobs, before⟩ := sound.chains j c present
      exact ⟨jobs, before.turn turn⟩
    · exact sound.chains j d there
  · intro n e there
    rcases Nat.lt_or_ge n s.errands.length with old | new
    · rw [List.getElem?_append_left old] at there
      obtain ⟨isBoot, call, c₀, line₀, kept⟩ := sound.errands n e there
      refine ⟨isBoot, call, kept.set present ?_ (Server.System.enter_old kept.calling) rfl⟩
      rintro rfl
      refine turn.leaves (fun use same => unspawned ?_) (by simp)
      refine List.mem_map.mpr ⟨e, List.mem_of_getElem? there, ?_⟩
      rw [Errand.job, ← (Boot.Label.use.inj same).1]
    · simp only [List.getElem?_append_right new, List.getElem?_singleton] at there
      split at there
      · cases there
        exact ⟨isBoot, _, c', _, kept_spawned present idle turn atLine _⟩
      · cases there
  · rw [List.map_append, List.nodup_append]
    refine ⟨sound.jobs, by simp, fun a old b new same => unspawned ?_⟩
    obtain rfl : b = (k, c.latest) := by simpa [Errand.job] using new
    exact same ▸ old
  · rw [List.map_append, List.nodup_append]
    refine ⟨sound.calls, by simp, fun a old b new same => ?_⟩
    obtain rfl : b = s.server.calls.length := by simpa using new
    obtain ⟨e, member, rfl⟩ := List.mem_map.mp old
    obtain ⟨n, there⟩ := List.mem_iff_getElem?.mp member
    obtain ⟨-, call, c₀, line₀, kept⟩ := sound.errands n e there
    obtain ⟨hlt, -⟩ := List.getElem?_eq_some_iff.mp kept.calling
    omega
  · intro j i d line there atLine idles unspawned
    obtain ⟨before, other⟩ : s.spawned j i = false ∧ ¬ (k = j ∧ c.latest = i) := by
      simpa [Ensemble.spawned] using unspawned
    rcases chains_set_cases there with ⟨rfl, rfl⟩ | ⟨-, there⟩
    · obtain ⟨line', there'⟩ : ∃ line', c.lines[i]? = some line' := by
        have present' := (List.getElem?_eq_some_iff.mp atLine).1
        exact ⟨_, List.getElem?_eq_getElem (length ▸ present')⟩
      have last := (sound.idle j i c line' present there' idles before).2.2.2
      exact absurd ⟨rfl, Chain.latest_eq last⟩ other
    · exact sound.idle j i d line there atLine idles before

/-- A change of errand `n` that leaves alone what is known of the others. -/
theorem Sound.put {s' : Ensemble} (sound : s.Sound config boots) (present : s.errands[n]? = some e)
    (job : e'.job = e.job) (number : e'.call = e.call)
    (reachable : Reachable config s'.server)
    (chains : ∀ (k : Nat) (c : Chain), s'.chains[k]? = some c → ∃ jobs, c.Sound jobs)
    (errands : s'.errands = (s.putErrand n e').errands)
    (own : ∃ call c line, e'.Kept config s' call c line)
    (kept : ∀ m d, m ≠ n → s.errands[m]? = some d →
      ∃ call c line, d.Kept config s' call c line)
    (idle : ∀ (k i : Nat) (c : Chain) (line : Line), s'.chains[k]? = some c →
      c.lines[i]? = some line → boots k i = true → s.spawned k i = false → line.Idle c i) :
    Sound config boots s' := by
  have isBoot : boots e'.chain e'.line = true := by
    obtain ⟨chain, line⟩ := Prod.mk.inj job
    rw [chain, line]
    exact (sound.errands n e present).1
  refine
    { reachable := reachable
      chains := chains
      errands := ?_
      jobs := by rw [errands, map_putErrand present job]; exact sound.jobs
      calls := by rw [errands, map_putErrand present number]; exact sound.calls
      idle := ?_ }
  · intro m d there
    rw [errands] at there
    rcases putErrand_cases there with ⟨rfl, rfl⟩ | ⟨other, there⟩
    · exact ⟨isBoot, own⟩
    · exact ⟨(sound.errands m d there).1, kept m d other there⟩
  · intro k i c line there atLine isBoot unspawned
    refine idle k i c line there atLine isBoot (Bool.eq_false_iff.mpr fun spawned => ?_)
    have jobs : s'.errands.map Errand.job = s.errands.map Errand.job := by
      rw [errands, map_putErrand present job]
    rw [spawned_iff, ← jobs, ← spawned_iff] at spawned
    simp [spawned] at unspawned

theorem Sound.used {c c' : Chain} {use : Use} (sound : s.Sound config boots)
    (present : s.errands[n]? = some e) (calling : s.server.calls[e.call]? = some call)
    (chain : s.chains[e.chain]? = some c) (uses : e.Uses config.port call use e')
    (turn : Turn c (.use e.line use) c') :
    Sound config boots ({ s with chains := s.chains.set e.chain c' }.putErrand n e') := by
  obtain ⟨job, number⟩ := uses.alike
  refine sound.put present job number sound.reachable ?_ rfl ?_ ?_ ?_
  · intro j d there
    rcases chains_set_cases there with ⟨rfl, rfl⟩ | ⟨-, there⟩
    · obtain ⟨jobs, before⟩ := sound.chains _ c chain
      exact ⟨jobs, before.turn turn⟩
    · exact sound.chains j d there
  · obtain ⟨-, call', c₀, line, kept⟩ := sound.errands n e present
    obtain rfl : call = call' := Option.some.inj (calling.symm.trans kept.calling)
    obtain rfl : c = c₀ := Option.some.inj (chain.symm.trans kept.chain)
    obtain ⟨hlt, -⟩ := List.getElem?_eq_some_iff.mp chain
    exact ⟨call, c', _, uses.kept kept turn calling (by simp [putErrand, hlt])⟩
  · intro m d other there
    obtain ⟨-, call', c₀, line, kept⟩ := sound.errands m d there
    refine ⟨call', kept.set chain (fun own => ?_) kept.calling rfl⟩
    refine turn.leaves (fun use same => other ?_) (by simp)
    refine index_eq sound.jobs there present ?_
    rw [Errand.job, Errand.job, own, (Boot.Label.use.inj same).1]
  · intro k i d line there atLine isBoot unspawned
    rcases chains_set_cases there with ⟨rfl, rfl⟩ | ⟨-, there⟩
    · cases turn with
      | used there' held =>
        obtain ⟨before, there, ⟨rfl, -⟩ | ⟨-, rfl⟩⟩ := getElem?_modify_cases atLine
        · have spawned := spawned_iff.mpr
            (List.mem_map.mpr ⟨e, List.mem_of_getElem? present, rfl⟩)
          simp [spawned] at unspawned
        · obtain ⟨sent, handles, runs, last⟩ := sound.idle _ i c line chain there isBoot unspawned
          exact ⟨sent, handles, runs, by simpa using last⟩
    · exact sound.idle k i d line there atLine isBoot unspawned

theorem Sound.worked {world : World} {server : System} (sound : s.Sound config boots)
    (present : s.errands[n]? = some e) (calling : s.server.calls[e.call]? = some call)
    (made : s.server.step config (.advance e.call world) = some server) :
    Sound config boots ({ s with server := server }.putErrand n
      { e with met := e.met ++ findings s.server.phase world call.point }) := by
  have job :
      Errand.job { e with met := e.met ++ findings s.server.phase world call.point } = e.job := rfl
  refine sound.put present job rfl (.step _ sound.reachable made) sound.chains rfl ?_ ?_ sound.idle
  · obtain ⟨-, call', c, line, kept⟩ := sound.errands n e present
    obtain rfl : call = call' := Option.some.inj (calling.symm.trans kept.calling)
    obtain ⟨call', kept⟩ := kept.worked sound.reachable made _
    exact ⟨call', c, line, kept⟩
  · intro m d other there
    obtain ⟨-, call', c, line, kept⟩ := sound.errands m d there
    have apart : (Server.Label.advance e.call world).isOf d.call = false := by
      refine Bool.eq_false_iff.mpr fun same => other ?_
      exact index_eq sound.calls there present (beq_iff_eq.mp same).symm
    have calling := Server.step_keeps made kept.calling apart
    exact ⟨call', c, kept.leave calling kept.chain (c.leaves_refl _)⟩

/-- **What is known of errands stays**, whoever makes a step. -/
theorem Sound.stride {label : Ensemble.Label} (sound : s.Sound config boots)
    (stride : Stride config boots s label s') : Sound config boots s' := by
  cases stride with
  | others apart made => exact sound.others apart made
  | chained present bustle => exact sound.chained present bustle
  | spawned present here isBoot anew turn => exact sound.spawned present isBoot anew turn
  | used present calling chain uses turn => exact sound.used present calling chain uses turn
  | worked present calling silent cloned made => exact sound.worked present calling made

theorem sound_ofNames (names : List (List String)) : Sound config boots (ofNames names) where
  reachable := .new
  chains := by
    intro k c there
    obtain ⟨jobs, -, rfl⟩ := List.getElem?_map.symm.trans there |> Option.map_eq_some_iff.mp
    exact ⟨jobs, Chain.sound_ofNames⟩
  errands := by simp [ofNames]
  jobs := List.nodup_nil
  calls := List.nodup_nil
  idle := by
    intro k i c line there atLine
    obtain ⟨jobs, -, rfl⟩ := List.getElem?_map.symm.trans there |> Option.map_eq_some_iff.mp
    simp [Chain.ofNames] at atLine

end Ensemble

end PacketServer.Boot
