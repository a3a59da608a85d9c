import PacketServer.Proofs.Boot.Judgement
import PacketServer.Proofs.Boot.Outcome

/-!
# Booting one server from any number of chains

The jobs that boot a server give their chains one verdict each, whatever is done
on the server meanwhile and whatever the outside world answers. An errand is
never kept waiting and comes to its verdict in a bounded number of its own
steps; a verdict stays what it is, and so does what a chain made of it. At most
one job among all chains proceeds, since its call initialized the server.

## Main results

* `Ensemble.Sound.run` — what is known of errands behind any run.
* `Ensemble.Sound.nearer`, `Ensemble.paced` — how many steps errands make.
* `Stride.keeps` — what no step takes from a chain.
* `Ensemble.booting` — what booting a server comes to.
-/

namespace PacketServer.Boot

open Server (World System Reachable)

variable {config : Config} {boots : Nat → Nat → Bool} {s s' : Ensemble} {label : Ensemble.Label}
  {labels : List Ensemble.Label} {e d e' : Errand} {n m k i : Nat} {c c' : Chain} {line : Line}
  {call call' : Server.Call} {event : Signal}

/-- The line of the job at a position of a chain, if the job was started. -/
def Ensemble.line? (s : Ensemble) (k i : Nat) : Option Line := (s.chains[k]?).bind (·.lines[i]?)

/-- Whether a step is one of an errand. -/
def Ensemble.Label.isOf (n : Nat) : Ensemble.Label → Bool
  | .work m _ => m == n
  | _ => false

theorem Ensemble.line?_eq_some (present : s.line? k i = some line) :
    ∃ c, s.chains[k]? = some c ∧ c.lines[i]? = some line :=
  Option.bind_eq_some_iff.mp present

namespace Ensemble

/-- **What is known of errands stays known** in any run. -/
theorem Sound.run (sound : s.Sound config boots) (ran : s.run config boots labels = some s') :
    s'.Sound config boots :=
  Server.foldlM_induction (motive := fun _ s' => s'.Sound config boots) sound
    (fun _ _ _ _ before made => before.stride (step_stride made)) ran

/-- The errand of a line, and what is known of it, if the job has spawned it. -/
theorem Sound.errand_of_line (sound : s.Sound config boots) (isBoot : boots k i = true)
    (present : s.line? k i = some line) :
    (s.spawned k i = false ∧ ∃ c, s.chains[k]? = some c ∧ c.lines[i]? = some line ∧
      line.Idle c i) ∨
      ∃ e ∈ s.errands, ∃ call c, e.job = (k, i) ∧ e.Kept config s call c line := by
  obtain ⟨c, chain, atLine⟩ := line?_eq_some present
  cases spawned : s.spawned k i with
  | false => exact .inl ⟨rfl, c, chain, atLine, sound.idle k i c line chain atLine isBoot spawned⟩
  | true =>
    obtain ⟨e, member, job⟩ := List.mem_map.mp (spawned_iff.mp spawned)
    obtain ⟨n, there⟩ := List.mem_iff_getElem?.mp member
    obtain ⟨-, call, c', line', kept⟩ := sound.errands n e there
    obtain ⟨rfl, rfl⟩ := Prod.mk.inj job
    obtain rfl : c = c' := Option.some.inj (chain.symm.trans kept.chain)
    obtain rfl : line = line' := Option.some.inj (atLine.symm.trans kept.present)
    exact .inr ⟨e, member, call, c, rfl, kept⟩

end Ensemble

/-- A job that has not spawned its errand has no first event. -/
theorem Line.Idle.firstEvent (idle : line.Idle c i) : line.firstEvent? = none := by
  simp [Line.firstEvent?, idle.1, idle.2.1]

/-! ## How many steps errands make -/

/-- How many steps an errand has left at most until it has signalled, or given
up its handles without a signal. -/
def Errand.left (e : Errand) (call : Server.Call) : Nat := Boot.left e.met e.handles call.point

/-- An errand that has not signalled and owes nothing has nothing to signal. -/
theorem callSignals_nil (silent : (callSignals config.port call)[e.sent]? = none)
    (unsent : e.sent = 0) : callSignals config.port call = [] := by
  have all := List.getElem?_eq_none_iff.mp silent
  exact List.length_eq_zero_iff.mp (by omega)

/-- An errand that uses a handle without signalling comes nearer to its end. -/
theorem Errand.Uses.nearer {use : Use} (uses : e.Uses config.port call use e')
    (kept : e.Kept config s call c line) (unsent : e'.sent = 0) :
    e.sent = 0 ∧ e'.left call < e.left call := by
  cases uses with
  | sends owed => simp at unsent
  | @gives handles silent ended held =>
    have met := kept.abreast.met_of_silent (ahead_of_ended 0 ended) (callSignals_nil silent unsent)
    obtain ⟨ending, here⟩ := Server.Call.ended_of_isSome ended
    exact ⟨unsent, by simp [Errand.left, Boot.left, met, here, trailing, held]⟩
  | clones silent here single =>
    have abreast := kept.abreast
    rw [here] at abreast
    have met : e.met = [.initialized] := abreast.1
    exact ⟨unsent, by simp [Errand.left, Boot.left, met, here, ahead, single]⟩

/-- **An errand comes nearer to its end** with each step of its own, and nobody
else takes it away from there. -/
theorem Ensemble.Sound.nearer (sound : s.Sound config boots)
    (stride : Stride config boots s label s') (present : s'.errands[n]? = some e')
    (calling : s'.server.calls[e'.call]? = some call') (unsent : e'.sent = 0) :
    (s.errands[n]? = none ∧ label.isOf n = false ∧ e'.left call' = 20) ∨
      ∃ e call, s.errands[n]? = some e ∧ s.server.calls[e.call]? = some call ∧ e.sent = 0 ∧
        e'.left call' + (if label.isOf n then 1 else 0) ≤ e.left call := by
  -- Others leave the errand alone, and its call.
  have alone (same : s.errands[n]? = some e') (others : label.isOf n = false)
      (keeps : ∀ call, s.server.calls[e'.call]? = some call →
        s'.server.calls[e'.call]? = some call) :
      ∃ e call, s.errands[n]? = some e ∧ s.server.calls[e.call]? = some call ∧ e.sent = 0 ∧
        e'.left call' + (if label.isOf n then 1 else 0) ≤ e.left call := by
    obtain ⟨-, call, c, line, kept⟩ := sound.errands n e' same
    obtain rfl : call = call' := Option.some.inj ((keeps call kept.calling).symm.trans calling)
    exact ⟨e', call, same, kept.calling, unsent, by simp [others]⟩
  cases stride with
  | others apart made =>
    refine .inr (alone present rfl fun call there => ?_)
    exact Server.step_keeps made there (apart e' (List.mem_of_getElem? present))
  | chained => exact .inr (alone present rfl fun call there => there)
  | spawned =>
    rcases Nat.lt_or_ge n s.errands.length with old | new
    · rw [List.getElem?_append_left old] at present
      exact .inr (alone present rfl fun call there => Server.System.enter_old there)
    · refine .inl ⟨List.getElem?_eq_none_iff.mpr new, rfl, ?_⟩
      simp only [List.getElem?_append_right new, List.getElem?_singleton] at present
      split at present
      · cases present
        obtain rfl : _ = call' := by simpa [System.enter] using calling
        rfl
      · cases present
  | @used m world e d call c c' use there calling₀ chain uses turn =>
    rcases putErrand_cases present with ⟨rfl, rfl⟩ | ⟨other, same⟩
    · obtain ⟨-, call₀, c₀, line, kept⟩ := sound.errands n e there
      obtain rfl : call = call₀ := Option.some.inj (calling₀.symm.trans kept.calling)
      rw [uses.alike.2] at calling
      obtain rfl : call = call' := Option.some.inj (calling₀.symm.trans calling)
      obtain ⟨unsent, nearer⟩ := uses.nearer kept unsent
      refine .inr ⟨e, call, there, calling₀, unsent, ?_⟩
      rw [if_pos (by simp [Ensemble.Label.isOf])]
      exact nearer
    · refine .inr (alone same ?_ fun call there => there)
      simpa [Ensemble.Label.isOf] using Ne.symm other
  | @worked m world e call server there calling₀ silent cloned made =>
    rcases putErrand_cases present with ⟨rfl, rfl⟩ | ⟨other, same⟩
    · obtain ⟨-, call₀, c₀, line, kept⟩ := sound.errands n e there
      obtain rfl : call = call₀ := Option.some.inj (calling₀.symm.trans kept.calling)
      refine .inr ⟨e, call, there, calling₀, unsent, ?_⟩
      cases Server.step_cases made with
      | @moved _ _ d call₁ server₁ there₁ move =>
        obtain rfl : call = d := Option.some.inj (calling₀.symm.trans there₁)
        have placed : (server₁.place e.call call₁).calls[e.call]? = some call₁ :=
          Server.System.place_self there₁ move.calls
        obtain rfl : call₁ = call' := Option.some.inj (placed.symm.trans calling)
        have none := callSignals_nil silent unsent
        have nearer := kept.abreast.nearer move none cloned kept.pair
        rw [if_pos (by simp [Ensemble.Label.isOf])]
        exact nearer
    · have apart : (Server.Label.advance e.call world).isOf e'.call = false := by
        refine Bool.eq_false_iff.mpr fun own => other ?_
        exact index_eq sound.calls same there (beq_iff_eq.mp own).symm
      refine .inr (alone same ?_ fun call there => Server.step_keeps made there apart)
      simpa [Ensemble.Label.isOf] using Ne.symm other

/-- The steps that errands have made and those that they have left are few. -/
structure Ensemble.Paced (config : Config) (labels : List Ensemble.Label) (s : Ensemble) :
    Prop where
  unspawned : ∀ n, s.errands[n]? = none → labels.countP (·.isOf n) = 0
  unsent : ∀ (n : Nat) (e : Errand) (call : Server.Call), s.errands[n]? = some e →
    s.server.calls[e.call]? = some call → e.sent = 0 →
      labels.countP (·.isOf n) + e.left call ≤ 20

/-- An errand that makes a step has been spawned, and nobody undoes this. -/
theorem Stride.unspawned (stride : Stride config boots s label s')
    (absent : s'.errands[n]? = none) : s.errands[n]? = none ∧ label.isOf n = false := by
  rw [List.getElem?_eq_none_iff] at absent ⊢
  cases stride with
  | others | chained => exact ⟨absent, rfl⟩
  | spawned =>
    rw [List.length_append] at absent
    exact ⟨by omega, rfl⟩
  | @used m _ _ _ _ _ _ _ there | @worked m _ _ _ _ there =>
    obtain ⟨hlt, -⟩ := List.getElem?_eq_some_iff.mp there
    have absent : s.errands.length ≤ n := by simpa [Ensemble.putErrand] using absent
    have other : m ≠ n := by omega
    exact ⟨absent, by simpa [Ensemble.Label.isOf] using other⟩

theorem Ensemble.Paced.stride (paced : s.Paced config labels) (sound : s.Sound config boots)
    (stride : Stride config boots s label s') : s'.Paced config (labels ++ [label]) where
  unspawned n absent := by
    obtain ⟨before, others⟩ := stride.unspawned absent
    rw [List.countP_append, paced.unspawned n before]
    simp [others]
  unsent n e call present calling unsent := by
    simp only [List.countP_append, List.countP_singleton]
    rcases sound.nearer stride present calling unsent with
      ⟨absent, others, left⟩ | ⟨e₀, call₀, there, calling₀, unsent₀, nearer⟩
    · simp [paced.unspawned n absent, others, left]
    · have before := paced.unsent n e₀ call₀ there calling₀ unsent₀
      omega

/-- **Errands make few steps**, whoever else does what. -/
theorem Ensemble.paced (sound : s.Sound config boots) (unspawned : s.errands = [])
    (ran : s.run config boots labels = some s') : s'.Paced config labels :=
  (Server.foldlM_induction
    (motive := fun labels s' => s'.Sound config boots ∧ s'.Paced config labels)
    ⟨sound, by simp, by simp [unspawned]⟩
    (fun _ _ _ _ before made =>
      ⟨before.1.stride (step_stride made), before.2.stride before.1 (step_stride made)⟩) ran).2

/-! ## Errands go on -/

theorem useHandle_isSome {use : Use} (chain : s.chains[e.chain]? = some c)
    (present : c.lines[e.line]? = some line) (held : line.handles ≠ 0) :
    (s.useHandle n e use e').isSome = true := by
  simp [Ensemble.useHandle, chain, Chain.step, Chain.onLine, present, held]

/-- **Nobody keeps an errand waiting** that has not signalled and has handles. -/
theorem Errand.Kept.goesOn (kept : e.Kept config s call c line) (sound : s.Sound config boots)
    (present : s.errands[n]? = some e) (unsent : e.sent = 0) (held : e.handles ≠ 0)
    (world : World) : (s.step config boots (.work n world)).isSome = true := by
  have holds : line.handles ≠ 0 := by
    have handles := kept.handles
    omega
  have uses (use : Use) (e' : Errand) : (s.useHandle n e use e').isSome = true :=
    useHandle_isSome kept.chain kept.present holds
  show (s.workStep config n world).isSome = true
  simp only [Ensemble.workStep, present, kept.calling, Option.bind_eq_bind, Option.bind_some]
  split
  · exact uses _ _
  · rename_i none
    exact absurd none held
  · exact uses _ _
  · exact uses _ _
  · rename_i silent _ unended _
    have silent := callSignals_nil silent unsent
    obtain ⟨bindings, history⟩ := sound.reachable.history
    have unended : call.ending = none := by
      cases here : call.point with
      | ended ending =>
        obtain ⟨handles, more⟩ := Nat.exists_eq_succ_of_ne_zero held
        exact (unended ending handles here more).elim
      | _ => simp [Server.Call.ending, here]
    have made := kept.abreast.goesOn kept.calling sound.reachable.custody history.settled silent
      unended world
    obtain ⟨server, made⟩ := Option.isSome_iff_exists.mp made
    simp [made]

/-- **An errand that has not initialized the server changes nothing** on it but
its own call. -/
theorem Ensemble.Sound.harmless {world : World} (sound : s.Sound config boots)
    (stride : Stride config boots s (.work n world) s') (present : s'.errands[n]? = some e')
    (late : .initialized ∉ e'.met) :
    s'.server = { s.server with calls := s'.server.calls } := by
  cases stride with
  | used => rfl
  | @worked _ _ e call server there calling silent cloned made =>
    obtain ⟨-, call₀, c, line, kept⟩ := sound.errands n e there
    obtain rfl : call = call₀ := Option.some.inj (calling.symm.trans kept.calling)
    obtain ⟨hlt, -⟩ := List.getElem?_eq_some_iff.mp there
    obtain rfl : _ = e' := by simpa [Ensemble.putErrand, hlt] using present
    cases Server.step_cases made with
    | @moved _ _ d call₁ server₁ there₁ move =>
      obtain rfl : call = d := Option.some.inj (calling.symm.trans there₁)
      rw [kept.abreast.harmless move late]
      rfl

/-! ## What chains keep -/

/-- A chain that has finished does not go on. -/
theorem Turn.finished {label : Label} {result : Except BootFault Unit} (turn : Turn c label c')
    (isOver : c.point = .finished result) : c'.point = .finished result := by
  cases turn <;> simp_all

/-- **What no turn takes from a chain**, no step takes from it. -/
theorem Stride.keeps {P : Chain → Prop} (turns : ∀ c label c', Turn c label c' → P c → P c')
    (stride : Stride config boots s label s') (present : s.chains[k]? = some c) (holds : P c) :
    ∃ c', s'.chains[k]? = some c' ∧ P c' := by
  -- The chain itself has turned, or another one.
  have set {j : Nat} {d d' : Chain} (there : s.chains[j]? = some d) (turned : P d → P d') :
      ∃ c', (s.chains.set j d')[k]? = some c' ∧ P c' := by
    obtain ⟨hlt, -⟩ := List.getElem?_eq_some_iff.mp there
    by_cases own : j = k
    · subst own
      obtain rfl : c = d := Option.some.inj (present.symm.trans there)
      exact ⟨d', by simp [hlt], turned holds⟩
    · exact ⟨c, by rw [List.getElem?_set_ne own, present], holds⟩
  cases stride with
  | others | worked => exact ⟨c, present, holds⟩
  | chained there bustle =>
    refine set there fun holds => ?_
    cases bustle with
    | plain turn => exact turns _ _ _ turn holds
    | cameBack _ _ gives returns => exact turns _ _ _ returns (turns _ _ _ gives holds)
  | spawned there _ _ _ turn | used _ _ there _ turn => exact set there (turns _ _ _ turn)

theorem Ensemble.run_keeps {P : Chain → Prop}
    (turns : ∀ c label c', Turn c label c' → P c → P c')
    (ran : s.run config boots labels = some s') (present : s.chains[k]? = some c) (holds : P c) :
    ∃ c', s'.chains[k]? = some c' ∧ P c' :=
  Server.foldlM_induction (motive := fun _ s' => ∃ c', s'.chains[k]? = some c' ∧ P c')
    ⟨c, present, holds⟩
    (fun _ _ _ _ before made => by
      obtain ⟨c₁, there, holds⟩ := before
      exact (step_stride made).keeps turns there holds) ran

/-! ## Verdicts -/

/-- What a chain made of its jobs came from their first events. -/
structure Chain.Heeds (c : Chain) : Prop where
  /-- It went on behind a job, or came to a good end, with a first event to proceed. -/
  passed : ∀ (i : Nat) (line : Line), c.lines[i]? = some line →
    i + 1 < c.lines.length ∨ c.point = .finished (.ok ()) → line.firstEvent? = some .proceed
  /-- What it took is the first event of the job started last. -/
  taken : ∀ event, c.point = .taken event →
    ∃ line, c.lines.getLast? = some line ∧ line.firstEvent? = some event
  /-- It failed with the abort of the job started last. -/
  failed : ∀ fault, c.point = .finished (.error fault) →
    ∃ line, c.lines.getLast? = some line ∧ line.firstEvent? = some (.abort fault)

theorem Chain.Sound.heeds {names : List String} (sound : c.Sound names) : c.Heeds where
  passed i line present passed := by
    rcases passed with early | isOver
    · exact (sound.passed i line present early).event
    · have all := sound.passed_all fun line last => by rwa [isOver] at last
      exact (all line (List.mem_of_getElem? present)).event
  taken event here := by
    have started := sound.started (by simp [here]) (by simp [here])
    obtain ⟨line, last, holds⟩ := sound.exists_last started
    rw [here] at holds
    exact ⟨line, last, holds.2⟩
  failed fault isOver := by
    obtain ⟨line, last, -, event⟩ := sound.failed isOver
    exact ⟨line, last, event⟩

/-- A job that boots the server signals once at most. -/
theorem Errand.Kept.once (kept : e.Kept config s call c line) : line.sent.length ≤ 1 := by
  rw [kept.sent]
  rcases kept.abreast.signals config.port with none | ⟨signal, one⟩
  · simp [none]
  · rw [one, List.length_take]
    exact Nat.min_le_right ..

/-- An errand has some steps left as long as it has a handle. -/
theorem Errand.left_pos (held : e.handles ≠ 0) (call : Server.Call) : 0 < e.left call := by
  unfold Errand.left Boot.left
  split
  · cases call.point <;> simp [trailing] <;> omega
  · omega

/-- Without a first event, an errand has not signalled. -/
theorem Errand.Kept.unsent (kept : e.Kept config s call c line)
    (unknown : line.firstEvent? = none) : e.sent = 0 ∧ line.handles ≠ 0 := by
  have few := kept.few
  unfold Line.firstEvent? at unknown
  cases first : line.sent.head? with
  | some signal => simp [first] at unknown
  | none =>
    have silent := congrArg List.length (List.head?_eq_none_iff.mp first)
    rw [kept.sent, List.length_take, List.length_nil] at silent
    exact ⟨by omega, by simpa [first] using unknown⟩

/-- An errand that has given up its handles without a signal broke off, and its
job can return. -/
theorem Errand.Kept.returns (kept : e.Kept config s call c line) (present : e ∈ s.errands)
    (isBoot : boots e.chain e.line = true) (unknown : line.firstEvent? = none)
    (given : e.handles = 0) :
    .broke ∈ e.met ∧ (s.step config boots (.chain e.chain .comeBack)).isSome = true := by
  obtain ⟨unsent, held⟩ := kept.unsent unknown
  obtain ⟨ended, all⟩ := kept.done given
  constructor
  · rw [unsent, List.length_eq_zero_iff] at all
    simp [kept.abreast.met_of_silent (ahead_of_ended 0 ended) all]
  · have spare : c.spare e.line ≠ 0 := by
      have handles := kept.handles
      omega
    have runs : c.point = .running ∧ e.line + 1 = c.lines.length := by
      unfold Chain.spare at spare
      split at spare
      · rename_i here
        exact ⟨here, by simpa using spare⟩
      · exact absurd rfl spare
    have latest := Chain.latest_eq runs.2
    have spawned : s.spawned e.chain e.line = true :=
      spawned_iff.mpr (List.mem_map.mpr ⟨e, present, rfl⟩)
    simp [Ensemble.step, Ensemble.chainStep, Chain.step, Chain.onLine, kept.chain, kept.present,
      latest, isBoot, spawned, held, runs.1]

/-- What booting one server comes to. -/
structure Ensemble.Booting (config : Config) (boots : Nat → Nat → Bool)
    (labels : List Ensemble.Label) (s : Ensemble) : Prop where
  /-- A job that boots the server signals once at most. -/
  once : ∀ (k i : Nat) (line : Line), boots k i = true → s.line? k i = some line →
    line.sent.length ≤ 1
  /-- Its first event says what its errand met and what its call won. -/
  judged : ∀ (k i : Nat) (line : Line) (event : Signal), boots k i = true →
    s.line? k i = some line → line.firstEvent? = some event →
      ∃ e ∈ s.errands, ∃ call, e.job = (k, i) ∧ s.server.calls[e.call]? = some call ∧
        call.kind = .boot ∧ Judged config e.met call event
  /-- When a job proceeds, the server is started, or it was and is shut down. -/
  started : ∀ (k i : Nat) (line : Line), boots k i = true → s.line? k i = some line →
    line.firstEvent? = some .proceed → s.server.phase = .started ∨ s.server.phase = .shutdown
  /-- A job that has not spawned its errand can do so. -/
  spawns : ∀ (k i : Nat) (line : Line), boots k i = true → s.line? k i = some line →
    s.spawned k i = false → (s.step config boots (.spawn k)).isSome = true
  /-- An errand can make its next step until there is a first event, which takes
  twenty steps at most. If its thread broke off, the job has to return as well. -/
  prompt : ∀ (n : Nat) (e : Errand) (line : Line), s.errands[n]? = some e →
    s.line? e.chain e.line = some line → line.firstEvent? = none →
      (labels.countP (·.isOf n) < 20 ∧
        ∀ world, (s.step config boots (.work n world)).isSome = true) ∨
      (.broke ∈ e.met ∧ e.handles = 0 ∧
        (s.step config boots (.chain e.chain .comeBack)).isSome = true)
  /-- An errand changes nothing on the server, but its own call, unless it
  initialized the server. -/
  harmless : ∀ (n : Nat) (world : World) (s' : Ensemble) (e' : Errand),
    s.step config boots (.work n world) = some s' → s'.errands[n]? = some e' →
      .initialized ∉ e'.met → s'.server = { s.server with calls := s'.server.calls }
  /-- Chains heed the first events of their jobs. -/
  heeds : ∀ (k : Nat) (c : Chain), s.chains[k]? = some c → c.Heeds
  /-- First events stay what they are, whatever happens. -/
  steady : ∀ (labels' : List Ensemble.Label) (s' : Ensemble),
    s.run config boots labels' = some s' → ∀ (k i : Nat) (line : Line) (event : Signal),
      s.line? k i = some line → line.firstEvent? = some event →
        ∃ line', s'.line? k i = some line' ∧ line'.firstEvent? = some event
  /-- So do the results of chains. -/
  final : ∀ (labels' : List Ensemble.Label) (s' : Ensemble),
    s.run config boots labels' = some s' →
      ∀ (k : Nat) (c : Chain) (result : Except BootFault Unit), s.chains[k]? = some c →
        c.point = .finished result → ∃ c', s'.chains[k]? = some c' ∧ c'.point = .finished result
  /-- At most one job proceeds of those that boot the server. -/
  single : ∀ (k i k' i' : Nat) (line line' : Line), boots k i = true → boots k' i' = true →
    s.line? k i = some line → s.line? k' i' = some line' →
      line.firstEvent? = some .proceed → line'.firstEvent? = some .proceed → (k, i) = (k', i')

namespace Ensemble

/-- **A first event says what the errand met** and what its call won. -/
theorem Sound.judged (sound : s.Sound config boots) (isBoot : boots k i = true)
    (present : s.line? k i = some line) (known : line.firstEvent? = some event) :
    ∃ e ∈ s.errands, ∃ call c, e.job = (k, i) ∧ e.Kept config s call c line ∧
      Judged config e.met call event := by
  rcases sound.errand_of_line isBoot present with
    ⟨-, c, -, -, idle⟩ | ⟨e, member, call, c, job, kept⟩
  · simp [idle.firstEvent] at known
  · exact ⟨e, member, call, c, job, kept, kept.judged known⟩

/-- Two jobs that proceed are one job: their calls won the same initialization. -/
theorem Sound.single {k' i' : Nat} {line' : Line} (sound : s.Sound config boots)
    (isBoot : boots k i = true) (isBoot' : boots k' i' = true)
    (present : s.line? k i = some line) (present' : s.line? k' i' = some line')
    (proceeds : line.firstEvent? = some .proceed) (proceeds' : line'.firstEvent? = some .proceed) :
    (k, i) = (k', i') := by
  obtain ⟨e, member, call, c, job, kept, judged⟩ := sound.judged isBoot present proceeds
  obtain ⟨e', member', call', c', job', kept', judged'⟩ := sound.judged isBoot' present' proceeds'
  have won := (judged.proceeds.mp rfl).1
  have won' := (judged'.proceeds.mp rfl).1
  have same : e.call = e'.call := sound.reachable.winners.unique kept.calling kept'.calling won won'
  obtain ⟨n, there⟩ := List.mem_iff_getElem?.mp member
  obtain ⟨m, there'⟩ := List.mem_iff_getElem?.mp member'
  obtain rfl : n = m := index_eq sound.calls there there' same
  obtain rfl : e = e' := Option.some.inj (there.symm.trans there')
  exact job.symm.trans job'

theorem Sound.spawns (sound : s.Sound config boots) (isBoot : boots k i = true)
    (present : s.line? k i = some line) (unspawned : s.spawned k i = false) :
    (s.step config boots (.spawn k)).isSome = true := by
  obtain ⟨c, chain, atLine⟩ := line?_eq_some present
  obtain ⟨-, handles, here, last⟩ := sound.idle k i c line chain atLine isBoot unspawned
  have latest := Chain.latest_eq last
  simp [step, chain, here, latest, isBoot, unspawned, Chain.step, Chain.onLine, atLine, handles]

/-- **What booting one server comes to**, from any number of chains, whatever
else is done on the server, and whatever building, binding and looking up
answer. -/
theorem booting {names : List (List String)}
    (ran : (ofNames names).run config boots labels = some s) : Booting config boots labels s := by
  have new : (ofNames names).Sound config boots := sound_ofNames names
  have sound := new.run ran
  have paced := Ensemble.paced new rfl ran
  refine
    { once := ?_, judged := ?_, started := ?_, spawns := ?_, prompt := ?_, harmless := ?_
      heeds := ?_, steady := ?_, final := ?_, single := ?_ }
  · intro k i line isBoot present
    rcases sound.errand_of_line isBoot present with ⟨-, c, -, -, idle⟩ | ⟨e, -, call, c, -, kept⟩
    · simp [idle.1]
    · exact kept.once
  · intro k i line event isBoot present known
    obtain ⟨e, member, call, c, job, kept, judged⟩ := sound.judged isBoot present known
    exact ⟨e, member, call, job, kept.calling, kept.kind, judged⟩
  · intro k i line isBoot present proceeds
    obtain ⟨e, -, call, c, -, kept, judged⟩ := sound.judged isBoot present proceeds
    exact sound.reachable.winners.marked kept.calling (judged.marked rfl)
  · intro k i line isBoot present unspawned
    exact sound.spawns isBoot present unspawned
  · intro n e line there present unknown
    obtain ⟨isBoot, call, c, line', kept⟩ := sound.errands n e there
    obtain ⟨c', chain, atLine⟩ := line?_eq_some present
    obtain rfl : c' = c := Option.some.inj (chain.symm.trans kept.chain)
    obtain rfl : line = line' := Option.some.inj (atLine.symm.trans kept.present)
    by_cases given : e.handles = 0
    · obtain ⟨broke, returns⟩ := kept.returns (List.mem_of_getElem? there) isBoot unknown given
      exact .inr ⟨broke, given, returns⟩
    · obtain ⟨unsent, -⟩ := kept.unsent unknown
      have few := paced.unsent n e call there kept.calling unsent
      have pos := e.left_pos given call
      exact .inl ⟨by omega, kept.goesOn sound there unsent given⟩
  · intro n world s' e' made present late
    exact sound.harmless (step_stride made) present late
  · intro k c chain
    obtain ⟨names, chained⟩ := sound.chains k c chain
    exact chained.heeds
  · intro labels' s' ran' k i line event present known
    obtain ⟨c, chain, atLine⟩ := line?_eq_some present
    obtain ⟨c', chain', line', atLine', known'⟩ :=
      run_keeps (P := fun c => ∃ line, c.lines[i]? = some line ∧ line.firstEvent? = some event)
        (fun c label c' turn ⟨line, atLine, known⟩ => turn.firstEvent atLine known) ran' chain
        ⟨line, atLine, known⟩
    exact ⟨line', by simp [line?, chain', atLine'], known'⟩
  · intro labels' s' ran' k c result chain isOver
    exact run_keeps (fun c label c' turn isOver => turn.finished isOver) ran' chain isOver
  · intro k i k' i' line line' isBoot isBoot' present present' proceeds proceeds'
    exact sound.single isBoot isBoot' present present' proceeds proceeds'

end Ensemble

/-- Two chains boot one server. The first errand wins the initialization, so the
second is refused; a stop wins before the first has sent its signal, which the
chain heeds nevertheless. -/
theorem booting_of_two_chains :
    let config := Config.ofPort none (.number 0)
    let boots : Nat → Nat → Bool := fun _ _ => true
    let world : World := { bind := .ok (Address.ofIp .any4 (.assigned 1)) }
    let chained (k : Nat) (labels : List Label) := labels.map (Ensemble.Label.chain k)
    let work (n steps : Nat) := List.replicate steps (Ensemble.Label.work n world)
    let labels := chained 0 [.launch] ++ [.spawn 0] ++ chained 1 [.launch] ++ [.spawn 1] ++
      work 0 1 ++ work 1 2 ++ work 0 11 ++ [.server (.call .stop false)] ++
      [.server (.advance 2 world)] ++ work 0 4 ++
      chained 0 [.comeBack, .receive, .hangUp, .launch] ++
      chained 1 [.comeBack, .receive, .hangUp]
    ∃ s, (Ensemble.ofNames [["first"], ["second"]]).run config boots labels = some s ∧
      s.chains.map (·.fault?) = [none, some (.job "init server failure"
        (some (.lifecycle .alreadyInitialized)))] ∧
      s.errands.map (·.met) = [[.initialized, .begun, .bound], [.notInitialized]] ∧
      s.server.phase = .shutdown ∧ Ensemble.Booting config boots labels s := by
  intro config boots world chained work labels
  have seen : ((Ensemble.ofNames [["first"], ["second"]]).run config boots labels).map
      (fun s => (s.chains.map (·.fault?), s.errands.map (·.met), s.server.phase)) =
      some ([none, some (.job "init server failure" (some (.lifecycle .alreadyInitialized)))],
        [[.initialized, .begun, .bound], [.notInitialized]], .shutdown) := by
    decide +kernel
  obtain ⟨s, ran, seen⟩ := Option.map_eq_some_iff.mp seen
  obtain ⟨faults, met, phase⟩ : _ ∧ _ ∧ _ := by simpa only [Prod.mk.injEq] using seen
  exact ⟨s, ran, faults, met, phase, Ensemble.booting ran⟩

end PacketServer.Boot
