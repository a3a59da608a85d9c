import PacketServer.Proofs.Wire.Forms

/-!
# Parsing a stream that has ended

Once a stream has ended, packets are taken off the bytes left until the decoder
has none or meets a fault: `EndRun` is this loop, call by call. `Parse` says
what should come of it in terms of the grammar alone: units are cut off the
front as long as there are any, and bytes left that no unit starts are at fault
by their `defect`. Both are one relation, so the loop ends without a fault
exactly on whole streams, and anything else it refuses at the first position
where it cannot go on.

## Main results

* `decodeEnd_of_form`, `decodeEnd_of_stuck` — one call, unit in front or not.
* `endRun_iff_parse` — the loop parses by the grammar.
* `endRun_iff_drainEnd` — it always ends, in one way.
* `Parse.accepts_iff`, `Parse.first_stuck` — what is accepted, and where it
  stops otherwise.
-/

namespace PacketServer.Wire

variable {limit : Nat} {s w front back : Bytes} {p : Packet} {ps : List Packet} {h h' : Harvest}

/-! ## One call -/

theorem defect_of_short (few : s.length < Packet.headerLength) :
    defect limit s = .truncated s.length := by
  unfold defect
  split
  · simp only [List.length_cons, Packet.headerLength] at few
    omega
  · rfl

theorem defect_of_read {header : Header} {check : UInt8}
    (read : Header.read? s = some (header, check, back)) :
    defect limit s =
      if limit < header.length then .frameTooLarge header.length limit
      else if Bytes.xor header.fields ≠ check then .checksum (Bytes.xor header.fields) check
      else .truncated s.length := by
  obtain ⟨l₃, l₂, l₁, l₀, cmd, flags, s₃, s₂, s₁, s₀, shape, same⟩ := Header.bytes_of_read read
  have length : Bytes.unword l₃ l₂ l₁ l₀ = header.length := by rw [same]; rfl
  have sum : l₃ ^^^ l₂ ^^^ l₁ ^^^ l₀ ^^^ cmd ^^^ flags ^^^ s₃ ^^^ s₂ ^^^ s₁ ^^^ s₀ =
      Bytes.xor header.fields := by
    rw [same, Header.fields_ofBytes, xor_of_bytes]
  rw [shape, defect, length, sum]

theorem atEnd_none (present : s ≠ []) :
    atEnd (.ok none, s) = (.error (.truncated s.length), s) := by
  cases s with
  | nil => exact absurd rfl present
  | cons b s => rfl

theorem decodeEnd_nil (limit : Nat) : decodeEnd limit [] = (.ok none, []) := rfl

/-- A unit in front is taken. -/
theorem decodeEnd_of_form (form : Form limit s p) (t : Bytes) :
    decodeEnd limit (s ++ t) = (.ok (some p), t) := by
  rw [decodeEnd, form.decode t]
  rfl

/-- Bytes that no unit starts are at fault, by their defect. -/
theorem decodeEnd_of_stuck (present : s ≠ []) (stuck : Stuck limit s) :
    decodeEnd limit s = (.error (defect limit s), s) := by
  have outcome := outcome_decode limit s
  rw [decodeEnd]
  generalize hattempt : decode limit s = attempt at outcome
  cases outcome with
  | heartbeat behind => exact absurd .heartbeat (stuck [0xDF] behind .heartbeat rfl)
  | short plain few => rw [atEnd_none present, defect_of_short few]
  | oversize plain read big =>
    rw [defect_of_read read, if_pos big]
    rfl
  | mismatch plain read fits wrong =>
    rw [defect_of_read read, if_neg (Nat.not_lt.mpr fits), if_pos wrong]
    rfl
  | incomplete plain read fits right few =>
    rw [atEnd_none present, defect_of_read read, if_neg (Nat.not_lt.mpr fits),
      if_neg (not_not_intro right)]
  | frame plain read fits right whole => exact absurd hattempt (stuck_iff.mp stuck _ _)

/-- What a call answers: there is nothing, or no unit is in front, or one is. -/
inductive Answer (limit : Nat) : Bytes → Attempt → Prop
  | ended : Answer limit [] (.ok none, [])
  | stuck {s : Bytes} (present : s ≠ []) (stuck : Stuck limit s) :
      Answer limit s (.error (defect limit s), s)
  | unit {s : Bytes} {p : Packet} (form : Form limit s p) (t : Bytes) :
      Answer limit (s ++ t) (.ok (some p), t)

theorem answer_decodeEnd (limit : Nat) (s : Bytes) : Answer limit s (decodeEnd limit s) := by
  by_cases present : s = []
  · rw [present]
    exact .ended
  · by_cases stuck : Stuck limit s
    · rw [decodeEnd_of_stuck present stuck]
      exact .stuck present stuck
    · simp only [Stuck, Classical.not_forall, Classical.not_not] at stuck
      obtain ⟨unit, t, p, rfl, form⟩ := stuck
      rw [decodeEnd_of_form form]
      exact .unit form t

/-! ## The loop and the grammar -/

/-- Calling `decodeEnd` as long as it answers packets comes to `h`. -/
inductive EndRun (limit : Nat) : Bytes → Harvest → Prop
  | ended {src rest : Bytes} (call : decodeEnd limit src = (.ok none, rest)) :
      EndRun limit src ⟨[], none, rest⟩
  | fault {src rest : Bytes} {e : CodecError} (call : decodeEnd limit src = (.error e, rest)) :
      EndRun limit src ⟨[], some e, rest⟩
  | packet {src rest : Bytes} {p : Packet} {h : Harvest}
      (call : decodeEnd limit src = (.ok (some p), rest)) (later : EndRun limit rest h) :
      EndRun limit src (h.cons p)

/-- Cutting units off the front of the bytes comes to `h`. -/
inductive Parse (limit : Nat) : Bytes → Harvest → Prop
  | ended : Parse limit [] ⟨[], none, []⟩
  | stuck {s : Bytes} (present : s ≠ []) (stuck : Stuck limit s) :
      Parse limit s ⟨[], some (defect limit s), s⟩
  | unit {s t : Bytes} {p : Packet} {h : Harvest}
      (form : Form limit s p) (later : Parse limit t h) : Parse limit (s ++ t) (h.cons p)

theorem EndRun.parse (run : EndRun limit w h) : Parse limit w h := by
  induction run with
  | @ended src rest call =>
    have answer := answer_decodeEnd limit src
    rw [call] at answer
    cases answer
    exact .ended
  | @fault src rest e call =>
    have answer := answer_decodeEnd limit src
    rw [call] at answer
    cases answer with
    | stuck present stuck => exact .stuck present stuck
  | @packet src rest p h call _ ih =>
    have answer := answer_decodeEnd limit src
    rw [call] at answer
    cases answer with
    | unit form t => exact .unit form ih

theorem Parse.endRun (parse : Parse limit w h) : EndRun limit w h := by
  induction parse with
  | ended => exact .ended (decodeEnd_nil limit)
  | stuck present stuck => exact .fault (decodeEnd_of_stuck present stuck)
  | unit form _ ih => exact .packet (decodeEnd_of_form form _) ih

/-- **The loop parses by the grammar.** -/
theorem endRun_iff_parse : EndRun limit w h ↔ Parse limit w h := ⟨EndRun.parse, Parse.endRun⟩

theorem endRun_drainEnd (limit : Nat) (w : Bytes) : EndRun limit w (drainEnd limit w) := by
  fun_induction drainEnd limit w with
  | case1 src rest call => exact .ended call
  | case2 src e rest call => exact .fault call
  | case3 src p rest call _ ih => exact .packet call ih

/-- Every call has one answer, so the loop comes to one end. -/
theorem EndRun.unique (run : EndRun limit w h) (run' : EndRun limit w h') : h = h' := by
  induction run generalizing h' with
  | ended call => cases run' <;> simp_all
  | fault call => cases run' <;> simp_all
  | packet call _ ih =>
    cases run' with
    | ended call' => simp_all
    | fault call' => simp_all
    | packet call' later =>
      rw [call] at call'
      simp only [Prod.mk.injEq, Except.ok.injEq, Option.some.injEq] at call'
      obtain ⟨rfl, rfl⟩ := call'
      rw [ih later]

/-- **The loop always ends, and in one way.** -/
theorem endRun_iff_drainEnd : EndRun limit w h ↔ h = drainEnd limit w :=
  ⟨fun run => run.unique (endRun_drainEnd limit w), fun same => same ▸ endRun_drainEnd limit w⟩

theorem parse_iff_drainEnd : Parse limit w h ↔ h = drainEnd limit w := by
  rw [← endRun_iff_parse, endRun_iff_drainEnd]

/-! ## What is accepted, and where it stops otherwise -/

namespace Parse

theorem unique (parse : Parse limit w h) (parse' : Parse limit w h') : h = h' :=
  parse.endRun.unique parse'.endRun

/-- The packets are those of the units in front of the bytes left. -/
theorem split (parse : Parse limit w h) :
    ∃ front, w = front ++ h.rest ∧ Stream limit front h.packets := by
  induction parse with
  | ended => exact ⟨[], rfl, .nil⟩
  | stuck _ _ => exact ⟨[], rfl, .nil⟩
  | @unit s t p h form _ ih =>
    obtain ⟨front, split, stream⟩ := ih
    refine ⟨s ++ front, ?_, .cons form stream⟩
    rw [split, List.append_assoc]
    rfl

/-- It stops at the end, or where no unit starts, by the defect there. -/
theorem stops (parse : Parse limit w h) :
    h.fault = none ∧ h.rest = [] ∨
      h.fault = some (defect limit h.rest) ∧ h.rest ≠ [] ∧ Stuck limit h.rest := by
  induction parse with
  | ended => exact .inl ⟨rfl, rfl⟩
  | stuck present stuck => exact .inr ⟨rfl, present, stuck⟩
  | unit _ _ ih => exact ih

/-- Units in front are parsed first. -/
theorem behind (stream : Stream limit front ps) (parse : Parse limit back h) :
    Parse limit (front ++ back) { h with packets := ps ++ h.packets } := by
  induction stream with
  | nil => exact parse
  | @cons s t p ps form _ ih =>
    rw [List.append_assoc]
    exact .unit form ih

/-- Whole streams are accepted, unit by unit. -/
theorem of_stream (stream : Stream limit w ps) : Parse limit w ⟨ps, none, []⟩ := by
  have parse := behind stream .ended
  rwa [List.append_nil, List.append_nil] at parse

/-- **Whole streams are accepted, and nothing else.** -/
theorem accepts_iff (parse : Parse limit w h) : h.fault = none ↔ ∃ ps, Stream limit w ps := by
  constructor
  · intro accepted
    obtain ⟨front, split, stream⟩ := parse.split
    rcases parse.stops with ⟨-, ended⟩ | ⟨fault, -⟩
    · rw [ended, List.append_nil] at split
      exact ⟨h.packets, split ▸ stream⟩
    · simp [accepted] at fault
  · rintro ⟨ps, stream⟩
    rw [parse.unique (of_stream stream)]

/-- **It stops at the first position where no unit starts**: no row of units
leads beyond it, and none leads to another position of that kind. -/
theorem first_stuck (parse : Parse limit w h) (split : w = front ++ back)
    (stream : Stream limit front ps) :
    h.rest <:+ back ∧ (Stuck limit back ↔ back = h.rest) := by
  subst split
  have later : Parse limit back (drainEnd limit back) := parse_iff_drainEnd.mpr rfl
  have rest : h.rest = (drainEnd limit back).rest := by rw [parse.unique (behind stream later)]
  refine ⟨?_, ?_, ?_⟩
  · obtain ⟨units, split, -⟩ := later.split
    rw [rest]
    exact ⟨units, split.symm⟩
  · intro stuck
    rw [rest]
    by_cases present : back = []
    · subst present
      rw [later.unique .ended]
    · rw [later.unique (.stuck present stuck)]
  · rintro rfl
    rcases parse.stops with ⟨-, ended⟩ | ⟨-, -, stuck⟩
    · rintro s t p split form
      have length := form.length_pos
      rw [ended] at split
      rw [(List.append_eq_nil_iff.mp split.symm).1] at length
      exact Nat.lt_irrefl 0 length
    · exact stuck

end Parse

end PacketServer.Wire
