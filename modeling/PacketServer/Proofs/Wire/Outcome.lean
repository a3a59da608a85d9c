import PacketServer.Wire.Feed

/-!
# What one attempt to take a packet comes to

An attempt ends in one of six ways: the heartbeat's byte is taken, fewer
bytes are there than a header has, the header declares too long a body, its
check byte is wrong, the body is incomplete, or a whole frame is taken.
`Outcome` lists them once, and all that follows is read off the list.

The list shows at a glance that an attempt looks at the front of the buffer
only. A packet and a fault therefore stand whatever bytes arrive behind them,
and so does everything that a whole `drain` has taken.

## Main results

* `decode_eq_iff` — an attempt answers exactly what `Outcome` lists.
* `decode_append_packet`, `decode_append_fault` — what was answered stands
  when more bytes arrive.
* `drain_append` — so does what was drained, and the bytes left go on.
-/

namespace PacketServer.Wire

/-- The bytes do not start with a heartbeat. -/
def Plain (src : Bytes) : Prop := src.head? ≠ some Packet.heartbeatByte

/-- The answers that an attempt to take a packet can give. -/
inductive Outcome (limit : Nat) : Bytes → Attempt → Prop
  | heartbeat (behind : Bytes) :
      Outcome limit (Packet.heartbeatByte :: behind) (.ok (some .heartbeat), behind)
  | short {src : Bytes} (plain : Plain src) (few : src.length < Packet.headerLength) :
      Outcome limit src (.ok none, src)
  | oversize {src rest : Bytes} {header : Header} {check : UInt8} (plain : Plain src)
      (read : Header.read? src = some (header, check, rest)) (big : limit < header.length) :
      Outcome limit src (.error (.frameTooLarge header.length limit), src)
  | mismatch {src rest : Bytes} {header : Header} {check : UInt8} (plain : Plain src)
      (read : Header.read? src = some (header, check, rest)) (fits : header.length ≤ limit)
      (wrong : Bytes.xor header.fields ≠ check) :
      Outcome limit src (.error (.checksum (Bytes.xor header.fields) check), src)
  | incomplete {src rest : Bytes} {header : Header} {check : UInt8} (plain : Plain src)
      (read : Header.read? src = some (header, check, rest)) (fits : header.length ≤ limit)
      (right : Bytes.xor header.fields = check) (few : rest.length < header.length) :
      Outcome limit src (.ok none, src)
  | frame {src body behind : Bytes} {header : Header} {check : UInt8} (plain : Plain src)
      (read : Header.read? src = some (header, check, body ++ behind))
      (fits : header.length ≤ limit) (right : Bytes.xor header.fields = check)
      (whole : body.length = header.length) :
      Outcome limit src (.ok (some (header.packet body)), behind)

theorem Plain.append {src more : Bytes} (h : Plain src) (hne : src ≠ []) :
    Plain (src ++ more) := by
  cases src with
  | nil => exact absurd rfl hne
  | cons first behind => simpa [Plain] using h

theorem Header.ne_nil_of_read {src rest : Bytes} {header : Header} {check : UInt8}
    (h : Header.read? src = some (header, check, rest)) : src ≠ [] := by
  rintro rfl
  simp [Header.read?] at h

/-- A header is there exactly if as many bytes are as it has. -/
theorem Header.read?_eq_none {src : Bytes} :
    Header.read? src = none ↔ src.length < Packet.headerLength := by
  constructor
  · intro h
    unfold Header.read? at h
    split at h
    · simp at h
    · rename_i hshort
      refine Nat.lt_of_not_le fun hlong => ?_
      match src, hlong, hshort with
      | l₃ :: l₂ :: l₁ :: l₀ :: cmd :: flags :: s₃ :: s₂ :: s₁ :: s₀ :: check :: rest, _, hs =>
        exact hs l₃ l₂ l₁ l₀ cmd flags s₃ s₂ s₁ s₀ check rest rfl
  · exact Header.read?_of_short

theorem decode_heartbeat (limit : Nat) (behind : Bytes) :
    decode limit (Packet.heartbeatByte :: behind) = (.ok (some .heartbeat), behind) := by
  simp [decode]

/-- Bytes that start with no heartbeat are read as a header. -/
theorem decode_plain {limit : Nat} {src : Bytes} (plain : Plain src) (hne : src ≠ []) :
    decode limit src =
      match Header.read? src with
      | none => (.ok none, src)
      | some (header, check, rest) =>
        if limit < header.length then (.error (.frameTooLarge header.length limit), src)
        else if Bytes.xor header.fields ≠ check then
          (.error (.checksum (Bytes.xor header.fields) check), src)
        else
          match Bytes.splitAt? header.length rest with
          | none => (.ok none, src)
          | some (body, rest) => (.ok (some (header.packet body)), rest) := by
  cases src with
  | nil => exact absurd rfl hne
  | cons first behind =>
    have hfirst : first ≠ Packet.heartbeatByte := by simpa [Plain] using plain
    exact if_neg hfirst

theorem outcome_decode (limit : Nat) (src : Bytes) : Outcome limit src (decode limit src) := by
  by_cases plain : Plain src
  · by_cases hne : src = []
    · subst hne
      exact .short plain (by decide)
    · -- The branches of the decoder, in its order.
      rw [decode_plain plain hne]
      cases read : Header.read? src with
      | none => exact .short plain (Header.read?_eq_none.mp read)
      | some found =>
        obtain ⟨header, check, rest⟩ := found
        dsimp only
        split
        · rename_i big
          exact .oversize plain read big
        · rename_i fits
          split
          · rename_i wrong
            exact .mismatch plain read (Nat.le_of_not_lt fits) wrong
          · rename_i right
            have right : Bytes.xor header.fields = check := Classical.not_not.mp right
            cases hsplit : Bytes.splitAt? header.length rest with
            | none =>
              exact .incomplete plain read (Nat.le_of_not_lt fits) right
                (Bytes.splitAt?_eq_none.mp hsplit)
            | some parts =>
              obtain ⟨body, behind⟩ := parts
              obtain ⟨whole, rfl⟩ := Bytes.splitAt?_eq_some.mp hsplit
              exact .frame plain read (Nat.le_of_not_lt fits) right whole
  · cases src with
    | nil => simp [Plain] at plain
    | cons first behind =>
      have hfirst : first = Packet.heartbeatByte := by simpa [Plain] using plain
      subst hfirst
      rw [decode_heartbeat]
      exact .heartbeat behind

theorem Outcome.eq {limit : Nat} {src : Bytes} {attempt : Attempt}
    (h : Outcome limit src attempt) : decode limit src = attempt := by
  cases h with
  | heartbeat behind => exact decode_heartbeat limit behind
  | short plain few =>
    by_cases hne : src = []
    · subst hne; rfl
    · rw [decode_plain plain hne, Header.read?_eq_none.mpr few]
  | oversize plain read big =>
    rw [decode_plain plain (Header.ne_nil_of_read read), read]
    exact if_pos big
  | mismatch plain read fits wrong =>
    rw [decode_plain plain (Header.ne_nil_of_read read), read]
    dsimp only
    rw [if_neg (Nat.not_lt.mpr fits), if_pos wrong]
  | incomplete plain read fits right few =>
    rw [decode_plain plain (Header.ne_nil_of_read read), read]
    dsimp only
    rw [if_neg (Nat.not_lt.mpr fits), if_neg (not_not_intro right),
      Bytes.splitAt?_eq_none.mpr few]
  | @frame _ body _ _ _ plain read fits right whole =>
    rw [decode_plain plain (Header.ne_nil_of_read read), read]
    dsimp only
    rw [if_neg (Nat.not_lt.mpr fits), if_neg (not_not_intro right), ← whole,
      Bytes.splitAt?_append]

/-- **An attempt answers exactly what is listed.** -/
theorem decode_eq_iff {limit : Nat} {src : Bytes} {attempt : Attempt} :
    decode limit src = attempt ↔ Outcome limit src attempt :=
  ⟨fun h => h ▸ outcome_decode limit src, Outcome.eq⟩

/-! ## Bytes that arrive behind -/

/-- A packet that can be taken can be taken whatever arrives behind it. -/
theorem decode_append_packet {limit : Nat} {src rest : Bytes} {p : Packet} (more : Bytes)
    (h : decode limit src = (.ok (some p), rest)) :
    decode limit (src ++ more) = (.ok (some p), rest ++ more) := by
  rw [decode_eq_iff] at h ⊢
  cases h with
  | heartbeat => exact .heartbeat (rest ++ more)
  | frame plain read fits right whole =>
    refine .frame (plain.append (Header.ne_nil_of_read read)) ?_ fits right whole
    rw [Header.read?_append read, List.append_assoc]

/-- A fault is met again whatever arrives, and takes nothing. -/
theorem decode_append_fault {limit : Nat} {src rest : Bytes} {e : CodecError} (more : Bytes)
    (h : decode limit src = (.error e, rest)) :
    rest = src ∧ decode limit (src ++ more) = (.error e, src ++ more) := by
  rw [decode_eq_iff] at h ⊢
  cases h with
  | oversize plain read big =>
    exact ⟨rfl, .oversize (plain.append (Header.ne_nil_of_read read))
      (Header.read?_append read) big⟩
  | mismatch plain read fits wrong =>
    exact ⟨rfl, .mismatch (plain.append (Header.ne_nil_of_read read))
      (Header.read?_append read) fits wrong⟩

theorem decode_rest_of_none {limit : Nat} {src rest : Bytes}
    (h : decode limit src = (.ok none, rest)) : rest = src := by
  rw [decode_eq_iff] at h
  cases h <;> rfl

/-! ## Draining -/

/-- Nothing can be taken off the bytes yet. -/
def Waiting (limit : Nat) (src : Bytes) : Prop := decode limit src = (.ok none, src)

theorem waiting_nil (limit : Nat) : Waiting limit [] := rfl

theorem drain_of_waiting {limit : Nat} {src : Bytes} (h : Waiting limit src) :
    drain limit src = ⟨[], none, src⟩ := by
  rw [drain]
  split <;> rename_i e <;> rw [h] at e <;> simp at e
  rw [e]

theorem drain_of_fault {limit : Nat} {src rest : Bytes} {e : CodecError}
    (h : decode limit src = (.error e, rest)) : drain limit src = ⟨[], some e, rest⟩ := by
  rw [drain]
  split <;> rename_i e' <;> rw [h] at e' <;> simp at e'
  obtain ⟨rfl, rfl⟩ := e'
  rfl

theorem drain_of_packet {limit : Nat} {src rest : Bytes} {p : Packet}
    (h : decode limit src = (.ok (some p), rest)) :
    drain limit src = (drain limit rest).cons p := by
  rw [drain]
  split <;> rename_i e <;> rw [h] at e <;> simp at e
  obtain ⟨rfl, rfl⟩ := e
  rfl

/-- Draining takes the packets one by one until the bytes left are waiting or
at fault. -/
theorem drain_induction (limit : Nat) {motive : Bytes → Prop}
    (waiting : ∀ src, Waiting limit src → motive src)
    (fault : ∀ src e, decode limit src = (.error e, src) → motive src)
    (packet : ∀ src p rest, decode limit src = (.ok (some p), rest) → motive rest → motive src)
    (src : Bytes) : motive src := by
  induction hn : src.length using Nat.strongRecOn generalizing src with
  | ind n ih =>
    rcases h : decode limit src with ⟨e | _ | p, rest⟩
    · obtain rfl := (decode_append_fault [] h).1
      exact fault rest e h
    · obtain rfl := decode_rest_of_none h
      exact waiting rest h
    · have hshort := decode_rest_of_packet h
      exact packet src p rest h (ih rest.length (hn ▸ hshort) rest rfl)

/-- Harvests one after the other; nothing comes after a fault but bytes. -/
def Harvest.andThen (a : Harvest) (more : Bytes) (next : Bytes → Harvest) : Harvest :=
  match a.fault with
  | some _ => { a with rest := a.rest ++ more }
  | none => { next (a.rest ++ more) with packets := a.packets ++ (next (a.rest ++ more)).packets }

theorem Harvest.andThen_of_fault {a : Harvest} {e : CodecError} (h : a.fault = some e)
    (more : Bytes) (next : Bytes → Harvest) :
    a.andThen more next = { a with rest := a.rest ++ more } := by
  simp only [andThen, h]

theorem Harvest.andThen_of_no_fault {a : Harvest} (h : a.fault = none)
    (more : Bytes) (next : Bytes → Harvest) :
    a.andThen more next =
      { next (a.rest ++ more) with
        packets := a.packets ++ (next (a.rest ++ more)).packets } := by
  simp only [andThen, h]

theorem Harvest.cons_andThen (p : Packet) (a : Harvest) (more : Bytes)
    (next : Bytes → Harvest) :
    (a.cons p).andThen more next = (a.andThen more next).cons p := by
  simp only [andThen, cons]
  cases a.fault <;> rfl

/-- **What was drained stands when more bytes arrive**, and the bytes left go
on with them. -/
theorem drain_append (limit : Nat) (src more : Bytes) :
    drain limit (src ++ more) = (drain limit src).andThen more (drain limit) := by
  induction src using drain_induction limit with
  | waiting src h => rw [drain_of_waiting h]; rfl
  | fault src e h =>
    rw [drain_of_fault h, drain_of_fault (decode_append_fault more h).2]
    rfl
  | packet src p rest h ih =>
    rw [drain_of_packet h, drain_of_packet (decode_append_packet more h), ih,
      Harvest.cons_andThen]

/-- Unless a fault was met, the bytes that a drain leaves are waiting. -/
theorem waiting_drain {limit : Nat} {src : Bytes} (h : (drain limit src).fault = none) :
    Waiting limit (drain limit src).rest := by
  induction src using drain_induction limit with
  | waiting src hw => rw [drain_of_waiting hw]; exact hw
  | fault src e hf => rw [drain_of_fault hf] at h; simp at h
  | packet src p rest hp ih => rw [drain_of_packet hp] at h ⊢; exact ih h

/-- A fault that ended a drain is met again at the bytes left. -/
theorem decode_drain_rest {limit : Nat} {src : Bytes} {e : CodecError}
    (h : (drain limit src).fault = some e) :
    decode limit (drain limit src).rest = (.error e, (drain limit src).rest) := by
  induction src using drain_induction limit with
  | waiting src hw => rw [drain_of_waiting hw] at h; simp at h
  | fault src e' hf =>
    rw [drain_of_fault hf] at h ⊢
    simp only [Option.some.injEq] at h
    exact h ▸ hf
  | packet src p rest hp ih => rw [drain_of_packet hp] at h ⊢; exact ih h

end PacketServer.Wire
