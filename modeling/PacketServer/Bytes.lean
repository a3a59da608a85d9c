/-!
# Byte strings

A stream is seen as a list of bytes. This module holds the three things that
framing needs from it: big-endian words of four bytes, the exclusive-or of a
byte string, and cutting, either a front part of exact length off or the whole
into pieces.

## Main results

* `unword_word` — a number below `wordBound` is read back from its four bytes.
* `splitAt?_eq_some` — the front part has the length asked for and nothing is
  lost; `splitAt?_append` — and it is found whatever follows it.
-/

namespace PacketServer

/-- A byte string. -/
abbrev Bytes := List UInt8

namespace Bytes

/-- One more than the greatest number that fits in four bytes. -/
def wordBound : Nat := 0x100000000

/-- One more than the greatest number of bytes that anything in memory can
have. -/
def memoryBound : Nat := 0x8000000000000000

/-- The four bytes of `n`, most significant first, as far as they fit. -/
def word (n : Nat) : Bytes :=
  [.ofNat (n / 0x1000000), .ofNat (n / 0x10000), .ofNat (n / 0x100), .ofNat n]

/-- The number that four bytes stand for, most significant first. -/
def unword (a b c d : UInt8) : Nat :=
  a.toNat * 0x1000000 + b.toNat * 0x10000 + c.toNat * 0x100 + d.toNat

@[simp] theorem length_word (n : Nat) : (word n).length = 4 := rfl

theorem unword_lt (a b c d : UInt8) : unword a b c d < wordBound := by
  have ha := a.toNat_lt
  have hb := b.toNat_lt
  have hc := c.toNat_lt
  have hd := d.toNat_lt
  unfold unword wordBound
  omega

/-- A word is read back from its bytes. -/
theorem unword_word (n : Nat) (h : n < wordBound) :
    unword (.ofNat (n / 0x1000000)) (.ofNat (n / 0x10000)) (.ofNat (n / 0x100))
      (.ofNat n) = n := by
  unfold wordBound at h
  simp only [unword, UInt8.toNat_ofNat']
  omega

/-- Four bytes are the word of the number they stand for. -/
theorem word_unword (a b c d : UInt8) : word (unword a b c d) = [a, b, c, d] := by
  have ha := a.toNat_lt
  have hb := b.toNat_lt
  have hc := c.toNat_lt
  have hd := d.toNat_lt
  simp only [word, unword, List.cons.injEq, ← UInt8.toNat_inj,
    UInt8.toNat_ofNat', and_true]
  omega

/-- The exclusive-or of all bytes. -/
def xor (s : Bytes) : UInt8 := s.foldl (· ^^^ ·) 0

/-- The first `n` bytes and the rest, if there are as many. -/
def splitAt? : Nat → Bytes → Option (Bytes × Bytes)
  | 0, s => some ([], s)
  | _ + 1, [] => none
  | n + 1, b :: s =>
    match splitAt? n s with
    | some (front, rest) => some (b :: front, rest)
    | none => none

theorem splitAt?_eq_some {n : Nat} {s front rest : Bytes} :
    splitAt? n s = some (front, rest) ↔ front.length = n ∧ s = front ++ rest := by
  induction n generalizing s front with
  | zero =>
    simp only [splitAt?, Option.some.injEq, Prod.mk.injEq, List.length_eq_zero_iff]
    constructor
    · rintro ⟨rfl, rfl⟩; simp
    · rintro ⟨rfl, h⟩; simpa using h
  | succ n ih =>
    cases s with
    | nil =>
      simp only [splitAt?, reduceCtorEq, false_iff]
      rintro ⟨h, e⟩
      have := (List.append_eq_nil_iff.mp e.symm).1
      simp [this] at h
    | cons b s =>
      simp only [splitAt?]
      constructor
      · intro h
        cases hs : splitAt? n s with
        | none => simp [hs] at h
        | some pr =>
          obtain ⟨f, r⟩ := pr
          simp only [hs, Option.some.injEq, Prod.mk.injEq] at h
          obtain ⟨rfl, rfl⟩ := h
          obtain ⟨hl, he⟩ := ih.mp hs
          simp [hl, he]
      · rintro ⟨hl, he⟩
        cases front with
        | nil => simp at hl
        | cons c f =>
          simp only [List.cons_append, List.cons.injEq] at he
          obtain ⟨rfl, he⟩ := he
          have := ih.mpr ⟨by simpa using hl, he⟩
          simp [this]

theorem splitAt?_append (front rest : Bytes) :
    splitAt? front.length (front ++ rest) = some (front, rest) :=
  splitAt?_eq_some.mpr ⟨rfl, rfl⟩

theorem splitAt?_eq_none {n : Nat} {s : Bytes} : splitAt? n s = none ↔ s.length < n := by
  induction n generalizing s with
  | zero => simp [splitAt?]
  | succ n ih =>
    cases s with
    | nil => simp [splitAt?]
    | cons b s =>
      simp only [splitAt?, List.length_cons, Nat.add_lt_add_iff_right, ← ih]
      cases splitAt? n s <;> simp

/-- A byte string in pieces of `size` bytes, the last one perhaps shorter; a
size of zero counts as one. -/
def pieces (size : Nat) (s : Bytes) : List Bytes :=
  match s with
  | [] => []
  | b :: s =>
    (b :: s.take (size - 1)) :: pieces size (s.drop (size - 1))
termination_by s.length
decreasing_by simp only [List.length_drop, List.length_cons]; omega

end Bytes

end PacketServer
