import Mathlib.Data.List.Forall2
import PacketServer.Text.Blank

/-!
# Texts that are read alike

A setting given as text is compared in its folded form. Two characters are
folded to the same one if they are the same, or one letter of the ASCII
alphabet in two cases; no other letter has cases here. Folding a letter makes
no blank and takes none away, so it does not matter whether the blanks around a
text are dropped before or behind it.

What is folded to a word is then the word in some case with blanks around it,
and what is folded to a text that begins with the word is blanks, the word in
some case, and anything: blanks are dropped at the end of a text, but never a
part of the word.

## Main results

* `lowerAscii_eq_iff` — which characters are folded to the same one.
* `Variant.folded_eq` — neither case nor blanks around a text matter.
* `folded_eq_iff_variant` — what is folded to a word.
* `prefix_folded_iff` — what is folded to a text that begins with a word.
-/

namespace PacketServer.Text

/-- The letters of the ASCII alphabet, each as a capital and as a small one. -/
def alphabet : List (Char × Char) :=
  [('A', 'a'), ('B', 'b'), ('C', 'c'), ('D', 'd'), ('E', 'e'), ('F', 'f'), ('G', 'g'),
    ('H', 'h'), ('I', 'i'), ('J', 'j'), ('K', 'k'), ('L', 'l'), ('M', 'm'), ('N', 'n'),
    ('O', 'o'), ('P', 'p'), ('Q', 'q'), ('R', 'r'), ('S', 's'), ('T', 't'), ('U', 'u'),
    ('V', 'v'), ('W', 'w'), ('X', 'x'), ('Y', 'y'), ('Z', 'z')]

/-- One character, or one letter of the alphabet in two cases. -/
def SameLetter (c d : Char) : Prop := c = d ∨ (c, d) ∈ alphabet ∨ (d, c) ∈ alphabet

/-- Nothing but blanks. -/
def Blanks (cs : List Char) : Prop := ∀ c ∈ cs, isBlank c = true

/-- The text `t` is `s` in some case, with blanks around it. -/
def Variant (s t : String) : Prop :=
  ∃ front core back, t.toList = front ++ core ++ back ∧ Blanks front ∧ Blanks back ∧
    List.Forall₂ SameLetter s.toList core

/-- The text `t` begins with blanks and with `s` in some case behind them. -/
def Opens (s t : String) : Prop :=
  ∃ front core rest, t.toList = front ++ core ++ rest ∧ Blanks front ∧
    List.Forall₂ SameLetter s.toList core

instance (c d : Char) : Decidable (SameLetter c d) :=
  inferInstanceAs (Decidable (c = d ∨ (c, d) ∈ alphabet ∨ (d, c) ∈ alphabet))

instance (cs : List Char) : Decidable (Blanks cs) :=
  decidable_of_iff (cs.all isBlank = true) List.all_eq_true

/-! ## Letters -/

section

variable {c d capital other small : Char}

theorem lowerAscii_of_mem (letter : (capital, small) ∈ alphabet) :
    lowerAscii capital = small ∧ lowerAscii small = small := by
  have all : ∀ p ∈ alphabet, lowerAscii p.1 = p.2 ∧ lowerAscii p.2 = p.2 := by decide
  exact all (capital, small) letter

theorem isBlank_of_mem (letter : (capital, small) ∈ alphabet) :
    isBlank capital = false ∧ isBlank small = false := by
  have all : ∀ p ∈ alphabet, isBlank p.1 = false ∧ isBlank p.2 = false := by decide
  exact all (capital, small) letter

/-- A small letter has one capital. -/
theorem capital_unique (letter : (capital, small) ∈ alphabet) (again : (other, small) ∈ alphabet) :
    capital = other := by
  have all : ∀ p ∈ alphabet, ∀ q ∈ alphabet, p.2 = q.2 → p.1 = q.1 := by decide
  exact all (capital, small) letter (other, small) again rfl

/-- What is folded to something else is a capital of the alphabet. -/
theorem lowerAscii_cases (c : Char) : lowerAscii c = c ∨ (c, lowerAscii c) ∈ alphabet := by
  by_cases capital : 'A' ≤ c ∧ c ≤ 'Z'
  · have all : ∀ n < 26, (Char.ofNat (65 + n), lowerAscii (Char.ofNat (65 + n))) ∈ alphabet := by
      decide
    have lower : 65 ≤ c.toNat := capital.1
    have upper : c.toNat ≤ 90 := capital.2
    have found := all (c.toNat - 65) (by omega)
    rw [show 65 + (c.toNat - 65) = c.toNat by omega, Char.ofNat_toNat] at found
    exact .inr found
  · exact .inl (if_neg capital)

/-- **Characters are folded to the same one** if they are the same, or one letter
in two cases. -/
theorem lowerAscii_eq_iff : lowerAscii c = lowerAscii d ↔ SameLetter c d := by
  constructor
  · intro same
    rcases lowerAscii_cases c with kept | capital <;>
      rcases lowerAscii_cases d with kept' | capital'
    · exact .inl (kept.symm.trans (same.trans kept'))
    · rw [← same, kept] at capital'
      exact .inr (.inr capital')
    · rw [same, kept'] at capital
      exact .inr (.inl capital)
    · rw [← same] at capital'
      exact .inl (capital_unique capital capital')
  · rintro (rfl | letter | letter)
    · rfl
    · obtain ⟨capital, small⟩ := lowerAscii_of_mem letter
      exact capital.trans small.symm
    · obtain ⟨capital, small⟩ := lowerAscii_of_mem letter
      exact small.trans capital.symm

/-- The sign for a kelvin is not a letter of the alphabet, so it has no cases. -/
example : ¬ SameLetter '\u212A' 'k' ∧ lowerAscii '\u212A' = '\u212A' := by decide

@[simp] theorem lowerAscii_lowerAscii (c : Char) : lowerAscii (lowerAscii c) = lowerAscii c := by
  rcases lowerAscii_cases c with kept | letter
  · rw [kept, kept]
  · exact (lowerAscii_of_mem letter).2

/-- Folding makes no blank, and takes none away. -/
@[simp] theorem isBlank_lowerAscii (c : Char) : isBlank (lowerAscii c) = isBlank c := by
  rcases lowerAscii_cases c with kept | letter
  · rw [kept]
  · obtain ⟨capital, small⟩ := isBlank_of_mem letter
    rw [capital, small]

end

/-! ## Words -/

section

variable {cs ds front word : List Char} {s t name : String}

theorem map_lowerAscii_eq_iff :
    cs.map lowerAscii = ds.map lowerAscii ↔ List.Forall₂ SameLetter cs ds := by
  rw [← List.forall₂_eq_eq_eq, List.forall₂_map_left_iff, List.forall₂_map_right_iff]
  simp only [lowerAscii_eq_iff]

theorem trimBlank_map_lowerAscii (cs : List Char) :
    trimBlank (cs.map lowerAscii) = (trimBlank cs).map lowerAscii := by
  have kept : isBlank ∘ lowerAscii = isBlank := funext isBlank_lowerAscii
  simp only [trimBlank, List.dropWhile_map, ← List.map_reverse, kept]

/-- What is dropped from a text is blanks around it. -/
theorem exists_padding (cs : List Char) :
    ∃ front back, cs = front ++ trimBlank cs ++ back ∧ Blanks front ∧ Blanks back := by
  refine ⟨cs.takeWhile isBlank, ((cs.dropWhile isBlank).reverse.takeWhile isBlank).reverse,
    ?_, ?_, ?_⟩
  · rw [trimBlank, List.append_assoc, ← List.reverse_append, List.takeWhile_append_dropWhile,
      List.reverse_reverse, List.takeWhile_append_dropWhile]
  · exact List.all_eq_true.mp List.all_takeWhile
  · intro c member
    exact List.all_eq_true.mp List.all_takeWhile c (List.mem_reverse.mp member)

/-- **Neither case nor blanks around a text matter.** -/
theorem Variant.folded_eq (variant : Variant s t) : folded t = folded s := by
  obtain ⟨front, core, back, text, blankFront, blankBack, same⟩ := variant
  calc folded t
      = (trimBlank core).map lowerAscii := by
        rw [folded, text, trimBlank_append front core back blankFront blankBack]
    _ = trimBlank (s.toList.map lowerAscii) := by
        rw [← trimBlank_map_lowerAscii, map_lowerAscii_eq_iff.mpr same]
    _ = folded s := trimBlank_map_lowerAscii s.toList

/-- **What is folded to a word** is the word in some case, with blanks around
it. -/
theorem folded_eq_iff_variant (plain : folded name = name.toList) :
    folded s = name.toList ↔ Variant name s := by
  have lower : name.toList.map lowerAscii = name.toList := by
    rw [← plain, folded, List.map_map]
    exact List.map_congr_left fun c _ => lowerAscii_lowerAscii c
  constructor
  · intro same
    obtain ⟨front, back, text, blankFront, blankBack⟩ := exists_padding s.toList
    exact ⟨front, trimBlank s.toList, back, text, blankFront, blankBack,
      map_lowerAscii_eq_iff.mp (lower.trans same.symm)⟩
  · intro variant
    rw [variant.folded_eq, plain]

/-- A word without blanks is not touched when the blanks around a text that it
opens are dropped. -/
theorem prefix_trimBlank (blank : Blanks front) (visible : word.any isBlank = false)
    (rest : List Char) : word <+: trimBlank (front ++ word ++ rest) := by
  have unpadded : trimBlank (front ++ word ++ rest) = trimBlank (word ++ rest) := by
    have dropped := trimBlank_append front (word ++ rest) [] blank (by simp)
    rwa [List.append_nil, ← List.append_assoc] at dropped
  rw [unpadded]
  obtain ⟨before, behind, text, blankBefore, blankBehind⟩ := exists_padding (word ++ rest)
  generalize trimBlank (word ++ rest) = trimmed at text ⊢
  have apart {c : Char} (member : c ∈ word) : ¬ isBlank c = true :=
    List.any_eq_false.mp visible c member
  cases word with
  | nil => exact List.nil_prefix
  | cons c word =>
    have undropped : before = [] := by
      cases before with
      | nil => rfl
      | cons b before =>
        obtain rfl : c = b := (List.cons.inj text).1
        exact absurd (blankBefore c List.mem_cons_self) (apart List.mem_cons_self)
    rw [undropped, List.nil_append] at text
    rcases List.append_eq_append_iff.mp text with ⟨more, whole, -⟩ | ⟨lost, whole, dropped⟩
    · exact ⟨more, whole.symm⟩
    · cases lost with
      | nil => exact ⟨[], by rw [whole, List.append_nil, List.append_nil]⟩
      | cons b lost =>
        have blank : isBlank b = true := blankBehind b (dropped ▸ List.mem_cons_self)
        exact absurd blank (apart (whole ▸ List.mem_append_right trimmed List.mem_cons_self))

/-- **What is folded to a text that begins with a word** begins with blanks, and
with the word in some case behind them. -/
theorem prefix_folded_iff (lower : name.toList.map lowerAscii = name.toList)
    (visible : name.toList.any isBlank = false) :
    name.toList <+: folded s ↔ Opens name s := by
  constructor
  · rintro ⟨more, folds⟩
    obtain ⟨core, rest, trimmed, same, -⟩ := List.map_eq_append_iff.mp folds.symm
    obtain ⟨front, back, text, blank, -⟩ := exists_padding s.toList
    refine ⟨front, core, rest ++ back, ?_, blank, map_lowerAscii_eq_iff.mp (lower.trans same.symm)⟩
    rw [text, trimmed]
    simp only [List.append_assoc]
  · rintro ⟨front, core, rest, text, blank, same⟩
    have folds : core.map lowerAscii = name.toList :=
      (map_lowerAscii_eq_iff.mpr same).symm.trans lower
    have shown : core.any isBlank = false := by
      refine List.any_eq_false.mpr fun c member => ?_
      rw [← isBlank_lowerAscii]
      exact List.any_eq_false.mp visible _ (folds ▸ List.mem_map_of_mem member)
    have opens := (prefix_trimBlank blank shown rest).map lowerAscii
    rwa [folds, ← text] at opens

end

end PacketServer.Text
