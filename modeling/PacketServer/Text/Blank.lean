/-!
# Blank characters and case

Settings given as text are read without regard to white space around them
and to the case of their letters. White space is the Unicode property of that
name; case is folded for the twenty-six ASCII letters only.

## Main results

* `trimBlank_append` — blanks on either side do not matter.
-/

namespace PacketServer.Text

/-- The characters with the Unicode property `White_Space`. -/
def isBlank (c : Char) : Bool :=
  let n := c.toNat
  (0x09 ≤ n && n ≤ 0x0D) || n == 0x20 || n == 0x85 || n == 0xA0 ||
  n == 0x1680 || (0x2000 ≤ n && n ≤ 0x200A) || n == 0x2028 || n == 0x2029 ||
  n == 0x202F || n == 0x205F || n == 0x3000

/-- The characters without the blanks before the first and after the last
other one. -/
def trimBlank (cs : List Char) : List Char :=
  (((cs.dropWhile isBlank).reverse).dropWhile isBlank).reverse

/-- A letter in lower case, if it is an ASCII letter. -/
def lowerAscii (c : Char) : Char :=
  if 'A' ≤ c ∧ c ≤ 'Z' then Char.ofNat (c.toNat + 32) else c

/-- A setting's text in the form in which it is compared. -/
def folded (s : String) : List Char := (trimBlank s.toList).map lowerAscii

theorem dropWhile_append_of_all {α : Type} (p : α → Bool) (pad cs : List α)
    (h : ∀ c ∈ pad, p c = true) :
    (pad ++ cs).dropWhile p = cs.dropWhile p := by
  induction pad with
  | nil => rfl
  | cons c pad ih =>
    have hc := h c (by simp)
    have ht : ∀ d ∈ pad, p d = true := fun d hd => h d (by simp [hd])
    simp [hc, ih ht]

/-- Blanks in front and behind do not matter. -/
theorem trimBlank_append (front cs back : List Char)
    (hf : ∀ c ∈ front, isBlank c = true) (hb : ∀ c ∈ back, isBlank c = true) :
    trimBlank (front ++ cs ++ back) = trimBlank cs := by
  have hrev : ∀ c ∈ back.reverse, isBlank c = true := by simpa using hb
  have drop : ∀ l : List Char,
      ((l.dropWhile isBlank ++ back).reverse).dropWhile isBlank =
        ((l.dropWhile isBlank).reverse).dropWhile isBlank := by
    intro l
    rw [List.reverse_append, dropWhile_append_of_all _ _ _ hrev]
  have mid : (cs ++ back).dropWhile isBlank =
      if (cs.dropWhile isBlank).isEmpty then back.dropWhile isBlank
      else cs.dropWhile isBlank ++ back := List.dropWhile_append
  have hback : back.dropWhile isBlank = [] := by
    simpa using dropWhile_append_of_all isBlank back [] hb
  unfold trimBlank
  rw [List.append_assoc, dropWhile_append_of_all _ _ _ hf, mid]
  cases hcs : (cs.dropWhile isBlank).isEmpty with
  | true =>
    have : cs.dropWhile isBlank = [] := by simpa using hcs
    simp [this, hback]
  | false => simpa using congrArg List.reverse (drop cs)

end PacketServer.Text
