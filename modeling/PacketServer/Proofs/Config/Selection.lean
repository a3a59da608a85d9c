import PacketServer.Backend
import PacketServer.Proofs.Text.Folding

/-!
# Selecting a backend

A preference is read from its names, and a system is known to be Linux by how
its name begins. Both are told from folded texts, so neither reading nor
selecting sees the case of letters or the blanks around a text. What a fault
says is the text itself, as it was given.

## Main results

* `Preference.parse_eq_ok_iff` — which texts name a preference.
* `Backend.select_eq_linuxOptimized_iff` — when the tuned sockets are used.
* `backend_selected` — reading and selecting, for all texts.
-/

namespace PacketServer

open Text (Variant Opens folded)

/-! ## Preferences -/

namespace Preference

variable {s t : String} {p : Preference}

/-- The names that a preference is read from. -/
def names : Preference → List String
  | portable => ["portable", "nio"]
  | optimized => ["optimized", "epoll", "native"]

theorem folded_of_mem_names : ∀ name ∈ p.names, folded name = name.toList := by
  cases p <;> decide

/-- A text is compared with the names in its folded form. -/
theorem parse_eq_ok_iff_folded :
    parse s = .ok p ↔ ∃ name ∈ p.names, folded s = name.toList := by
  by_cases first : folded s = "portable".toList ∨ folded s = "nio".toList
  · rw [show parse s = .ok portable from if_pos first]
    rcases first with same | same <;> rw [same] <;> cases p <;> decide
  · by_cases second : folded s = "optimized".toList ∨ folded s = "epoll".toList ∨
        folded s = "native".toList
    · rw [show parse s = .ok optimized from (if_neg first).trans (if_pos second)]
      rcases second with same | same | same <;> rw [same] <;> cases p <;> decide
    · rw [show parse s = .error (.invalidValue "transport" s) from
        (if_neg first).trans (if_neg second)]
      cases p with
      | portable => simpa [names] using first
      | optimized => simpa [names] using second

/-- **A preference is read** from its names, in any case and with blanks around
them. -/
theorem parse_eq_ok_iff : parse s = .ok p ↔ ∃ name ∈ p.names, Variant name s := by
  rw [parse_eq_ok_iff_folded]
  exact exists_congr fun name => and_congr_right fun member =>
    Text.folded_eq_iff_variant (folded_of_mem_names name member)

/-- A fault names the text as it was given. -/
theorem parse_eq_error {e : ConfigError} (refused : parse s = .error e) :
    e = .invalidValue "transport" s := by
  unfold parse at refused
  dsimp only at refused
  split at refused
  · cases refused
  · split at refused
    · cases refused
    · exact (Except.error.inj refused).symm

end Preference

/-! ## Backends -/

/-- **The tuned sockets are used** if they are preferred and the system has a
name that begins with Linux. -/
theorem Backend.select_eq_linuxOptimized_iff {p : Preference} {osName : Option String} :
    select p osName = .linuxOptimized ↔
      p = .optimized ∧ ∃ name, osName = some name ∧ Opens "linux" name := by
  have opens (name : String) :
      "linux".toList.isPrefixOf (folded name) = true ↔ Opens "linux" name :=
    List.isPrefixOf_iff_prefix.trans (Text.prefix_folded_iff (by decide) (by decide))
  cases p with
  | portable => simp [select]
  | optimized =>
    cases osName with
    | none => simp [select]
    | some name =>
      rw [select]
      constructor
      · intro tuned
        refine ⟨rfl, name, rfl, (opens name).mp ?_⟩
        by_contra other
        rw [if_neg other] at tuned
        cases tuned
      · rintro ⟨-, _, ⟨⟩, linux⟩
        exact if_pos ((opens name).mpr linux)

/-- A system's name is only looked at in its folded form. -/
theorem Backend.select_of_variant {s t : String} (variant : Variant s t) (p : Preference) :
    select p (some t) = select p (some s) := by
  cases p with
  | portable => rfl
  | optimized => rw [select, select, variant.folded_eq]

/-! ## Any texts -/

/-- What is known of a text `s`, of a preference, and of what may be known of the
name of a system. -/
structure Selected (s : String) (p : Preference) (osName : Option String) : Prop where
  /-- Another case and blanks around a text do not matter to what is read. -/
  read : ∀ t, Variant s t → (Preference.parse t = .ok p ↔ Preference.parse s = .ok p)
  /-- What cannot be read cannot be read in another case or with blanks around it
  either; each fault says its own text. -/
  unread : ∀ t, Variant s t → ∀ e, Preference.parse s = .error e →
    e = .invalidValue "transport" s ∧
      Preference.parse t = .error (.invalidValue "transport" t)
  /-- They do not matter to the system's name either. -/
  alike : ∀ t, Variant s t → Backend.select p (some t) = Backend.select p (some s)
  /-- A preference is read from its names, and from nothing else. -/
  named : Preference.parse s = .ok p ↔ ∃ name ∈ p.names, Variant name s
  /-- A preference is read back from its text. -/
  shown : Preference.parse p.text = .ok p
  /-- The tuned sockets are used if they are preferred on a system that is known
  to be Linux. -/
  tuned : Backend.select p osName = .linuxOptimized ↔
    p = .optimized ∧ ∃ name, osName = some name ∧ Opens "linux" name

/-- **Reading and selecting** see neither case nor blanks around a text, and see
nothing but names. -/
theorem backend_selected (s : String) (p : Preference) (osName : Option String) :
    Selected s p osName := by
  have read (t : String) (variant : Variant s t) (p : Preference) :
      Preference.parse t = .ok p ↔ Preference.parse s = .ok p := by
    rw [Preference.parse_eq_ok_iff_folded, Preference.parse_eq_ok_iff_folded, variant.folded_eq]
  refine
    { read := fun t variant => read t variant p
      unread := fun t variant e refused => ⟨Preference.parse_eq_error refused, ?_⟩
      alike := fun t variant => Backend.select_of_variant variant p
      named := Preference.parse_eq_ok_iff
      shown := by cases p <;> decide
      tuned := Backend.select_eq_linuxOptimized_iff }
  cases answer : Preference.parse t with
  | ok q =>
    rw [(read t variant q).mp answer] at refused
    cases refused
  | error e' => rw [Preference.parse_eq_error answer]

/-- Wide and unbreakable blanks are dropped, and a name is read in mixed case; a
system's name may go on behind Linux. -/
theorem backend_selected_behind_wide_blanks :
    Variant "epoll" "\u2003EpOLL\u00A0" ∧
      Preference.parse "\u2003EpOLL\u00A0" = .ok .optimized ∧
      Backend.select .optimized (some "\u3000LinuX 6\u0085") = .linuxOptimized := by
  have variant : Variant "epoll" "\u2003EpOLL\u00A0" :=
    ⟨['\u2003'], ['E', 'p', 'O', 'L', 'L'], ['\u00A0'], by decide, by decide, by decide,
      Text.map_lowerAscii_eq_iff.mp (by decide)⟩
  have linux : Text.Opens "linux" "\u3000LinuX 6\u0085" :=
    ⟨['\u3000'], ['L', 'i', 'n', 'u', 'X'], [' ', '6', '\u0085'], by decide, by decide,
      Text.map_lowerAscii_eq_iff.mp (by decide)⟩
  have known := backend_selected "epoll" .optimized (some "\u3000LinuX 6\u0085")
  exact ⟨variant, (known.read _ variant).mpr (by decide), known.tuned.mpr ⟨rfl, _, rfl, linux⟩⟩

end PacketServer
