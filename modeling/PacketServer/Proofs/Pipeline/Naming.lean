import Mathlib.Data.List.Induction
import Mathlib.Data.List.Nodup
import PacketServer.Pipeline.Spec

/-!
# Names of stages

The check of a specification goes through the inserted stages in the order of
their insertion and stops at the first whose name it refuses: an empty one, or
one that a fixed part or an earlier stage has. What it has seen on the way is
the fixed names and the names before, so nothing is refused exactly if the
names of all parts are distinct and no stage is without one. Which way packets
go through a stage does not matter, and neither does what is inserted behind
the first name that is refused.

## Main results

* `firstNameFault_append` — names are checked part by part.
* `firstNameFault_eq_none_iff` — which rows of names pass.
* `firstNameFault_eq_some_iff` — which name is refused, and what is said of it.
* `names_checked` — what the check of a specification comes to.
-/

namespace PacketServer.Spec

variable {σ ν : Type}

/-- The names of the fixed parts. -/
def fixedNames : List String := [decoderName, encoderName, handlerName]

/-- A stage cannot have this name behind stages with the names before. -/
def Refused (before : List String) (name : String) : Prop :=
  name = "" ∨ name ∈ fixedNames ∨ name ∈ before

/-- What is said of a name that is refused. -/
def nameFault (name : String) : ConfigError :=
  if name = "" then .validation "pipeline stage name must not be empty"
  else .invalidValue "pipeline stage" name

/-- The first of the names that is refused, and the names before it. -/
structure FirstRefused (names before : List String) (name : String) : Prop where
  place : before ++ [name] <+: names
  refused : Refused before name
  first : ∀ front earlier, front ++ [earlier] <+: before → ¬ Refused front earlier

/-! ## Rows of names -/

variable {seen names before front : List String} {name : String} {fault : ConfigError}

/-- **Names are checked part by part**: what was seen first stays seen. -/
theorem firstNameFault_append (seen first second : List String) :
    firstNameFault seen (first ++ second) =
      (firstNameFault seen first).or (firstNameFault (first.reverse ++ seen) second) := by
  induction first generalizing seen with
  | nil => rfl
  | cons name names ih =>
    simp only [List.cons_append, firstNameFault, List.reverse_cons, List.append_assoc,
      List.nil_append]
    split
    · rfl
    · split
      · rfl
      · exact ih (name :: seen)

theorem firstNameFault_singleton (seen : List String) (name : String) :
    firstNameFault seen [name] =
      if name = "" ∨ name ∈ seen then some (nameFault name) else none := by
  simp only [firstNameFault, nameFault]
  by_cases empty : name = ""
  · simp [empty]
  · by_cases known : name ∈ seen <;> simp [empty, known]

/-- **A row of names passes** if none is empty, none was seen, and no two of
them are the same. -/
theorem firstNameFault_eq_none_iff :
    firstNameFault seen names = none ↔ "" ∉ names ∧ names.Nodup ∧ ∀ name ∈ names, name ∉ seen := by
  induction names generalizing seen with
  | nil => simp [firstNameFault]
  | cons name names ih =>
    have parts : firstNameFault seen (name :: names) = none ↔
        ¬ (name = "" ∨ name ∈ seen) ∧ firstNameFault (name :: seen) names = none := by
      have parts := firstNameFault_append seen [name] names
      rw [firstNameFault_singleton] at parts
      rw [show name :: names = [name] ++ names from rfl, parts]
      split <;> simp_all
    rw [parts, ih, List.nodup_cons, List.mem_cons]
    constructor
    · rintro ⟨accepted, nonempty, nodup, unseen⟩
      obtain ⟨named, fresh⟩ := not_or.mp accepted
      refine ⟨not_or.mpr ⟨Ne.symm named, nonempty⟩,
        ⟨fun again => unseen name again List.mem_cons_self, nodup⟩, ?_⟩
      intro other member
      rcases List.mem_cons.mp member with rfl | later
      · exact fresh
      · exact fun known => unseen other later (List.mem_cons_of_mem name known)
    · rintro ⟨nonempty, ⟨once, nodup⟩, unseen⟩
      obtain ⟨named, nonempty⟩ := not_or.mp nonempty
      refine ⟨not_or.mpr ⟨Ne.symm named, unseen name List.mem_cons_self⟩, nonempty, nodup, ?_⟩
      intro other later known
      rcases List.mem_cons.mp known with rfl | known
      · exact once later
      · exact unseen other (List.mem_cons_of_mem name later) known

/-- What has been seen when a name is checked is the names before it and the
fixed ones. -/
theorem refused_iff : Refused before name ↔ name = "" ∨ name ∈ before.reverse ++ fixedNames := by
  rw [Refused, List.mem_append, List.mem_reverse, or_comm (a := name ∈ fixedNames)]

/-- One more name behind a row of names. -/
theorem firstNameFault_concat (passed : firstNameFault fixedNames before = none) :
    firstNameFault fixedNames (before ++ [name]) = some fault ↔
      Refused before name ∧ fault = nameFault name := by
  rw [firstNameFault_append, passed, Option.none_or, firstNameFault_singleton, refused_iff]
  split
  · rename_i refused
    simp only [refused, true_and, Option.some.injEq]
    exact eq_comm
  · rename_i accepted
    constructor
    · intro none
      cases none
    · rintro ⟨refused, -⟩
      exact absurd refused accepted

/-- **A row passes if each name is accepted** behind those before it. -/
theorem firstNameFault_eq_none_iff_accepted :
    firstNameFault fixedNames before = none ↔
      ∀ front earlier, front ++ [earlier] <+: before → ¬ Refused front earlier := by
  constructor
  · rintro passed front earlier ⟨behind, rfl⟩ refused
    -- The fault of the part that ends with the name stays the fault of the row.
    rw [firstNameFault_append, Option.or_eq_none_iff] at passed
    have frontPassed := passed.1
    rw [firstNameFault_append, Option.or_eq_none_iff] at frontPassed
    have fails := (firstNameFault_concat frontPassed.1).mpr ⟨refused, rfl⟩
    rw [passed.1] at fails
    cases fails
  · intro accepted
    induction before using List.reverseRecOn with
    | nil => rfl
    | append_singleton front last ih =>
      have passed := ih fun front' earlier place =>
        accepted front' earlier (place.trans (List.prefix_append front [last]))
      refine Option.eq_none_iff_forall_ne_some.mpr fun fault fails => ?_
      exact accepted front last (List.prefix_refl _) ((firstNameFault_concat passed).mp fails).1

/-- **The name that is refused is the first one**, and the fault tells what is
wrong with it. -/
theorem firstNameFault_eq_some_iff :
    firstNameFault fixedNames names = some fault ↔
      ∃ before name, FirstRefused names before name ∧ fault = nameFault name := by
  constructor
  · intro found
    induction names using List.reverseRecOn with
    | nil => cases found
    | append_singleton front last ih =>
      cases passed : firstNameFault fixedNames front with
      | some earlier =>
        rw [firstNameFault_append, passed, Option.some_or] at found
        obtain ⟨before, name, isFirst, told⟩ := ih (passed.trans found)
        exact ⟨before, name,
          { isFirst with place := isFirst.place.trans (List.prefix_append front [last]) }, told⟩
      | none =>
        obtain ⟨refused, told⟩ := (firstNameFault_concat passed).mp found
        exact ⟨front, last,
          ⟨List.prefix_refl _, refused, firstNameFault_eq_none_iff_accepted.mp passed⟩, told⟩
  · rintro ⟨before, name, ⟨⟨behind, rfl⟩, refused, first⟩, told⟩
    have passed := firstNameFault_eq_none_iff_accepted.mpr first
    have fails := (firstNameFault_concat passed).mpr ⟨refused, told⟩
    rw [firstNameFault_append, fails, Option.some_or]

/-! ## Specifications -/

/-- The stage that a change inserts, if it inserts one. -/
def Change.stage? : Change σ ν → Option (Stage σ ν)
  | .stage s => some s
  | _ => none

/-- The name of the stage that a change inserts, if it inserts one. -/
def Change.inserts? : Change σ ν → Option String
  | .stage s => some s.name
  | _ => none

theorem Change.inserts?_eq (c : Change σ ν) : c.inserts? = c.stage?.map (·.name) := by
  cases c <;> rfl

/-- The inserted stages keep the order of their insertion. -/
theorem inserted_changeAll (s : Spec σ ν) (changes : List (Change σ ν)) :
    (s.changeAll changes).stages = s.stages ++ changes.filterMap Change.stage? := by
  induction changes generalizing s with
  | nil => simp [changeAll]
  | cons c changes ih =>
    show ((s.change c).changeAll changes).stages = _
    rw [ih, List.filterMap_cons]
    cases c with
    | stage stage => simp [change, insert, Change.stage?]
    | limit limit => simp only [change, limitFrames]; split <;> simp [Change.stage?]
    | decoder d => simp [change, withDecoder, Change.stage?]
    | encoder e => simp [change, withEncoder, Change.stage?]

/-- The names of the inserted stages. -/
theorem stages_changeAll (s : Spec σ ν) (changes : List (Change σ ν)) :
    (s.changeAll changes).stages.map (·.name) =
      s.stages.map (·.name) ++ changes.filterMap Change.inserts? := by
  rw [inserted_changeAll, List.map_append, List.map_filterMap]
  simp only [← Change.inserts?_eq]

theorem validate_eq_error_iff (s : Spec σ ν) :
    s.validate = .error fault ↔
      firstNameFault fixedNames (s.stages.map (·.name)) = some fault := by
  rw [validate, ← fixedNames]
  cases firstNameFault fixedNames (s.stages.map (·.name)) <;> simp

theorem validate_eq_ok_iff (s : Spec σ ν) :
    s.validate = .ok () ↔ firstNameFault fixedNames (s.stages.map (·.name)) = none := by
  rw [validate, ← fixedNames]
  cases firstNameFault fixedNames (s.stages.map (·.name)) <;> simp

/-- The fixed names are distinct, so the names of all parts are if those of the
stages are, and are not fixed. -/
theorem nodup_names_iff (s : Spec σ ν) :
    s.names.Nodup ↔ (s.stages.map (·.name)).Nodup ∧
      ∀ name ∈ s.stages.map (·.name), name ∉ fixedNames := by
  generalize inserted : s.stages.map (·.name) = names
  have perm : s.names.Perm (fixedNames ++ names) := by
    rw [s.names_eq, inserted]
    exact ((List.perm_append_singleton handlerName names).cons encoderName).cons decoderName
  rw [perm.nodup_iff, List.nodup_append]
  constructor
  · rintro ⟨-, nodup, apart⟩
    exact ⟨nodup, fun name member fixed => apart name fixed name member rfl⟩
  · rintro ⟨nodup, unfixed⟩
    refine ⟨by decide, nodup, ?_⟩
    rintro fixed isFixed name member rfl
    exact unfixed fixed member isFixed

/-- What the check of a specification with these inserted names comes to. -/
structure NamesChecked (s : Spec σ ν) (inserted : List String) : Prop where
  /-- The names of all parts, in the order of the pipeline. -/
  names : s.names = decoderName :: encoderName :: (inserted ++ [handlerName])
  /-- It passes if no inserted name is empty and all names are distinct. -/
  accepts : s.validate = .ok () ↔ "" ∉ inserted ∧ s.names.Nodup
  /-- Otherwise the fault is that of the first name that is refused. -/
  refuses : ∀ fault, s.validate = .error fault ↔
    ∃ before name, FirstRefused inserted before name ∧ fault = nameFault name
  /-- Another specification with the same names is checked alike, whatever the
  directions of its stages. -/
  blind : ∀ other : Spec σ ν, other.names = s.names → other.validate = s.validate
  /-- What is inserted behind a name that is refused does not matter. -/
  final : ∀ fault, s.validate = .error fault → ∀ changes,
    (s.changeAll changes).validate = .error fault

/-- **What the check of a specification comes to**, whatever was inserted, in
whatever directions, and however the codec was changed in between. -/
theorem names_checked (handler : Handler σ ν) (changes : List (Change σ ν)) :
    NamesChecked ((ofHandler handler).changeAll changes) (changes.filterMap Change.inserts?) := by
  have stages := stages_changeAll (ofHandler handler) changes
  generalize (ofHandler handler).changeAll changes = s at stages ⊢
  have stages : s.stages.map (·.name) = changes.filterMap Change.inserts? := stages
  refine
    { names := by rw [s.names_eq, stages]
      accepts := ?_
      refuses := fun fault => ?_
      blind := fun other same => ?_
      final := fun fault refused more => ?_ }
  · rw [s.validate_eq_ok_iff, firstNameFault_eq_none_iff, s.nodup_names_iff, stages]
  · rw [s.validate_eq_error_iff, firstNameFault_eq_some_iff, stages]
  · have same : other.stages.map (·.name) = s.stages.map (·.name) := by
      simpa [names_eq] using same
    rw [validate, validate, same]
  · rw [validate_eq_error_iff] at refused ⊢
    rw [stages_changeAll, firstNameFault_append, refused, Option.some_or]

end PacketServer.Spec
