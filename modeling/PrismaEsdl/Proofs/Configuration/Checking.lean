import Mathlib.Order.Basic
import PrismaEsdl.Configuration
import PrismaEsdl.Proofs.Table

/-!
Checking the values of settings.

What a value has to be for a setting (`Suits`) and what may be wrong with it (`Offends`) are said
without the order in which that is looked at. A value is accepted exactly if it suits, and refused
with a fault exactly if it offends in that way (`check_eq_ok_iff`, `check_eq_error_iff`). Every
default passes the check that it is spared (`suits_default`), so a setting without a value is as
good as one with its default (`check_or_default`).

Each setting is checked on its own. A configuration is made exactly of accepted values
(`ofValues_eq_ok_iff`); where there is none, the faults are those of the settings that have one, in
the order of the settings (`faults_sublist`, `mem_faults_iff`).
-/

namespace PrismaEsdl

namespace Setting

/-- The text that a value spells: a text spells itself, and bytes spell what they write. -/
inductive Spells : Document → Text → Prop
  | text (t : Text) : Spells (.text t) t
  | bytes {b : List UInt8} {t : Text} (writes : Text.Utf8.decode? b = some t) : Spells (.bytes b) t

/-- What a value has to be for a setting: a text that is not empty and has no surrogate that stands
alone, and an identifier where the module is named. -/
structure Suits (setting : Setting) (value : Document) (t : Text) : Prop where
  spells : Spells value t
  whole : hasSurrogate t = false
  nonempty : t ≠ []
  named : setting = .moduleName → t.isIdentifier = true

/-- What is wrong with the value of a setting, or with there being none. -/
inductive Offends (setting : Setting) : Option Document → Fault → Prop
  | missing (required : setting.default? = none) : Offends setting none .missing
  | notAText {value : Document} (noText : ∀ t, value ≠ .text t) (noBytes : ∀ b, value ≠ .bytes b) :
      Offends setting (some value) .notAText
  | undecodable {b : List UInt8} (broken : Text.Utf8.decode? b = none) :
      Offends setting (some (.bytes b)) .notUnicode
  | surrogate {value : Document} {t : Text} (spells : Spells value t)
      (half : hasSurrogate t = true) : Offends setting (some value) .notUnicode
  | empty {value : Document} (spells : Spells value []) : Offends setting (some value) .empty
  | notAModuleName {value : Document} {t : Text} (spells : Spells value t)
      (whole : hasSurrogate t = false) (nonempty : t ≠ []) (module : setting = .moduleName)
      (unnamed : t.isIdentifier = false) : Offends setting (some value) (.notAModuleName t)

section

variable {setting : Setting} {value : Document} {value? : Option Document} {t : Text}
  {fault : Fault}

theorem checkText_eq_ok (whole : hasSurrogate t = false) (nonempty : t ≠ [])
    (named : setting = .moduleName → t.isIdentifier = true) : setting.checkText t = .ok t := by
  have notEmpty : t.isEmpty = false := by simpa using nonempty
  have notUnnamed : ¬ (setting = .moduleName ∧ (!t.isIdentifier) = true) := by
    rintro ⟨module, unnamed⟩
    simp [named module] at unnamed
  unfold checkText
  rw [if_neg (by simp [whole]), if_neg (by simp [notEmpty]), if_neg notUnnamed]

/-- A value that spells a text is checked by this text. -/
theorem check_of_spells (spells : Spells value t) :
    setting.check (some value) = setting.checkText t := by
  cases spells with
  | text => rfl
  | bytes writes => simp only [check, writes]

theorem Suits.check_eq (suits : setting.Suits value t) : setting.check (some value) = .ok t := by
  rw [check_of_spells suits.spells]
  exact checkText_eq_ok suits.whole suits.nonempty suits.named

/-- The text that a suitable value spells suits as well. -/
theorem Suits.text (suits : setting.Suits value t) : setting.Suits (.text t) t :=
  ⟨.text t, suits.whole, suits.nonempty, suits.named⟩

theorem Offends.check_eq (offends : setting.Offends value? fault) :
    setting.check value? = .error fault := by
  cases offends with
  | missing required => simp only [check, required]
  | notAText noText noBytes =>
      rename_i value
      cases value with
      | text t => exact absurd rfl (noText t)
      | bytes b => exact absurd rfl (noBytes b)
      | _ => rfl
  | undecodable broken => simp only [check, broken]
  | surrogate spells half => rw [check_of_spells spells, checkText, if_pos half]
  | empty spells => rw [check_of_spells spells]; rfl
  | notAModuleName spells whole nonempty module unnamed =>
      have notEmpty : ¬ List.isEmpty _ = true := fun isEmpty =>
        nonempty (List.isEmpty_iff.mp isEmpty)
      rw [check_of_spells spells, checkText, if_neg (by simp [whole]), if_neg notEmpty,
        if_pos ⟨module, by simp [unnamed]⟩]

theorem suits_or_offends_of_spells (setting : Setting) (spells : Spells value t) :
    setting.Suits value t ∨ ∃ fault, setting.Offends (some value) fault := by
  cases half : hasSurrogate t with
  | true => exact .inr ⟨_, .surrogate spells half⟩
  | false =>
      rcases eq_or_ne t [] with rfl | nonempty
      · exact .inr ⟨_, .empty spells⟩
      by_cases named : setting = .moduleName → t.isIdentifier = true
      · exact .inl ⟨spells, half, nonempty, named⟩
      · obtain ⟨module, unnamed⟩ := Classical.not_imp.mp named
        exact .inr ⟨_, .notAModuleName spells half nonempty module (by simpa using unnamed)⟩

/-- Every value suits a setting or offends it. -/
theorem suits_or_offends (setting : Setting) (value : Document) :
    (∃ t, setting.Suits value t) ∨ ∃ fault, setting.Offends (some value) fault := by
  cases value with
  | text t => exact (suits_or_offends_of_spells setting (.text t)).imp_left fun suits => ⟨t, suits⟩
  | bytes b =>
      cases writes : Text.Utf8.decode? b with
      | some t =>
          exact (suits_or_offends_of_spells setting (.bytes writes)).imp_left
            fun suits => ⟨t, suits⟩
      | none => exact .inr ⟨_, .undecodable writes⟩
  | _ => exact .inr ⟨_, .notAText nofun nofun⟩

/-- What is accepted for a setting is what suits it. -/
theorem check_eq_ok_iff : setting.check (some value) = .ok t ↔ setting.Suits value t := by
  constructor
  · intro accepted
    rcases suits_or_offends setting value with ⟨t', suits⟩ | ⟨fault, offends⟩
    · cases suits.check_eq.symm.trans accepted
      exact suits
    · cases offends.check_eq.symm.trans accepted
  · exact Suits.check_eq

/-- What is refused for a setting offends it, in the way that the fault says. -/
theorem check_eq_error_iff :
    setting.check value? = .error fault ↔ setting.Offends value? fault := by
  constructor
  · intro refused
    cases value? with
    | none =>
        cases required : setting.default? with
        | some t => simp [check, required] at refused
        | none =>
            cases (Offends.missing required).check_eq.symm.trans refused
            exact .missing required
    | some value =>
        rcases suits_or_offends setting value with ⟨t, suits⟩ | ⟨fault', offends⟩
        · cases suits.check_eq.symm.trans refused
        · cases offends.check_eq.symm.trans refused
          exact offends
  · exact Offends.check_eq

/-- Every default passes the check that it is spared. -/
theorem suits_default (given : setting.default? = some t) : setting.Suits (.text t) t := by
  apply check_eq_ok_iff.mp
  cases setting with
  | inputPath => cases given
  | outputPath | moduleName =>
      cases given
      rfl

/-- A setting with no value is as good as one with its default. -/
theorem check_or_default (setting : Setting) (value? : Option Document) :
    setting.check (value?.or (setting.default?.map .text)) = setting.check value? := by
  cases value? with
  | some value => rfl
  | none =>
      cases given : setting.default? with
      | none => rfl
      | some t =>
          rw [Option.none_or, Option.map_some, (suits_default given).check_eq]
          simp only [check, given]

theorem mem_all (setting : Setting) : setting ∈ all := by
  cases setting <;> decide

theorem name_injective {other : Setting} (same : setting.name = other.name) : setting = other := by
  cases setting <;> cases other <;> first | rfl | exact absurd same (by decide)

end

end Setting

namespace Configuration

open Setting (Fault Suits Offends)

/-- The value of a setting in a configuration. -/
def value (configuration : Configuration) : Setting → Text
  | .inputPath => configuration.inputPath
  | .outputPath => configuration.outputPath
  | .moduleName => configuration.moduleName

section

variable {value? : Setting → Option Document} {configuration : Configuration} {setting : Setting}

/-- A configuration is made exactly of accepted values. -/
theorem ofValues_eq_ok_iff : ofValues value? = .ok configuration ↔
    ∀ setting : Setting, setting.check (value? setting) = .ok (configuration.value setting) := by
  constructor
  · intro made setting
    unfold ofValues at made
    split at made
    · rename_i input output module
      cases made
      cases setting <;> assumption
    · cases made
  · intro accepted
    simp only [ofValues, accepted .inputPath, accepted .outputPath, accepted .moduleName, value]

/-- Where no configuration is made, the faults are told. -/
theorem ofValues_cases (value? : Setting → Option Document) :
    (∃ configuration, ofValues value? = .ok configuration) ∨
      ofValues value? = .error (.invalid (faults value?)) := by
  unfold ofValues
  split
  · exact .inl ⟨_, rfl⟩
  · exact .inr rfl

/-- The fault of each setting that has one. -/
theorem mem_faults_iff {fault : Fault} : (setting, fault) ∈ faults value? ↔
    setting.Offends (value? setting) fault := by
  simp only [faults, List.mem_filterMap, Setting.mem_all, true_and]
  constructor
  · rintro ⟨other, found⟩
    split at found
    · cases found
    · rename_i refused
      cases found
      exact Setting.check_eq_error_iff.mp refused
  · intro offends
    exact ⟨setting, by simp only [Setting.check_eq_error_iff.mpr offends]⟩

/-- The faults stand in the order of the settings, at most one for each. -/
theorem faults_sublist (value? : Setting → Option Document) :
    ((faults value?).map Prod.fst).Sublist Setting.all := by
  unfold faults
  induction Setting.all with
  | nil => exact .slnil
  | cons setting rest ih =>
      rw [List.filterMap_cons]
      split
      · exact ih.cons setting
      · rename_i found
        split at found
        · cases found
        · cases found
          exact ih.cons_cons setting

end

end Configuration

end PrismaEsdl
