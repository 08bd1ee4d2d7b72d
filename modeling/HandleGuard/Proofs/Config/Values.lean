import HandleGuard.Config.Environment
import HandleGuard.Proofs.Text.Words

/-!
# What the values of variables say

Each variable is read in its own way. `SaysBindPolicy`, `SaysInvalidPolicy` and `SaysSize` tell how a
value is written that says something, and the readers find that and nothing else:

* `readBindPolicy_eq_some_iff`, `readInvalidPolicy_eq_some_iff`, `readPositiveSize_eq_some_iff`
-/

namespace HandleGuard.Config

open Text (Padded InEitherCase isBlank trim trim_eq_iff padded_trim map_toLower_eq_iff)
open Numeral (SizeSpelling)

variable {value : String}

/-- A word without blanks is what trimming leaves of a value iff the value is that word between
blanks. -/
theorem ofList_trim_eq_iff {word : String} (hword : ∀ c ∈ word.toList, isBlank c = false) :
    String.ofList (trim value.toList) = word ↔ Padded word.toList value.toList := by
  rw [← trim_eq_iff hword, ← String.toList_inj, String.toList_ofList]

/-! ### Yes or no -/

/-- The words for yes, which stands for the singleton policy, and for no. -/
def bindPolicyWords : BindPolicy → List String
  | .singleton => ["1", "true", "TRUE", "yes", "YES"]
  | .perContext => ["0", "false", "FALSE", "no", "NO"]

/-- The value is a word for the policy, between blanks. -/
def SaysBindPolicy (value : String) (p : BindPolicy) : Prop :=
  ∃ word ∈ bindPolicyWords p, Padded word.toList value.toList

theorem saysBindPolicy_iff {p : BindPolicy} :
    SaysBindPolicy value p ↔ String.ofList (trim value.toList) ∈ bindPolicyWords p := by
  have hwords : ∀ word ∈ bindPolicyWords p, ∀ c ∈ word.toList, isBlank c = false := by
    cases p <;> simp [bindPolicyWords, isBlank]
  constructor
  · rintro ⟨word, hmem, hpadded⟩
    rwa [(ofList_trim_eq_iff (hwords word hmem)).mpr hpadded]
  · intro hmem
    exact ⟨_, hmem, (ofList_trim_eq_iff (hwords _ hmem)).mp rfl⟩

theorem readBindPolicy_eq_some_iff {p : BindPolicy} :
    readBindPolicy value = some p ↔ SaysBindPolicy value p := by
  have hdisjoint : ∀ word ∈ bindPolicyWords .singleton, word ∉ bindPolicyWords .perContext := by
    simp [bindPolicyWords]
  have hread : ∀ word : String, (if word ∈ bindPolicyWords .singleton then some BindPolicy.singleton
      else if word ∈ bindPolicyWords .perContext then some .perContext else none) = some p ↔
      word ∈ bindPolicyWords p := by
    intro word
    by_cases hyes : word ∈ bindPolicyWords .singleton
    · have hno := hdisjoint word hyes
      cases p <;> simp [hyes, hno]
    · cases p <;> simp [hyes]
  rw [saysBindPolicy_iff, ← hread]
  rfl

/-! ### Abort or report -/

/-- The names of a policy, in lower case. -/
def invalidPolicyNames : InvalidPolicy → List String
  | .abort => ["abort"]
  | .report => ["report", "error"]

/-- The value is a name of the policy, in letters of either case and between blanks. -/
def SaysInvalidPolicy (value : String) (p : InvalidPolicy) : Prop :=
  ∃ name ∈ invalidPolicyNames p, ∃ word, InEitherCase word name.toList ∧ Padded word value.toList

theorem saysInvalidPolicy_iff {p : InvalidPolicy} :
    SaysInvalidPolicy value p ↔
      String.ofList ((trim value.toList).map Char.toLower) ∈ invalidPolicyNames p := by
  have hlower : ∀ name ∈ invalidPolicyNames p, ∀ l ∈ name.toList, l.isLower = true := by
    cases p <;> simp [invalidPolicyNames]
  constructor
  · rintro ⟨name, hmem, word, hcase, hpadded⟩
    rw [(trim_eq_iff (hcase.not_blank (hlower name hmem))).mpr hpadded,
      (map_toLower_eq_iff (hlower name hmem)).mpr hcase, String.ofList_toList]
    exact hmem
  · intro hmem
    refine ⟨_, hmem, trim value.toList, ?_, padded_trim _⟩
    rw [← map_toLower_eq_iff (hlower _ hmem), String.toList_ofList]

theorem readInvalidPolicy_eq_some_iff {p : InvalidPolicy} :
    readInvalidPolicy value = some p ↔ SaysInvalidPolicy value p := by
  rw [saysInvalidPolicy_iff, readInvalidPolicy, InvalidPolicy.parse]
  generalize String.ofList ((trim value.toList).map Char.toLower) = name
  by_cases habort : name = "abort"
  · subst habort
    cases p <;> decide
  · by_cases hreport : name = "report" ∨ name = "error"
    · rw [if_neg habort, if_pos hreport]
      cases p <;> simp [invalidPolicyNames, Except.toOption, habort, hreport]
    · rw [if_neg habort, if_neg hreport]
      cases p <;> simp_all [invalidPolicyNames, Except.toOption]

/-! ### Sizes -/

/-- The value is the size, from 1 on and within a word, between blanks. -/
def SaysSize (value : String) (n : Nat) : Prop :=
  1 ≤ n ∧ n < Numeral.wordLimit ∧ ∃ word, SizeSpelling word n ∧ Padded word value.toList

theorem readPositiveSize_eq_some_iff {n : Nat} :
    readPositiveSize value = some n ↔ SaysSize value n := by
  rw [readPositiveSize, Option.filter_eq_some_iff, decide_eq_true_eq, Numeral.size?_eq_some_iff]
  constructor
  · rintro ⟨⟨hspelling, hlt⟩, hne⟩
    exact ⟨Nat.pos_of_ne_zero hne, hlt, _, hspelling, padded_trim _⟩
  · rintro ⟨hpos, hlt, word, hspelling, hpadded⟩
    rw [(trim_eq_iff hspelling.not_blank).mpr hpadded]
    exact ⟨⟨hspelling, hlt⟩, Nat.ne_of_gt hpos⟩

end HandleGuard.Config
