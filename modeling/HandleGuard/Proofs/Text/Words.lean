import HandleGuard.Text.Blank
import HandleGuard.Text.Numeral
import Mathlib.Data.List.Forall2

/-!
# Words between blanks

How values are written: a word between blanks (`Padded`), a name in letters of either case
(`InEitherCase`), a size in digits with a plus sign or without (`SizeSpelling`). The lemmas say that
trimming, folding to lower case and reading a number find exactly what is written in these ways:

* `trim_eq_iff`, `map_toLower_eq_iff`, `size?_eq_some_iff`
-/

namespace HandleGuard

namespace Text

variable {word name cs : List Char} {c l : Char}

/-! ### Blanks -/

/-- The text is `word` between blanks, of which there may be none. -/
def Padded (word cs : List Char) : Prop :=
  ∃ before after : List Char, cs = before ++ word ++ after ∧
    (∀ c ∈ before, isBlank c = true) ∧ ∀ c ∈ after, isBlank c = true

/-- The characters of ASCII that show are not blank. -/
theorem isBlank_eq_false (hlow : 0x21 ≤ c.toNat) (hhigh : c.toNat ≤ 0x7e) : isBlank c = false := by
  rw [← Bool.not_eq_true]
  simp only [isBlank, Bool.or_eq_true, Bool.and_eq_true, decide_eq_true_eq, beq_iff_eq]
  omega

theorem padded_trim (cs : List Char) : Padded (trim cs) cs := by
  -- What is cut in front comes first, and what is cut at the end is found in the reversed text.
  let middle := cs.dropWhile isBlank
  have hfront : cs.takeWhile isBlank ++ middle = cs := List.takeWhile_append_dropWhile
  have hback : trim cs ++ (middle.reverse.takeWhile isBlank).reverse = middle := by
    rw [trim, ← List.reverse_append, List.takeWhile_append_dropWhile, List.reverse_reverse]
  refine ⟨cs.takeWhile isBlank, (middle.reverse.takeWhile isBlank).reverse, ?_, ?_, ?_⟩
  · rw [List.append_assoc, hback, hfront]
  · exact List.all_eq_true.mp List.all_takeWhile
  · intro c hc
    exact List.all_eq_true.mp List.all_takeWhile c (List.mem_reverse.mp hc)

/-- Blanks are cut up to the first character that is none. -/
private theorem dropWhile_blanks {blanks rest : List Char} (hblanks : ∀ c ∈ blanks, isBlank c = true)
    (hrest : ∀ c ∈ rest.head?, isBlank c = false) : (blanks ++ rest).dropWhile isBlank = rest := by
  rw [List.dropWhile_append_of_pos hblanks]
  cases rest with
  | nil => rfl
  | cons c rest =>
    have hc : ¬isBlank c = true := by
      rw [Bool.not_eq_true]
      exact hrest c rfl
    exact List.dropWhile_cons_of_neg hc

/-- Trimming finds a word without blanks where it stands between blanks. -/
theorem trim_eq_iff (hword : ∀ c ∈ word, isBlank c = false) : trim cs = word ↔ Padded word cs := by
  constructor
  · rintro rfl
    exact padded_trim cs
  · rintro ⟨before, after, rfl, hbefore, hafter⟩
    have hafter' : ∀ c ∈ after.reverse, isBlank c = true := by
      intro c hc
      exact hafter c (List.mem_reverse.mp hc)
    cases word with
    | nil =>
      -- All is blank, and nothing is left for the second cut.
      have hall : ∀ c ∈ before ++ after, isBlank c = true := List.forall_mem_append.mpr ⟨hbefore, hafter⟩
      have hnone : (before ++ after).dropWhile isBlank = [] := by
        rw [← List.append_nil (before ++ after)]
        exact dropWhile_blanks hall (by simp)
      rw [trim, List.append_nil, hnone]
      rfl
    | cons c word =>
      have hfront : (before ++ (c :: word ++ after)).dropWhile isBlank = c :: word ++ after := by
        apply dropWhile_blanks hbefore
        rintro _ ⟨⟩
        exact hword c List.mem_cons_self
      have hback : (after.reverse ++ (c :: word).reverse).dropWhile isBlank = (c :: word).reverse := by
        apply dropWhile_blanks hafter'
        intro d hd
        exact hword d (List.mem_reverse.mp (List.mem_of_head? hd))
      rw [trim, List.append_assoc, hfront, List.reverse_append, hback, List.reverse_reverse]

/-! ### Letters of either case -/

/-- The word is `name`, a text in lower case, with any of its letters in upper case. -/
def InEitherCase (word name : List Char) : Prop :=
  List.Forall₂ (fun c l => c = l ∨ c = l.toUpper) word name

theorem toNat_toLower (c : Char) :
    c.toLower.toNat = if 0x41 ≤ c.toNat ∧ c.toNat ≤ 0x5a then c.toNat + 0x20 else c.toNat := by
  unfold Char.toLower
  split
  · rename_i hupper
    have hrange : 0x41 ≤ c.toNat ∧ c.toNat ≤ 0x5a := hupper
    have hsum : (c.val + ('a'.val - 'A'.val)).toNat = (c.toNat + 0x20) % 0x100000000 :=
      UInt32.toNat_add _ _
    rw [if_pos hrange]
    show (c.val + ('a'.val - 'A'.val)).toNat = c.toNat + 0x20
    rw [hsum]
    omega
  · rename_i hupper
    exact (if_neg hupper).symm

theorem toNat_toUpper (c : Char) :
    c.toUpper.toNat = if 0x61 ≤ c.toNat ∧ c.toNat ≤ 0x7a then c.toNat - 0x20 else c.toNat := by
  unfold Char.toUpper
  split
  · rename_i hlower
    have hrange : 0x61 ≤ c.toNat ∧ c.toNat ≤ 0x7a := hlower
    have hsum : (c.val + ('A'.val - 'a'.val)).toNat = (c.toNat + 0xffffffe0) % 0x100000000 :=
      UInt32.toNat_add _ _
    rw [if_pos hrange]
    show (c.val + ('A'.val - 'a'.val)).toNat = c.toNat - 0x20
    rw [hsum]
    omega
  · rename_i hlower
    exact (if_neg hlower).symm

theorem isLower_iff : l.isLower = true ↔ 0x61 ≤ l.toNat ∧ l.toNat ≤ 0x7a := by
  unfold Char.isLower
  rw [Bool.and_eq_true, decide_eq_true_eq, decide_eq_true_eq]
  exact Iff.rfl

theorem toLower_eq_iff (hl : l.isLower = true) : c.toLower = l ↔ c = l ∨ c = l.toUpper := by
  rw [isLower_iff] at hl
  rw [← Char.toNat_inj, ← Char.toNat_inj, ← Char.toNat_inj, toNat_toLower, toNat_toUpper, if_pos hl]
  split <;> omega

/-- Folding to lower case finds a name in letters of either case. -/
theorem map_toLower_eq_iff (hname : ∀ l ∈ name, l.isLower = true) :
    word.map Char.toLower = name ↔ InEitherCase word name := by
  rw [InEitherCase]
  induction name generalizing word with
  | nil => rw [List.map_eq_nil_iff, List.forall₂_nil_right_iff]
  | cons l name ih =>
    obtain ⟨hl, hrest⟩ := List.forall_mem_cons.mp hname
    cases word with
    | nil => simp
    | cons c word =>
      rw [List.map_cons, List.cons.injEq, List.forall₂_cons, toLower_eq_iff hl, ih hrest]

/-- The letters of such a word are not blank. -/
theorem InEitherCase.not_blank (h : InEitherCase word name) (hname : ∀ l ∈ name, l.isLower = true) :
    ∀ c ∈ word, isBlank c = false := by
  intro c hc
  have hlower : c.toLower ∈ name := by
    rw [← (map_toLower_eq_iff hname).mpr h]
    exact List.mem_map_of_mem hc
  have hrange := isLower_iff.mp (hname _ hlower)
  rw [toNat_toLower] at hrange
  apply isBlank_eq_false
  · split at hrange <;> omega
  · split at hrange <;> omega

end Text

namespace Numeral

/-- A size, written in ASCII digits, of which there is one at least, after a plus sign or without
one. -/
inductive SizeSpelling : List Char → Nat → Prop
  | digits {cs : List Char} (hne : cs ≠ []) (hdigits : ∀ c ∈ cs, c.isDigit = true) :
    SizeSpelling cs (Nat.ofDigitChars 10 cs 0)
  | plus {cs : List Char} (hne : cs ≠ []) (hdigits : ∀ c ∈ cs, c.isDigit = true) :
    SizeSpelling ('+' :: cs) (Nat.ofDigitChars 10 cs 0)

theorem natural?_eq_some_iff {cs : List Char} {n : Nat} :
    natural? cs = some n ↔
      cs ≠ [] ∧ (∀ c ∈ cs, c.isDigit = true) ∧ Nat.ofDigitChars 10 cs 0 = n := by
  rw [natural?, Option.ite_none_right_eq_some, List.all_eq_true, Option.some.injEq, and_assoc]

/-- Reading finds the sizes that fit a word. -/
theorem size?_eq_some_iff {cs : List Char} {n : Nat} :
    size? cs = some n ↔ SizeSpelling cs n ∧ n < wordLimit := by
  have hread : ∀ {ds : List Char},
      (natural? ds).filter (· < wordLimit) = some n ↔ natural? ds = some n ∧ n < wordLimit := by
    intro ds
    rw [Option.filter_eq_some_iff, decide_eq_true_eq]
  unfold size?
  split
  · rename_i rest
    rw [hread, natural?_eq_some_iff]
    refine and_congr_left fun _ => ⟨?_, fun h => ?_⟩
    · rintro ⟨hne, hdigits, rfl⟩
      exact .plus hne hdigits
    · cases h with
      | digits hne hdigits => exact absurd (hdigits '+' List.mem_cons_self) (by decide)
      | plus hne hdigits => exact ⟨hne, hdigits, rfl⟩
  · rename_i hplus
    rw [hread, natural?_eq_some_iff]
    refine and_congr_left fun _ => ⟨?_, fun h => ?_⟩
    · rintro ⟨hne, hdigits, rfl⟩
      exact .digits hne hdigits
    · cases h with
      | digits hne hdigits => exact ⟨hne, hdigits, rfl⟩
      | plus hne hdigits => exact absurd rfl (hplus _)

/-- What a size is written with is not blank. -/
theorem SizeSpelling.not_blank {cs : List Char} {n : Nat} (h : SizeSpelling cs n) :
    ∀ c ∈ cs, Text.isBlank c = false := by
  have hdigit : ∀ {c : Char}, c.isDigit = true → Text.isBlank c = false := by
    intro c hc
    rw [Char.isDigit, Bool.and_eq_true, decide_eq_true_eq, decide_eq_true_eq] at hc
    have hrange : 0x30 ≤ c.toNat ∧ c.toNat ≤ 0x39 := hc
    exact Text.isBlank_eq_false (by omega) (by omega)
  cases h with
  | digits hne hdigits => exact fun c hc => hdigit (hdigits c hc)
  | plus hne hdigits =>
    exact List.forall_mem_cons.mpr ⟨by decide, fun c hc => hdigit (hdigits c hc)⟩

end Numeral

end HandleGuard
