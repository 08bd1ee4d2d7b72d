/-!
# Blank characters

The characters with the Unicode property White_Space, and what is left of a text when they are
cut from both ends. `Char.isWhitespace` knows the ASCII ones only, so the property is a table here.
-/

namespace HandleGuard.Text

/-- The characters with the property White_Space. -/
def isBlank (c : Char) : Bool :=
  let n := c.toNat
  (0x09 ≤ n && n ≤ 0x0d) || n == 0x20 || n == 0x85 || n == 0xa0 || n == 0x1680 ||
    (0x2000 ≤ n && n ≤ 0x200a) || n == 0x2028 || n == 0x2029 || n == 0x202f || n == 0x205f ||
    n == 0x3000

/-- Cuts blank characters from both ends. -/
def trim (cs : List Char) : List Char :=
  ((cs.dropWhile isBlank).reverse.dropWhile isBlank).reverse

/-- Every blank of the ASCII range is blank. -/
theorem isBlank_of_isWhitespace {c : Char} (h : c.isWhitespace) : isBlank c := by
  simp only [Char.isWhitespace, Bool.or_eq_true, decide_eq_true_eq] at h
  rcases h with ((rfl | rfl) | rfl) | rfl <;> decide

/-- A trimmed text does not start with a blank. -/
theorem trim_head_not_isBlank {c : Char} {cs rest : List Char} (h : trim cs = c :: rest) :
    isBlank c = false := by
  have hp : trim cs <+: cs.dropWhile isBlank := by
    have := List.dropWhile_suffix (l := (cs.dropWhile isBlank).reverse) isBlank
    simpa [trim] using List.reverse_prefix.mpr this
  rw [h] at hp
  obtain ⟨t, ht⟩ := hp
  have hne : cs.dropWhile isBlank ≠ [] := by simp [← ht]
  have := List.head_dropWhile_not isBlank hne
  simpa [← ht] using this

end HandleGuard.Text
