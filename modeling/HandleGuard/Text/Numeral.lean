/-!
# Numerals

Numbers as they stand in messages and on input lines. Writing uses the digits of `Nat.toDigits`,
most significant first and without leading zeros; reading takes any non-empty run of ASCII digits.

* `decimal`, `hexadecimal`: a number in base ten, and in lower-case base sixteen
* `natural?`: reads a run of ASCII digits
* `size?`: reads a machine-word size, with an optional leading plus sign
-/

namespace HandleGuard.Numeral

/-- Sizes and handles are 64-bit words: the first value that does not fit. -/
def wordLimit : Nat := 0x10000000000000000

/-- Signed words have 63 bits for the size of a number: the first size that does not fit. -/
def signedLimit : Nat := 0x8000000000000000

/-- Operation codes are 32-bit words: the first value that does not fit. -/
def halfWordLimit : Nat := 0x100000000

/-- The decimal digits of `n`. -/
def decimal (n : Nat) : String :=
  String.ofList (Nat.toDigits 10 n)

/-- The digits of `n` in base sixteen, letters in lower case. -/
def hexadecimal (n : Nat) : String :=
  String.ofList (Nat.toDigits 16 n)

/-- The number written by a non-empty run of ASCII digits. Leading zeros are allowed. -/
def natural? (cs : List Char) : Option Nat :=
  if cs ≠ [] ∧ cs.all Char.isDigit then some (Nat.ofDigitChars 10 cs 0) else none

/-- A word-sized number: digits after an optional plus sign, below `wordLimit`. -/
def size? (cs : List Char) : Option Nat :=
  let digits := match cs with
    | '+' :: rest => rest
    | _ => cs
  (natural? digits).filter (· < wordLimit)

/-- Reading back the digits that were written gives the number. -/
theorem natural?_toDigits (n : Nat) : natural? (Nat.toDigits 10 n) = some n := by
  have h : (Nat.toDigits 10 n).all Char.isDigit := by
    rw [List.all_eq_true]
    exact fun c hc => Nat.isDigit_of_mem_toDigits (by decide) (by decide) hc
  simp [natural?, Nat.toDigits_ne_nil, h, Nat.ofDigitChars_ten_toDigits]

end HandleGuard.Numeral
