import HandleGuard.Text.Numeral

/-!
# Numbers as they are written

A number of a JSON text is kept as its digits. What matters of it is whether it is a whole number
of 64 bits, and else whether a double-precision number can hold its size.
-/

namespace HandleGuard.Json

/-- A number as written: `fraction` has the digits after the point, and is empty without one. -/
structure Number where
  negative : Bool
  whole : List Char
  fraction : List Char
  /-- Whether the exponent is negative, and its digits. -/
  exponent : Option (Bool × List Char)
deriving DecidableEq, Inhabited, Repr

namespace Number

/-- The number, when it is written without point and exponent and fits an unsigned or a signed
64-bit word. Negative zero is no whole number. -/
def integer? (n : Number) : Option Int :=
  if n.fraction = [] ∧ n.exponent = none then
    let value := Nat.ofDigitChars 10 n.whole 0
    if n.negative then
      if value = 0 ∨ Numeral.signedLimit < value then none else some (-value)
    else if value < Numeral.wordLimit then some value
    else none
  else none

/-- Keeps the 53 leading binary digits of `n`; a half goes to the even neighbour. -/
def toDouble (n : Nat) : Nat :=
  let excess := n.log2 + 1 - 53
  let kept := n >>> excess
  let unit := Nat.pow 2 excess
  let cut := n % unit
  if unit < 2 * cut ∨ (unit = 2 * cut ∧ kept % 2 = 1 ∧ 0 < cut) then
    (kept + 1) <<< excess
  else kept <<< excess

/-- Adds digits to a word-sized significand while they fit; the digits left over. -/
def takeDigits (significand : Nat) : List Char → Nat × List Char
  | [] => (significand, [])
  | c :: cs =>
    let next := Nat.ofDigitChars 10 [c] significand
    if next < Numeral.wordLimit then takeDigits next cs else (significand, c :: cs)

/-- The leading digits as a word-sized significand, and the power of ten that goes with it. -/
def significand (n : Number) : Nat × Int :=
  let (s, dropped) := takeDigits 0 n.whole
  let (s, unread) := takeDigits s n.fraction
  let shift : Int := dropped.length - (n.fraction.length - unread.length : Nat)
  match n.exponent with
  | none => (s, shift)
  | some (true, digits) => (s, shift - Nat.ofDigitChars 10 digits 0)
  | some (false, digits) => (s, shift + Nat.ofDigitChars 10 digits 0)

/-- The least size that rounds to infinity. -/
def doubleLimit : Nat := Nat.pow 2 1024 - Nat.pow 2 970

/-- The largest power of ten that is a double. -/
def maxTens : Nat := 308

/-- Whether the product of the significand and its power of ten, each rounded to a double, stays
below infinity. -/
def isFinite (n : Number) : Bool :=
  match n.significand with
  | (0, _) => true
  | (s, .ofNat tens) =>
    tens ≤ maxTens && toDouble s * toDouble (Nat.pow 10 (min tens maxTens)) < doubleLimit
  | (_, .negSucc _) => true

end Number

end HandleGuard.Json
