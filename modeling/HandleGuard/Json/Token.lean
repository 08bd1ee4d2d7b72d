import HandleGuard.Json.Number
import HandleGuard.Text.Utf8

/-!
# Tokens of a JSON text

The lexer turns the symbols of a text into tokens. It refuses what no JSON text may hold: unknown
words, malformed numbers, unknown escapes and raw controls inside strings. A string whose escapes
or bytes do not make up Unicode text is kept as a string without text, because a reader that skips
it does not mind.
-/

namespace HandleGuard.Json

open Utf8 (Symbol)

/-- A token of a JSON text. -/
inductive Token where
  | beginObject
  | endObject
  | beginArray
  | endArray
  | colon
  | comma
  | null
  | bool (b : Bool)
  | number (n : Number)
  /-- A string, without its text when it is not Unicode text. -/
  | text (s : Option String)
deriving DecidableEq, Inhabited, Repr

/-- Part of a string between its quotes. -/
inductive Piece where
  | char (c : Char)
  /-- The 16 bits of a hexadecimal escape. -/
  | unit (n : Nat)
  /-- Bytes that are not UTF-8. -/
  | broken
deriving DecidableEq, Repr

/-- The value of a hexadecimal digit. -/
def hexDigit? (c : Char) : Option Nat :=
  if '0' ≤ c ∧ c ≤ '9' then some (c.toNat - 0x30)
  else if 'a' ≤ c ∧ c ≤ 'f' then some (c.toNat - 0x57)
  else if 'A' ≤ c ∧ c ≤ 'F' then some (c.toNat - 0x37)
  else none

/-- The value of four hexadecimal digits. -/
def hexUnit? (a b c d : Char) : Option Nat := do
  let high := (← hexDigit? a) * 16 + (← hexDigit? b)
  let low := (← hexDigit? c) * 16 + (← hexDigit? d)
  return high * 256 + low

/-- The character that a backslash and a letter stand for. -/
def escaped? (c : Char) : Option Char :=
  match c with
  | '"' => some '"'
  | '\\' => some '\\'
  | '/' => some '/'
  | 'b' => some (Char.ofNat 0x08)
  | 'f' => some (Char.ofNat 0x0c)
  | 'n' => some '\n'
  | 'r' => some '\r'
  | 't' => some '\t'
  | _ => none

/-- The pieces of a string up to its closing quote, and what follows it. -/
def scanPieces : List Symbol → Option (List Piece × List Symbol)
  | some '"' :: rest => some ([], rest)
  | some '\\' :: some 'u' :: some a :: some b :: some c :: some d :: rest => do
    let n ← hexUnit? a b c d
    let (pieces, rest) ← scanPieces rest
    return (.unit n :: pieces, rest)
  | some '\\' :: some c :: rest => do
    let c ← escaped? c
    let (pieces, rest) ← scanPieces rest
    return (.char c :: pieces, rest)
  | some c :: rest => do
    if c = '\\' ∨ c.toNat < 0x20 then none
    else
      let (pieces, rest) ← scanPieces rest
      return (.char c :: pieces, rest)
  | none :: rest => do
    let (pieces, rest) ← scanPieces rest
    return (.broken :: pieces, rest)
  | [] => none

/-- Whether 16 bits start a pair that encodes one character. -/
def isHighSurrogate (n : Nat) : Bool := 0xd800 ≤ n && n < 0xdc00

/-- Whether 16 bits end such a pair. -/
def isLowSurrogate (n : Nat) : Bool := 0xdc00 ≤ n && n < 0xe000

/-- The text that the pieces make up, unless a pair is incomplete or bytes are broken. -/
def joinPieces : List Piece → Option (List Char)
  | [] => some []
  | .char c :: rest => (c :: ·) <$> joinPieces rest
  | .broken :: _ => none
  | .unit n :: .unit m :: rest =>
    if isHighSurrogate n then
      if isLowSurrogate m then
        (Char.ofNat (0x10000 + (n - 0xd800) * 0x400 + (m - 0xdc00)) :: ·) <$> joinPieces rest
      else none
    else if isLowSurrogate n then none
    else (Char.ofNat n :: ·) <$> joinPieces (.unit m :: rest)
  | .unit n :: rest =>
    if isHighSurrogate n || isLowSurrogate n then none
    else (Char.ofNat n :: ·) <$> joinPieces rest

/-- The digits at the start of a text, and what follows them. -/
def spanDigits : List Symbol → List Char × List Symbol
  | some c :: rest =>
    if c.isDigit then
      let (digits, rest) := spanDigits rest
      (c :: digits, rest)
    else ([], some c :: rest)
  | rest => ([], rest)

/-- Digits after a point, at least one; none without a point. -/
def scanFraction : List Symbol → Option (List Char × List Symbol)
  | some '.' :: rest =>
    match spanDigits rest with
    | ([], _) => none
    | (digits, rest) => some (digits, rest)
  | rest => some ([], rest)

/-- The sign of an exponent: whether it is negative. -/
def scanSign : List Symbol → Bool × List Symbol
  | some '+' :: rest => (false, rest)
  | some '-' :: rest => (true, rest)
  | rest => (false, rest)

/-- An exponent, with at least one digit; none without its letter. -/
def scanExponent (s : List Symbol) : Option (Option (Bool × List Char) × List Symbol) :=
  match s with
  | some c :: rest =>
    if c = 'e' ∨ c = 'E' then
      let (negative, rest) := scanSign rest
      match spanDigits rest with
      | ([], _) => none
      | (digits, rest) => some (some (negative, digits), rest)
    else some (none, s)
  | _ => some (none, s)

/-- The whole part of a number: digits, without a zero in front of others. -/
def scanWhole (s : List Symbol) : Option (List Char × List Symbol) :=
  match spanDigits s with
  | ([], _) => none
  | ('0' :: _ :: _, _) => none
  | (digits, rest) => some (digits, rest)

/-- A number without its sign, and what follows it. -/
def scanNumber (negative : Bool) (s : List Symbol) : Option (Number × List Symbol) := do
  let (whole, s) ← scanWhole s
  let (fraction, s) ← scanFraction s
  let (exponent, s) ← scanExponent s
  return (⟨negative, whole, fraction, exponent⟩, s)

theorem length_scanPieces {s rest : List Symbol} {p : List Piece}
    (h : scanPieces s = some (p, rest)) : rest.length < s.length := by
  fun_induction scanPieces s generalizing p rest with
  | case1 => simp_all
  | case2 a b c d r ih =>
    simp only [Option.bind_eq_bind, Option.bind_eq_some_iff, Prod.exists] at h
    obtain ⟨_, _, _, _, h, e⟩ := h
    have := ih h
    simp_all
    omega
  | case3 c r _ ih =>
    simp only [Option.bind_eq_bind, Option.bind_eq_some_iff, Prod.exists] at h
    obtain ⟨_, _, _, _, h, e⟩ := h
    have := ih h
    simp_all
    omega
  | case4 => simp at h
  | case5 c r _ _ _ _ ih =>
    simp only [Option.bind_eq_bind, Option.bind_eq_some_iff, Prod.exists] at h
    obtain ⟨_, _, h, e⟩ := h
    have := ih h
    simp_all
    omega
  | case6 r ih =>
    simp only [Option.bind_eq_bind, Option.bind_eq_some_iff, Prod.exists] at h
    obtain ⟨_, _, h, e⟩ := h
    have := ih h
    simp_all
    omega
  | case7 => simp at h

theorem length_spanDigits (s : List Symbol) :
    (spanDigits s).1.length + (spanDigits s).2.length = s.length := by
  fun_induction spanDigits s with
  | case1 c r _ digits rest heq ih =>
    rw [heq] at ih
    simp only [List.length_cons] at ih ⊢
    omega
  | case2 => simp
  | case3 => simp

theorem length_scanWhole {s rest : List Symbol} {w : List Char}
    (h : scanWhole s = some (w, rest)) : rest.length < s.length := by
  have hs := length_spanDigits s
  unfold scanWhole at h
  split at h
  · simp at h
  · simp at h
  · next digits r hne _ heq =>
    simp only [Option.some.injEq, Prod.mk.injEq] at h
    obtain ⟨rfl, rfl⟩ := h
    rw [heq] at hs
    have : 0 < digits.length := List.length_pos_iff.mpr hne
    simp only at hs
    omega

theorem length_scanFraction {s rest : List Symbol} {f : List Char}
    (h : scanFraction s = some (f, rest)) : rest.length ≤ s.length := by
  unfold scanFraction at h
  split at h
  · next r =>
    have hs := length_spanDigits r
    split at h
    · simp at h
    · next heq =>
      simp only [Option.some.injEq, Prod.mk.injEq] at h
      obtain ⟨rfl, rfl⟩ := h
      rw [heq] at hs
      simp only [List.length_cons] at hs ⊢
      omega
  · simp_all

theorem length_scanSign (s : List Symbol) : (scanSign s).2.length ≤ s.length := by
  unfold scanSign
  split <;> simp

theorem length_scanExponent {s rest : List Symbol} {e : Option (Bool × List Char)}
    (h : scanExponent s = some (e, rest)) : rest.length ≤ s.length := by
  unfold scanExponent at h
  split at h
  · next c r =>
    split at h
    · have hg := length_scanSign r
      have hs := length_spanDigits (scanSign r).2
      simp only at h
      split at h
      · simp at h
      · next heq =>
        simp only [Option.some.injEq, Prod.mk.injEq] at h
        obtain ⟨rfl, rfl⟩ := h
        rw [heq] at hs
        simp only [List.length_cons] at hs ⊢
        omega
    · simp_all
  · simp_all

theorem length_scanNumber {b : Bool} {s rest : List Symbol} {n : Number}
    (h : scanNumber b s = some (n, rest)) : rest.length < s.length := by
  simp only [scanNumber, Option.bind_eq_bind, Option.bind_eq_some_iff, Prod.exists] at h
  obtain ⟨_, _, hw, _, _, hf, _, _, he, e⟩ := h
  have h₁ := length_scanWhole hw
  have h₂ := length_scanFraction hf
  have h₃ := length_scanExponent he
  simp_all
  omega

/-- The tokens of a text. -/
def tokens (s : List Symbol) : Option (List Token) :=
  match s with
  | [] => some []
  | none :: _ => none
  | some '\x7b' :: rest => (Token.beginObject :: ·) <$> tokens rest
  | some '\x7d' :: rest => (Token.endObject :: ·) <$> tokens rest
  | some '[' :: rest => (Token.beginArray :: ·) <$> tokens rest
  | some ']' :: rest => (Token.endArray :: ·) <$> tokens rest
  | some ':' :: rest => (Token.colon :: ·) <$> tokens rest
  | some ',' :: rest => (Token.comma :: ·) <$> tokens rest
  | some 'n' :: some 'u' :: some 'l' :: some 'l' :: rest => (Token.null :: ·) <$> tokens rest
  | some 't' :: some 'r' :: some 'u' :: some 'e' :: rest =>
    (Token.bool true :: ·) <$> tokens rest
  | some 'f' :: some 'a' :: some 'l' :: some 's' :: some 'e' :: rest =>
    (Token.bool false :: ·) <$> tokens rest
  | some '"' :: rest =>
    -- A string may be broken and still be skipped, so its text is optional.
    match h : scanPieces rest with
    | none => none
    | some (pieces, rest') =>
      have := length_scanPieces h
      (Token.text ((joinPieces pieces).map String.ofList) :: ·) <$> tokens rest'
  | some '-' :: rest =>
    match h : scanNumber true rest with
    | none => none
    | some (n, rest') =>
      have := length_scanNumber h
      (Token.number n :: ·) <$> tokens rest'
  | some c :: rest =>
    if c = ' ' ∨ c = '\n' ∨ c = '\t' ∨ c = '\r' then tokens rest
    else
      -- Nothing else than a number can start here.
      match h : scanNumber false (some c :: rest) with
      | none => none
      | some (n, rest') =>
        have : rest'.length < rest.length + 1 := length_scanNumber h
        (Token.number n :: ·) <$> tokens rest'
termination_by s.length

end HandleGuard.Json
