import HandleGuard.Proofs.Json.Grammar

/-!
# Lexing what is spelled

The lexer finds the tokens of a spelling one after the other. Most tokens are found whatever comes
after them. Only a number could go on in the text that follows, so a value is found when what follows
does not continue a number.

* `Json.Lexes`          tokens that are found whatever follows
* `Json.LexesBefore`    tokens that are found when what follows does not continue a number
-/

namespace HandleGuard.Json

open Utf8 (Symbol)

variable {s rest : List Symbol}

/-! ### Strings -/

theorem HexDigit.hexDigit?_eq {c : Char} {v : Nat} (h : HexDigit c v) : hexDigit? c = some v := by
  obtain ⟨hv, h⟩ := h
  -- There are few enough hexadecimal digits to look at each, small and capital.
  have hall : ∀ v < 16, hexDigit? v.digitChar = some v ∧
      hexDigit? v.digitChar.toUpper = some v := by
    decide
  obtain rfl | rfl := h
  · exact (hall v hv).1
  · exact (hall v hv).2

theorem UnitSpelling.scanPieces_eq {n : Nat} {cs : List Char} (h : UnitSpelling n cs)
    (rest : List Symbol) : scanPieces (cs.map some ++ rest) =
      (scanPieces rest).map fun p => (.unit n :: p.1, p.2) := by
  obtain ⟨ha, hb, hc, hd⟩ := h
  simp only [List.map_cons, List.map_nil, List.cons_append, List.nil_append]
  rw [scanPieces]
  simp only [hexUnit?, ha.hexDigit?_eq, hb.hexDigit?_eq, hc.hexDigit?_eq, hd.hexDigit?_eq,
    Option.bind_eq_bind, Option.bind_some, Option.pure_def]
  cases scanPieces rest <;> rfl

theorem isSurrogate_toNat (c : Char) :
    isHighSurrogate c.toNat = false ∧ isLowSurrogate c.toNat = false := by
  have hvalid : c.toNat < 0xd800 ∨ 0xdfff < c.toNat ∧ c.toNat < 0x110000 := c.valid
  simp only [isHighSurrogate, isLowSurrogate, Bool.and_eq_false_iff, decide_eq_false_iff_not]
  omega

/-- A character that is escaped by number stands for itself, whatever escape comes next. -/
theorem joinPieces_unit (c : Char) (ps : List Piece) :
    joinPieces (.unit c.toNat :: ps) = (c :: ·) <$> joinPieces ps := by
  obtain ⟨hhigh, hlow⟩ := isSurrogate_toNat c
  cases ps with
  | nil => simp [joinPieces, hhigh, hlow]
  | cons p ps => cases p <;> simp [joinPieces, hhigh, hlow]

/-- A pair of escapes stands for one character. -/
theorem joinPieces_pair {c : Char} (hc : 0x10000 ≤ c.toNat) (ps : List Piece) :
    joinPieces (.unit (0xd800 + (c.toNat - 0x10000) / 0x400) ::
      .unit (0xdc00 + (c.toNat - 0x10000) % 0x400) :: ps) = (c :: ·) <$> joinPieces ps := by
  have hvalid : c.toNat < 0xd800 ∨ 0xdfff < c.toNat ∧ c.toNat < 0x110000 := c.valid
  have hhigh : isHighSurrogate (0xd800 + (c.toNat - 0x10000) / 0x400) = true := by
    simp only [isHighSurrogate, Bool.and_eq_true, decide_eq_true_eq]
    omega
  have hlow : isLowSurrogate (0xdc00 + (c.toNat - 0x10000) % 0x400) = true := by
    simp only [isLowSurrogate, Bool.and_eq_true, decide_eq_true_eq]
    omega
  have hvalue : 0x10000 + (0xd800 + (c.toNat - 0x10000) / 0x400 - 0xd800) * 0x400 +
      (0xdc00 + (c.toNat - 0x10000) % 0x400 - 0xdc00) = c.toNat := by
    omega
  rw [joinPieces, if_pos hhigh, if_pos hlow, hvalue, Char.ofNat_toNat]

/-- What a character is spelled with is read as pieces that make it up. -/
theorem CharSpelling.pieces {c : Char} {cs : List Char} (h : CharSpelling c cs) :
    ∃ ps, (∀ rest, scanPieces (cs.map some ++ rest) =
        (scanPieces rest).map fun p => (ps ++ p.1, p.2)) ∧
      ∀ qs, joinPieces (ps ++ qs) = (c :: ·) <$> joinPieces qs := by
  cases h with
  | plain hquote hbackslash hcontrol =>
    -- The scanner has cases for the quote and the backslash, which `c` is not, and one for the rest.
    refine ⟨[.char c], fun rest => ?_, fun qs => rfl⟩
    have hplain : ¬(c = '\\' ∨ c.toNat < 0x20) := by
      rintro (h | h)
      · exact hbackslash h
      · omega
    simp only [List.map_cons, List.map_nil, List.cons_append, List.nil_append]
    rw [scanPieces, if_neg hplain]
    · cases scanPieces rest <;> rfl
    all_goals simp [hquote, hbackslash]
  | @short letter _ h =>
    -- The escape by number has the first say after a backslash, but its letter is no short escape.
    refine ⟨[.char c], fun rest => ?_, fun qs => rfl⟩
    have hescaped : escaped? letter = some c ∧ letter ≠ 'u' := by
      revert h
      simp only [shortEscapes, List.mem_cons, Prod.mk.injEq, List.not_mem_nil, or_false]
      rintro (⟨rfl, rfl⟩ | ⟨rfl, rfl⟩ | ⟨rfl, rfl⟩ | ⟨rfl, rfl⟩ | ⟨rfl, rfl⟩ | ⟨rfl, rfl⟩ |
        ⟨rfl, rfl⟩ | ⟨rfl, rfl⟩) <;> decide
    simp only [List.map_cons, List.map_nil, List.cons_append, List.nil_append]
    rw [scanPieces, hescaped.1]
    · simp only [Option.bind_eq_bind, Option.bind_some]
      cases scanPieces rest <;> rfl
    · intro a b c d r h
      simp [hescaped.2]
  | unit h => exact ⟨[.unit c.toNat], h.scanPieces_eq, joinPieces_unit c⟩
  | pair hc hhigh hlow =>
    refine ⟨[.unit _, .unit _], fun rest => ?_, joinPieces_pair hc⟩
    rw [List.map_append, List.append_assoc, hhigh.scanPieces_eq, hlow.scanPieces_eq,
      Option.map_map]
    rfl

/-- The characters of a string are read as pieces that make it up, up to its closing quote. -/
theorem CharsSpelling.pieces {cs body : List Char} (h : CharsSpelling cs body) :
    ∃ ps, (∀ rest, scanPieces (body.map some ++ some '"' :: rest) = some (ps, rest)) ∧
      joinPieces ps = some cs := by
  induction h with
  | nil => exact ⟨[], fun rest => rfl, rfl⟩
  | cons hc _ ih =>
    obtain ⟨ps, hscan, hjoin⟩ := hc.pieces
    obtain ⟨qs, hscans, hjoins⟩ := ih
    refine ⟨ps ++ qs, fun rest => ?_, by rw [hjoin, hjoins]; rfl⟩
    rw [List.map_append, List.append_assoc, hscan, hscans]
    rfl

/-! ### Numbers -/

/-- What follows does not continue a number. -/
def Ends (rest : List Symbol) : Prop :=
  ∀ c, rest.head? = some (some c) → c.isDigit = false ∧ c ≠ '.' ∧ c ≠ 'e' ∧ c ≠ 'E'

theorem spanDigits_append {cs : List Char} (h : ∀ c ∈ cs, c.isDigit)
    (hrest : ∀ c, rest.head? = some (some c) → c.isDigit = false) :
    spanDigits (cs.map some ++ rest) = (cs, rest) := by
  induction cs with
  | nil =>
    rw [List.map_nil, List.nil_append]
    unfold spanDigits
    split
    · rename_i c rest'
      rw [if_neg (by rw [hrest c rfl]; decide)]
    · rfl
  | cons c cs ih =>
    rw [List.map_cons, List.cons_append, spanDigits, if_pos (h c List.mem_cons_self),
      ih fun c hc => h c (List.mem_cons_of_mem _ hc)]

theorem Digits.spanDigits_eq {cs : List Char} (h : Digits cs)
    (hrest : ∀ c, rest.head? = some (some c) → c.isDigit = false) :
    ∃ c ds, cs = c :: ds ∧ spanDigits (cs.map some ++ rest) = (c :: ds, rest) := by
  obtain ⟨c, ds, rfl⟩ := List.exists_cons_of_ne_nil h.1
  exact ⟨c, ds, rfl, spanDigits_append h.2 hrest⟩

theorem Whole.scanWhole_eq {cs : List Char} (h : Whole cs)
    (hrest : ∀ c, rest.head? = some (some c) → c.isDigit = false) :
    scanWhole (cs.map some ++ rest) = some (cs, rest) := by
  obtain ⟨c, ds, rfl, hspan⟩ := h.1.spanDigits_eq hrest
  unfold scanWhole
  rw [hspan]
  split
  · rename_i heq
    cases heq
  · -- More digits after a leading zero are refused, and not spelled.
    rename_i heq
    cases heq
    cases h.2 rfl
  · rename_i heq
    cases heq
    rfl

/-- Neither a digit nor a point starts an exponent, or what follows. -/
theorem ExponentSpelling.head {e : Option (Bool × List Char)} {cs : List Char}
    (h : ExponentSpelling e cs) (hrest : Ends rest) :
    ∀ c, (cs.map some ++ rest).head? = some (some c) → c.isDigit = false ∧ c ≠ '.' := by
  cases h with
  | absent => exact fun c hc => ⟨(hrest c hc).1, (hrest c hc).2.1⟩
  | present hletter =>
    rintro c hc
    cases hc
    rcases hletter with rfl | rfl <;> decide

/-- No digit starts a fraction, or what follows. -/
theorem FractionSpelling.head {digits cs : List Char} (h : FractionSpelling digits cs)
    (hrest : ∀ c, rest.head? = some (some c) → c.isDigit = false) :
    ∀ c, (cs.map some ++ rest).head? = some (some c) → c.isDigit = false := by
  cases h with
  | absent => exact hrest
  | present =>
    rintro c hc
    cases hc
    decide

theorem FractionSpelling.scanFraction_eq {digits cs : List Char} (h : FractionSpelling digits cs)
    (hrest : ∀ c, rest.head? = some (some c) → c.isDigit = false ∧ c ≠ '.') :
    scanFraction (cs.map some ++ rest) = some (digits, rest) := by
  cases h with
  | absent =>
    -- The next character is looked at even so, and it is no point.
    rw [List.map_nil, List.nil_append]
    unfold scanFraction
    split
    · exact absurd rfl (hrest '.' rfl).2
    · rfl
  | present h =>
    obtain ⟨c, ds, rfl, hspan⟩ := h.spanDigits_eq fun c hc => (hrest c hc).1
    rw [List.map_cons, List.cons_append, scanFraction, hspan]

theorem scanSign_eq {negative : Bool} {sign : List Char} {s : List Symbol}
    (h : (negative, sign) ∈ exponentSigns) (hs : ∀ c, s.head? = some (some c) → c.isDigit) :
    scanSign (sign.map some ++ s) = (negative, s) := by
  simp only [exponentSigns, List.mem_cons, Prod.mk.injEq, List.not_mem_nil, or_false] at h
  rcases h with ⟨rfl, rfl⟩ | ⟨rfl, rfl⟩ | ⟨rfl, rfl⟩
  · rw [List.map_nil, List.nil_append]
    unfold scanSign
    split
    · exact absurd (hs '+' rfl) (by decide)
    · exact absurd (hs '-' rfl) (by decide)
    · rfl
  · rfl
  · rfl

theorem ExponentSpelling.scanExponent_eq {e : Option (Bool × List Char)} {cs : List Char}
    (h : ExponentSpelling e cs) (hrest : Ends rest) :
    scanExponent (cs.map some ++ rest) = some (e, rest) := by
  cases h with
  | absent =>
    rw [List.map_nil, List.nil_append]
    unfold scanExponent
    split
    · rename_i c rest'
      obtain ⟨-, -, he, hE⟩ := hrest c rfl
      rw [if_neg (by simp [he, hE])]
    · rfl
  | @present letter negative sign digits hletter hsign hdigits =>
    obtain ⟨c, ds, rfl, hspan⟩ := hdigits.spanDigits_eq fun c hc => (hrest c hc).1
    have hhead : ∀ d, ((c :: ds).map some ++ rest).head? = some (some d) → d.isDigit := by
      rintro d hd
      cases hd
      exact hdigits.2 c List.mem_cons_self
    rw [List.map_append, List.map_cons, List.cons_append, List.cons_append, List.append_assoc,
      scanExponent, if_pos hletter, scanSign_eq hsign hhead]
    simp only [hspan]

/-- A number without its sign. -/
theorem scanNumber_eq {whole fraction fs es : List Char} {exponent : Option (Bool × List Char)}
    (negative : Bool) (hwhole : Whole whole) (hfraction : FractionSpelling fraction fs)
    (hexponent : ExponentSpelling exponent es) (hrest : Ends rest) :
    scanNumber negative ((whole ++ (fs ++ es)).map some ++ rest) =
      some (⟨negative, whole, fraction, exponent⟩, rest) := by
  have hexponentHead := hexponent.head hrest
  have hfractionHead := hfraction.head fun c hc => (hexponentHead c hc).1
  simp only [scanNumber, List.map_append, List.append_assoc, hwhole.scanWhole_eq hfractionHead,
    hfraction.scanFraction_eq hexponentHead, hexponent.scanExponent_eq hrest, Option.bind_eq_bind,
    Option.bind_some, Option.pure_def]

/-! ### Tokens -/

/-- A text has these tokens, whatever follows. -/
def Lexes (cs : List Char) (ts : List Token) : Prop :=
  ∀ rest, tokens (cs.map some ++ rest) = (ts ++ ·) <$> tokens rest

/-- A text has these tokens when what follows does not continue a number. -/
def LexesBefore (cs : List Char) (ts : List Token) : Prop :=
  ∀ rest, Ends rest → tokens (cs.map some ++ rest) = (ts ++ ·) <$> tokens rest

theorem Lexes.before {cs : List Char} {ts : List Token} (h : Lexes cs ts) : LexesBefore cs ts :=
  fun rest _ => h rest

theorem Lexes.append {cs cs' : List Char} {ts ts' : List Token} (h : Lexes cs ts)
    (h' : LexesBefore cs' ts') : LexesBefore (cs ++ cs') (ts ++ ts') := by
  intro rest hrest
  rw [List.map_append, List.append_assoc, h, h' rest hrest]
  cases tokens rest with
  | none => rfl
  | some _ => exact congrArg some (List.append_assoc ..).symm

/-- A text does not continue a number that stands before it. -/
def Stops (cs : List Char) : Prop :=
  ∀ c, cs.head? = some c → c.isDigit = false ∧ c ≠ '.' ∧ c ≠ 'e' ∧ c ≠ 'E'

theorem Stops.ends {cs : List Char} (h : Stops cs) (hrest : Ends rest) :
    Ends (cs.map some ++ rest) := by
  cases cs with
  | nil => exact hrest
  | cons c cs =>
    rintro c' hc'
    cases hc'
    exact h c rfl

theorem LexesBefore.append {cs cs' : List Char} {ts ts' : List Token} (h : LexesBefore cs ts)
    (hstops : Stops cs') (h' : LexesBefore cs' ts') : LexesBefore (cs ++ cs') (ts ++ ts') := by
  intro rest hrest
  rw [List.map_append, List.append_assoc, h _ (hstops.ends hrest), h' rest hrest]
  cases tokens rest with
  | none => rfl
  | some _ => exact congrArg some (List.append_assoc ..).symm

theorem Blank.lexes {cs : List Char} (h : Blank cs) : Lexes cs [] := by
  intro rest
  induction cs with
  | nil =>
    rw [List.map_nil, List.nil_append]
    cases tokens rest <;> rfl
  | cons c cs ih =>
    have hc := h c List.mem_cons_self
    have hcs := ih fun c hc => h c (List.mem_cons_of_mem _ hc)
    rw [List.map_cons, List.cons_append, ← hcs]
    rcases hc with rfl | rfl | rfl | rfl <;> rw [tokens] <;> simp

theorem Blank.stops {cs : List Char} (h : Blank cs) : Stops cs := by
  intro c hc
  have hmem : c ∈ cs := List.mem_of_head? hc
  rcases h c hmem with rfl | rfl | rfl | rfl <;> decide

/-- The tokens of one character. -/
def punctuation : List (Char × Token) :=
  [('[', .beginArray), (']', .endArray), ('\x7b', .beginObject), ('\x7d', .endObject),
    (':', .colon), (',', .comma)]

theorem lexes_punctuation {c : Char} {t : Token} (h : (c, t) ∈ punctuation) :
    Lexes [c] [t] ∧ ∀ cs, Stops (c :: cs) := by
  simp only [punctuation, List.mem_cons, Prod.mk.injEq, List.not_mem_nil, or_false] at h
  rcases h with ⟨rfl, rfl⟩ | ⟨rfl, rfl⟩ | ⟨rfl, rfl⟩ | ⟨rfl, rfl⟩ | ⟨rfl, rfl⟩ | ⟨rfl, rfl⟩ <;>
  · constructor
    · intro rest
      simp only [List.map_cons, List.map_nil, List.cons_append, List.nil_append]
      rw [tokens]
    · rintro cs c hc
      cases hc
      decide

/-- Two texts with a token of one character between them. -/
theorem LexesBefore.joined {c : Char} {t : Token} {cs cs' : List Char} {ts ts' : List Token}
    (hc : (c, t) ∈ punctuation) (h : LexesBefore cs ts) (h' : LexesBefore cs' ts') :
    LexesBefore (cs ++ c :: cs') (ts ++ t :: ts') :=
  h.append ((lexes_punctuation hc).2 cs') ((lexes_punctuation hc).1.append h')

/-- A text between two tokens of one character. -/
theorem LexesBefore.enclosed {c c' : Char} {t t' : Token} {cs : List Char} {ts : List Token}
    (hc : (c, t) ∈ punctuation) (hc' : (c', t') ∈ punctuation) (h : LexesBefore cs ts) :
    LexesBefore (c :: (cs ++ [c'])) (t :: (ts ++ [t'])) :=
  (lexes_punctuation hc).1.append
    (h.append ((lexes_punctuation hc').2 []) (lexes_punctuation hc').1.before)

theorem StringSpelling.lexes {s : String} {cs : List Char} (h : StringSpelling s cs) :
    Lexes cs [.text s] := by
  obtain ⟨h⟩ := h
  obtain ⟨ps, hscan, hjoin⟩ := h.pieces
  intro rest
  simp only [List.map_cons, List.map_append, List.map_nil, List.cons_append, List.append_assoc,
    List.nil_append]
  rw [tokens]
  split
  · rename_i hnone
    rw [hscan] at hnone
    cases hnone
  · rename_i ps' rest' hsome
    rw [hscan] at hsome
    cases hsome
    rw [hjoin, Option.map_some, String.ofList_toList]

/-- A digit can only start a number. -/
theorem tokens_digit {c : Char} {n : Number} (hc : c.isDigit)
    (h : scanNumber false (some c :: s) = some (n, rest)) :
    tokens (some c :: s) = (Token.number n :: ·) <$> tokens rest := by
  rw [tokens.eq_def]
  split
  -- All other ways to start a token have a character of their own, and none is a digit.
  case h_14 c' s' _ _ _ _ _ _ _ _ _ _ _ heq =>
    cases heq
    have hblank : ¬(c = ' ' ∨ c = '\n' ∨ c = '\t' ∨ c = '\r') := by
      rintro (rfl | rfl | rfl | rfl) <;> cases hc
    rw [if_neg hblank]
    split
    · rename_i hnone
      rw [h] at hnone
      cases hnone
    · rename_i hsome
      rw [h] at hsome
      cases hsome
      rfl
  all_goals
    rename_i heq
    cases heq
    try cases hc

theorem NumberSpelling.lexesBefore {n : Number} {cs : List Char} (h : NumberSpelling n cs) :
    LexesBefore cs [.number n] := by
  obtain @⟨negative, whole, fraction, fs, es, exponent, hwhole, hfraction, hexponent⟩ := h
  intro rest hrest
  have hscan := scanNumber_eq negative hwhole hfraction hexponent hrest
  cases negative with
  | true =>
    -- The minus is a token's start by itself.
    simp only [if_true, List.cons_append, List.nil_append, List.map_cons]
    rw [tokens]
    split
    · rename_i hnone
      rw [hscan] at hnone
      cases hnone
    · rename_i hsome
      rw [hscan] at hsome
      cases hsome
      rfl
  | false =>
    obtain ⟨c, ds, rfl⟩ := List.exists_cons_of_ne_nil hwhole.1.1
    exact tokens_digit (hwhole.1.2 c List.mem_cons_self) hscan

theorem lexes_null : Lexes ['n', 'u', 'l', 'l'] [.null] := by
  intro rest
  simp only [List.map_cons, List.map_nil, List.cons_append, List.nil_append]
  rw [tokens]

theorem lexes_bool (b : Bool) :
    Lexes (if b then ['t', 'r', 'u', 'e'] else ['f', 'a', 'l', 's', 'e']) [.bool b] := by
  intro rest
  cases b <;>
  · simp only [if_true, if_false, Bool.false_eq_true, List.map_cons, List.map_nil, List.cons_append,
      List.nil_append]
    rw [tokens]

end HandleGuard.Json
