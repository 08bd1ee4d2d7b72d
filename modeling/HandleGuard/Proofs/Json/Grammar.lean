import HandleGuard.Json.Document

/-!
# Spellings

Which texts are JSON texts, and what they say. A document has many spellings: white space may stand
between tokens, a character of a string has several escapes, and the digits of a number may be
followed by a fraction and an exponent. The grammar here knows nothing of the reader. It leaves out
strings that are not Unicode text, which no spelling has.

* `Json.StringSpelling`, `Json.NumberSpelling`: strings and numbers
* `Json.ValueSpelling`: a value, from its first character to its last
* `Json.Spelling`: a whole text, with white space around the value
-/

namespace HandleGuard.Json

/-- White space that may stand between tokens. -/
def Blank (cs : List Char) : Prop := ∀ c ∈ cs, c = ' ' ∨ c = '\n' ∨ c = '\t' ∨ c = '\r'

/-! ### Strings -/

/-- A hexadecimal digit and its value. Letters may be of either case. -/
def HexDigit (c : Char) (v : Nat) : Prop :=
  v < 16 ∧ (c = v.digitChar ∨ c = v.digitChar.toUpper)

/-- An escape by number, which has 16 bits. -/
inductive UnitSpelling : Nat → List Char → Prop where
  | digits {a b c d : Char} {i j k l : Nat} (ha : HexDigit a i) (hb : HexDigit b j)
    (hc : HexDigit c k) (hd : HexDigit d l) :
    UnitSpelling ((i * 16 + j) * 256 + (k * 16 + l)) ['\\', 'u', a, b, c, d]

/-- The letters that may follow a backslash, and what they stand for. -/
def shortEscapes : List (Char × Char) :=
  [('"', '"'), ('\\', '\\'), ('/', '/'), ('b', Char.ofNat 0x08), ('f', Char.ofNat 0x0c),
    ('n', '\n'), ('r', '\r'), ('t', '\t')]

/-- A character inside a string. One beyond U+FFFF may be written as a pair of escapes. -/
inductive CharSpelling : Char → List Char → Prop where
  | plain {c : Char} (hquote : c ≠ '"') (hbackslash : c ≠ '\\') (hcontrol : 0x20 ≤ c.toNat) :
    CharSpelling c [c]
  | short {letter c : Char} (h : (letter, c) ∈ shortEscapes) : CharSpelling c ['\\', letter]
  | unit {c : Char} {cs : List Char} (h : UnitSpelling c.toNat cs) : CharSpelling c cs
  | pair {c : Char} {high low : List Char} (hc : 0x10000 ≤ c.toNat)
    (hhigh : UnitSpelling (0xd800 + (c.toNat - 0x10000) / 0x400) high)
    (hlow : UnitSpelling (0xdc00 + (c.toNat - 0x10000) % 0x400) low) :
    CharSpelling c (high ++ low)

/-- The characters of a string, between its quotes. -/
inductive CharsSpelling : List Char → List Char → Prop where
  | nil : CharsSpelling [] []
  | cons {c : Char} {s cs rest : List Char} (hc : CharSpelling c cs) (hs : CharsSpelling s rest) :
    CharsSpelling (c :: s) (cs ++ rest)

/-- A string. -/
inductive StringSpelling : String → List Char → Prop where
  | quoted {s : String} {cs : List Char} (h : CharsSpelling s.toList cs) :
    StringSpelling s ('"' :: cs ++ ['"'])

/-! ### Numbers -/

/-- At least one digit. -/
def Digits (cs : List Char) : Prop := cs ≠ [] ∧ ∀ c ∈ cs, c.isDigit

/-- The whole part of a number: a zero stands in front of no other digit. -/
def Whole (cs : List Char) : Prop := Digits cs ∧ (cs.head? = some '0' → cs = ['0'])

inductive FractionSpelling : List Char → List Char → Prop where
  | absent : FractionSpelling [] []
  | present {digits : List Char} (h : Digits digits) : FractionSpelling digits ('.' :: digits)

/-- The signs of an exponent. -/
def exponentSigns : List (Bool × List Char) := [(false, []), (false, ['+']), (true, ['-'])]

inductive ExponentSpelling : Option (Bool × List Char) → List Char → Prop where
  | absent : ExponentSpelling none []
  | present {letter : Char} {negative : Bool} {sign digits : List Char}
    (hletter : letter = 'e' ∨ letter = 'E') (hsign : (negative, sign) ∈ exponentSigns)
    (hdigits : Digits digits) :
    ExponentSpelling (some (negative, digits)) (letter :: sign ++ digits)

inductive NumberSpelling : Number → List Char → Prop where
  | parts {negative : Bool} {whole fraction fs es : List Char} {exponent : Option (Bool × List Char)}
    (hwhole : Whole whole) (hfraction : FractionSpelling fraction fs)
    (hexponent : ExponentSpelling exponent es) :
    NumberSpelling ⟨negative, whole, fraction, exponent⟩
      ((if negative then ['-'] else []) ++ (whole ++ (fs ++ es)))

/-! ### Documents -/

mutual

/-- A value, from its first character to its last. -/
inductive ValueSpelling : Document → List Char → Prop where
  | null : ValueSpelling .null ['n', 'u', 'l', 'l']
  | bool {b : Bool} : ValueSpelling (.bool b) (if b then ['t', 'r', 'u', 'e'] else
    ['f', 'a', 'l', 's', 'e'])
  | number {n : Number} {cs : List Char} (h : NumberSpelling n cs) : ValueSpelling (.number n) cs
  | text {s : String} {cs : List Char} (h : StringSpelling s cs) : ValueSpelling (.text s) cs
  | emptyArray {cs : List Char} (h : Blank cs) : ValueSpelling (.array []) ('[' :: (cs ++ [']']))
  | array {items : List Document} {cs : List Char} (h : ItemsSpelling items cs) :
    ValueSpelling (.array items) ('[' :: (cs ++ [']']))
  | emptyObject {cs : List Char} (h : Blank cs) :
    ValueSpelling (.object []) ('\x7b' :: (cs ++ ['\x7d']))
  | object {fields : List (Option String × Document)} {cs : List Char}
    (h : FieldsSpelling fields cs) : ValueSpelling (.object fields) ('\x7b' :: (cs ++ ['\x7d']))

/-- A value with white space around it. -/
inductive Spelling : Document → List Char → Prop where
  | padded {d : Document} {before cs after : List Char} (hbefore : Blank before)
    (h : ValueSpelling d cs) (hafter : Blank after) : Spelling d (before ++ (cs ++ after))

/-- The items of an array, with commas between them. -/
inductive ItemsSpelling : List Document → List Char → Prop where
  | last {d : Document} {cs : List Char} (h : Spelling d cs) : ItemsSpelling [d] cs
  | cons {d : Document} {ds : List Document} {cs rest : List Char} (h : Spelling d cs)
    (hrest : ItemsSpelling ds rest) : ItemsSpelling (d :: ds) (cs ++ ',' :: rest)

/-- A key and its value. -/
inductive FieldSpelling : Option String × Document → List Char → Prop where
  | pair {key : String} {d : Document} {before ks after cs : List Char} (hbefore : Blank before)
    (hkey : StringSpelling key ks) (hafter : Blank after) (h : Spelling d cs) :
    FieldSpelling (key, d) (before ++ (ks ++ (after ++ ':' :: cs)))

/-- The fields of an object, with commas between them. -/
inductive FieldsSpelling : List (Option String × Document) → List Char → Prop where
  | last {f : Option String × Document} {cs : List Char} (h : FieldSpelling f cs) :
    FieldsSpelling [f] cs
  | cons {f : Option String × Document} {fs : List (Option String × Document)}
    {cs rest : List Char} (h : FieldSpelling f cs) (hrest : FieldsSpelling fs rest) :
    FieldsSpelling (f :: fs) (cs ++ ',' :: rest)

end

end HandleGuard.Json
