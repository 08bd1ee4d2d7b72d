import HandleGuard.Text.Numeral

/-!
# JSON values and how they are written

The values of this library's documents, with the fields of objects in the order in which they are
written. `compact` writes a value without any space, and `pretty` with one item to a line.
-/

namespace HandleGuard

/-- A value of a JSON document. All numbers written here are whole. -/
inductive Json where
  | null
  | bool (b : Bool)
  | int (i : Int)
  | text (s : String)
  | array (items : List Json)
  | object (fields : List (String × Json))
deriving Inhabited

namespace Json

/-- The number `n`. -/
def nat (n : Nat) : Json := int n

/-- A field that is left out when there is nothing to say. -/
def optional (key : String) : Option Json → List (String × Json)
  | some value => [(key, value)]
  | none => []

/-- A hexadecimal escape of four digits, for a character below U+0100. -/
def hexEscape (c : Char) : List Char :=
  ['\\', 'u', '0', '0', Nat.digitChar (c.toNat / 16), Nat.digitChar (c.toNat % 16)]

/-- How one character is written inside a string: quotes, backslashes and controls are escaped. -/
def escapeChar (c : Char) : List Char :=
  if c = '"' then ['\\', '"']
  else if c = '\\' then ['\\', '\\']
  else if c = '\n' then ['\\', 'n']
  else if c = '\r' then ['\\', 'r']
  else if c = '\t' then ['\\', 't']
  else if c.toNat = 0x08 then ['\\', 'b']
  else if c.toNat = 0x0c then ['\\', 'f']
  else if c.toNat < 0x20 then hexEscape c
  else [c]

/-- A string between quotes. -/
def textChars (s : String) : List Char :=
  '"' :: s.toList.flatMap escapeChar ++ ['"']

/-- A whole number. -/
def intChars (i : Int) : List Char :=
  if i < 0 then '-' :: Nat.toDigits 10 i.natAbs else Nat.toDigits 10 i.natAbs

mutual

/-- The characters of a value without any space. -/
def compactChars : Json → List Char
  | null => ['n', 'u', 'l', 'l']
  | bool true => ['t', 'r', 'u', 'e']
  | bool false => ['f', 'a', 'l', 's', 'e']
  | int i => intChars i
  | text s => textChars s
  | array items => '[' :: compactItems items ++ [']']
  | object fields => '\x7b' :: compactFields fields ++ ['\x7d']

/-- The items of an array, with commas between them. -/
def compactItems : List Json → List Char
  | [] => []
  | [item] => compactChars item
  | item :: items => compactChars item ++ ',' :: compactItems items

/-- The fields of an object, with commas between them. -/
def compactFields : List (String × Json) → List Char
  | [] => []
  | [(key, value)] => textChars key ++ ':' :: compactChars value
  | (key, value) :: fields =>
    textChars key ++ ':' :: compactChars value ++ ',' :: compactFields fields

end

/-- A new line with `depth` steps of indentation. -/
def newline (depth : Nat) : List Char := '\n' :: List.replicate (2 * depth) ' '

mutual

/-- The characters of a value with one item to a line, `depth` steps to the right. -/
def prettyChars (depth : Nat) : Json → List Char
  | array (item :: items) =>
    '[' :: prettyItems (depth + 1) (item :: items) ++ newline depth ++ [']']
  | object (field :: fields) =>
    '\x7b' :: prettyFields (depth + 1) (field :: fields) ++ newline depth ++ ['\x7d']
  | array [] => ['[', ']']
  | object [] => ['\x7b', '\x7d']
  | null => ['n', 'u', 'l', 'l']
  | bool true => ['t', 'r', 'u', 'e']
  | bool false => ['f', 'a', 'l', 's', 'e']
  | int i => intChars i
  | text s => textChars s

/-- The items of an array, each on a line of its own. -/
def prettyItems (depth : Nat) : List Json → List Char
  | [] => []
  | [item] => newline depth ++ prettyChars depth item
  | item :: items => newline depth ++ prettyChars depth item ++ ',' :: prettyItems depth items

/-- The fields of an object, each on a line of its own. -/
def prettyFields (depth : Nat) : List (String × Json) → List Char
  | [] => []
  | [(key, value)] => newline depth ++ textChars key ++ ':' :: ' ' :: prettyChars depth value
  | (key, value) :: fields =>
    newline depth ++ textChars key ++ ':' :: ' ' :: prettyChars depth value ++
      ',' :: prettyFields depth fields

end

/-- The value without any space. -/
def compact (j : Json) : String := String.ofList j.compactChars

/-- The value with one item to a line. -/
def pretty (j : Json) : String := String.ofList (j.prettyChars 0)

end Json

end HandleGuard
