import HandleGuard.Json
import HandleGuard.Json.Token

/-!
# Reading JSON texts

A text is read into a `Document`, which keeps whatever a JSON text may hold, also what no value of
this library can be made of. What a document is good for is decided afterwards: a part that is
skipped may hold strings that are not Unicode text, numbers beyond every limit, and any depth of
nesting, while a part that is *held* as a value may not.

The reader is a machine with a stack of unfinished arrays and objects that takes one token at a
time, so a text of any depth is read without recursion.

* `Document.parse`: reads the bytes of a text
* `Document.isHeld`: whether a document can be held as a value
-/

namespace HandleGuard.Json

/-- A JSON text as read. Strings and keys that are not Unicode text have no text. -/
inductive Document where
  | null
  | bool (b : Bool)
  | number (n : Number)
  | text (s : Option String)
  | array (items : List Document)
  | object (fields : List (Option String × Document))
deriving Inhabited

/-- An array or object that is not finished yet, with what it holds so far, latest first. -/
inductive Frame where
  | array (items : List Document)
  | object (fields : List (Option String × Document)) (key : Option String)

/-- What the reader waits for. -/
inductive Reading where
  /-- A value. -/
  | value (stack : List Frame)
  /-- The first item of an array, or its end. -/
  | firstItem (stack : List Frame)
  /-- The first key of an object, or its end. -/
  | firstKey (stack : List Frame)
  /-- The next key of an object. -/
  | key (fields : List (Option String × Document)) (stack : List Frame)
  /-- The colon after a key. -/
  | colon (fields : List (Option String × Document)) (key : Option String) (stack : List Frame)
  /-- What follows a complete value. -/
  | after (value : Document) (stack : List Frame)

namespace Reading

/-- Takes the first token of a value. -/
def startValue (stack : List Frame) : Token → Option Reading
  | .null => some (.after .null stack)
  | .bool b => some (.after (.bool b) stack)
  | .number n => some (.after (.number n) stack)
  | .text s => some (.after (.text s) stack)
  | .beginArray => some (.firstItem stack)
  | .beginObject => some (.firstKey stack)
  | .endArray | .endObject | .colon | .comma => none

/-- Takes one token. -/
def step : Reading → Token → Option Reading
  | value stack, t => startValue stack t
  | firstItem stack, .endArray => some (after (.array []) stack)
  | firstItem stack, t => startValue (.array [] :: stack) t
  | firstKey stack, .endObject => some (after (.object []) stack)
  | firstKey stack, .text k => some (colon [] k stack)
  | firstKey _, _ => none
  | key fields stack, .text k => some (colon fields k stack)
  | key .., _ => none
  | colon fields k stack, .colon => some (value (.object fields k :: stack))
  | colon .., _ => none
  | after v (.array items :: stack), .comma => some (value (.array (v :: items) :: stack))
  | after v (.array items :: stack), .endArray =>
    some (after (.array (v :: items).reverse) stack)
  | after v (.object fields k :: stack), .comma => some (key ((k, v) :: fields) stack)
  | after v (.object fields k :: stack), .endObject =>
    some (after (.object ((k, v) :: fields).reverse) stack)
  | after .., _ => none

/-- Takes all tokens. -/
def run (r : Reading) : List Token → Option Reading
  | [] => some r
  | t :: ts =>
    match r.step t with
    | some r => r.run ts
    | none => none

end Reading

namespace Document

/-- The document that a list of tokens spells. -/
def ofTokens? (ts : List Token) : Option Document :=
  match (Reading.value []).run ts with
  | some (.after v []) => some v
  | _ => none

/-- Reads the symbols of a text. -/
def ofSymbols? (s : List Utf8.Symbol) : Option Document := do
  ofTokens? (← tokens s)

/-- Reads the bytes of a text. -/
def parse (b : ByteArray) : Option Document := ofSymbols? (Utf8.symbols b)

mutual

/-- Whether a document can be held as a value: at most `room` levels of nesting, strings that are
text, and numbers that are whole or finite. -/
def isHeld (room : Nat) : Document → Bool
  | null => true
  | bool _ => true
  | number n => n.integer?.isSome || n.isFinite
  | text s => s.isSome
  | array items => 0 < room && areHeld (room - 1) items
  | object fields => 0 < room && fieldsAreHeld (room - 1) fields

/-- Whether all items of an array can be held. -/
def areHeld (room : Nat) : List Document → Bool
  | [] => true
  | d :: ds => isHeld room d && areHeld room ds

/-- Whether all fields of an object can be held. -/
def fieldsAreHeld (room : Nat) : List (Option String × Document) → Bool
  | [] => true
  | (k, d) :: fs => k.isSome && isHeld room d && fieldsAreHeld room fs

end

end Document

mutual

/-- What a written value is read as. -/
def toDocument : Json → Document
  | null => .null
  | bool b => .bool b
  | int i => .number ⟨i < 0, Nat.toDigits 10 i.natAbs, [], none⟩
  | text s => .text (some s)
  | array items => .array (itemsToDocuments items)
  | object fields => .object (fieldsToDocuments fields)

/-- What the items of a written array are read as. -/
def itemsToDocuments : List Json → List Document
  | [] => []
  | item :: items => toDocument item :: itemsToDocuments items

/-- What the fields of a written object are read as. -/
def fieldsToDocuments : List (String × Json) → List (Option String × Document)
  | [] => []
  | (key, value) :: fields => (some key, toDocument value) :: fieldsToDocuments fields

end

end HandleGuard.Json
