import HandleGuard.Handle
import HandleGuard.Json.Document

/-!
# Values from documents

How documents are read as values of a type. Numbers must be written as whole numbers in range. A
record may be written as an object, whose known keys stand at most once and whose other keys are
skipped, or as an array of its fields in order, where trailing fields may be left out. A plain
choice is written by name, or as an object with that name as its only key and null as its value.
-/

namespace HandleGuard.Json.Document

/-- A whole number from 0 up to the largest 64-bit word. -/
def word? : Document → Option UInt64
  | number n =>
    match n.integer? with
    | some (.ofNat v) => some (UInt64.ofNat v)
    | _ => none
  | _ => none

/-- A whole number from 0 up to the largest 32-bit word. -/
def halfWord? : Document → Option UInt32
  | number n =>
    match n.integer? with
    | some (.ofNat v) => if v < Numeral.halfWordLimit then some (UInt32.ofNat v) else none
    | _ => none
  | _ => none

/-- A whole number that fits a signed 64-bit word. -/
def int? : Document → Option Int64
  | number n =>
    match n.integer? with
    | some i => if i < Numeral.signedLimit then some (Int64.ofInt i) else none
    | none => none
  | _ => none

/-- A string. -/
def string? : Document → Option String
  | text s => s
  | _ => none

/-- A handle. -/
def handle? (d : Document) : Option Handle := d.word?.map Handle.mk

/-- The identity of a context. -/
def contextId? (d : Document) : Option ContextId := d.word?.map ContextId.mk

/-- An operation code. -/
def opId? (d : Document) : Option OpId := d.halfWord?.map OpId.mk

/-- A list of values of one type. -/
def list? {α : Type} (read : Document → Option α) : Document → Option (List α)
  | array items => items.mapM read
  | _ => none

/-- One of `choices`, by its name. -/
def choice? {α : Type} (name : α → String) (choices : List α) : Document → Option α
  | text (some s) => choices.find? (name · == s)
  | object [(some key, null)] => choices.find? (name · == key)
  | _ => none

/-- The value of a field, for each name the one that stands in `fields`; no name may stand there
twice. -/
def pick (fields : List (String × Document)) : List String → Option (List (Option Document))
  | [] => some []
  | name :: names =>
    match fields.filter (·.1 == name) with
    | [] => (none :: ·) <$> pick fields names
    | [(_, value)] => (some value :: ·) <$> pick fields names
    | _ => none

/-- The fields of a record by its names, in their order; a field that is left out is `none`. -/
def record? (names : List String) : Document → Option (List (Option Document))
  | object fields => do
    pick (← fields.mapM fun (key, value) => key.map (·, value)) names
  | array items =>
    if items.length ≤ names.length then
      some (items.map some ++ List.replicate (names.length - items.length) none)
    else none
  | _ => none

/-- A field that must be there. -/
def required? {α : Type} (read : Document → Option α) (d : Option Document) : Option α :=
  d.bind read

/-- A field that may be left out or null. -/
def optional? {α : Type} (read : Document → Option α) : Option Document → Option (Option α)
  | none | some null => some none
  | some d => (read d).map some

end HandleGuard.Json.Document
