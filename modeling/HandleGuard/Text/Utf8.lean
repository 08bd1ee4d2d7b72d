/-!
# Bytes as text

Byte strings come from files, from the environment and from tables of the host. A byte string is
read as a list of symbols: a character for each well-formed UTF-8 sequence and `none` for each
longest run of bytes that starts one but does not finish it.

* `symbols`: the symbols of a byte string
* `decode?`: the text, when all of it is UTF-8
* `lossy`: the text with U+FFFD in place of each ill-formed run
-/

namespace HandleGuard.Utf8

/-- A character, or `none` for bytes that are not UTF-8. -/
abbrev Symbol := Option Char

/-- The values allowed for the byte after `lead`: `lead` alone decides them, so that overlong
forms, surrogates and values above U+10FFFF never start. -/
def secondByteRange (lead : UInt8) : Option (UInt8 × UInt8) :=
  if lead < 0xc2 then none
  else if lead == 0xe0 then some (0xa0, 0xbf)
  else if lead == 0xed then some (0x80, 0x9f)
  else if lead == 0xf0 then some (0x90, 0xbf)
  else if lead < 0xf4 then some (0x80, 0xbf)
  else if lead == 0xf4 then some (0x80, 0x8f)
  else none

/-- Whether the byte at `i` exists and lies between `lo` and `hi`. -/
def byteWithin (b : ByteArray) (i : Nat) (lo hi : UInt8) : Bool :=
  match b[i]? with
  | some x => lo ≤ x && x ≤ hi
  | none => false

/-- How many bytes at `i`, where no character starts, belong to one ill-formed run: the longest
start of a well-formed sequence, and at least one byte. -/
def illFormedRun (b : ByteArray) (i : Nat) : Nat :=
  match b[i]? with
  | none => 1
  | some lead =>
    match secondByteRange lead with
    | none => 1
    | some (lo, hi) =>
      if !byteWithin b (i + 1) lo hi then 1
      else if lead ≥ 0xf0 && byteWithin b (i + 2) 0x80 0xbf then 3
      else 2

theorem illFormedRun_pos (b : ByteArray) (i : Nat) : 0 < illFormedRun b i := by
  unfold illFormedRun
  repeat' split
  all_goals decide

/-- The symbols of `b` from position `i` on. -/
def symbolsFrom (b : ByteArray) (i : Nat) : List Symbol :=
  if i < b.size then
    match b.utf8DecodeChar? i with
    | some c => some c :: symbolsFrom b (i + c.utf8Size)
    | none => none :: symbolsFrom b (i + illFormedRun b i)
  else []
termination_by b.size - i
decreasing_by
  · have := c.utf8Size_pos; omega
  · have := illFormedRun_pos b i; omega

/-- The symbols of a byte string. -/
def symbols (b : ByteArray) : List Symbol := symbolsFrom b 0

/-- All characters of a list of symbols, when every symbol is one. -/
def text? (s : List Symbol) : Option (List Char) := s.mapM id

/-- The text that `b` encodes, when all of it is UTF-8. -/
def decode? (b : ByteArray) : Option String :=
  (text? (symbols b)).map String.ofList

/-- The text of `b` with U+FFFD in place of each ill-formed run. -/
def lossy (b : ByteArray) : String :=
  String.ofList ((symbols b).map (·.getD (Char.ofNat 0xfffd)))

end HandleGuard.Utf8
