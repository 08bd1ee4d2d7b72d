import HandleGuard.Text.Invisible
import HandleGuard.Text.Numeral

/-!
# Quoted text in messages

A name or value that came from outside stands in a message between double quotes, with every
character written so that it can be seen: quotes and backslashes behind a backslash, the common
controls by letter, other characters that do not show by code point, and all the rest as it is.
-/

namespace HandleGuard.Text

/-- How one character is written between quotes. -/
def showChar (c : Char) : List Char :=
  if c = '"' then ['\\', '"']
  else if c = '\\' then ['\\', '\\']
  else if c = '\n' then ['\\', 'n']
  else if c = '\r' then ['\\', 'r']
  else if c = '\t' then ['\\', 't']
  else if c.toNat = 0 then ['\\', '0']
  else if isInvisible c then ['\\', 'u', '\x7b'] ++ Nat.toDigits 16 c.toNat ++ ['\x7d']
  else [c]

/-- The text between quotes. -/
def quoted (s : String) : String :=
  String.ofList ('"' :: s.toList.flatMap showChar ++ ['"'])

end HandleGuard.Text
