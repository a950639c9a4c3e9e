/-
# Quoted names

Names in a log are quoted, with control characters, quotes and backslashes
escaped, so that a list of names can be read back whatever the names hold.
-/

namespace ApiHeader.Text

/-- A character as it stands between double quotes. -/
def quotedChar (c : Char) : List Char :=
  if c == '\x22' then ['\\', '\x22']
  else if c == '\\' then ['\\', '\\']
  else if c == '\n' then ['\\', 'n']
  else if c == '\r' then ['\\', 'r']
  else if c == '\t' then ['\\', 't']
  else if c.toNat == 0 then ['\\', '0']
  else if c.toNat < 0x20 || c.toNat == 0x7F then
    "\\u\x7b".toList ++ Nat.toDigits 16 c.toNat ++ ['\x7d']
  else [c]

/-- A name between double quotes. -/
def quoted (name : String) : String :=
  String.ofList ('\x22' :: name.toList.flatMap quotedChar ++ ['\x22'])

/-- Names between brackets. -/
def quotedList (names : List String) : String :=
  "[" ++ String.intercalate ", " (names.map quoted) ++ "]"

end ApiHeader.Text
