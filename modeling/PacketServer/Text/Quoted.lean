import PacketServer.Text.Hidden

/-!
# Quoted text

A text between double quotes, in one line and unambiguous: the quote and the
backslash are escaped by a backslash, the usual controls by a letter, and
every other character that does not show by its code point in hexadecimal.
The single quote and all other characters stand as they are.
-/

namespace PacketServer.Text

/-- The digit characters of `n` in hexadecimal, lower case, no leading zeros. -/
def hexadecimal (n : Nat) : String := String.ofList (Nat.toDigits 16 n)

/-- Two hexadecimal digits. -/
def hexByte (b : UInt8) : String :=
  String.ofList [Nat.digitChar (b.toNat / 16), Nat.digitChar (b.toNat % 16)]

/-- One character of a quoted text. -/
def escape (c : Char) : String :=
  if c = '"' then "\\\""
  else if c = '\\' then "\\\\"
  else if c = '\n' then "\\n"
  else if c = '\r' then "\\r"
  else if c = '\t' then "\\t"
  else if c = '\x00' then "\\0"
  else if isHidden c then "\\u\x7b" ++ hexadecimal c.toNat ++ "\x7d"
  else String.singleton c

/-- A text between double quotes. -/
def quoted (s : String) : String :=
  "\"" ++ String.join (s.toList.map escape) ++ "\""

end PacketServer.Text
