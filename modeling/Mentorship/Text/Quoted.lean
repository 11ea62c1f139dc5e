import Mentorship.Text.PrintingTable

/-! Text in double quotes with escapes, the form in which messages show keys. -/

namespace Mentorship.Text

/-- The digits of a code point in hexadecimal, between braces. -/
def bracedHex (c : Char) : List Char :=
  '\x7b' :: Nat.toDigits 16 c.toNat ++ ['\x7d']

def quotedChar (c : Char) : List Char :=
  if c == '\x00' then ['\\', '0']
  else if c == '\t' then ['\\', 't']
  else if c == '\r' then ['\\', 'r']
  else if c == '\n' then ['\\', 'n']
  else if c == '\\' || c == '"' then ['\\', c]
  else if graphemeExtendTable.has c || unprintableTable.has c then '\\' :: 'u' :: bracedHex c
  else [c]

def quoted (s : String) : String :=
  String.ofList ('"' :: s.toList.flatMap quotedChar ++ ['"'])

/-- A list of quoted texts between square brackets. -/
def quotedList (ss : List String) : String :=
  "[" ++ ", ".intercalate (ss.map quoted) ++ "]"

end Mentorship.Text
