import SearchCriteria.Text.Blank
import SearchCriteria.Text.VisibleTable

/-! Text between double quotes, as descriptions of values show it.
Quotes, backslashes and the common controls have short escapes; other characters without
a visible form are written by their code points. -/
namespace SearchCriteria.Text

def isVisible (c : Char) : Bool :=
  if c.toNat < 0x7F then 0x20 ≤ c.toNat else !inRanges hiddenRanges c.toNat

def escapeChar (c : Char) : List Char :=
  if c = '\x00' then ['\\', '0']
  else if c = '\t' then ['\\', 't']
  else if c = '\r' then ['\\', 'r']
  else if c = '\n' then ['\\', 'n']
  else if c = '\\' then ['\\', '\\']
  else if c = '"' then ['\\', '"']
  else if isVisible c then [c]
  else ['\\', 'u', '\x7b'] ++ Nat.toDigits 16 c.toNat ++ ['\x7d']

def quoted (s : String) : String :=
  String.ofList ('"' :: s.toList.flatMap escapeChar ++ ['"'])

def quotedList (xs : List String) : String := ", ".intercalate (xs.map quoted)

example : quoted "a\"b\\c'\n\x00\u200b" = "\"a\\\"b\\\\c'\\n\\0\\u\x7b200b\x7d\"" := by
  decide +kernel
example : quoted "ﾊﾞ\u3164" = "\"ﾊﾞ\\u\x7b3164\x7d\"" := by decide +kernel

end SearchCriteria.Text
