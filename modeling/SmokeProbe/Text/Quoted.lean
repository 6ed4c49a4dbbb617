import SmokeProbe.Unicode.Unprintable

/-!
# Quoted text

How an error message shows a text that it speaks of: in quotes, on one line, with every character
that could not be seen spelled out by number.
-/
namespace SmokeProbe.Text.Quoted

/-- The spelling of one character. -/
def spell (c : Char) : List Char :=
  if c = '\x22' ∨ c = '\x5c' then ['\x5c', c]
  else if c = '\n' then ['\x5c', 'n']
  else if c = '\r' then ['\x5c', 'r']
  else if c = '\t' then ['\x5c', 't']
  else if c.toNat = 0 then ['\x5c', '0']
  else if Unicode.unprintable.has c then ['\x5c', 'u', '\x7b'] ++ hexadecimal c.toNat ++ ['\x7d']
  else [c]

/-- The text in quotes. -/
def quote (s : String) : String :=
  String.ofList ('\x22' :: s.toList.flatMap spell ++ ['\x22'])

end SmokeProbe.Text.Quoted
