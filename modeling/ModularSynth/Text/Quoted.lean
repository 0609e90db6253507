import ModularSynth.Text.Invisible

/-!
This module contains the quoted form in which messages show a text, where nothing of it stays
invisible.
-/

namespace ModularSynth
namespace Text

/-- A character inside quotes. Invisible characters are shown by their code point. -/
def showChar (c : Char) : List Char :=
  if c = '\x00' then ['\\', '0']
  else if c = '\t' then ['\\', 't']
  else if c = '\r' then ['\\', 'r']
  else if c = '\n' then ['\\', 'n']
  else if c = '\\' then ['\\', '\\']
  else if c = '"' then ['\\', '"']
  else if invisible.contains c then ['\\', 'u', '\x7b'] ++ Nat.toDigits 16 c.toNat ++ ['\x7d']
  else [c]

end Text

def quoted (s : String) : String :=
  "\"" ++ String.ofList (s.toList.flatMap Text.showChar) ++ "\""

end ModularSynth
