import ModularSynth.Text.Letter

/-!
This module contains the lower case of texts, by the rules of Unicode.
-/

namespace ModularSynth
namespace Text

/-- The small letter of a capital in a run. -/
def CapitalRun.small? (r : CapitalRun) (c : Char) : Option Char :=
  if r.first ≤ c.toNat ∧ c.toNat ≤ r.last ∧ (c.toNat - r.first) % r.step = 0 then
    some (Char.ofNat (c.toNat + r.offset).toNat)
  else
    none

/-- The lower case of a character on its own. The capital `İ` keeps its dot as a character. -/
def lowercaseChar (c : Char) : List Char :=
  if c.toNat < 0x80 then [c.toLower]
  else if c = '\u0130' then ['i', '\u0307']
  else [(capitals.findSome? (·.small? c)).getD c]

/-- The first character that counts has a case. -/
def startsCased (cs : List Char) : Bool :=
  match cs.dropWhile caseIgnorable.contains with
  | c :: _ => cased.contains c
  | [] => false

/--
The lower case of a text. A capital sigma at the end of a word becomes a final sigma; `before` holds
the characters in front, the nearest first.
-/
def lowercaseAfter (before : List Char) : List Char → List Char
  | [] => []
  | c :: cs =>
    let small :=
      if c = 'Σ' then
        if startsCased before && !startsCased cs then ['ς'] else ['σ']
      else
        lowercaseChar c
    small ++ lowercaseAfter (c :: before) cs

end Text

def lowercase (s : String) : String :=
  String.ofList (Text.lowercaseAfter [] s.toList)

end ModularSynth
