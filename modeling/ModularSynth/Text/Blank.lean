/-!
This module contains the blanks of a text, the characters of Unicode's `White_Space` property, and
`trim`, which drops them from both ends. Texts are lists of characters here, strings at the edges.
-/

namespace ModularSynth
namespace Text

/-- The characters of Unicode's `White_Space` property. -/
def blanks : List Char :=
  ['\t', '\n', '\x0b', '\x0c', '\r', ' ', '\u0085', '\u00a0', '\u1680', '\u2000', '\u2001',
   '\u2002', '\u2003', '\u2004', '\u2005', '\u2006', '\u2007', '\u2008', '\u2009', '\u200a',
   '\u2028', '\u2029', '\u202f', '\u205f', '\u3000']

def isBlank (c : Char) : Bool :=
  blanks.contains c

def trimStart (cs : List Char) : List Char :=
  cs.dropWhile isBlank

def trimEnd (cs : List Char) : List Char :=
  (trimStart cs.reverse).reverse

def trim (cs : List Char) : List Char :=
  trimEnd (trimStart cs)

/-- A text is blank if it holds nothing but blanks; the empty text is. -/
def isAllBlank (cs : List Char) : Bool :=
  cs.all isBlank

theorem trimStart_eq_self {c : Char} {cs : List Char} (h : isBlank c = false) :
    trimStart (c :: cs) = c :: cs := by
  simp [trimStart, h]

theorem trimStart_cons_blank {c : Char} {cs : List Char} (h : isBlank c = true) :
    trimStart (c :: cs) = trimStart cs := by
  simp [trimStart, h]

theorem trimStart_eq_nil_iff {cs : List Char} : trimStart cs = [] ↔ isAllBlank cs = true := by
  induction cs with
  | nil => simp [trimStart, isAllBlank]
  | cons c cs ih =>
    cases h : isBlank c with
    | true => simpa [trimStart_cons_blank h, isAllBlank, h] using ih
    | false => simp [trimStart_eq_self h, isAllBlank, h]

theorem isAllBlank_reverse {cs : List Char} : isAllBlank cs.reverse = isAllBlank cs := by
  simp [isAllBlank]

theorem isAllBlank_trimStart {cs : List Char} : isAllBlank (trimStart cs) = isAllBlank cs := by
  induction cs with
  | nil => rfl
  | cons c cs ih =>
    cases h : isBlank c with
    | true =>
      rw [trimStart_cons_blank h, ih]
      simp [isAllBlank, h]
    | false => rw [trimStart_eq_self h]

theorem trim_eq_nil_iff {cs : List Char} : trim cs = [] ↔ isAllBlank cs = true := by
  rw [trim, trimEnd, List.reverse_eq_nil_iff, trimStart_eq_nil_iff, isAllBlank_reverse,
    isAllBlank_trimStart]

end Text

/-- `s` without the blanks at its ends. -/
def trimmed (s : String) : String :=
  String.ofList (Text.trim s.toList)

end ModularSynth
