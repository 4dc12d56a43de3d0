import SqlMapping.Unicode.Joining
import SqlMapping.Unicode.Mark
import SqlMapping.Url.Domain.Folding
import SqlMapping.Url.Punycode

/-!
# Labels of domain names

A label is a text, and is sent in ASCII. A label that begins with `xn--` is written in ASCII
already.
-/

namespace SqlMapping.Url.Domain

/-- A label as it is read and as it is sent. -/
structure Label where
  text : List Char
  ascii : List Char

/-- The class of the marks that end an Indic consonant. -/
def viramaClass : Nat := 9

/-- Whether a joiner may stand at a place, with the characters of `before` before it, the nearest
first: after a consonant whose vowel is taken away, and the non-joiner between letters that would
be joined. -/
def joinerFits (before : List Char) (c : Char) (after : List Char) : Bool :=
  match before with
  | [] => false
  | b :: _ => Unicode.combiningClass b == viramaClass ||
      c == '\u200C' && Unicode.joinsAt before after

/-- Whether the joiners of a text that stands after `before` are where they may be. -/
def joinersFit (before : List Char) : List Char → Bool
  | [] => true
  | c :: cs =>
    (if c = '\u200C' ∨ c = '\u200D' then joinerFits before c cs else true) &&
      joinersFit (c :: before) cs

/-- Whether a label beyond ASCII may have a text: no mark begins it, its joiners are in place, and
it has at most 1000 characters. -/
def isProper (text : List Char) : Bool :=
  !(text.head?.any Unicode.isMark) && joinersFit [] text && text.length ≤ 1000

/-- What labels written in ASCII begin with. -/
def asciiMark : List Char := ['x', 'n', '-', '-']

/-- The label that a text written in ASCII stands for. -/
def Label.decode? (code : List Char) : Option Label :=
  if code.all (·.toNat < 128) ∧ code.length ≤ 2000 ∧ code.getLast?.any (· != '-') then
    (Punycode.decode? code).bind fun text =>
      if isSettled text ∧ isProper text then some ⟨text, asciiMark ++ code⟩ else none
  else none

/-- The label of a folded text. -/
def Label.read? (text : List Char) : Option Label :=
  match text with
  | 'x' :: 'n' :: '-' :: '-' :: code => Label.decode? code
  | _ =>
    if text.all (·.toNat < 128) then some ⟨text, text⟩
    else if isProper text then some ⟨text, asciiMark ++ Punycode.encode text⟩
    else none

end SqlMapping.Url.Domain
