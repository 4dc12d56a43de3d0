import SqlMapping.Text.Split
import SqlMapping.Url.Domain.Direction
import SqlMapping.Url.Domain.Label

/-!
# Domain names

A domain name is a sequence of labels with dots between them, and is sent in ASCII.
-/

namespace SqlMapping.Url

/-- Characters that no host may hold. -/
def forbidden : List Char :=
  ['\x00', '\t', '\n', '\r', ' ', '#', '/', ':', '<', '>', '?', '@', '[', '\\', ']', '^', '|']

namespace Domain

/-- Whether a folded domain name may hold a character. -/
def isNameCharacter (c : Char) : Bool :=
  32 < c.toNat && c.toNat != 127 && c != '%' && c ∉ forbidden

/-- The labels of a domain name, if a name may have them: once one of them has characters written
from the right, each keeps to one direction. -/
def labels? (cs : List Char) : Option (List Label) :=
  (folded? cs).bind fun name =>
    if name.all isNameCharacter then
      ((Text.splitAll '.' name).mapM Label.read?).bind fun labels =>
        if labels.any (fun l => turns l.text) && !labels.all fun l => keepsDirection l.text then
          none
        else some labels
    else none

/-- A domain name as it is sent. -/
def ascii? (cs : List Char) : Option (List Char) :=
  (labels? cs).map fun labels => ['.'].intercalate (labels.map Label.ascii)

end Domain

end SqlMapping.Url
