/-!
# Joining pieces

A separator stands only between pieces that are not empty.
-/

namespace SqlMapping.Text

/-- Appends pieces to `out`. The separator goes before each piece but the first that is kept; a
piece that adds nothing takes it back. -/
def appendPieces {α : Type} (separator : List α) (first : Bool) (out : List α) :
    List (List α) → List α
  | [] => out
  | p :: ps =>
    let separated := if first then out else out ++ separator
    let added := separated ++ p
    if added.length = separated.length then
      appendPieces separator first (added.take out.length) ps
    else appendPieces separator false added ps

/-- The pieces that are not empty, with the separator between them. -/
def joinPieces {α : Type} (separator : List α) (pieces : List (List α)) : List α :=
  appendPieces separator true [] pieces

/-- Appends the texts that are not empty to `out`, separated. -/
def appendSeparated (out : String) (texts : List String) (separator : String) : String :=
  String.ofList
    (appendPieces separator.toList true out.toList (texts.map String.toList))

end SqlMapping.Text
