import SqlMapping.Text.Blank

/-!
# Names with an alias

A name may be followed by `as` and an alias, with blanks around the word. The division happens on
the first line of the text that allows one: the blanks before the word may start on that line and
reach into the next ones, the name before them does not. The last such word that the line reaches
divides, and the alias goes on to the end of its own line.
-/

namespace SqlMapping.Alias

/-- The characters of the word between a name and its alias. -/
def word : List Char := ['a', 's']

/-- The part of a text up to its first line feed. -/
def line (cs : List Char) : List Char :=
  cs.takeWhile (· != '\n')

/-- What stands after blanks, `as` and a blank at the head of a text; blanks around the word are
taken as far as they go. -/
def afterWord? (cs : List Char) : Option (List Char) :=
  match cs with
  | c :: rest =>
    if Text.isBlank c then
      match rest.dropWhile Text.isBlank with
      | 'a' :: 's' :: d :: after =>
        if Text.isBlank d then some (after.dropWhile Text.isBlank) else none
      | _ => none
    else none
  | [] => none

/-- The last division of a text whose name stays on the first line, as name and the text after
the word; `before` is the part of the line already passed, reversed. -/
def lastOnLine? (before : List Char) : List Char → Option (List Char × List Char)
  | [] => none
  | c :: cs =>
    let here := (afterWord? (c :: cs)).map fun after => (before.reverse, after)
    if c = '\n' then here
    else match lastOnLine? (c :: before) cs with
      | some later => some later
      | none => here

/-- A text from each line after the first on. -/
def laterLines : List Char → List (List Char)
  | [] => []
  | c :: cs => if c = '\n' then cs :: laterLines cs else laterLines cs

/-- The division of a text, on the first line that allows one. -/
def divide? (cs : List Char) : Option (List Char × List Char) :=
  (cs :: laterLines cs).findSome? (lastOnLine? [])

/-- A name and its alias, both trimmed; the alias is empty when there is none. -/
def split (s : String) : String × String :=
  match divide? s.toList with
  | some (name, after) => (String.ofList (Text.trim name), String.ofList (Text.trim (line after)))
  | none => (Text.trimmed s, "")

end SqlMapping.Alias
