import SqlMapping.Failure
import SqlMapping.Text.Words

/-!
# Naming styles

How the names of types and members become the names of tables and columns.
-/

namespace SqlMapping

/-- A style of database identifiers. -/
inductive Naming where
  /-- Small letters, words joined by underscores. -/
  | snake
  /-- Words joined directly, each with a capital. -/
  | pascal
  deriving DecidableEq, Inhabited

namespace Naming

/-- A word with its first cluster capital and the rest small. -/
def capitalized : List (List Char) → List Char
  | [] => []
  | c :: cs => Unicode.capital c ++ Unicode.small cs.flatten

def convert (n : Naming) (identifier : String) : String :=
  let words := Text.words identifier
  match n with
  | snake => String.ofList (['_'].intercalate (words.map fun w => Unicode.small w.flatten))
  | pascal => String.ofList (words.flatMap capitalized)

def table (n : Naming) (typeName : String) : String :=
  n.convert typeName

def column (n : Naming) (member : String) : String :=
  n.convert member

/-- The style of a name, in any case of ASCII letters. -/
def parse (name : String) : Result Naming :=
  match String.ofList (name.toList.map Char.toLower) with
  | "snake" | "underline" => .ok snake
  | "pascal" | "camel" => .ok pascal
  | _ => .fail (.unknownNaming name)

def name : Naming → String
  | snake => "Snake"
  | pascal => "Pascal"

end Naming

end SqlMapping
