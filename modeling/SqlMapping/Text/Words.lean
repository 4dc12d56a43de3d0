import SqlMapping.Unicode.Case
import SqlMapping.Unicode.Cluster

/-!
# Words of an identifier

An identifier is divided at underscores, hyphens and spaces, which are left out, and where its
letters change: before a capital after a small letter, before the last of several capitals when a
small letter follows, and between letters and digits.
-/

namespace SqlMapping.Text

/-- The kinds of clusters that divide identifiers. -/
inductive Shape where
  | separator
  | capital
  | small
  | digit
  | other
  deriving DecidableEq

def Shape.of (cluster : List Char) : Shape :=
  let up := Unicode.capital cluster
  let down := Unicode.small cluster
  if cluster = ['_'] || cluster = ['-'] || cluster = [' '] then .separator
  else if cluster.all Char.isDigit then .digit
  else if up = down then .other
  else if cluster = up then .capital
  else if cluster = down then .small
  else .other

/-- Whether a word ends after a cluster, seen with the two after it. -/
def endsWord : Shape → Option Shape → Option Shape → Bool
  | .small, some .capital, _ => true
  | .capital, some .capital, some .small => true
  | .small, some .digit, _ => true
  | .capital, some .digit, _ => true
  | .digit, some .small, _ => true
  | .digit, some .capital, _ => true
  | _, _, _ => false

abbrev Shaped := List Char × Shape

/-- The words of the rest of an identifier, after the clusters of an unfinished word. -/
def wordsFrom (word : List (List Char)) : List Shaped → List (List (List Char))
  | [] => [word]
  | (c, shape) :: rest =>
    if shape = .separator then word :: wordsFrom [] rest
    else if endsWord shape (rest.head?.map (·.2)) ((rest.drop 1).head?.map (·.2)) then
      (word ++ [c]) :: wordsFrom [] rest
    else wordsFrom (word ++ [c]) rest

/-- The words of an identifier, each as its clusters. -/
def words (identifier : String) : List (List (List Char)) :=
  let shaped := (Unicode.clusters identifier.toList).map fun c => (c, Shape.of c)
  (wordsFrom [] shaped).filter fun w => !w.isEmpty

end SqlMapping.Text
