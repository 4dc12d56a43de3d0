import SqlMapping.Text.Split
import SqlMapping.Url.Percent

/-!
# Form data

The query of a url as pairs: `&` between pairs, `=` between name and value, `+` for a blank.
-/

namespace SqlMapping.Url

/-- The text a part of form data stands for. -/
def formText (cs : List Char) : String :=
  Text.Utf8.decodeLenient (percentDecode (cs.map fun c => if c = '+' then ' ' else c))

/-- The name and the value of a pair. -/
def formPair (cs : List Char) : String × String :=
  let (name, value) := Text.splitAt '=' cs
  (formText name, formText (value.getD []))

/-- The pairs of form data, in their order; an empty part is no pair. -/
def formPairs (query : String) : List (String × String) :=
  ((Text.splitAll '&' query.toList).filter (!·.isEmpty)).map formPair

end SqlMapping.Url
