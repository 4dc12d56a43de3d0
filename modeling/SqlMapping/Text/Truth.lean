/-!
# Truth values in settings

The spellings of tags and connection options.
-/

namespace SqlMapping.Text

/-- The truth value of a spelling; a setting without a value is on. -/
def truth? : String → Option Bool
  | "" | "1" | "t" | "T" | "true" | "TRUE" | "True" => some true
  | "0" | "f" | "F" | "false" | "FALSE" | "False" => some false
  | _ => none

end SqlMapping.Text
