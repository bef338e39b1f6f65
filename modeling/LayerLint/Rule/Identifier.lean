import LayerLint.Text.Cut
import LayerLint.Text.Case

/-!
# Rule identifiers

Every rule has a stable identifier of three parts: a fixed namespace, the group the rule belongs to,
and its name with a small first letter.
-/

set_option autoImplicit false

namespace LayerLint.Rule

/-- The first part of every identifier. -/
def identifierNamespace : String :=
  "espocrm"

/-- The segment after the first one called `rules`, in any case. -/
def segmentAfterRules : List String → Option String
  | [] => none
  | s :: rest => if Text.sameFolded s "rules" then rest.head? else segmentAfterRules rest

/-- The group named by a qualified place: the segment after `rules`, lowered, or `core`. -/
def group (place : String) : String :=
  let segments := (Text.split (fun c => c == '\\' || c == ':') place).filter (· != "")
  ((segmentAfterRules segments).map Text.lower).getD "core"

/-- The identifier of the rule called `name` that is declared at `place`. -/
def identifier (place name : String) : String :=
  identifierNamespace ++ "." ++ group place ++ "." ++ Text.lowerFirst name

/-- The last part of an identifier. -/
def shortName (id : String) : String :=
  Text.afterLast (· == '.') id

end LayerLint.Rule
