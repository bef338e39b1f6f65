import LayerLint.Config.Load
import LayerLint.Convention.Catalog
import LayerLint.Report.Plain

/-!
# The list of the rules

All rules, with whether they are on, and how to turn one off.
-/

set_option autoImplicit false

namespace LayerLint

namespace Report.RuleList

/-- The text filled up with blanks to a width. -/
def padded (width : Nat) (text : String) : String :=
  text ++ String.ofList (List.replicate (width - text.length) ' ')

/-- Whether a rule is on. -/
def status (colors enabled : Bool) : String :=
  if enabled then Paint.green.apply colors "[ON] " else Paint.red.apply colors "[OFF]"

/-- The line of a rule. -/
def ruleText (colors : Bool) (line : RuleLine) : String :=
  "  " ++ status colors line.enabled ++ " " ++ Paint.yellow.apply colors (padded 52 line.id) ++ " "
    ++ line.description

/-- How to turn a rule off, in the configuration file if there is one. -/
def advice (configuration : Option Path) : List String :=
  let first :=
    match configuration with
    | some path =>
      "   Info: To disable a rule, add its id or name to [rules] disabled in " ++ path.text ++ ":"
    | none =>
      "   Info: No " ++ Config.fileName ++ " found. Using defaults; to disable a rule add:"
  [first, "   [rules]", "   disabled = [\"noSameEntitySaveRule\"]"]

/-- The text of the list. -/
def render (colors : Bool) (configuration : Option Path) (config : Config) : String :=
  Plain.ofLines
    (["", Paint.bold.apply colors "Registered rules:"] ++ (ruleLines config).map (ruleText colors)
      ++ [""] ++ advice configuration)

end Report.RuleList

end LayerLint
