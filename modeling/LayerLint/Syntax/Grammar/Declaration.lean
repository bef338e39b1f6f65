import LayerLint.Syntax.Grammar.Expression

/-!
# Declarations

Attributes, parameters, the members of classes, and the declarations of classes, interfaces, traits,
enumerations and functions.
-/

set_option autoImplicit false

namespace LayerLint.Syntax.Grammar

/-! ## Attributes and modifiers -/

/-- One group of attributes. -/
def attributeGroup (recur : Recur) : Parser Forest :=
  node .attributeGroup
    [brackets "#["
       (itemsUntil "]"
         (node .attributeClause
           [qualifiedName, whenever (atSign "(") (role .arguments (recur .arguments))]))
       "]"]

/-- Groups of attributes. -/
def attributes (recur : Recur) : Parser Forest :=
  node .attributeList [many (atSign "#[") (attributeGroup recur)]

/-- Groups of attributes, if there are any. -/
def optionalAttributes (recur : Recur) : Parser Forest :=
  whenever (atSign "#[") (attributes recur)

/-- A visibility that covers only writing. -/
def setterMark : Parser Forest := do
  match ← ahead (seq [sign "(", keyword "set", sign ")"]) with
  | some _ => seq [sign "(", keyword "set", sign ")"]
  | none => return []

/-- A visibility. -/
def visibilityModifier : Parser Forest := do
  require (← atKeywords ["public", "protected", "private"])
  node .visibilityModifier [modifier .symbol ((← peekWord).getD ""), setterMark]

/-- A modifier of a class or of a member. -/
def declarationModifier : Parser Forest := do
  match ← peekWord with
  | some "static" => modifier .staticModifier "static"
  | some "final" => modifier .finalModifier "final"
  | some "abstract" => modifier .abstractModifier "abstract"
  | some "readonly" => modifier .readonlyModifier "readonly"
  | some "var" => modifier .varModifier "var"
  | _ => visibilityModifier

/-- The words that modify a member. -/
def memberModifiers : List String :=
  ["public", "protected", "private", "static", "final", "abstract", "readonly", "var"]

/-! ## Parameters -/

/-- A default value after an equals sign. -/
def defaultValue (recur : Recur) : Parser Forest :=
  whenever (atSign "=") (seq [sign "=", recur (.expression 0)])

/-- One hook of a property. -/
def propertyHook (recur : Recur) : Parser Forest :=
  node .propertyHook
    [optionalAttributes recur, many (atKeyword "final") (modifier .finalModifier "final"),
     referenceMark, nameToken, whenever (atSign "(") (recur .parameters),
     (do if ← atSign "=>" then seq [token .doubleArrow 2, recur (.expression 0), semicolon]
         else bracesOrEnd (recur .block))]

/-- The hooks of a property. They end like statements, also where the property is a parameter. -/
def propertyHooks (recur : Recur) : Parser Forest :=
  node .propertyHookList
    [sign "\x7b", within false (many (otherwise (atSign "\x7d")) (propertyHook recur)),
     sign "\x7d"]

/-- One parameter. With a visibility or another modifier it is a property as well. -/
def parameter (recur : Recur) : Parser Forest := do
  let attributes ← optionalAttributes recur
  let modifiers ←
    many (atKeywords ["public", "protected", "private", "readonly", "final"]) declarationModifier
  let hasType := !((← atVariable) || (← atSign "&") || (← atSign "..."))
  let type ← if hasType then role .type (recur .type) else pure []
  let lead := attributes ++ modifiers ++ type
  if !modifiers.isEmpty then
    node .promotionParameter
      [return lead,
       role .name
         (do if ← atSign "&" then node .byRef [sign "&", variableRef recur] else variableRef recur),
       defaultValue recur, whenever (atSign "\x7b") (propertyHooks recur)]
  else
    let mark ← referenceMark
    if ← atSign "..." then
      node .variadicParameter
        [return lead ++ mark, sign "...", role .name (variableRef recur)]
    else
      node .simpleParameter
        [return lead ++ mark, role .name (variableRef recur), defaultValue recur]

/-- Parameters in parentheses. -/
def parameters (recur : Recur) : Parser Forest :=
  node .formalParameters [brackets "(" (itemsUntil ")" (parameter recur)) ")"]

/-! ## Members -/

/-- One constant: its name and its value. -/
def constElement (recur : Recur) : Parser Forest :=
  node .constElement [nameToken, sign "=", recur (.expression 0)]

/-- Constants after their modifiers. A word right before an equals sign is a name, anything else is
the type of the constants. -/
def constants (recur : Recur) (lead : Forest) : Parser Forest :=
  node .constDeclaration
    [return lead, keyword "const",
     whenever (otherwise (wordThenSign "=")) (role .type (recur .type)),
     commaList (constElement recur), semicolon]

/-- The name, parameters and return type of a function. -/
def functionHeader (recur : Recur) : List (Parser Forest) :=
  [keyword "function", referenceMark, role .name nameToken,
   role .parameters (recur .parameters), returnType recur]

/-- A method after its modifiers. -/
def method (recur : Recur) (lead : Forest) : Parser Forest :=
  node .methodDeclaration
    ((return lead) :: functionHeader recur
      ++ [bracesOrEnd (role .body (recur .block))])

/-- Properties after their modifiers. -/
def properties (recur : Recur) (lead : Forest) : Parser Forest :=
  node .propertyDeclaration
    [return lead, whenever (otherwise atVariable) (role .type (recur .type)),
     commaList (node .propertyElement [role .name (variableRef recur), defaultValue recur]),
     bracesOrEnd (propertyHooks recur)]

/-- The rules that adapt used traits. -/
def adaptations : Parser Forest :=
  node .useList
    [sign "\x7b",
     many (otherwise (atSign "\x7d"))
       (either qualifiedName (either (sign "::") (either (sign ",") (sign ";")))),
     sign "\x7d"]

/-- The use of traits. -/
def traitUse : Parser Forest :=
  node .useDeclaration
    [keyword "use", commaList qualifiedName,
     bracesOrEnd adaptations]

/-- One case of an enumeration. -/
def enumCase (recur : Recur) (lead : Forest) : Parser Forest :=
  node .enumCase [return lead, keyword "case", role .name nameToken, defaultValue recur, semicolon]

/-- One member of a class. -/
def member (recur : Recur) : Parser Forest := do
  let attributes ← optionalAttributes recur
  match ← peekWord with
  | some "use" => return attributes ++ (← traitUse)
  | some "case" => enumCase recur attributes
  | _ =>
    let modifiers ← many (atKeywords memberModifiers) declarationModifier
    let lead := attributes ++ modifiers
    match ← peekWord with
    | some "const" => constants recur lead
    | some "function" => method recur lead
    | _ => properties recur lead

/-- Members in braces. They end like statements, also where the class stands in brackets. -/
def members (recur : Recur) : Parser Forest :=
  node .declarationList
    [sign "\x7b", within false (many (otherwise (atSign "\x7d")) (member recur)), sign "\x7d"]

/-! ## Declarations with a name -/

/-- A class after its attributes. -/
def classDeclaration (recur : Recur) (lead : Forest) : Parser Forest :=
  node .classDeclaration
    [return lead, many (atKeywords ["final", "abstract", "readonly"]) declarationModifier,
     keyword "class", role .name nameToken, clause .baseClause "extends",
     clause .interfaceClause "implements", role .body (recur .members)]

/-- An interface after its attributes. -/
def interfaceDeclaration (recur : Recur) (lead : Forest) : Parser Forest :=
  node .interfaceDeclaration
    [return lead, keyword "interface", role .name nameToken, clause .baseClause "extends",
     role .body (recur .members)]

/-- A trait after its attributes. -/
def traitDeclaration (recur : Recur) (lead : Forest) : Parser Forest :=
  node .traitDeclaration
    [return lead, keyword "trait", role .name nameToken, role .body (recur .members)]

/-- An enumeration after its attributes. -/
def enumDeclaration (recur : Recur) (lead : Forest) : Parser Forest :=
  node .enumDeclaration
    [return lead, keyword "enum", role .name nameToken, returnType recur,
     clause .interfaceClause "implements", role .body (recur .members)]

/-- A function after its attributes. -/
def functionDefinition (recur : Recur) (lead : Forest) : Parser Forest :=
  node .functionDefinition
    ((return lead) :: functionHeader recur ++ [role .body (recur .block)])

/-- A word comes after the word at the front. -/
def wordThenWord : Parser Bool :=
  return (← ahead (seq [nameToken, nameToken])).isSome

/-- A declaration with a name after its attributes, if one comes next. -/
def declaration? (recur : Recur) (lead : Forest) : Parser (Option Forest) := do
  match ← peekWord with
  | some "class" =>
    if ← wordThenWord then return some (← classDeclaration recur lead) else return none
  | some "final" =>
    if ← wordThenWord then return some (← classDeclaration recur lead) else return none
  | some "abstract" =>
    if ← wordThenWord then return some (← classDeclaration recur lead) else return none
  | some "readonly" =>
    if ← wordThenWord then return some (← classDeclaration recur lead) else return none
  | some "interface" =>
    if ← wordThenWord then return some (← interfaceDeclaration recur lead) else return none
  | some "trait" =>
    if ← wordThenWord then return some (← traitDeclaration recur lead) else return none
  | some "enum" =>
    if ← wordThenWord then return some (← enumDeclaration recur lead) else return none
  | some "function" =>
    if (← ahead (seq [keyword "function", referenceMark, nameToken])).isSome then
      return some (← functionDefinition recur lead)
    else return none
  | _ => return none

end LayerLint.Syntax.Grammar
