import LayerLint.Syntax.Grammar.Reader

/-!
# Names, variables and types
-/

set_option autoImplicit false

namespace LayerLint.Syntax.Grammar

/-! ## Names -/

/-- A backslash with a further word of a name after it. -/
def atNameSeparator : Parser Bool := do
  match ← rest with
  | '\\' :: more => return (((more.dropWhile isSpace).head?.map isNameStart).getD false)
  | _ => return false

/-- A name: one word, or several with backslashes. With a backslash it is qualified, and relative if
its first word is the keyword for the present namespace. -/
def qualifiedName : Parser Forest := do
  let relative ← atKeyword "namespace"
  let absolute ← atNameSeparator
  let lead ← if absolute then sign "\\" else pure []
  let first ← nameToken
  let more ← many (further atNameSeparator) (seq [sign "\\", nameToken])
  let forest := lead ++ first ++ more
  if absolute then return group .qualifiedName forest
  else if more.isEmpty then return forest
  else if relative then return group .relativeName forest
  else return group .qualifiedName forest

/-! ## Variables -/

/-- A variable: a plain one, or one whose name is computed. -/
def variableRef (recur : Recur) : Parser Forest := do
  match ← rest with
  | '$' :: '\x7b' :: _ =>
    node .dynamicVariable
      [token .symbol 2, within true (recur (.expression 0)), sign "\x7d"]
  | '$' :: '$' :: _ => node .dynamicVariable [token .symbol 1, recur .reference]
  | '$' :: more =>
    match word? more with
    | some w => token .variableName (w.length + 1)
    | none => failure
  | _ => failure

/-- A variable comes next. -/
def atVariable : Parser Bool :=
  return (← peekChar) == some '$'

/-! ## Types -/

/-- The words that are types of the language itself, in this spelling only. -/
def primitiveTypes : List String :=
  ["array", "callable", "iterable", "bool", "float", "int", "string", "void", "mixed", "false",
    "null", "true", "object"]

/-- A single type. -/
def typeAtom (recur : Recur) : Parser Forest := do
  if ← atSign "(" then brackets "(" (recur .type) ")"
  else
    match word? (← rest) with
    | some w =>
      if primitiveTypes.contains (String.ofList w) then token .primitiveType w.length
      else node .namedType [qualifiedName]
    | none => node .namedType [qualifiedName]

/-- An ampersand that joins two types, and does not announce a reference. -/
def atTypeAnd : Parser Bool := do
  if ← atSign "&" then
    match ← ahead (do let _ ← sign "&"; peekChar) with
    | some (some c) => return c != '$' && c != '.' && c != '&'
    | _ => return false
  else return false

/-- A type joins on. -/
def atTypeJoin : Parser Bool := do
  return (← atSign "|") || (← atTypeAnd)

/-- A type: a single one, one that may be null, or several joined. -/
def typeExpression (recur : Recur) : Parser Forest := do
  if ← atSign "?" then node .optionalType [sign "?", typeAtom recur]
  else
    let isUnion ← ahead (seq [typeAtom recur, sign "|"])
    let first ← typeAtom recur
    let more ← many atTypeJoin
      (seq [either (sign "|") (sign "&"), typeAtom recur])
    if more.isEmpty then return first
    else return group (if isUnion.isSome then .unionType else .intersectionType) (first ++ more)

end LayerLint.Syntax.Grammar
