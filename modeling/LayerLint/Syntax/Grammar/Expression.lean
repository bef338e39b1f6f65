import LayerLint.Syntax.Grammar.Literal
import LayerLint.Syntax.Grammar.Name

/-!
# Expressions

An expression is an operand with operators after it. Every binary operator has a level, and an
operand of a level takes only operators that bind at least as tightly. An assignment belongs to the
variable on its left wherever it stands, and takes everything of its level on the right.
-/

set_option autoImplicit false

namespace LayerLint.Syntax.Grammar

/-! ## Levels -/

/-- The level of an assignment's right side. -/
def assignmentLevel : Nat := 4

/-- The level of a choice between two expressions. -/
def conditionalLevel : Nat := 5

/-- The level of an operand of a prefix operator. -/
def prefixLevel : Nat := 19

/-- The level of a test for a class. -/
def instanceLevel : Nat := 20

/-- The level of a binary operator, and whether it groups to the right. -/
def binaryLevel? : String → Option (Nat × Bool)
  | "or" => some (1, false)
  | "xor" => some (2, false)
  | "and" => some (3, false)
  | "??" => some (6, true)
  | "||" => some (7, false)
  | "&&" => some (8, false)
  | "|" => some (9, false)
  | "^" => some (10, false)
  | "&" => some (11, false)
  | "==" => some (12, false)
  | "!=" => some (12, false)
  | "<>" => some (12, false)
  | "===" => some (12, false)
  | "!==" => some (12, false)
  | "<=>" => some (12, false)
  | "<" => some (13, false)
  | ">" => some (13, false)
  | "<=" => some (13, false)
  | ">=" => some (13, false)
  | "|>" => some (14, false)
  | "." => some (14, false)
  | "<<" => some (15, false)
  | ">>" => some (15, false)
  | "+" => some (16, false)
  | "-" => some (16, false)
  | "*" => some (17, false)
  | "/" => some (17, false)
  | "%" => some (17, false)
  | "**" => some (18, true)
  | _ => none

/-- The operators that assign a computed value. -/
def augmentedSigns : List String :=
  ["+=", "-=", "*=", "/=", ".=", "%=", "&=", "|=", "^=", "<<=", ">>=", "**=", "??="]

/-- The operator at the front, a sign or a word, if the statement has not ended before it. -/
def peekOperator : Parser (Option String) := do
  if ← atTagEnd then return none
  else
    match ← peekWord with
    | some w => return some w
    | none => peekSign

/-! ## Arguments -/

/-- A word and a colon: the label of an argument. -/
def atLabel : Parser Bool := do
  match word? (← rest) with
  | none => return false
  | some _ => return (← ahead (seq [nameToken, sign ":"])).isSome

/-- One argument: with a label, by reference, spread, or plain. -/
def argument (recur : Recur) : Parser Forest := do
  if (← ahead (seq [sign "...", sign ")"])).isSome then token .variadicPlaceholder 3
  else
    node .argument
      [whenever atLabel (seq [role .name nameToken, sign ":"]),
       (do if ← atSign "..." then node .variadicUnpacking [sign "...", recur (.expression 0)]
           else
             seq [whenever (atSign "&") (token .referenceModifier 1), recur (.expression 0)])]

/-- Arguments in parentheses. -/
def arguments (recur : Recur) : Parser Forest :=
  node .arguments [brackets "(" (itemsUntil ")" (argument recur)) ")"]

/-! ## Arrays and patterns -/

/-- A value that may be taken by reference. -/
def referable (recur : Recur) : Parser Forest := do
  if ← atSign "&" then node .byRef [sign "&", recur (.expression 0)] else recur (.expression 0)

/-- One element of an array. -/
def arrayElement (recur : Recur) : Parser Forest := do
  if ← atSign "..." then
    node .arrayElement [node .variadicUnpacking [sign "...", recur (.expression 0)]]
  else
    node .arrayElement
      [referable recur,
       whenever (atSign "=>") (seq [token .doubleArrow 2, referable recur])]

/-- The elements up to a closing sign. Patterns may leave elements out. -/
def arrayElements (recur : Recur) (close : String) : Parser Forest :=
  itemsUntil close (whenever (otherwise (atSign ",")) (arrayElement recur))

/-- An array in brackets. -/
def bracketArray (recur : Recur) : Parser Forest :=
  node .arrayCreation [brackets "[" (arrayElements recur "]") "]"]

mutual

/-- An array read as the pattern of an assignment, with the arrays inside it. -/
def asPattern : Node → Node
  | .mk k r s e cs =>
    if k == .arrayCreation then .mk .listLiteral r s e (asPatterns cs)
    else if k == .arrayElement then .mk k r s e (asPatterns cs)
    else .mk k r s e cs

/-- Several nodes read as patterns. -/
def asPatterns : List Node → List Node
  | [] => []
  | n :: ns => asPattern n :: asPatterns ns

end

/-- An array or a list of variables introduced by a word. -/
def wordArray (recur : Recur) : Parser Forest := do
  if ← atKeyword "list" then
    let forest ← node .arrayCreation
      [keyword "list", brackets "(" (arrayElements recur ")") ")"]
    return forest.map asPattern
  else
    node .arrayCreation [keyword "array", brackets "(" (arrayElements recur ")") ")"]

/-! ## Functions and classes as values -/

/-- A return type after a colon. -/
def returnType (recur : Recur) : Parser Forest :=
  whenever (atSign ":") (seq [sign ":", recur .type])

/-- A reference mark, if there is one. -/
def referenceMark : Parser Forest :=
  whenever (atSign "&") (token .referenceModifier 1)

/-- The variables that a closure takes from outside. -/
def closureUse : Parser Forest :=
  whenever (atKeyword "use")
    (node .closureUse
      [keyword "use",
       brackets "("
         (itemsUntil ")"
           (do if ← atSign "&" then node .byRef [sign "&", plainVariable] else plainVariable))
         ")"])
where
  /-- A variable with a plain name. -/
  plainVariable : Parser Forest := do
    match ← rest with
    | '$' :: more =>
      match word? more with
      | some w => token .variableName (w.length + 1)
      | none => failure
    | _ => failure

/-- A function without a name, after attributes. -/
def functionValue (recur : Recur) (attributes : Forest) : Parser Forest := do
  let modifiers ← whenever (atKeyword "static") (modifier .staticModifier "static")
  if ← atKeyword "fn" then
    node .arrowFunction
      [return attributes ++ modifiers, keyword "fn", referenceMark,
       role .parameters (recur .parameters), returnType recur, token .doubleArrow 2,
       role .body (recur (.expression 0))]
  else
    node .closure
      [return attributes ++ modifiers, keyword "function", referenceMark,
       role .parameters (recur .parameters), closureUse, returnType recur,
       role .body (recur .block)]

/-- Names after a keyword. -/
def clause (kind : Kind) (word : String) : Parser Forest :=
  whenever (atKeyword word) (node kind [keyword word, commaList qualifiedName])

/-- A class without a name, after the keyword that creates it. -/
def anonymousClass (recur : Recur) : Parser Forest :=
  node .anonymousClass
    [whenever (atSign "#[") (recur .attributes),
     many (atKeywords ["readonly", "final", "abstract"]) nameToken,
     keyword "class",
     whenever (atSign "(") (role .arguments (recur .arguments)),
     clause .baseClause "extends", clause .interfaceClause "implements",
     role .body (recur .members)]

/-- A class without a name comes next. -/
def atAnonymousClass : Parser Bool := do
  if ← atSign "#[" then return true
  else if ← atKeyword "class" then return true
  else if ← atKeyword "readonly" then
    return (← ahead (seq [keyword "readonly", keyword "class"])).isSome
  else return false

/-- What may follow the variable that names a class: properties and elements, but no calls. -/
def classReferenceTail (recur : Recur) : Nat → Forest → Parser Forest
  | 0, _ => failure
  | fuel + 1, left => do
    if ← atTagEnd then return left
    else if (← atSign "->") || (← atSign "?->") then
      let kind := if ← atSign "->" then Kind.memberAccess else Kind.nullsafeMemberAccess
      let forest ← node kind
        [return inRole .object left, either (sign "->") (sign "?->"),
         role .name (either nameToken (variableRef recur))]
      classReferenceTail recur fuel forest
    else if ← atSign "::" then
      let forest ← node .scopedPropertyAccess
        [return inRole .scope left, sign "::", role .name (variableRef recur)]
      classReferenceTail recur fuel forest
    else if ← atSign "[" then
      let forest ← node .subscript
        [return left, brackets "[" (whenever (otherwise (atSign "]")) (recur (.expression 0))) "]"]
      classReferenceTail recur fuel forest
    else return left

/-- The class of a new object. -/
def classReference (recur : Recur) : Parser Forest := do
  if ← atSign "(" then node .parenthesized [brackets "(" (recur (.expression 0)) ")"]
  else if ← atVariable then
    let base ← variableRef recur
    classReferenceTail recur (← rounds) base
  else
    let base ← qualifiedName
    classReferenceTail recur (← rounds) base

/-- The creation of an object. -/
def objectCreation (recur : Recur) : Parser Forest := do
  let new ← keyword "new"
  if ← atAnonymousClass then node .objectCreation [return new, anonymousClass recur]
  else
    node .objectCreation
      [return new, classReference recur,
       whenever (further (atSign "(")) (role .arguments (recur .arguments))]

/-! ## Choices by value -/

/-- One arm of a choice by value. -/
def matchArm (recur : Recur) : Parser Forest :=
  node .matchArm
    [(do if ← atKeyword "default" then seq [keyword "default", optionalSign ","]
         else itemsUntil "=>" (recur (.expression 0))),
     token .doubleArrow 2, recur (.expression 0)]

/-- A choice by value. -/
def matchExpression (recur : Recur) : Parser Forest :=
  node .matchExpression
    [keyword "match", node .parenthesized [brackets "(" (recur (.expression 0)) ")"],
     role .body
       (node .matchBlock [brackets "\x7b" (itemsUntil "\x7d" (matchArm recur)) "\x7d"])]

/-! ## Operands -/

/-- The types to which a value may be cast. -/
def castTypes : List String :=
  ["array", "binary", "bool", "boolean", "double", "int", "integer", "float", "object", "string",
    "unset", "real"]

/-- A type in parentheses that casts what follows. -/
def atCast : Parser Bool := do
  match ← rest with
  | '(' :: more =>
    let more := more.dropWhile isSpace
    match word? more with
    | some w =>
      return castTypes.contains (String.ofList (w.map Char.toLower))
        && ((more.drop w.length).dropWhile isSpace).head? == some ')'
    | none => return false
  | _ => return false

/-- The word at the front is followed by a sign. -/
def wordThenSign (s : String) : Parser Bool :=
  return (← ahead (seq [nameToken, sign s])).isSome

/-- The word at the front is followed by one of the words. -/
def wordThenWords (ws : List String) : Parser Bool := do
  match ← ahead (do let _ ← nameToken; atKeywords ws) with
  | some found => return found
  | none => return false

/-- A yielding expression: nothing, a value, a pair, or everything of another generator. -/
def yieldExpression (recur : Recur) : Parser Forest := do
  let start ← keyword "yield"
  if ← atKeyword "from" then
    node .yieldExpression [return start, keyword "from", recur (.expression assignmentLevel)]
  else
    let ends := [")", "]", ",", ";", "\x7d"]
    let sign ← peekSign
    if (← atTagEnd) || (← rest).isEmpty || (sign.map ends.contains).getD false then
      node .yieldExpression [return start]
    else
      node .yieldExpression
        [return start,
         node .arrayElement
           [recur (.expression assignmentLevel),
            whenever (atSign "=>") (seq [token .doubleArrow 2, recur (.expression assignmentLevel)])]]

/-- An operand that starts with a word. -/
def wordOperand (recur : Recur) (word : String) : Parser Forest := do
  match word with
  | "array" => if ← wordThenSign "(" then wordArray recur else qualifiedName
  | "list" => if ← wordThenSign "(" then wordArray recur else qualifiedName
  | "match" => if ← wordThenSign "(" then matchExpression recur else qualifiedName
  | "new" => objectCreation recur
  | "clone" => node .clone [keyword "clone", recur (.expression prefixLevel)]
  | "print" => node .print [keyword "print", recur (.expression assignmentLevel)]
  | "throw" => node .throwExpression [keyword "throw", recur (.expression 0)]
  | "yield" => yieldExpression recur
  | "include" => node .includeExpression [keyword "include", recur (.expression assignmentLevel)]
  | "include_once" =>
    node .includeExpression [keyword "include_once", recur (.expression assignmentLevel)]
  | "require" => node .includeExpression [keyword "require", recur (.expression assignmentLevel)]
  | "require_once" =>
    node .includeExpression [keyword "require_once", recur (.expression assignmentLevel)]
  | "fn" =>
    if (← wordThenSign "(") || (← wordThenSign "&") then functionValue recur [] else qualifiedName
  | "function" => functionValue recur []
  | "static" =>
    if ← wordThenWords ["function", "fn"] then functionValue recur [] else qualifiedName
  | _ => qualifiedName

/-- An operand without anything after it. -/
def primary (recur : Recur) : Parser Forest := do
  match ← rest with
  | '$' :: _ => variableRef recur
  | '\'' :: _ => singleQuoted 1
  | '"' :: _ => doubleQuoted recur 0
  | '\x60' :: _ => shellCommand recur
  | '[' :: _ => bracketArray recur
  | '(' :: _ => node .parenthesized [brackets "(" (recur (.expression 0)) ")"]
  | '\\' :: _ => qualifiedName
  | '<' :: _ => labelled recur 0
  | '#' :: _ => do functionValue recur (← recur .attributes)
  | c :: q :: more =>
    if (c == 'b' || c == 'B') && q == '\'' then singleQuoted 2
    else if (c == 'b' || c == 'B') && q == '"' then doubleQuoted recur 1
    else if (c == 'b' || c == 'B') && leads "<<<" (q :: more) then labelled recur 1
    else if c.isDigit || c == '.' then number
    else
      match ← peekWord with
      | some w => wordOperand recur w
      | none => failure
  | _ =>
    match ← peekWord with
    | some w => wordOperand recur w
    | none => number

/-- The name of a member: a word, a variable, or an expression in braces. -/
def memberName (recur : Recur) : Parser Forest := do
  if ← atVariable then role .name (variableRef recur)
  else if ← atSign "\x7b" then
    brackets "\x7b" (role .name (recur (.expression 0))) "\x7d"
  else role .name nameToken

/-- What may follow an operand: members, calls, elements and increments. -/
def postfixes (recur : Recur) : Nat → Forest → Parser Forest
  | 0, _ => failure
  | fuel + 1, left => do
    match ← furtherSign with
    | some "->" => do
      let forest ← seq [return inRole .object left, sign "->", memberName recur]
      if ← further (atSign "(") then
        let arguments ← role .arguments (recur .arguments)
        postfixes recur fuel (group .memberCall (forest ++ arguments))
      else postfixes recur fuel (group .memberAccess forest)
    | some "?->" => do
      let forest ← seq [return inRole .object left, sign "?->", memberName recur]
      if ← further (atSign "(") then
        let arguments ← role .arguments (recur .arguments)
        postfixes recur fuel (group .nullsafeMemberCall (forest ++ arguments))
      else postfixes recur fuel (group .nullsafeMemberAccess forest)
    | some "::" => do
      let ofVariable ← ahead (do let _ ← sign "::"; atVariable)
      let forest ← seq [return inRole .scope left, sign "::", memberName recur]
      if ← further (atSign "(") then
        let arguments ← role .arguments (recur .arguments)
        postfixes recur fuel (group .scopedCall (forest ++ arguments))
      else if ofVariable == some true then
        postfixes recur fuel (group .scopedPropertyAccess forest)
      else postfixes recur fuel (group .classConstantAccess forest)
    | some "[" => do
      let forest ← node .subscript
        [return left, brackets "[" (whenever (otherwise (atSign "]")) (recur (.expression 0))) "]"]
      postfixes recur fuel forest
    | some "(" => do
      let arguments ← role .arguments (recur .arguments)
      postfixes recur fuel (group .functionCall (left ++ arguments))
    | some "++" => node .update [return left, sign "++"]
    | some "--" => node .update [return left, sign "--"]
    | _ => return left

/-- The kinds of nodes to which something may be assigned. -/
def isAssignable (kind : Kind) : Bool :=
  [Kind.variableName, .dynamicVariable, .memberAccess, .nullsafeMemberAccess,
    .scopedPropertyAccess, .subscript, .listLiteral, .arrayCreation].contains kind

/-- An assignment to what was read, if one follows. -/
def assigned (recur : Recur) (left : Forest) : Parser Forest := do
  if !(((left.getLast?.map fun n => isAssignable n.kind)).getD false) then return left
  else
    match ← furtherSign with
    | some "=" => do
      let target := inRole .left (left.map asPattern)
      let equals ← sign "="
      if ← atSign "&" then
        node .referenceAssignment
          [return target ++ equals, sign "&", role .right (recur (.expression assignmentLevel))]
      else
        node .assignment
          [return target ++ equals, role .right (recur (.expression assignmentLevel))]
    | some s =>
      if augmentedSigns.contains s then
        node .augmentedAssignment
          [return inRole .left left, sign s, role .right (recur (.expression assignmentLevel))]
      else return left
    | none => return left

/-- An operand with everything that belongs to it more tightly than a binary operator. -/
def operand (recur : Recur) : Parser Forest := do
  if ← atCast then
    node .cast [sign "(", nameToken, sign ")", recur (.expression prefixLevel)]
  else
    match ← peekSign with
    | some "!" => node .unary [sign "!", recur (.expression prefixLevel)]
    | some "~" => node .unary [sign "~", recur (.expression prefixLevel)]
    | some "+" => node .unary [sign "+", recur (.expression prefixLevel)]
    | some "-" => node .unary [sign "-", recur (.expression prefixLevel)]
    | some "@" => node .errorSuppression [sign "@", recur (.expression prefixLevel)]
    | some "++" => node .update [sign "++", recur (.expression prefixLevel)]
    | some "--" => node .update [sign "--", recur (.expression prefixLevel)]
    | _ => do
      let base ← primary recur
      let left ← postfixes recur (← rounds) base
      assigned recur left

/-! ## Operators -/

/-- The operators after an operand that bind at least as tightly as the level. -/
def operators (recur : Recur) (level : Nat) : Nat → Forest → Parser Forest
  | 0, _ => failure
  | fuel + 1, left => do
    match ← peekOperator with
    | none => return left
    | some "?" =>
      if conditionalLevel < level then return left
      else
        let forest ← node .conditional
          [return left, sign "?", whenever (otherwise (atSign ":")) (recur (.expression 0)),
           sign ":", recur (.expression (conditionalLevel + 1))]
        operators recur level fuel forest
    | some "instanceof" =>
      if instanceLevel < level then return left
      else
        let forest ← node .binary [return left, keyword "instanceof", classReference recur]
        operators recur level fuel forest
    | some op =>
      match binaryLevel? op with
      | none => return left
      | some (own, toRight) =>
        if own < level then return left
        else
          let forest ← node .binary
            [return left, either (sign op) (keyword op),
             recur (.expression (if toRight then own else own + 1))]
          operators recur level fuel forest

/-- An expression whose operators bind at least as tightly as the level. -/
def expression (recur : Recur) (level : Nat) : Parser Forest := do
  let left ← operand recur
  operators recur level (← rounds) left

end LayerLint.Syntax.Grammar
