import LayerLint.Syntax.Grammar.Declaration

/-!
# Statements

Statements in braces and in the form with colons, and the declarations that may stand among them.
-/

set_option autoImplicit false

namespace LayerLint.Syntax.Grammar

/-! ## Lists of statements -/

/-- The words that end a list of statements in the form with colons. -/
def endWords : List String :=
  ["endif", "endwhile", "endfor", "endforeach", "endswitch", "enddeclare", "else", "elseif",
    "case", "default"]

/-- No further statement of the list comes next. -/
def atListEnd : Parser Bool := do
  if (← rest).isEmpty then return true
  else return (← atSign "\x7d") || (← atKeywords endWords)

/-- Statements up to the end of their list. -/
def statements (recur : Recur) : Parser Forest :=
  many (otherwise atListEnd) (recur .statement)

/-- Statements in braces. -/
def block (recur : Recur) : Parser Forest :=
  node .block [sign "\x7b", statements recur, sign "\x7d"]

/-- An expression in parentheses. -/
def condition (recur : Recur) : Parser Forest :=
  node .parenthesized [brackets "(" (recur (.expression 0)) ")"]

/-- Statements after a colon. -/
def colonBlock (recur : Recur) : Parser Forest :=
  node .colonBlock [sign ":", statements recur]

/-- The body of a statement: a statement, or a list from a colon to an end word. -/
def body (recur : Recur) (endWord : String) : Parser Forest := do
  if ← atSign ":" then
    seq [role .body (colonBlock recur), keyword endWord, semicolon]
  else role .body (recur .statement)

/-! ## Branches -/

/-- The further branches of a statement with colons. -/
def colonBranches (recur : Recur) : Parser Forest :=
  seq
    [many (atKeyword "elseif")
       (node .elseIfClause [keyword "elseif", condition recur, role .body (colonBlock recur)]),
     whenever (atKeyword "else")
       (do if (← ahead (seq [keyword "else", keyword "if"])).isSome then
             node .elseClause [keyword "else", recur .statement]
           else node .elseClause [keyword "else", role .body (colonBlock recur)])]

/-- The further branches of a statement without colons. -/
def branches (recur : Recur) : Parser Forest :=
  seq
    [many (atKeyword "elseif")
       (node .elseIfClause [keyword "elseif", condition recur, role .body (recur .statement)]),
     whenever (atKeyword "else")
       (node .elseClause [keyword "else", role .body (recur .statement)])]

/-- A choice by conditions. -/
def ifStatement (recur : Recur) : Parser Forest := do
  let lead ← seq [keyword "if", condition recur]
  if ← atSign ":" then
    node .ifStatement
      [return lead, role .body (colonBlock recur), colonBranches recur,
       whenever (atKeyword "endif") (seq [keyword "endif", semicolon])]
  else node .ifStatement [return lead, role .body (recur .statement), branches recur]

/-- One case of a choice by value. -/
def caseStatement (recur : Recur) : Parser Forest :=
  node .caseStatement
    [(do if ← atKeyword "case" then seq [keyword "case", recur (.expression 0)]
         else keyword "default"),
     either (sign ":") semicolon, statements recur]

/-- A choice by value. -/
def switchStatement (recur : Recur) : Parser Forest := do
  let lead ← seq [keyword "switch", condition recur]
  let cases := many (atKeywords ["case", "default"]) (caseStatement recur)
  if ← atSign ":" then
    node .switchStatement
      [return lead,
       role .body (node .switchBlock [sign ":", cases, keyword "endswitch", semicolon])]
  else
    node .switchStatement
      [return lead, role .body (node .switchBlock [sign "\x7b", cases, sign "\x7d"])]

/-! ## Loops -/

/-- A loop with its condition first. -/
def whileStatement (recur : Recur) : Parser Forest :=
  node .whileStatement [keyword "while", condition recur, body recur "endwhile"]

/-- A loop with its condition last. -/
def doStatement (recur : Recur) : Parser Forest :=
  node .doStatement
    [keyword "do", role .body (recur .statement), keyword "while", condition recur, semicolon]

/-- Expressions up to a sign. -/
def expressionsUntil (recur : Recur) (s : String) : Parser Forest :=
  whenever (otherwise (atSign s)) (commaList (recur (.expression 0)))

/-- A counting loop. -/
def forStatement (recur : Recur) : Parser Forest :=
  node .forStatement
    [keyword "for",
     brackets "("
       (seq
         [expressionsUntil recur ";", sign ";", expressionsUntil recur ";", sign ";",
          expressionsUntil recur ")"])
       ")",
     body recur "endfor"]

/-- What a loop over elements binds: a variable, also by reference, or a pattern. -/
def loopTarget (recur : Recur) : Parser Forest := do
  if ← atSign "&" then node .byRef [sign "&", recur (.expression 0)]
  else recur (.expression 0)

/-- A loop over elements. -/
def foreachStatement (recur : Recur) : Parser Forest :=
  node .foreachStatement
    [keyword "foreach",
     brackets "("
       (do
         let lead ← seq [recur (.expression 0), keyword "as"]
         let first ← loopTarget recur
         let target ←
           if ← atSign "=>" then
             node .foreachPair [return first, token .doubleArrow 2, loopTarget recur]
           else pure first
         return lead ++ target)
       ")",
     body recur "endforeach"]

/-! ## Jumps and other statements -/

/-- An expression, if the statement does not end first. -/
def optionalExpression (recur : Recur) : Parser Forest := do
  if (← get).closed || (← atSign ";") then return [] else recur (.expression 0)

/-- A keyword with an optional expression. -/
def jump (recur : Recur) (kind : Kind) (word : String) : Parser Forest :=
  node kind [keyword word, optionalExpression recur, semicolon]

/-- The handling of errors. -/
def tryStatement (recur : Recur) : Parser Forest :=
  node .tryStatement
    [keyword "try", role .body (recur .block),
     many (atKeyword "catch")
       (node .catchClause
         [keyword "catch", sign "(", role .type (recur .type),
          whenever atVariable (role .name (variableRef recur)), sign ")",
          role .body (recur .block)]),
     whenever (atKeyword "finally")
       (node .finallyClause [keyword "finally", role .body (recur .block)])]

/-- The ending of the program. -/
def exitStatement (recur : Recur) : Parser Forest :=
  node .exitStatement
    [keyword "exit",
     whenever (further (atSign "("))
       (brackets "(" (whenever (otherwise (atSign ")")) (recur (.expression 0))) ")"),
     semicolon]

/-- A declaration about the code that follows. -/
def declareStatement (recur : Recur) : Parser Forest :=
  node .declareStatement
    [keyword "declare",
     brackets "("
       (commaList (node .declareDirective [nameToken, sign "=", recur (.expression 0)]))
       ")",
     (do if (← get).closed || (← atSign ";") then semicolon else body recur "enddeclare")]

/-- Static variables of a function. -/
def staticDeclaration (recur : Recur) : Parser Forest :=
  node .staticDeclaration
    [keyword "static",
     commaList (node .staticVariable [role .name (variableRef recur), defaultValue recur]),
     semicolon]

/-! ## Namespaces -/

/-- Words with backslashes between them. -/
def namespaceName : Parser Forest :=
  node .namespaceName [nameToken, many (further atNameSeparator) (seq [sign "\\", nameToken])]

/-- The namespace of what follows, or of the statements in braces. -/
def namespaceDefinition (recur : Recur) : Parser Forest :=
  node .namespaceDefinition
    [keyword "namespace",
     whenever (otherwise (atSign "\x7b")) (role .name namespaceName),
     bracesOrEnd (role .body (recur .block))]

/-- One import: an optional kind, a name, and an optional alias. -/
def useClause : Parser Forest :=
  node .namespaceUseClause
    [(do if ← atKeywords ["function", "const"] then
           if ← wordThenSign "\\" then return []
           else if ← wordThenWord then nameToken
           else return []
         else return []),
     qualifiedName,
     whenever (atKeyword "as") (seq [keyword "as", nameToken])]

/-- Imports in braces that share the beginning of their names. -/
def useGroup : Parser Forest :=
  node .namespaceUseGroup [sign "\\", sign "\x7b", itemsUntil "\x7d" useClause, sign "\x7d"]

/-- Imports. -/
def useDeclaration : Parser Forest :=
  node .namespaceUseDeclaration
    [keyword "use",
     commaList
       (seq [useClause, whenever (further (atSign "\\")) useGroup]),
     semicolon]

/-! ## Dispatch -/

/-- A statement that is an expression. -/
def expressionStatement (recur : Recur) : Parser Forest :=
  node .expressionStatement [recur (.expression 0), semicolon]

/-- A statement that starts with a word. -/
def wordStatement (recur : Recur) (word : String) : Parser Forest := do
  match word with
  | "if" => ifStatement recur
  | "switch" => switchStatement recur
  | "while" => whileStatement recur
  | "do" => doStatement recur
  | "for" => forStatement recur
  | "foreach" => foreachStatement recur
  | "goto" => node .gotoStatement [keyword "goto", nameToken, semicolon]
  | "continue" => jump recur .continueStatement "continue"
  | "break" => jump recur .breakStatement "break"
  | "return" => jump recur .returnStatement "return"
  | "try" => tryStatement recur
  | "declare" => declareStatement recur
  | "echo" =>
    node .echoStatement [keyword "echo", commaList (recur (.expression 0)), semicolon]
  | "exit" => exitStatement recur
  | "unset" =>
    node .unsetStatement
      [keyword "unset", brackets "(" (itemsUntil ")" (recur (.expression 0))) ")", semicolon]
  | "const" => constants recur []
  | "global" =>
    node .globalDeclaration [keyword "global", commaList (variableRef recur), semicolon]
  | "use" => useDeclaration
  | "namespace" =>
    if ← wordThenSign "\\" then expressionStatement recur else namespaceDefinition recur
  | "static" =>
    if (← ahead (do let _ ← nameToken; atVariable)) == some true then staticDeclaration recur
    else expressionStatement recur
  | _ =>
    match ← declaration? recur [] with
    | some forest => return forest
    | none =>
      if ← wordThenSign ":" then node .labelStatement [nameToken, sign ":"]
      else expressionStatement recur

/-- A statement after attributes: a declaration, or an expression that starts with a function. -/
def attributedStatement (recur : Recur) : Parser Forest := do
  let found ← ahead (do
    let attributes ← attributes recur
    declaration? recur attributes)
  match found with
  | some (some _) =>
    let attributes ← attributes recur
    match ← declaration? recur attributes with
    | some forest => return forest
    | none => failure
  | _ =>
    match ← ahead (do let _ ← attributes recur; atKeyword "const") with
    | some true => do constants recur (← attributes recur)
    | _ => expressionStatement recur

/-- A statement. -/
def statement (recur : Recur) : Parser Forest := do
  match ← peekSign with
  | some ";" => node .emptyStatement [sign ";"]
  | some "\x7b" => recur .block
  | some "#[" => attributedStatement recur
  | _ =>
    match ← peekWord with
    | some w => wordStatement recur w
    | none => expressionStatement recur

end LayerLint.Syntax.Grammar
