import LayerLint.Syntax.Grammar.Statement

/-!
# The grammar

The phrases of the language refer to each other. Reading them is a recursion on a bound for how
deeply phrases nest; a source cannot nest more phrases than a fixed number for each of its
characters.

A source that the grammar refuses is read up to the outermost statement in which the error is.
Nothing from there on is in its tree, so a file with an error declares and shows only what comes
before that statement.
-/

set_option autoImplicit false

namespace LayerLint.Syntax

/-- A parsed source. If it has errors, the tree holds the outermost statements before the first. -/
structure Parsed where
  root : Node
  hasErrors : Bool
deriving Inhabited

namespace Grammar

/-- How each phrase is read, given how to read phrases further down. A statement in brackets, as in
the body of a function that is an argument, ends like any other. -/
def production (recur : Recur) : Phrase → Parser Forest
  | .expression level => expression recur level
  | .statement => within false (statement recur)
  | .block => block recur
  | .arguments => arguments recur
  | .parameters => parameters recur
  | .type => typeExpression recur
  | .reference => variableRef recur
  | .members => members recur
  | .attributes => attributes recur

/-- Reads a phrase that nests at most `depth` others. -/
def phrase : Nat → Phrase → Parser Forest
  | 0, _ => failure
  | depth + 1, p => production (phrase depth) p

/-- The nesting that a source of some size can have. -/
def depthBound (size : Nat) : Nat :=
  8 * size + 64

/-- Statements up to the end of the source, or up to the first that cannot be read; the last part of
the result says whether the end was reached. `done` holds what was read, last node first. -/
def statementsUpTo (statement : Parser Forest) : Nat → Forest → Reader → Forest × Bool
  | 0, done, r => (done.reverse ++ r.comments, false)
  | fuel + 1, done, r =>
    if r.rest.isEmpty then (done.reverse ++ r.comments, true)
    else
      match statement r with
      | some (forest, r) => statementsUpTo statement fuel (forest.reverse ++ done) r
      | none => (done.reverse ++ r.comments, false)

/-- The statements after the opening tag. -/
def topStatements (r : Reader) : Forest × Bool :=
  match trivia r with
  | some (_, r) =>
    statementsUpTo (phrase (depthBound r.size) .statement) (r.size - r.pos + 2) [] r
  | none => ([], false)

/-- A whole file: text, and statements from the first opening tag on. -/
def program (r : Reader) : Parsed :=
  let (textStop, afterText) := textEnd 0 r.rest
  let text := if textStop = 0 then [] else [Node.mk .text .none 0 textStop []]
  let tagLength := openTagLength afterText
  let tag :=
    if tagLength = 0 then []
    else [Node.mk .openTag .none textStop (textStop + tagLength) []]
  let (statements, complete) :=
    topStatements { r with rest := afterText.drop tagLength, pos := textStop + tagLength }
  { root := .mk .program .none 0 r.size (text ++ tag ++ statements), hasErrors := !complete }

end Grammar

/-- Reads a source. -/
def parse (text : String) : Parsed :=
  Grammar.program { rest := text.toList, pos := 0, size := text.utf8ByteSize }

end LayerLint.Syntax
