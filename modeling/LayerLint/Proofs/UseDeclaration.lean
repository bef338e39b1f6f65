import LayerLint.Proofs.Text
import LayerLint.Syntax.Names
import Mathlib.Data.List.TakeWhile

/-!
# Use declarations, as they are written and as they are read

A use declaration lists class names, each with an optional alias, one by one or in braces below a
shared name.  The ways to write one differ in blanks, in the case of keywords, in leading
backslashes, in a comma before the closing brace, and in functions and constants among the classes.
A `Statement` is one such way together with what it lists.

* `Clause.clause?_chars` — a clause reads back as its name and its alias;
* `Series.map_trim_pieces` — clauses with commas between them are told apart again;
* `Group.groupParts_chars` — a group reads back as the shared name and what stands in the braces;
* `ofDeclaration_eq` — a declaration is read in three steps, `readListing`, `readClauses` and
  `readClause?`;
* `Statement.ofDeclaration_text` — **a statement reads back as its imports**, in order.

The reader works on the text alone.  That it cuts in the right places is a matter of which
characters can stand where: a clause is made of word characters, backslashes and blanks, so that
commas, braces and semicolons are always those of the statement around it.
-/

set_option autoImplicit false

namespace LayerLint.Syntax.Written

open Text (Solid)

/-! ## The parts of a statement -/

/-- A word of at least one character. -/
structure Word where
  chars : List Char
  ne_nil : chars ≠ []
  all_isWord : chars.all Text.isWord = true

theorem Word.isWord (w : Word) : ∀ c ∈ w.chars, Text.isWord c = true :=
  List.all_eq_true.1 w.all_isWord

def Word.text (w : Word) : String :=
  String.ofList w.chars

/-- Any number of blanks. -/
structure Blanks where
  chars : List Char
  all_isBlank : chars.all Text.isBlank = true

theorem Blanks.isBlank (b : Blanks) : ∀ c ∈ b.chars, Text.isBlank c = true :=
  List.all_eq_true.1 b.all_isBlank

/-- No blank. -/
def Blanks.none : Blanks where
  chars := []
  all_isBlank := rfl

/-- At least one blank. -/
structure Gap extends Blanks where
  ne_nil : chars ≠ []

/-- One space. -/
def Gap.space : Gap where
  chars := [' ']
  all_isBlank := by decide
  ne_nil := by decide

/-- A keyword in any case. -/
structure Keyword (word : String) where
  chars : List Char
  folds : chars.map Char.toLower = word.toList

/-- The words of a qualified name. -/
structure Name where
  first : Word
  more : List Word

namespace Name

/-- The words with backslashes between them. -/
def chars (n : Name) : List Char :=
  n.first.chars ++ n.more.flatMap fun w => '\\' :: w.chars

def text (n : Name) : String :=
  String.ofList n.chars

/-- The last word. -/
def last (n : Name) : Word :=
  (n.first :: n.more).getLast (List.cons_ne_nil _ _)

/-- A name may start with a backslash, which does not count. -/
def written (n : Name) (rooted : Bool) : List Char :=
  if rooted then '\\' :: n.chars else n.chars

/-- A name below another one. -/
def append (base n : Name) : Name :=
  ⟨base.first, base.more ++ n.first :: n.more⟩

end Name

/-- The end of a clause that gives the name another local name. -/
structure Alias where
  before : Gap
  keyword : Keyword "as"
  after : Gap
  name : Word

def Alias.chars (a : Alias) : List Char :=
  a.before.chars ++ a.keyword.chars ++ a.after.chars ++ a.name.chars

/-- A name, and possibly an alias. -/
structure Clause where
  rooted : Bool
  name : Name
  renamed : Option Alias

def Clause.chars (c : Clause) : List Char :=
  c.name.written c.rooted ++ (c.renamed.map Alias.chars).getD []

/-- The words that announce something else than a class. -/
def foreignWords : List String :=
  ["function", "const"]

/-- A clause about a class.  Its name is not one of the words above, in any case; as part of a
    longer name they do no harm. -/
structure ClassClause extends Clause where
  proper : ∀ word ∈ foreignWords, name.chars.map Char.toLower ≠ word.toList

/-- A clause about a function or a constant. -/
structure ForeignClause where
  word : String
  isForeign : word ∈ foreignWords
  keyword : Keyword word
  gap : Gap
  clause : Clause

def ForeignClause.chars (f : ForeignClause) : List Char :=
  f.keyword.chars ++ f.gap.chars ++ f.clause.chars

/-- One of the clauses in braces. -/
inductive Item where
  | ofClass (clause : ClassClause)
  | foreign (clause : ForeignClause)

namespace Item

def chars : Item → List Char
  | .ofClass c => c.chars
  | .foreign f => f.chars

/-- The clause, if it is about a class. -/
def classClause? : Item → Option ClassClause
  | .ofClass c => some c
  | .foreign _ => none

end Item

/-- A comma with the blanks around it. -/
structure Comma where
  before : Blanks
  after : Blanks

def Comma.chars (c : Comma) : List Char :=
  c.before.chars ++ ',' :: c.after.chars

/-- One or more things with commas between them. -/
structure Series (α : Type) where
  first : α
  more : List (Comma × α)

namespace Series

variable {α : Type}

def items (s : Series α) : List α :=
  s.first :: s.more.map Prod.snd

def chars (s : Series α) (write : α → List Char) : List Char :=
  write s.first ++ s.more.flatMap fun x => x.1.chars ++ write x.2

end Series

/-- Clauses in braces below a shared name. -/
structure Group where
  rooted : Bool
  base : Name
  beforeBrace : Blanks
  opening : Blanks
  items : Series Item
  /-- The blanks before a comma after the last clause, if there is such a comma. -/
  trailing : Option Blanks
  closing : Blanks

namespace Group

/-- What stands before the opening brace. -/
def lead (g : Group) : List Char :=
  g.base.written g.rooted ++ ['\\'] ++ g.beforeBrace.chars

/-- What stands in the braces. -/
def inner (g : Group) : List Char :=
  g.opening.chars ++ g.items.chars Item.chars ++
    (g.trailing.map fun b => b.chars ++ [',']).getD [] ++ g.closing.chars

def chars (g : Group) : List Char :=
  g.lead ++ '\x7b' :: (g.inner ++ ['\x7d'])

end Group

/-- What a statement lists. -/
inductive Body where
  | flat (clauses : Series ClassClause)
  | group (g : Group)

def Body.chars : Body → List Char
  | .flat clauses => clauses.chars fun c => c.chars
  | .group g => g.chars

/-- A whole use declaration. -/
structure Statement where
  indent : Blanks
  keyword : Keyword "use"
  gap : Gap
  body : Body
  beforeEnd : Blanks
  afterEnd : Blanks

namespace Statement

/-- The keyword and what it announces. -/
def listing (u : Statement) : List Char :=
  u.keyword.chars ++ u.gap.chars ++ u.body.chars

def text (u : Statement) : String :=
  String.ofList
    (u.indent.chars ++ (u.listing ++ u.beforeEnd.chars ++ [';']) ++ u.afterEnd.chars)

end Statement

/-! ## What a statement imports -/

/-- The class of a clause, by its alias or else its last word. -/
def ClassClause.import (base : Option Name) (c : ClassClause) : Import where
  localName := ((c.renamed.map Alias.name).getD c.name.last).text
  fullName := ((base.map fun b => b.append c.name).getD c.name).text

def Body.imports : Body → List Import
  | .flat clauses => clauses.items.map (ClassClause.import none)
  | .group g => (g.items.items.filterMap Item.classClause?).map (ClassClause.import (some g.base))

/-- The classes that a statement lists, in order. -/
def Statement.imports (u : Statement) : List Import :=
  u.body.imports

/-! ## How a statement is read -/

/-- What a clause imports, without the blanks around it. -/
def readClause? (base : Option (List Char)) (clause : List Char) : Option Import :=
  if !clause.isEmpty && !Import.isForeign clause then Import.ofClause? base clause else none

/-- What clauses with commas between them import. -/
def readClauses (base : Option (List Char)) (clauses : List Char) : List Import :=
  ((Text.pieces (· == ',') clauses).map Import.trimChars).filterMap (readClause? base)

/-- What follows the keyword imports. -/
def readListing (body : List Char) : List Import :=
  if Import.isForeign body then []
  else readClauses (Import.groupParts body).1 (Import.groupParts body).2

/-- The blanks and the semicolon are taken off, and then the keyword. -/
theorem ofDeclaration_eq (text : String) :
    Import.ofDeclaration text =
      ((Import.afterKeyword? "use" (Import.trimChars
        (Text.dropEndWhile (· == ';') (Import.trimChars text.toList)))).map readListing).getD [] := by
  simp only [Import.ofDeclaration]
  generalize Import.afterKeyword? "use" (Import.trimChars
    (Text.dropEndWhile (· == ';') (Import.trimChars text.toList))) = found
  cases found with
  | none => rfl
  | some body =>
    simp only [readListing, readClauses, List.filterMap_filter, Option.map_some, Option.getD_some]
    rfl

/-! ## Sorts of characters -/

theorem isNameChar_of_isWord {c : Char} (h : Text.isWord c = true) :
    Import.isNameChar c = true := by
  simp [Import.isNameChar, h]

theorem isBlank_of_isNameChar {c : Char} (h : Import.isNameChar c = true) :
    Text.isBlank c = false := by
  simp only [Import.isNameChar, Bool.or_eq_true, beq_iff_eq] at h
  obtain rfl | h := h
  · decide
  · exact Text.isBlank_of_isWord h

theorem isNameChar_of_isBlank {c : Char} (h : Text.isBlank c = true) :
    Import.isNameChar c = false := by
  refine Bool.eq_false_iff.2 fun hname => ?_
  rw [isBlank_of_isNameChar hname] at h
  cases h

theorem ne_backslash_of_isWord {c : Char} (h : Text.isWord c = true) : (c == '\\') = false := by
  refine beq_eq_false_iff_ne.2 ?_
  rintro rfl
  revert h
  decide

/-- A character that may stand in a clause. -/
def isPlain (c : Char) : Bool :=
  Import.isNameChar c || Text.isBlank c

theorem isPlain_of_isNameChar {c : Char} (h : Import.isNameChar c = true) : isPlain c = true := by
  simp [isPlain, h]

theorem isPlain_of_isBlank {c : Char} (h : Text.isBlank c = true) : isPlain c = true := by
  simp [isPlain, h]

/-! ## Words and names -/

theorem Word.ne_backslash (w : Word) : ∀ c ∈ w.chars, (c == '\\') = false :=
  fun c hc => ne_backslash_of_isWord (w.isWord c hc)

theorem Word.solid (w : Word) : Solid w.chars :=
  .of_forall w.ne_nil fun c hc => Text.isBlank_of_isWord (w.isWord c hc)

theorem Blanks.isPlain (b : Blanks) : ∀ c ∈ b.chars, isPlain c = true :=
  fun c hc => isPlain_of_isBlank (b.isBlank c hc)

theorem Blanks.isNameChar (b : Blanks) : ∀ c ∈ b.chars, Import.isNameChar c = false :=
  fun c hc => isNameChar_of_isBlank (b.isBlank c hc)

/-- A name ends where blanks and another character follow it. -/
theorem Blanks.head_append (b : Blanks) {c : Char} (hc : Import.isNameChar c = false)
    (rest : List Char) : ∀ x ∈ (b.chars ++ c :: rest).head?, Import.isNameChar x = false := by
  intro x hx
  cases hblanks : b.chars with
  | nil =>
    have hxc : x = c := by simpa [hblanks] using hx.symm
    rwa [hxc]
  | cons y blanks =>
    have hxy : x = y := by simpa [hblanks] using hx.symm
    exact b.isNameChar x (by simp [hxy, hblanks])

/-- A keyword of word characters is written in word characters. -/
theorem Keyword.isWord {word : String} (k : Keyword word)
    (hword : word.toList.all Text.isWord = true) : ∀ c ∈ k.chars, Text.isWord c = true := by
  intro c hc
  rw [← Text.isWord_toLower]
  refine List.all_eq_true.1 hword _ ?_
  rw [← k.folds]
  exact List.mem_map_of_mem hc

theorem Keyword.solid {word : String} (k : Keyword word)
    (hword : word.toList.all Text.isWord = true) (hne : word.toList ≠ []) : Solid k.chars := by
  refine .of_forall ?_ fun c hc => Text.isBlank_of_isWord (k.isWord hword c hc)
  intro hnil
  have hfolds := k.folds
  rw [hnil] at hfolds
  exact hne hfolds.symm

namespace Name

theorem isNameChar (n : Name) : ∀ c ∈ n.chars, Import.isNameChar c = true := by
  intro c hc
  simp only [chars, List.mem_append, List.mem_flatMap, List.mem_cons] at hc
  obtain hc | ⟨w, -, rfl | hc⟩ := hc
  · exact isNameChar_of_isWord (n.first.isWord c hc)
  · rfl
  · exact isNameChar_of_isWord (w.isWord c hc)

theorem chars_append (base n : Name) : (base.append n).chars = base.chars ++ '\\' :: n.chars := by
  simp [append, chars]

theorem last_append (base n : Name) : (base.append n).last = n.last := by
  simp [append, last]

/-- The pieces of a name between its backslashes are its words. -/
theorem pieces_chars (n : Name) :
    Text.pieces (· == '\\') n.chars = (n.first :: n.more).map Word.chars :=
  Text.pieces_flatMap (by rfl) Word.ne_backslash n.more n.first

theorem afterLast_chars (n : Name) :
    Text.afterLast (· == '\\') (String.ofList n.chars) = n.last.text := by
  rw [Text.afterLast, Text.split, String.toList_ofList, pieces_chars, List.map_map,
    List.getLast?_map, List.getLast?_eq_some_getLast (List.cons_ne_nil _ _)]
  rfl

theorem ne_nil (n : Name) : n.chars ≠ [] := by
  simp [chars, n.first.ne_nil]

theorem head (n : Name) : ∀ c ∈ n.chars.head?, Text.isWord c = true := by
  intro c hc
  rw [chars, List.head?_append_of_ne_nil _ n.first.ne_nil] at hc
  exact n.first.isWord c (List.mem_of_mem_head? hc)

theorem exists_init (n : Name) : ∃ init, n.chars = init ++ n.last.chars := by
  obtain ⟨first, more⟩ := n
  obtain rfl | ⟨more, w, rfl⟩ := List.eq_nil_or_concat more
  · exact ⟨[], by simp [chars, last]⟩
  · exact ⟨chars ⟨first, more⟩ ++ ['\\'], by simp [chars, last]⟩

theorem getLast (n : Name) : ∀ c ∈ n.chars.getLast?, Text.isWord c = true := by
  intro c hc
  obtain ⟨init, hinit⟩ := n.exists_init
  rw [hinit, List.getLast?_append_of_ne_nil _ n.last.ne_nil] at hc
  exact n.last.isWord c (List.mem_of_mem_getLast? hc)

theorem exists_lead (n : Name) (rooted : Bool) :
    ∃ lead : List Char, (∀ c ∈ lead, c = '\\') ∧ n.written rooted = lead ++ n.chars := by
  cases rooted with
  | false => exact ⟨[], by simp, rfl⟩
  | true => exact ⟨['\\'], by simp, rfl⟩

theorem isNameChar_written (n : Name) (rooted : Bool) :
    ∀ c ∈ n.written rooted, Import.isNameChar c = true := by
  obtain ⟨lead, hlead, hwritten⟩ := n.exists_lead rooted
  intro c hc
  rw [hwritten, List.mem_append] at hc
  obtain hc | hc := hc
  · rw [hlead c hc]
    rfl
  · exact n.isNameChar c hc

theorem getLast_written (n : Name) (rooted : Bool) :
    ∀ c ∈ (n.written rooted).getLast?, Text.isWord c = true := by
  obtain ⟨lead, -, hwritten⟩ := n.exists_lead rooted
  rw [hwritten, List.getLast?_append_of_ne_nil _ n.ne_nil]
  exact n.getLast

theorem dropWhile_written (n : Name) (rooted : Bool) :
    (n.written rooted).dropWhile (· == '\\') = n.chars := by
  obtain ⟨lead, hlead, hwritten⟩ := n.exists_lead rooted
  rw [hwritten]
  exact Text.dropWhile_append (by simpa using hlead) fun c hc =>
    ne_backslash_of_isWord (n.head c hc)

theorem written_ne_nil (n : Name) (rooted : Bool) : n.written rooted ≠ [] := by
  cases rooted <;> simp [written, n.ne_nil]

theorem solid_written (n : Name) (rooted : Bool) : Solid (n.written rooted) :=
  .of_forall (n.written_ne_nil rooted) fun c hc =>
    isBlank_of_isNameChar (n.isNameChar_written rooted c hc)

end Name

/-! ## Keywords -/

/-- A text starts with a keyword only if the keyword is all of its first name. -/
theorem afterKeyword?_eq_none {word : String} (hword : word.toList.all Text.isWord = true)
    {cs : List Char} (h : (cs.takeWhile Import.isNameChar).map Char.toLower ≠ word.toList) :
    Import.afterKeyword? word cs = none := by
  simp only [Import.afterKeyword?]
  split
  · rename_i hstart
    refine absurd ?_ h
    simp only [Bool.and_eq_true, beq_iff_eq] at hstart
    obtain ⟨hhead, hrest⟩ := hstart
    have hname : ∀ c ∈ cs.take word.length, Import.isNameChar c = true := fun c hc =>
      isNameChar_of_isWord (Keyword.isWord ⟨_, hhead⟩ hword c hc)
    have hstop : ∀ c ∈ (cs.drop word.length).head?, Import.isNameChar c = false := by
      intro c hc
      rw [Option.mem_def] at hc
      rw [hc] at hrest
      exact isNameChar_of_isBlank (by simpa using hrest)
    have hrun := Text.takeWhile_append hname hstop
    rw [List.take_append_drop] at hrun
    rw [hrun, hhead]
  · rfl

theorem afterKeyword?_append {word : String} (k : Keyword word) (gap : Gap) {rest : List Char}
    (hrest : ∀ c ∈ rest.head?, Text.isBlank c = false) :
    Import.afterKeyword? word (k.chars ++ gap.chars ++ rest) = some rest := by
  have hlength : word.length = k.chars.length := by
    rw [← String.length_toList, ← k.folds, List.length_map]
  obtain ⟨b, blanks, hgap⟩ := List.exists_cons_of_ne_nil gap.ne_nil
  have hb : Text.isBlank b = true := gap.isBlank b (by simp [hgap])
  have hdrop := Text.dropWhile_append gap.isBlank hrest
  simp only [Import.afterKeyword?, hlength, List.append_assoc, List.take_left', List.drop_left',
    k.folds]
  rw [if_pos (by simp [hgap, hb]), hdrop]

theorem isWord_of_mem_foreignWords {word : String} (h : word ∈ foreignWords) :
    word.toList.all Text.isWord = true := by
  simp only [foreignWords, List.mem_cons, List.not_mem_nil, or_false] at h
  obtain rfl | rfl := h <;> decide

theorem ne_nil_of_mem_foreignWords {word : String} (h : word ∈ foreignWords) :
    word.toList ≠ [] := by
  simp only [foreignWords, List.mem_cons, List.not_mem_nil, or_false] at h
  obtain rfl | rfl := h <;> decide

theorem isForeign_iff (cs : List Char) :
    Import.isForeign cs = true ↔
      ∃ word ∈ foreignWords, (Import.afterKeyword? word cs).isSome = true := by
  simp [Import.isForeign, foreignWords]

theorem isForeign_eq_false {cs : List Char}
    (h : ∀ word ∈ foreignWords, (cs.takeWhile Import.isNameChar).map Char.toLower ≠ word.toList) :
    Import.isForeign cs = false := by
  refine Bool.eq_false_iff.2 fun hforeign => ?_
  obtain ⟨word, hword, hsome⟩ := (isForeign_iff cs).1 hforeign
  rw [afterKeyword?_eq_none (isWord_of_mem_foreignWords hword) (h word hword)] at hsome
  cases hsome

/-- No keyword has a backslash in it. -/
theorem fold_ne_of_backslash {cs : List Char} (h : '\\' ∈ cs) {word : String}
    (hword : word ∈ foreignWords) : cs.map Char.toLower ≠ word.toList := by
  intro hfold
  have hmem : '\\' ∈ word.toList := by
    rw [← hfold]
    exact List.mem_map.2 ⟨'\\', h, rfl⟩
  have hword := List.all_eq_true.1 (isWord_of_mem_foreignWords hword) _ hmem
  exact absurd hword (by decide)

/-! ## Clauses -/

namespace Alias

theorem head (a : Alias) : ∀ c ∈ a.chars.head?, Text.isBlank c = true := by
  intro c hc
  rw [chars, List.append_assoc, List.append_assoc,
    List.head?_append_of_ne_nil _ a.before.ne_nil] at hc
  exact a.before.isBlank c (List.mem_of_mem_head? hc)

/-- An alias reads back as its word. -/
theorem aliasSuffix?_chars (a : Alias) : Import.aliasSuffix? a.chars = some a.name.chars := by
  obtain ⟨x, y, hkeyword, hx, hy⟩ :
      ∃ x y, a.keyword.chars = [x, y] ∧ x.toLower = 'a' ∧ y.toLower = 's' := by
    have hfolds : a.keyword.chars.map Char.toLower = ['a', 's'] := a.keyword.folds
    match h : a.keyword.chars with
    | [] => simp [h] at hfolds
    | [x] => simp [h] at hfolds
    | [x, y] => exact ⟨x, y, rfl, by simpa [h] using hfolds⟩
    | x :: y :: z :: more => simp [h] at hfolds
  have hxword : Text.isBlank x = false :=
    Text.isBlank_of_isWord (a.keyword.isWord (by decide) x (by simp [hkeyword]))
  have hbefore : a.chars.span Text.isBlank =
      (a.before.chars, x :: y :: (a.after.chars ++ a.name.chars)) := by
    have hchars : a.chars = a.before.chars ++ x :: y :: (a.after.chars ++ a.name.chars) := by
      simp [chars, hkeyword]
    rw [hchars]
    exact Text.span_append a.before.isBlank (by simpa using hxword)
  have hafter : (a.after.chars ++ a.name.chars).span Text.isBlank =
      (a.after.chars, a.name.chars) := by
    refine Text.span_append a.after.isBlank fun c hc => ?_
    exact Text.isBlank_of_isWord (a.name.isWord c (List.mem_of_mem_head? hc))
  simp only [Import.aliasSuffix?, hbefore, hafter]
  refine if_pos ?_
  simpa [Import.isAsLetter, hx, hy, a.before.ne_nil, a.after.ne_nil, a.name.ne_nil] using
    a.name.isWord

end Alias

namespace Clause

/-- What follows the name. -/
def suffix (c : Clause) : List Char :=
  (c.renamed.map Alias.chars).getD []

theorem chars_eq (c : Clause) : c.chars = c.name.written c.rooted ++ c.suffix := rfl

theorem head_suffix (c : Clause) : ∀ x ∈ c.suffix.head?, Text.isBlank x = true := by
  unfold suffix
  cases c.renamed with
  | none => simp
  | some a => exact a.head

theorem span_chars (c : Clause) :
    c.chars.span Import.isNameChar = (c.name.written c.rooted, c.suffix) :=
  Text.span_append (c.name.isNameChar_written c.rooted) fun x hx =>
    isNameChar_of_isBlank (c.head_suffix x hx)

theorem clauseName_chars (c : Clause) : Import.clauseName c.chars = (c.name.chars, c.suffix) := by
  obtain ⟨x, name, hname⟩ := List.exists_cons_of_ne_nil c.name.ne_nil
  simp only [Import.clauseName, span_chars, Name.written]
  cases c.rooted with
  | true => simp [hname]
  | false =>
    have hx : x ≠ '\\' := by
      simpa using ne_backslash_of_isWord (c.name.head x (by simp [hname]))
    simp only [hname, Bool.false_eq_true, if_false]
    split
    · rename_i h
      exact absurd (List.cons.inj h).1 hx
    · rfl

/-- **A clause reads back as its name and its alias.** -/
theorem clause?_chars (c : Clause) :
    Import.clause? c.chars = some (c.name.chars, c.renamed.map fun a => a.name.chars) := by
  have hname : c.name.chars.isEmpty = false := by simpa using c.name.ne_nil
  simp only [Import.clause?, clauseName_chars, suffix, hname]
  cases c.renamed with
  | none => rfl
  | some a =>
    have ha : a.chars.isEmpty = false := by simp [Alias.chars, a.name.ne_nil]
    simp [ha, a.aliasSuffix?_chars]

theorem isPlain_chars (c : Clause) : ∀ x ∈ c.chars, isPlain x = true := by
  intro x hx
  obtain hx | hx := List.mem_append.1 hx
  · exact isPlain_of_isNameChar (c.name.isNameChar_written c.rooted x hx)
  · cases hrenamed : c.renamed with
    | none => simp [hrenamed] at hx
    | some a =>
      simp only [hrenamed, Option.map_some, Option.getD_some, Alias.chars, List.mem_append] at hx
      obtain ((hx | hx) | hx) | hx := hx
      · exact a.before.isPlain x hx
      · have hword := a.keyword.isWord (by decide) x hx
        exact isPlain_of_isNameChar (isNameChar_of_isWord hword)
      · exact a.after.isPlain x hx
      · exact isPlain_of_isNameChar (isNameChar_of_isWord (a.name.isWord x hx))

theorem solid (c : Clause) : Solid c.chars := by
  have hwritten := c.name.solid_written c.rooted
  rw [chars_eq, suffix]
  cases c.renamed with
  | none => simpa using hwritten
  | some a =>
    have h := hwritten.append (a.before.chars ++ a.keyword.chars ++ a.after.chars) a.name.solid
    simpa [Alias.chars] using h

end Clause

namespace ClassClause

/-- **A clause about a class reads back as its import**, below the name that a group shares. -/
theorem ofClause?_chars (base : Option Name) (c : ClassClause) :
    Import.ofClause? (base.map Name.chars) c.chars = some (c.import base) := by
  cases base with
  | none =>
    simp only [Import.ofClause?, c.clause?_chars, Option.map_none, Option.getD_none,
      Option.bind_eq_bind, Option.bind_some, Name.afterLast_chars, ClassClause.import]
    cases c.renamed <;> rfl
  | some b =>
    obtain ⟨x, xs, hb⟩ := List.exists_cons_of_ne_nil b.ne_nil
    have hfull : x :: xs ++ '\\' :: c.name.chars = (b.append c.name).chars := by
      rw [Name.chars_append, hb]
    simp only [Import.ofClause?, c.clause?_chars, Option.map_some, Option.getD_some, hb, hfull,
      Option.bind_eq_bind, Option.bind_some, Name.afterLast_chars, Name.last_append,
      ClassClause.import]
    cases c.renamed <;> rfl

theorem fold_written_ne (c : ClassClause) :
    ∀ word ∈ foreignWords, (c.name.written c.rooted).map Char.toLower ≠ word.toList := by
  intro word hword
  cases c.rooted with
  | true => exact fold_ne_of_backslash (by simp [Name.written]) hword
  | false => exact c.proper word hword

/-- A clause about a class is not taken for anything else, whatever follows its name. -/
theorem isForeign_append (c : ClassClause) (rest : List Char)
    (hrest : ∀ x ∈ rest.head?, Import.isNameChar x = false) :
    Import.isForeign (c.chars ++ rest) = false := by
  have hstop : ∀ x ∈ (c.suffix ++ rest).head?, Import.isNameChar x = false := by
    intro x hx
    cases hsuffix : c.suffix with
    | nil => exact hrest x (by simpa [hsuffix] using hx)
    | cons y ys =>
      refine isNameChar_of_isBlank (c.head_suffix x ?_)
      simpa [hsuffix] using hx
  refine isForeign_eq_false fun word hword => ?_
  rw [c.chars_eq, List.append_assoc, Text.takeWhile_append (c.name.isNameChar_written _) hstop]
  exact c.fold_written_ne word hword

end ClassClause

theorem ForeignClause.isForeign_chars (f : ForeignClause) : Import.isForeign f.chars = true := by
  refine (isForeign_iff _).2 ⟨f.word, f.isForeign, ?_⟩
  rw [ForeignClause.chars, afterKeyword?_append f.keyword f.gap f.clause.solid.head]
  rfl

namespace Item

theorem solid : ∀ i : Item, Solid i.chars
  | .ofClass c => c.solid
  | .foreign f => by
    have hkeyword := f.keyword.solid (isWord_of_mem_foreignWords f.isForeign)
      (ne_nil_of_mem_foreignWords f.isForeign)
    exact hkeyword.append f.gap.chars f.clause.solid

theorem isPlain_chars : ∀ i : Item, ∀ x ∈ i.chars, isPlain x = true
  | .ofClass c => c.isPlain_chars
  | .foreign f => by
    intro x hx
    simp only [chars, ForeignClause.chars, List.mem_append] at hx
    obtain (hx | hx) | hx := hx
    · have hword := f.keyword.isWord (isWord_of_mem_foreignWords f.isForeign) x hx
      exact isPlain_of_isNameChar (isNameChar_of_isWord hword)
    · exact f.gap.isPlain x hx
    · exact f.clause.isPlain_chars x hx

/-- Clauses about classes are read. -/
theorem readClause?_chars (base : Option Name) : ∀ i : Item,
    readClause? (base.map Name.chars) i.chars = i.classClause?.map (ClassClause.import base)
  | .ofClass c => by
    have hne : c.chars.isEmpty = false := by simpa using c.solid.ne_nil
    have hforeign : Import.isForeign c.chars = false := by
      simpa using c.isForeign_append [] (by simp)
    simp [readClause?, chars, classClause?, hne, hforeign, c.ofClause?_chars]
  | .foreign f => by simp [readClause?, chars, classClause?, f.isForeign_chars]

theorem filterMap_map_ofClass (clauses : List ClassClause) :
    (clauses.map ofClass).filterMap classClause? = clauses := by
  rw [List.filterMap_map]
  exact List.filterMap_some

theorem filterMap_readClause? (base : Option Name) (items : List Item) :
    (items.map chars).filterMap (readClause? (base.map Name.chars)) =
      (items.filterMap classClause?).map (ClassClause.import base) := by
  rw [List.filterMap_map, List.map_filterMap]
  exact List.filterMap_congr fun i _ => i.readClause?_chars base

end Item

/-! ## Series -/

theorem not_mem_of_isPlain {cs : List Char} (h : ∀ x ∈ cs, isPlain x = true) {x : Char}
    (hx : isPlain x = false) : x ∉ cs := by
  intro hmem
  rw [h x hmem] at hx
  cases hx

theorem trimChars_append (before : Blanks) {cs : List Char} (h : Solid cs) (after : Blanks) :
    Import.trimChars (before.chars ++ cs ++ after.chars) = cs :=
  h.trim_append before.isBlank after.isBlank

theorem trimChars_blanks (b : Blanks) : Import.trimChars b.chars = [] := by
  rw [Import.trimChars, List.dropWhile_eq_nil_iff.2 b.isBlank]
  rfl

theorem ne_comma_of_isPlain {x : Char} (h : isPlain x = true) : (x == ',') = false := by
  refine beq_eq_false_iff_ne.2 ?_
  rintro rfl
  revert h
  decide

namespace Series

variable {α : Type} (write : α → List Char)

theorem chars_cons (a b : α) (comma : Comma) (more : List (Comma × α)) :
    chars ⟨a, (comma, b) :: more⟩ write = write a ++ comma.chars ++ chars ⟨b, more⟩ write := by
  simp [chars]

theorem solid (hsolid : ∀ a, Solid (write a)) : ∀ (more : List (Comma × α)) (a : α),
    Solid (chars ⟨a, more⟩ write)
  | [], a => by simpa [chars] using hsolid a
  | (comma, b) :: more, a => by
    rw [chars_cons]
    exact (hsolid a).append comma.chars (solid hsolid more b)

theorem not_mem_chars (hplain : ∀ a, ∀ x ∈ write a, isPlain x = true) (s : Series α) {x : Char}
    (hx : isPlain x = false) (hcomma : x ≠ ',') : x ∉ s.chars write := by
  intro h
  simp only [chars, Comma.chars, List.mem_append, List.mem_flatMap, List.mem_cons, hcomma,
    false_or] at h
  obtain h | ⟨⟨comma, a⟩, -, (h | h) | h⟩ := h
  · exact not_mem_of_isPlain (hplain s.first) hx h
  · exact not_mem_of_isPlain comma.before.isPlain hx h
  · exact not_mem_of_isPlain comma.after.isPlain hx h
  · exact not_mem_of_isPlain (hplain a) hx h

/-- **Cut at its commas and trimmed, a series falls into what it was made of.** -/
theorem map_trim_pieces (hsolid : ∀ a, Solid (write a))
    (hplain : ∀ a, ∀ x ∈ write a, isPlain x = true) (after : Blanks) :
    ∀ (more : List (Comma × α)) (a : α) (before : Blanks),
      (Text.pieces (· == ',') (before.chars ++ chars ⟨a, more⟩ write ++ after.chars)).map
        Import.trimChars = (items ⟨a, more⟩).map write := by
  -- the first piece always reaches from the blanks before a thing to those after it
  have hpiece : ∀ (a : α) (before after : Blanks),
      Text.pieces (· == ',') (before.chars ++ write a ++ after.chars) =
        [before.chars ++ write a ++ after.chars] := by
    intro a before after
    refine Text.pieces_eq_singleton fun x hx => ne_comma_of_isPlain ?_
    obtain hx | hx := List.mem_append.1 hx
    · obtain hx | hx := List.mem_append.1 hx
      · exact before.isPlain x hx
      · exact hplain a x hx
    · exact after.isPlain x hx
  intro more
  induction more with
  | nil =>
    intro a before
    have hchars : chars ⟨a, []⟩ write = write a := by simp [chars]
    rw [hchars, hpiece, List.map_singleton, trimChars_append before (hsolid a) after]
    rfl
  | cons m more ih =>
    intro a before
    obtain ⟨comma, b⟩ := m
    have hcut : before.chars ++ chars ⟨a, (comma, b) :: more⟩ write ++ after.chars =
        (before.chars ++ write a ++ comma.before.chars) ++
          ',' :: (comma.after.chars ++ chars ⟨b, more⟩ write ++ after.chars) := by
      simp [chars_cons, Comma.chars]
    rw [hcut, Text.pieces_append_cons (by rfl), List.map_append, ih, hpiece, List.map_singleton,
      trimChars_append before (hsolid a) comma.before]
    rfl

end Series

/-! ## Groups -/

namespace Group

variable (g : Group)

/-- The shared name with the backslash that ends it. -/
def sharedName : List Char :=
  g.base.written g.rooted ++ ['\\']

theorem isNameChar_sharedName : ∀ x ∈ g.sharedName, Import.isNameChar x = true := by
  intro x hx
  obtain hx | hx := List.mem_append.1 hx
  · exact g.base.isNameChar_written g.rooted x hx
  · rw [List.mem_singleton.1 hx]
    rfl

theorem solid_sharedName : Solid g.sharedName :=
  .of_forall (by simp [sharedName]) fun x hx =>
    isBlank_of_isNameChar (g.isNameChar_sharedName x hx)

/-- What stands before the brace gives the shared name. -/
theorem trim_lead :
    (Text.dropEndWhile (· == '\\') (Import.trimChars g.lead)).dropWhile (· == '\\') =
      g.base.chars := by
  have htrim : Import.trimChars g.lead = g.sharedName :=
    trimChars_append .none g.solid_sharedName g.beforeBrace
  rw [htrim, sharedName, Text.dropEndWhile_append (by simp), g.base.dropWhile_written]
  intro c hc
  exact ne_backslash_of_isWord (g.base.getLast_written g.rooted c hc)

theorem isPlain_lead : ∀ x ∈ g.lead, isPlain x = true := by
  intro x hx
  obtain hx | hx := List.mem_append.1 hx
  · exact isPlain_of_isNameChar (g.isNameChar_sharedName x hx)
  · exact g.beforeBrace.isPlain x hx

/-- **Braces are told from what stands before, between and after them.** -/
theorem groupParts_braces {before inner after : List Char} (hbefore : '\x7b' ∉ before)
    (hafter : '\x7d' ∉ after) :
    Import.groupParts (before ++ '\x7b' :: (inner ++ '\x7d' :: after)) =
      (some ((Text.dropEndWhile (· == '\\') (Import.trimChars before)).dropWhile (· == '\\')),
        inner) := by
  have hopen : Text.cutAtFirst? ['\x7b'] (before ++ '\x7b' :: (inner ++ '\x7d' :: after)) =
      some (before, inner ++ '\x7d' :: after) :=
    Text.cutAtFirst?_append_cons _ hbefore
  have hclose : Text.cutAtFirst? ['\x7d'] (inner ++ '\x7d' :: after).reverse =
      some (after.reverse, inner.reverse) := by
    have hreverse : (inner ++ '\x7d' :: after).reverse =
        after.reverse ++ '\x7d' :: inner.reverse := by
      simp
    rw [hreverse]
    exact Text.cutAtFirst?_append_cons _ (by simpa using hafter)
  simp only [Import.groupParts, hopen, hclose, List.reverse_reverse]

/-- A group reads back as its shared name and what stands in the braces. -/
theorem groupParts_chars : Import.groupParts g.chars = (some g.base.chars, g.inner) := by
  rw [chars, groupParts_braces (not_mem_of_isPlain g.isPlain_lead (by decide)) List.not_mem_nil,
    g.trim_lead]

/-- A group is not taken for a list of functions or constants, whatever stands in the braces. -/
theorem isForeign_lead (rest : List Char) : Import.isForeign (g.lead ++ '\x7b' :: rest) = false := by
  have hstop := g.beforeBrace.head_append (c := '\x7b') (by decide) rest
  have hrun := Text.takeWhile_append g.isNameChar_sharedName hstop
  have hchars : g.lead ++ '\x7b' :: rest =
      g.sharedName ++ (g.beforeBrace.chars ++ '\x7b' :: rest) := by
    simp [lead, sharedName]
  refine isForeign_eq_false fun word hword => ?_
  rw [hchars, hrun]
  exact fold_ne_of_backslash (by simp [sharedName]) hword

/-- What stands in the braces falls into the clauses; a comma at the end adds an empty one. -/
theorem map_trim_pieces : (Text.pieces (· == ',') g.inner).map Import.trimChars =
    g.items.items.map Item.chars ++ (g.trailing.map fun _ => []).toList := by
  have hseries : ∀ after : Blanks,
      (Text.pieces (· == ',') (g.opening.chars ++ g.items.chars Item.chars ++ after.chars)).map
        Import.trimChars = g.items.items.map Item.chars := fun after =>
    Series.map_trim_pieces Item.chars Item.solid Item.isPlain_chars after g.items.more
      g.items.first g.opening
  cases htrailing : g.trailing with
  | none =>
    have hinner : g.inner = g.opening.chars ++ g.items.chars Item.chars ++ g.closing.chars := by
      simp [inner, htrailing]
    rw [hinner, hseries]
    simp
  | some b =>
    -- after the last comma there is a piece of blanks only
    have hinner : g.inner =
        (g.opening.chars ++ g.items.chars Item.chars ++ b.chars) ++ ',' :: g.closing.chars := by
      simp [inner, htrailing]
    have hlast : Text.pieces (· == ',') g.closing.chars = [g.closing.chars] :=
      Text.pieces_eq_singleton fun x hx => ne_comma_of_isPlain (g.closing.isPlain x hx)
    rw [hinner, Text.pieces_append_cons (by rfl), List.map_append, hseries, hlast,
      List.map_singleton, trimChars_blanks g.closing]
    rfl

theorem solid : Solid g.chars := by
  have hbrace : Solid ['\x7d'] := .singleton (by decide)
  have h := g.solid_sharedName.append (g.beforeBrace.chars ++ '\x7b' :: g.inner) hbrace
  simpa [chars, lead, sharedName] using h

end Group

/-! ## Statements -/

/-- The semicolon is removed, with the blanks on both sides of it. -/
theorem trim_declaration {listing : List Char} (hlisting : Solid listing)
    (indent beforeEnd afterEnd : Blanks)
    (hend : ∀ c ∈ (listing ++ beforeEnd.chars).getLast?, c ≠ ';') :
    Import.trimChars (Text.dropEndWhile (· == ';') (Import.trimChars
      (indent.chars ++ (listing ++ beforeEnd.chars ++ [';']) ++ afterEnd.chars))) = listing := by
  have hwhole : Solid (listing ++ beforeEnd.chars ++ [';']) :=
    hlisting.append beforeEnd.chars (.singleton (by decide))
  rw [trimChars_append indent hwhole afterEnd,
    Text.dropEndWhile_append (by simp) fun c hc => beq_eq_false_iff_ne.2 (hend c hc)]
  exact trimChars_append .none hlisting beforeEnd

namespace Body

theorem solid : ∀ b : Body, Solid b.chars
  | .flat clauses =>
    Series.solid (fun c : ClassClause => c.chars) (fun c => c.solid) clauses.more clauses.first
  | .group g => g.solid

/-- What is listed is not taken for functions or constants, whatever follows it. -/
theorem isForeign_append (rest : List Char)
    (hrest : ∀ x ∈ rest.head?, Import.isNameChar x = false) :
    ∀ b : Body, Import.isForeign (b.chars ++ rest) = false
  | .flat ⟨c, more⟩ => by
    rw [chars, Series.chars, List.append_assoc]
    refine c.isForeign_append _ ?_
    cases more with
    | nil => simpa using hrest
    | cons m more =>
      simp only [List.flatMap_cons, Comma.chars, List.append_assoc, List.cons_append]
      exact m.1.before.head_append (by decide) _
  | .group g => by
    rw [chars, Group.chars, List.append_assoc, List.cons_append]
    exact g.isForeign_lead _

theorem isForeign_chars (b : Body) : Import.isForeign b.chars = false := by
  simpa using b.isForeign_append [] (by simp)

theorem groupParts_flat (clauses : Series ClassClause) :
    Import.groupParts (flat clauses).chars = (none, (flat clauses).chars) := by
  have hbrace : '\x7b' ∉ (flat clauses).chars :=
    Series.not_mem_chars _ (fun c => c.isPlain_chars) clauses (by decide) (by decide)
  simp only [Import.groupParts, Text.cutAtFirst?_eq_none [] hbrace]

theorem getLast_ne_semicolon : ∀ b : Body, ∀ c ∈ b.chars.getLast?, c ≠ ';'
  | .flat clauses, c, hc => by
    rintro rfl
    exact Series.not_mem_chars _ (fun c => c.isPlain_chars) clauses (by decide) (by decide)
      (List.mem_of_mem_getLast? hc)
  | .group g, c, hc => by
    have hchars : (group g).chars = (g.lead ++ '\x7b' :: g.inner) ++ ['\x7d'] := by
      simp [chars, Group.chars]
    rw [hchars, List.getLast?_concat, Option.mem_some_iff] at hc
    rw [← hc]
    decide

theorem getLast_append_ne_semicolon (b : Body) (after : Blanks) :
    ∀ c ∈ (b.chars ++ after.chars).getLast?, c ≠ ';' := by
  intro c hc
  by_cases hblanks : after.chars = []
  · rw [hblanks, List.append_nil] at hc
    exact b.getLast_ne_semicolon c hc
  · rw [List.getLast?_append_of_ne_nil _ hblanks] at hc
    have hblank := after.isBlank c (List.mem_of_mem_getLast? hc)
    rintro rfl
    exact absurd hblank (by decide)

/-- **What follows the keyword reads back as the imports that it lists.** -/
theorem readListing_chars (b : Body) : readListing b.chars = b.imports := by
  rw [readListing, b.isForeign_chars, if_neg Bool.false_ne_true]
  cases b with
  | flat clauses =>
    have hpieces : (Text.pieces (· == ',') (flat clauses).chars).map Import.trimChars =
        (clauses.items.map Item.ofClass).map Item.chars := by
      have h := Series.map_trim_pieces (fun c : ClassClause => c.chars) (fun c => c.solid)
        (fun c => c.isPlain_chars) .none clauses.more clauses.first .none
      rw [Blanks.none, List.nil_append, List.append_nil] at h
      rw [List.map_map]
      exact h
    have hread := Item.filterMap_readClause? none (clauses.items.map Item.ofClass)
    rw [Item.filterMap_map_ofClass] at hread
    rw [groupParts_flat, readClauses, hpieces]
    exact hread
  | group g =>
    -- an empty clause after the last comma is not read
    have htrailing : ((g.trailing.map fun _ => []).toList).filterMap
        (readClause? (some g.base.chars)) = [] := by
      cases g.trailing <;> rfl
    have hread := Item.filterMap_readClause? (some g.base) g.items.items
    rw [chars, g.groupParts_chars, readClauses, g.map_trim_pieces, List.filterMap_append,
      htrailing, List.append_nil]
    exact hread

end Body

namespace Statement

variable (u : Statement)

theorem solid_listing : Solid u.listing :=
  (u.keyword.solid (by decide) (by decide)).append u.gap.chars u.body.solid

theorem getLast_ne_semicolon : ∀ c ∈ (u.listing ++ u.beforeEnd.chars).getLast?, c ≠ ';' := by
  intro c hc
  rw [listing, List.append_assoc, List.getLast?_append_of_ne_nil _ (by simp [u.body.solid.ne_nil])]
    at hc
  exact u.body.getLast_append_ne_semicolon u.beforeEnd c hc

theorem trim_text :
    Import.trimChars (Text.dropEndWhile (· == ';') (Import.trimChars u.text.toList)) =
      u.listing := by
  rw [text, String.toList_ofList]
  exact trim_declaration u.solid_listing u.indent u.beforeEnd u.afterEnd u.getLast_ne_semicolon

/-- **A use declaration reads back as what it lists**, however it is written. -/
theorem ofDeclaration_text : Import.ofDeclaration u.text = u.imports := by
  have hkeyword : Import.afterKeyword? "use" u.listing = some u.body.chars :=
    afterKeyword?_append u.keyword u.gap u.body.solid.head
  rw [ofDeclaration_eq, trim_text, hkeyword]
  exact u.body.readListing_chars

end Statement

example : Import.ofDeclaration "use A\\\x7bB, const C, D\\E as F,\x7d;" =
    [⟨"B", "A\\B"⟩, ⟨"F", "A\\D\\E"⟩] := by
  decide +kernel

end LayerLint.Syntax.Written
