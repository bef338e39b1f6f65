import LayerLint.Proofs.CommentedClauses
import LayerLint.Proofs.ImportLink

/-!
# Comments in use declarations

A clause with a comment in it is not read.  What this does to a use declaration depends on where the
comment stands: right after the keyword it hides the whole declaration, before braces it becomes part
of the name that the clauses share, and elsewhere the clause is lost that it stands in.

* `RemarkedStatement` — a use declaration with comments, and the `Statement` without them;
* `RemarkedStatement.ofDeclaration_text` — the imports of the clauses that no comment stands in;
* `RemarkedStatement.fullName_ne` — a comment before the braces spoils every full name;
* `RemarkedStatement.ofDeclaration_text_eq_iff` — **the imports stay the same exactly if no comment
  concerns a clause about a class**;
* `comments_beside_classes` — so files that differ in other comments resolve all names alike;
* `comment_before_alias` — but one comment before the alias is enough to lose an import.

This is about comments without the characters at which the reader cuts the text where they stand.
A comment with a comma in it is cut itself, and what stands between its commas may be imported.
-/

set_option autoImplicit false

namespace LayerLint.Syntax.Written

open Text (Solid)

/-! ## Statements with comments -/

/-- What a statement lists, with comments. -/
inductive RemarkedBody where
  | flat (clauses : Series ClassClause) (within : Remarked (clauses.chars fun c => c.chars))
  | group (g : Group) (before : Remarked g.lead) (within : Remarked g.inner)

namespace RemarkedBody

def plain : RemarkedBody → Body
  | .flat clauses _ => .flat clauses
  | .group g _ _ => .group g

def parts : RemarkedBody → List Part
  | .flat _ within => within.parts
  | .group _ before within => before.parts ++ .char '\x7b' :: (within.parts ++ [.char '\x7d'])

end RemarkedBody

/-- A use declaration with comments between its keyword and its end. -/
structure RemarkedStatement where
  indent : Blanks
  keyword : Keyword "use"
  gap : Gap
  inGap : Remarked gap.chars
  body : RemarkedBody
  beforeEnd : Blanks
  atEnd : Remarked beforeEnd.chars
  afterEnd : Blanks

namespace RemarkedStatement

variable (u : RemarkedStatement)

/-- The statement without its comments. -/
def plain : Statement where
  indent := u.indent
  keyword := u.keyword
  gap := u.gap
  body := u.body.plain
  beforeEnd := u.beforeEnd
  afterEnd := u.afterEnd

/-- What stands between the keyword and the semicolon. -/
def parts : List Part :=
  u.inGap.parts ++ u.body.parts ++ u.atEnd.parts

/-- The statement with its comments. -/
def text : String :=
  String.ofList
    (u.indent.chars ++ (u.keyword.chars ++ written u.parts ++ [';']) ++ u.afterEnd.chars)

/-- What is listed. -/
def items : List Item :=
  match u.body with
  | .flat clauses _ => clauses.items.map Item.ofClass
  | .group g _ _ => g.items.items

/-- What is written in the place of each clause. -/
def places : List (List Part) :=
  match u.body with
  | .flat _ _ => clausesOf u.parts
  | .group _ _ within => clausesOf within.parts

/-- The clauses, each with what is written in its place. -/
def clauses : List (Item × List Part) :=
  u.items.zip u.places

/-- The shared name. -/
def base : Option Name :=
  match u.body with
  | .flat _ _ => none
  | .group g _ _ => some g.base

/-- A comment stands right after the keyword, with no blank between them. -/
def isGlued : Bool :=
  (u.inGap.parts.head?.map Part.isComment).getD false

/-- A comment stands where it concerns all clauses: right after the keyword, or before the braces. -/
def isHeadRemarked : Bool :=
  match u.body with
  | .flat _ _ => u.isGlued
  | .group _ before _ => isRemarked (u.inGap.parts ++ before.parts)

/-- The clauses about classes that no comment stands in. -/
def untouched : List ClassClause :=
  (u.clauses.filter fun x => !isRemarked x.2).filterMap fun x => x.1.classClause?

/-- No comment concerns a clause about a class. -/
def Harmless : Prop :=
  ∀ x ∈ u.clauses, x.1.classClause?.isSome = true →
    u.isHeadRemarked = false ∧ isRemarked x.2 = false

/-- No comment has a character in it at which the text is cut where the comment stands. -/
def Calm : Prop :=
  match u.body with
  | .flat _ _ => Lacks '\x7b' u.parts ∧ Lacks ',' u.parts
  | .group _ before within =>
    Lacks '\x7b' (u.inGap.parts ++ before.parts) ∧ Lacks ',' within.parts ∧
      Lacks '\x7d' u.atEnd.parts

instance : Decidable u.Harmless :=
  inferInstanceAs (Decidable (∀ x ∈ u.clauses, x.1.classClause?.isSome = true →
    u.isHeadRemarked = false ∧ isRemarked x.2 = false))

instance : Decidable u.Calm :=
  match h : u.body with
  | .flat _ _ => decidable_of_iff (Lacks '\x7b' u.parts ∧ Lacks ',' u.parts) (by rw [Calm, h])
  | .group _ before within =>
    decidable_of_iff (Lacks '\x7b' (u.inGap.parts ++ before.parts) ∧ Lacks ',' within.parts ∧
      Lacks '\x7d' u.atEnd.parts) (by rw [Calm, h])

end RemarkedStatement

/-- A use declaration of functions or constants, with comments after the word that says so. -/
structure RemarkedForeign where
  indent : Blanks
  keyword : Keyword "use"
  gap : Gap
  word : String
  isForeign : word ∈ foreignWords
  announced : Keyword word
  space : Gap
  body : Body
  beforeEnd : Blanks
  within : Remarked (body.chars ++ beforeEnd.chars)
  afterEnd : Blanks

namespace RemarkedForeign

/-- The declaration with something in the place of what it lists. -/
def listing (f : RemarkedForeign) (cs : List Char) : String :=
  String.ofList (f.indent.chars ++ (f.keyword.chars ++ (f.gap.chars ++
    (f.announced.chars ++ f.space.chars ++ cs)) ++ [';']) ++ f.afterEnd.chars)

def plainText (f : RemarkedForeign) : String :=
  f.listing (f.body.chars ++ f.beforeEnd.chars)

def text (f : RemarkedForeign) : String :=
  f.listing (written f.within.parts)

end RemarkedForeign

/-- A use declaration with comments in it. -/
inductive RemarkedUse where
  | classes (u : RemarkedStatement)
  | foreign (f : RemarkedForeign)

namespace RemarkedUse

/-- The declaration without its comments. -/
def plainText : RemarkedUse → String
  | .classes u => u.plain.text
  | .foreign f => f.plainText

/-- The declaration with its comments. -/
def text : RemarkedUse → String
  | .classes u => u.text
  | .foreign f => f.text

/-- No comment has a character in it at which the text is cut where the comment stands. -/
def Calm : RemarkedUse → Prop
  | .classes u => u.Calm
  | .foreign _ => True

/-- No comment concerns a clause about a class. -/
def Harmless : RemarkedUse → Prop
  | .classes u => u.Harmless
  | .foreign _ => True

end RemarkedUse

/-! ## Reading statements -/

section Declaration

variable (indent : Blanks) (keyword : Keyword "use") (afterEnd : Blanks) {cs : List Char}
  (hne : cs ≠ []) (hhead : ∀ c ∈ cs.head?, Text.isBlank c = false)
  (hend : ∀ c ∈ cs.getLast?, c ≠ ';')

include hne hhead hend

/-- The keyword and what follows it, without the semicolon and the blanks around. -/
theorem trim_statement (between : Blanks) :
    Import.trimChars (Text.dropEndWhile (· == ';') (Import.trimChars (indent.chars ++
      (keyword.chars ++ (between.chars ++ cs) ++ [';']) ++ afterEnd.chars))) =
      keyword.chars ++ between.chars ++ Text.dropEndWhile Text.isBlank cs := by
  obtain ⟨run, hrun, hcs⟩ := Text.exists_dropEndWhile_append Text.isBlank cs
  have hsolid : Solid (keyword.chars ++ between.chars ++ Text.dropEndWhile Text.isBlank cs) :=
    (keyword.solid (by decide) (by decide)).append between.chars (.of_dropEndWhile hne hhead)
  have hlast : ∀ c ∈ (keyword.chars ++ between.chars ++ Text.dropEndWhile Text.isBlank cs ++
      run).getLast?, c ≠ ';' := by
    rw [List.append_assoc, ← hcs, List.getLast?_append_of_ne_nil _ hne]
    exact hend
  have hwhole : keyword.chars ++ (between.chars ++ cs) =
      keyword.chars ++ between.chars ++ Text.dropEndWhile Text.isBlank cs ++ run := by
    rw [List.append_assoc _ _ run, ← hcs, List.append_assoc]
  rw [hwhole]
  exact trim_declaration hsolid indent ⟨run, List.all_eq_true.2 hrun⟩ afterEnd hlast

/-- **What follows the keyword and blanks is listed.** -/
theorem ofDeclaration_gap (gap : Gap) :
    Import.ofDeclaration (String.ofList (indent.chars ++
      (keyword.chars ++ (gap.chars ++ cs) ++ [';']) ++ afterEnd.chars)) =
      readListing (Text.dropEndWhile Text.isBlank cs) := by
  rw [ofDeclaration_eq, String.toList_ofList,
    trim_statement indent keyword afterEnd hne hhead hend gap.toBlanks,
    afterKeyword?_append keyword gap (Solid.of_dropEndWhile hne hhead).head]
  rfl

/-- A keyword with something else right after it announces nothing. -/
theorem ofDeclaration_glued :
    Import.ofDeclaration (String.ofList (indent.chars ++
      (keyword.chars ++ cs ++ [';']) ++ afterEnd.chars)) = [] := by
  have hsolid : Solid (Text.dropEndWhile Text.isBlank cs) := .of_dropEndWhile hne hhead
  have htrim := trim_statement indent keyword afterEnd hne hhead hend .none
  simp only [Blanks.none, List.nil_append, List.append_nil] at htrim
  have hkeyword : Import.afterKeyword? "use"
      (keyword.chars ++ Text.dropEndWhile Text.isBlank cs) = none := by
    obtain ⟨c, rest, hrest⟩ := List.exists_cons_of_ne_nil hsolid.ne_nil
    have hc : Text.isBlank c = false := hsolid.head c (by simp [hrest])
    have hlength : "use".length = keyword.chars.length := by
      rw [← String.length_toList, ← keyword.folds, List.length_map]
    simp [Import.afterKeyword?, hlength, hrest, hc]
  rw [ofDeclaration_eq, String.toList_ofList, htrim, hkeyword]
  rfl

end Declaration

/-- The clauses of a text are its pieces in order, so that something can be said of both. -/
theorem filterMap_zip {α β γ δ : Type} {piece : β → γ} {write : α → γ} {more : List γ}
    {drop : β → Bool} {read : γ → Option δ} (hmore : ∀ c ∈ more, read c = none) :
    ∀ {items : List α} {ps : List β}, ps.map piece = items.map write ++ more →
      (ps.filterMap fun p => if drop p then none else read (piece p)) =
        (items.zip ps).filterMap fun x => if drop x.2 then none else read (write x.1)
  | [], ps, h => by
    rw [List.zip_nil_left, List.filterMap_nil, List.filterMap_eq_nil_iff]
    intro p hp
    have hpiece : piece p ∈ more := by
      rw [List.map_nil, List.nil_append] at h
      rw [← h]
      exact List.mem_map_of_mem hp
    rw [hmore _ hpiece, ite_self]
  | item :: items, [], h => by simp at h
  | item :: items, p :: ps, h => by
    rw [List.map_cons, List.map_cons, List.cons_append, List.cons.injEq] at h
    rw [List.zip_cons_cons, List.filterMap_cons, List.filterMap_cons, filterMap_zip hmore h.2, h.1]

/-- The shared name that is read off what stands before the braces. -/
def baseOf (cs : List Char) : List Char :=
  (Text.dropEndWhile (· == '\\') (Import.trimChars cs)).dropWhile (· == '\\')

/-- **A comment before the braces becomes part of the shared name.** -/
theorem mark_mem_baseOf {m : Char} (hmark : isMark m = true) {cs : List Char} (h : m ∈ cs) :
    m ∈ baseOf cs := by
  have hbackslash : (m == '\\') = false := by
    obtain rfl | rfl := isMark_iff.1 hmark <;> decide
  have hend : m ∈ Text.dropEndWhile (· == '\\') (Import.trimChars cs) :=
    Text.mem_dropEndWhile (p := (· == '\\')) hbackslash
      (mem_trimChars (isBlank_of_isMark hmark) h)
  exact Text.mem_dropWhile (p := (· == '\\')) hbackslash hend

theorem RemarkedBody.plain_parts (b : RemarkedBody) : Written.plain b.parts = b.plain.chars := by
  cases b with
  | flat clauses within => exact within.plain_eq
  | group g before within =>
    simp [parts, RemarkedBody.plain, Body.chars, Group.chars, before.plain_eq, within.plain_eq]

/-- The blanks at the end of a group stand after its closing brace. -/
theorem dropEndWhile_written_braces (before within after : List Part) :
    Text.dropEndWhile Text.isBlank
        (written (before ++ .char '\x7b' :: (within ++ .char '\x7d' :: after))) =
      written before ++ '\x7b' :: (written within ++ '\x7d' ::
        Text.dropEndWhile Text.isBlank (written after)) := by
  have h := Text.dropEndWhile_append_cons (p := Text.isBlank) (c := '\x7d') (by decide)
    (written before ++ '\x7b' :: written within) (written after)
  simpa using h

namespace RemarkedStatement

variable {u : RemarkedStatement}

theorem plain_parts (u : RemarkedStatement) :
    Written.plain u.parts = u.gap.chars ++ (u.body.plain.chars ++ u.beforeEnd.chars) := by
  rw [parts, plain_append, plain_append, u.inGap.plain_eq, u.body.plain_parts, u.atEnd.plain_eq,
    List.append_assoc]

theorem getLast_parts (u : RemarkedStatement) : ∀ c ∈ (written u.parts).getLast?, c ≠ ';' := by
  refine getLast_written ?_
  rw [plain_parts, List.getLast?_append_of_ne_nil _ (by simp [u.body.plain.solid.ne_nil])]
  exact u.body.plain.getLast_append_ne_semicolon u.beforeEnd

/-- A comment right after the keyword hides it. -/
theorem ofDeclaration_of_isGlued (h : u.isGlued = true) : Import.ofDeclaration u.text = [] := by
  cases hparts : u.inGap.parts with
  | nil => simp [isGlued, hparts] at h
  | cons part rest =>
    cases part with
    | char c => simp [isGlued, hparts, Part.isComment] at h
    | comment x =>
      obtain ⟨m, cs, hchars, hmark⟩ := x.exists_mark
      have hwritten : ∃ more, written u.parts = m :: more := by simp [parts, hparts, hchars]
      obtain ⟨more, hwritten⟩ := hwritten
      refine ofDeclaration_glued _ _ _ (by simp [hwritten]) ?_ u.getLast_parts
      simpa [hwritten] using isBlank_of_isMark hmark

/-- Otherwise blanks come first. -/
theorem exists_gap (h : u.isGlued = false) (more : List Part) :
    ∃ (gap : Gap) (rest : List Part), u.inGap.parts ++ more = gap.chars.map .char ++ rest ∧
      ∀ c ∈ (written rest).head?, Text.isBlank c = false := by
  obtain ⟨bs, rest, hparts, hbs, hrest⟩ := exists_blanks (u.inGap.parts ++ more)
  have hne : bs ≠ [] := by
    rintro rfl
    cases hgap : u.inGap.parts with
    | nil =>
      have hplain := u.inGap.plain_eq
      rw [hgap] at hplain
      exact u.gap.ne_nil hplain.symm
    | cons part parts =>
      cases part with
      | comment x => simp [isGlued, hgap, Part.isComment] at h
      | char c =>
        have hc : Text.isBlank c = true := by
          refine u.gap.isBlank c ?_
          rw [← u.inGap.plain_eq, hgap]
          simp
        rw [List.map_nil, List.nil_append] at hparts
        rw [← hparts, hgap] at hrest
        rw [hrest c (by simp)] at hc
        cases hc
  exact ⟨⟨⟨bs, List.all_eq_true.2 hbs⟩, hne⟩, rest, hparts, hrest⟩

section Parts

variable {gap : Gap} {rest : List Part} (hparts : u.parts = gap.chars.map .char ++ rest)

include hparts

/-- Up to blanks, the first parts are what the statement lists. -/
theorem exists_plain_rest : ∃ blanks : Blanks,
    Written.plain rest = blanks.chars ++ (u.body.plain.chars ++ u.beforeEnd.chars) := by
  have hplain := u.plain_parts
  rw [hparts, plain_append, plain_map_char] at hplain
  obtain ⟨r, hgap, hrest⟩ | ⟨r, hgap, hrest⟩ := List.append_eq_append_iff.1 hplain
  · refine ⟨⟨r, List.all_eq_true.2 fun c hc => u.gap.isBlank c ?_⟩, hrest⟩
    rw [hgap]
    exact List.mem_append_right _ hc
  · -- the first character that is listed is no blank
    have hr : r = [] := by
      cases r with
      | nil => rfl
      | cons c r =>
        have hblank : Text.isBlank c = true := gap.isBlank c (by simp [hgap])
        have hhead : Text.isBlank c = false := by
          refine u.body.plain.solid.head c ?_
          rw [← List.head?_append_of_ne_nil u.body.plain.chars u.body.plain.solid.ne_nil, hrest]
          rfl
        rw [hhead] at hblank
        cases hblank
    exact ⟨.none, by rw [hrest, hr]; rfl⟩

theorem written_rest_ne_nil : written rest ≠ [] := by
  obtain ⟨blanks, hplain⟩ := exists_plain_rest hparts
  refine written_ne_nil ?_
  simp [hplain, u.body.plain.solid.ne_nil]

/-- No comment makes a list of classes one of functions or constants. -/
theorem isForeign_of_prefix {start : List Char} (hstart : start <+: written rest) :
    Import.isForeign start = false := by
  refine Bool.eq_false_iff.2 fun h => ?_
  obtain ⟨blanks, hplain⟩ := exists_plain_rest hparts
  have hforeign := isForeign_plain hstart h
  rw [hplain] at hforeign
  cases hblanks : blanks.chars with
  | nil =>
    have hhead : ∀ c ∈ u.beforeEnd.chars.head?, Import.isNameChar c = false := fun c hc =>
      u.beforeEnd.isNameChar c (List.mem_of_mem_head? hc)
    rw [hblanks, List.nil_append, u.body.plain.isForeign_append _ hhead] at hforeign
    cases hforeign
  | cons b bs =>
    rw [hblanks, List.cons_append, isForeign_blank_cons (blanks.isBlank b (by simp [hblanks]))]
      at hforeign
    cases hforeign

theorem ofDeclaration_parts (hrest : ∀ c ∈ (written rest).head?, Text.isBlank c = false) :
    Import.ofDeclaration u.text =
      readListing (Text.dropEndWhile Text.isBlank (written rest)) := by
  have hwritten : written u.parts = gap.chars ++ written rest := by
    rw [hparts, written_append, written_map_char]
  have hne := written_rest_ne_nil hparts
  have hend : ∀ c ∈ (written rest).getLast?, c ≠ ';' := by
    intro c hc
    refine u.getLast_parts c ?_
    rwa [hwritten, List.getLast?_append_of_ne_nil _ hne]
  rw [text, hwritten]
  exact ofDeclaration_gap u.indent u.keyword u.afterEnd hne hrest hend gap

end Parts

/-- Without comments and blanks, the clauses stand in their places, and after them at most an empty
    one. -/
theorem exists_map_trim_places (u : RemarkedStatement) : ∃ more : List (List Char),
    (∀ c ∈ more, c = []) ∧
      u.places.map (Import.trimChars ∘ Written.plain) = u.items.map Item.chars ++ more := by
  rw [← List.map_map]
  cases hbody : u.body with
  | flat series within =>
    have hseries := Series.map_trim_pieces (fun c : ClassClause => c.chars) (fun c => c.solid)
      (fun c => c.isPlain_chars) u.beforeEnd series.more series.first u.gap.toBlanks
    have hplain := u.plain_parts
    rw [hbody, ← List.append_assoc] at hplain
    refine ⟨[], by simp, ?_⟩
    simp only [places, items, hbody]
    rw [← pieces_plain, hplain, List.append_nil, List.map_map]
    exact hseries
  | group g before within =>
    refine ⟨(g.trailing.map fun _ => []).toList, fun c hc => ?_, ?_⟩
    · obtain ⟨b, -, hempty⟩ := Option.map_eq_some_iff.1 (Option.mem_toList.1 hc)
      exact hempty.symm
    · simp only [places, items, hbody]
      rw [← pieces_plain, within.plain_eq, g.map_trim_pieces]

theorem filterMap_places (u : RemarkedStatement) (base : Option (List Char)) :
    (u.places.filterMap fun place =>
      if isRemarked place then none
      else readClause? base (Import.trimChars (Written.plain place))) =
      u.clauses.filterMap fun x =>
        if isRemarked x.2 then none else readClause? base x.1.chars := by
  obtain ⟨more, hmore, hplaces⟩ := u.exists_map_trim_places
  refine filterMap_zip (fun c hc => ?_) hplaces
  rw [hmore c hc]
  rfl

theorem map_fst_clauses (u : RemarkedStatement) : u.clauses.map Prod.fst = u.items := by
  obtain ⟨more, -, hplaces⟩ := u.exists_map_trim_places
  have hlength := congrArg List.length hplaces
  rw [List.length_map, List.length_append, List.length_map] at hlength
  exact List.map_fst_zip (by omega)

/-- The imports of clauses about classes that no comment stands in, below a name. -/
theorem map_untouched (u : RemarkedStatement) (base : Option Name) :
    u.untouched.map (ClassClause.import base) = u.clauses.filterMap fun x =>
      if isRemarked x.2 then none else readClause? (base.map Name.chars) x.1.chars := by
  rw [untouched, List.map_filterMap, List.filterMap_filter]
  refine List.filterMap_congr fun x _ => ?_
  cases isRemarked x.2 with
  | true => rfl
  | false => exact (x.1.readClause?_chars base).symm

theorem brace_not_mem_flat {clauses : Series ClassClause}
    {within : Remarked (clauses.chars fun c => c.chars)} (hbody : u.body = .flat clauses within)
    (hlacks : Lacks '\x7b' u.parts) : '\x7b' ∉ written u.parts := by
  refine not_mem_written ?_ hlacks
  rw [plain_parts, hbody, List.mem_append, List.mem_append]
  rintro (hgap | hlisted | hend)
  · exact not_mem_of_isPlain u.gap.isPlain (by decide) hgap
  · exact Series.not_mem_chars _ (fun c => c.isPlain_chars) clauses (by decide) (by decide) hlisted
  · exact not_mem_of_isPlain u.beforeEnd.isPlain (by decide) hend

/-- **Clauses one by one**: those are read that no comment stands in. -/
theorem ofDeclaration_flat {clauses : Series ClassClause}
    {within : Remarked (clauses.chars fun c => c.chars)} (hbody : u.body = .flat clauses within)
    (hcalm : u.Calm) (hglued : u.isGlued = false) :
    Import.ofDeclaration u.text = u.untouched.map (ClassClause.import none) := by
  obtain ⟨gap, rest, hgap, hrest⟩ := exists_gap hglued (u.body.parts ++ u.atEnd.parts)
  have hparts : u.parts = gap.chars.map .char ++ rest := by rw [parts, List.append_assoc, hgap]
  obtain ⟨hbrace, hcomma⟩ : Lacks '\x7b' u.parts ∧ Lacks ',' u.parts := by
    simpa [Calm, hbody] using hcalm
  have hwritten : written u.parts = gap.chars ++ written rest := by
    rw [hparts, written_append, written_map_char]
  obtain ⟨run, hrun, hrest'⟩ := Text.exists_dropEndWhile_append Text.isBlank (written rest)
  have hinitial := Text.dropEndWhile_prefix Text.isBlank (written rest)
  rw [ofDeclaration_parts hparts hrest]
  generalize Text.dropEndWhile Text.isBlank (written rest) = listing at hrest' hinitial ⊢
  have hnobrace : '\x7b' ∉ listing := by
    intro hmem
    refine brace_not_mem_flat hbody hbrace ?_
    rw [hwritten]
    exact List.mem_append_right _ (hinitial.subset hmem)
  rw [readListing, isForeign_of_prefix hparts hinitial, if_neg Bool.false_ne_true]
  simp only [Import.groupParts, Text.cutAtFirst?_eq_none [] hnobrace]
  calc readClauses none listing
      = readClauses none (written u.parts) := by
        rw [hwritten, hrest', ← List.append_assoc,
          readClauses_append_blanks none gap.isBlank hrun listing]
    _ = u.untouched.map (ClassClause.import none) := by
        have hplaces : clausesOf u.parts = u.places := by rw [places, hbody]
        rw [readClauses_written none hcomma, map_untouched, hplaces, filterMap_places]
        rfl

theorem brace_not_mem_lead {g : Group} {before : Remarked g.lead}
    (hlacks : Lacks '\x7b' (u.inGap.parts ++ before.parts)) :
    '\x7b' ∉ written (u.inGap.parts ++ before.parts) := by
  refine not_mem_written ?_ hlacks
  rw [plain_append, u.inGap.plain_eq, before.plain_eq, List.mem_append]
  rintro (hgap | hlead)
  · exact not_mem_of_isPlain u.gap.isPlain (by decide) hgap
  · exact not_mem_of_isPlain g.isPlain_lead (by decide) hlead

theorem brace_not_mem_end (hlacks : Lacks '\x7d' u.atEnd.parts) :
    '\x7d' ∉ written u.atEnd.parts := by
  refine not_mem_written ?_ hlacks
  rw [u.atEnd.plain_eq]
  exact not_mem_of_isPlain u.beforeEnd.isPlain (by decide)

/-- **Clauses in braces**: those are read that no comment stands in, below the name that is read off
    what stands before the braces. -/
theorem ofDeclaration_group {g : Group} {before : Remarked g.lead} {within : Remarked g.inner}
    (hbody : u.body = .group g before within) (hcalm : u.Calm) (hglued : u.isGlued = false) :
    Import.ofDeclaration u.text = u.clauses.filterMap fun x =>
      if isRemarked x.2 then none
      else readClause? (some (baseOf (written (u.inGap.parts ++ before.parts)))) x.1.chars := by
  obtain ⟨gap, first, hgap, hfirst⟩ := exists_gap hglued before.parts
  obtain ⟨hopen, hcomma, hclose⟩ : Lacks '\x7b' (u.inGap.parts ++ before.parts) ∧
      Lacks ',' within.parts ∧ Lacks '\x7d' u.atEnd.parts := by
    simpa [Calm, hbody] using hcalm
  have hparts : u.parts = gap.chars.map .char ++
      (first ++ .char '\x7b' :: (within.parts ++ .char '\x7d' :: u.atEnd.parts)) := by
    rw [← List.append_assoc, ← hgap]
    simp [parts, hbody, RemarkedBody.parts]
  have hwritten : written (u.inGap.parts ++ before.parts) = gap.chars ++ written first := by
    rw [hgap, written_append, written_map_char]
  have hrest : ∀ c ∈ (written (first ++ .char '\x7b' ::
      (within.parts ++ .char '\x7d' :: u.atEnd.parts))).head?, Text.isBlank c = false := by
    intro c hc
    rw [written_append, written_char_cons] at hc
    cases hempty : written first with
    | nil =>
      have hcbrace : '\x7b' = c := by simpa [hempty] using hc
      rw [← hcbrace]
      decide
    | cons x xs => exact hfirst c (by simpa [hempty] using hc)
  have hforeign := isForeign_of_prefix hparts (Text.dropEndWhile_prefix Text.isBlank _)
  have hfirstbrace : '\x7b' ∉ written first := by
    intro hmem
    refine brace_not_mem_lead hopen ?_
    rw [hwritten]
    exact List.mem_append_right _ hmem
  have hlastbrace : '\x7d' ∉ Text.dropEndWhile Text.isBlank (written u.atEnd.parts) := fun hmem =>
    brace_not_mem_end hclose ((Text.dropEndWhile_prefix _ _).subset hmem)
  have hbase : baseOf (written first) = baseOf (written (u.inGap.parts ++ before.parts)) := by
    have hblanks := trimChars_append_blanks gap.isBlank (List.forall_mem_nil _) (written first)
    rw [List.append_nil] at hblanks
    rw [baseOf, baseOf, hwritten, hblanks]
  have hplaces : clausesOf within.parts = u.places := by rw [places, hbody]
  rw [ofDeclaration_parts hparts hrest, readListing, hforeign, if_neg Bool.false_ne_true,
    dropEndWhile_written_braces, Group.groupParts_braces hfirstbrace hlastbrace, ← baseOf, hbase,
    readClauses_written _ hcomma, hplaces, filterMap_places]

theorem isGlued_of_isRemarked {more : List Part}
    (h : isRemarked (u.inGap.parts ++ more) = false) : u.isGlued = false := by
  rw [isGlued]
  cases hparts : u.inGap.parts with
  | nil => rfl
  | cons part rest =>
    cases part with
    | char c => rfl
    | comment x => simp [hparts] at h

/-- The full names that are read below a name start with it. -/
theorem mem_fullName_of_readClause? {base clause : List Char} {i : Import} {c : Char}
    (hc : c ∈ base) (h : readClause? (some base) clause = some i) : c ∈ i.fullName.toList := by
  obtain ⟨b, bs, rfl⟩ := List.exists_cons_of_ne_nil (List.ne_nil_of_mem hc)
  unfold readClause? at h
  split at h
  · simp only [Import.ofClause?, Option.bind_eq_bind, Option.bind_eq_some_iff] at h
    obtain ⟨⟨name, localName⟩, -, hi⟩ := h
    rw [← Option.some.inj hi, String.toList_ofList]
    exact List.mem_append_left _ hc
  · cases h

/-- **If no comment concerns all clauses, those are imported that no comment stands in.** -/
theorem ofDeclaration_text (hcalm : u.Calm) (hhead : u.isHeadRemarked = false) :
    Import.ofDeclaration u.text = u.untouched.map (ClassClause.import u.base) := by
  cases hbody : u.body with
  | flat series within =>
    have hglued : u.isGlued = false := by simpa [isHeadRemarked, hbody] using hhead
    rw [ofDeclaration_flat hbody hcalm hglued, base, hbody]
  | group g before within =>
    have hplain : isRemarked (u.inGap.parts ++ before.parts) = false := by
      simpa [isHeadRemarked, hbody] using hhead
    have hbase : baseOf (written (u.inGap.parts ++ before.parts)) = g.base.chars := by
      have hblanks := trimChars_append_blanks u.gap.isBlank (List.forall_mem_nil _) g.lead
      rw [List.append_nil] at hblanks
      rw [written_eq_plain hplain, plain_append, u.inGap.plain_eq, before.plain_eq, baseOf,
        hblanks, g.trim_lead]
    rw [ofDeclaration_group hbody hcalm (isGlued_of_isRemarked hplain), hbase, map_untouched,
      base, hbody]
    rfl

/-- **A comment that concerns all clauses spoils every full name.** -/
theorem fullName_ne (hcalm : u.Calm) (hhead : u.isHeadRemarked = true) {i j : Import}
    (hi : i ∈ Import.ofDeclaration u.text) (hj : j ∈ u.plain.imports) :
    i.fullName ≠ j.fullName := by
  cases hglued : u.isGlued with
  | true =>
    rw [ofDeclaration_of_isGlued hglued] at hi
    cases hi
  | false =>
    cases hbody : u.body with
    | flat series within => simp [isHeadRemarked, hbody, hglued] at hhead
    | group g before within =>
      have hremarked : isRemarked (u.inGap.parts ++ before.parts) = true := by
        simpa [isHeadRemarked, hbody] using hhead
      obtain ⟨m, hm, hmark⟩ := exists_mark_mem hremarked
      have hbase := mark_mem_baseOf hmark hm
      rw [ofDeclaration_group hbody hcalm hglued] at hi
      obtain ⟨x, -, hread⟩ := List.mem_filterMap.1 hi
      have hmi : m ∈ i.fullName.toList := by
        split at hread
        · cases hread
        · exact mem_fullName_of_readClause? hbase hread
      obtain ⟨w, n, rfl⟩ := Statement.exists_of_mem_imports hj
      intro hsame
      rw [hsame] at hmi
      have hname : isPlain m = true :=
        isPlain_of_isNameChar (n.isNameChar m (by simpa [Name.text] using hmi))
      rw [isPlain_of_isMark hmark] at hname
      cases hname

theorem imports_plain (u : RemarkedStatement) :
    u.plain.imports =
      (u.clauses.filterMap fun x => x.1.classClause?).map (ClassClause.import u.base) := by
  have hitems : (u.clauses.filterMap fun x => x.1.classClause?) =
      u.items.filterMap Item.classClause? := by
    rw [← u.map_fst_clauses, List.filterMap_map]
    rfl
  rw [hitems]
  cases hbody : u.body with
  | flat series within =>
    simp only [Statement.imports, RemarkedStatement.plain, items, base, hbody,
      Item.filterMap_map_ofClass]
    rfl
  | group g before within =>
    simp only [Statement.imports, RemarkedStatement.plain, items, base, hbody]
    rfl

theorem isSome_classClause?_of_readClause? {base : Option (List Char)} {i : Import} :
    ∀ {item : Item}, readClause? base item.chars = some i → item.classClause?.isSome = true
  | .ofClass _, _ => rfl
  | .foreign f, h => by simp [readClause?, Item.chars, f.isForeign_chars] at h

/-- What is imported goes back to a clause about a class. -/
theorem exists_clause (hcalm : u.Calm) {i : Import} (hi : i ∈ Import.ofDeclaration u.text) :
    ∃ x ∈ u.clauses, x.1.classClause?.isSome = true := by
  have hread : ∃ base, ∃ x ∈ u.clauses,
      (if isRemarked x.2 then none else readClause? base x.1.chars) = some i := by
    cases hglued : u.isGlued with
    | true =>
      rw [ofDeclaration_of_isGlued hglued] at hi
      cases hi
    | false =>
      cases hbody : u.body with
      | flat series within =>
        rw [ofDeclaration_flat hbody hcalm hglued, map_untouched] at hi
        exact ⟨_, List.mem_filterMap.1 hi⟩
      | group g before within =>
        rw [ofDeclaration_group hbody hcalm hglued] at hi
        exact ⟨_, List.mem_filterMap.1 hi⟩
  obtain ⟨base, x, hx, hread⟩ := hread
  split at hread
  · cases hread
  · exact ⟨x, hx, isSome_classClause?_of_readClause? hread⟩

/-- **The imports stay the same exactly if no comment concerns a clause about a class.** -/
theorem ofDeclaration_text_eq_iff (hcalm : u.Calm) :
    Import.ofDeclaration u.text = Import.ofDeclaration u.plain.text ↔ u.Harmless := by
  rw [u.plain.ofDeclaration_text]
  constructor
  · intro hsame x hx hclass
    obtain ⟨clause, hclause⟩ := Option.isSome_iff_exists.1 hclass
    have hmem : clause.import u.base ∈ u.plain.imports := by
      rw [imports_plain]
      exact List.mem_map_of_mem (List.mem_filterMap.2 ⟨x, hx, hclause⟩)
    have hhead : u.isHeadRemarked = false := by
      refine Bool.eq_false_iff.2 fun hhead => ?_
      exact fullName_ne hcalm hhead (hsame ▸ hmem) hmem rfl
    refine ⟨hhead, ?_⟩
    -- as many clauses are untouched as there are
    have hlength : u.untouched.length = (u.clauses.filterMap fun x => x.1.classClause?).length := by
      rw [ofDeclaration_text hcalm hhead, imports_plain] at hsame
      simpa using congrArg List.length hsame
    rw [untouched, List.length_filterMap_eq_countP, List.length_filterMap_eq_countP,
      List.countP_eq_countP_filter_add u.clauses _ fun x => isRemarked x.2] at hlength
    have hnone := List.countP_eq_zero.1 (Nat.right_eq_add.1 hlength)
    exact Bool.eq_false_iff.2 fun hremarked =>
      hnone x (List.mem_filter.2 ⟨hx, hremarked⟩) hclass
  · intro hharmless
    cases hhead : u.isHeadRemarked with
    | false =>
      rw [ofDeclaration_text hcalm hhead, imports_plain, untouched, List.filterMap_filter]
      refine congrArg _ (List.filterMap_congr fun x hx => ?_)
      cases hclass : x.1.classClause? with
      | none => rw [ite_self]
      | some clause =>
        rw [(hharmless x hx (by simp [hclass])).2]
        rfl
    | true =>
      -- then there is no clause about a class at all
      have hnone : ∀ x ∈ u.clauses, x.1.classClause?.isSome ≠ true := by
        intro x hx hclass
        have hplain := (hharmless x hx hclass).1
        rw [hhead] at hplain
        cases hplain
      have htext : Import.ofDeclaration u.text = [] := by
        refine List.eq_nil_iff_forall_not_mem.2 fun i hi => ?_
        obtain ⟨x, hx, hclass⟩ := exists_clause hcalm hi
        exact hnone x hx hclass
      have hclasses : (u.clauses.filterMap fun x => x.1.classClause?) = [] := by
        refine List.filterMap_eq_nil_iff.2 fun x hx => ?_
        exact Option.not_isSome_iff_eq_none.1 (hnone x hx)
      rw [htext, imports_plain, hclasses]
      rfl

-- with commas in a comment, even the clauses are not told apart as they are written
example : Import.ofDeclaration "use A /*, B, */;" = [⟨"B", "B"⟩] := by
  decide +kernel

end RemarkedStatement

namespace RemarkedForeign

variable (f : RemarkedForeign)

/-- Nothing is imported from a list of functions or constants. -/
theorem ofDeclaration_listing {cs : List Char} (hne : cs ≠ [])
    (hhead : ∀ c ∈ cs.head?, Text.isBlank c = false) (hend : ∀ c ∈ cs.getLast?, c ≠ ';') :
    Import.ofDeclaration (f.listing cs) = [] := by
  obtain ⟨c, rest, rfl⟩ := List.exists_cons_of_ne_nil hne
  have hc : Text.isBlank c = false := hhead c rfl
  have hsolid : Solid f.announced.chars := f.announced.solid
    (isWord_of_mem_foreignWords f.isForeign) (ne_nil_of_mem_foreignWords f.isForeign)
  have hannounced : ∀ x ∈ (f.announced.chars ++ f.space.chars ++ c :: rest).head?,
      Text.isBlank x = false := by
    rw [List.append_assoc, List.head?_append_of_ne_nil _ hsolid.ne_nil]
    exact hsolid.head
  have hlast : ∀ x ∈ (f.announced.chars ++ f.space.chars ++ c :: rest).getLast?, x ≠ ';' := by
    rwa [List.getLast?_append_of_ne_nil _ hne]
  have htrim := Text.dropEndWhile_append_cons hc (f.announced.chars ++ f.space.chars) rest
  have hforeign : Import.isForeign (f.announced.chars ++ f.space.chars ++
      c :: Text.dropEndWhile Text.isBlank rest) = true := by
    refine (isForeign_iff _).2 ⟨f.word, f.isForeign, ?_⟩
    rw [afterKeyword?_append f.announced f.space (by simpa using hc)]
    rfl
  rw [listing, ofDeclaration_gap f.indent f.keyword f.afterEnd (by simp) hannounced hlast f.gap,
    htrim, readListing, if_pos hforeign]

theorem ofDeclaration_plainText : Import.ofDeclaration f.plainText = [] := by
  refine f.ofDeclaration_listing (by simp [f.body.solid.ne_nil]) ?_
    (f.body.getLast_append_ne_semicolon f.beforeEnd)
  rw [List.head?_append_of_ne_nil _ f.body.solid.ne_nil]
  exact f.body.solid.head

theorem ofDeclaration_text : Import.ofDeclaration f.text = [] := by
  refine f.ofDeclaration_listing (written_ne_nil ?_) (head_written ?_) (getLast_written ?_)
  · simp [f.within.plain_eq, f.body.solid.ne_nil]
  · rw [f.within.plain_eq, List.head?_append_of_ne_nil _ f.body.solid.ne_nil]
    exact f.body.solid.head
  · rw [f.within.plain_eq]
    exact f.body.getLast_append_ne_semicolon f.beforeEnd

end RemarkedForeign

theorem RemarkedUse.ofDeclaration_text_eq_iff {d : RemarkedUse} (hcalm : d.Calm) :
    Import.ofDeclaration d.text = Import.ofDeclaration d.plainText ↔ d.Harmless := by
  cases d with
  | classes u => exact u.ofDeclaration_text_eq_iff hcalm
  | foreign f =>
    refine iff_of_true ?_ trivial
    rw [text, plainText, f.ofDeclaration_text, f.ofDeclaration_plainText]

end LayerLint.Syntax.Written

namespace LayerLint

open Syntax (Import Names)
open Syntax.Written

/-- The texts of the use declarations of a file, in order. -/
def SourceFile.useTexts (file : SourceFile) : List String :=
  (file.root.findAll fun n => n.kind == .namespaceUseDeclaration).map file.text

theorem SourceFile.imports_parse (path : Path) (text : String) :
    (parse path text).names.imports =
      (parse path text).useTexts.flatMap Import.ofDeclaration := by
  rw [names_parse, useTexts, List.flatMap_map]
  rfl

theorem Syntax.Names.eq_of_home_of_imports : ∀ {names names' : Names},
    names'.home = names.home → names'.imports = names.imports → names' = names
  | ⟨_, _⟩, ⟨_, _⟩, rfl, rfl => rfl

/-- **The imports of a file stay the same exactly if no comment concerns a clause about a class**, and
    then all names are resolved as before. -/
theorem comments_beside_classes (d : RemarkedUse) (hcalm : d.Calm) (path path' : Path)
    (text text' : String) (before after : List String)
    (hhome : (SourceFile.parse path' text').names.home = (SourceFile.parse path text).names.home)
    (huses : (SourceFile.parse path text).useTexts = before ++ d.plainText :: after)
    (huses' : (SourceFile.parse path' text').useTexts = before ++ d.text :: after) :
    ((SourceFile.parse path' text').names.imports = (SourceFile.parse path text).names.imports ↔
      d.Harmless) ∧
    (d.Harmless → ∀ written, (SourceFile.parse path' text').names.resolve written =
      (SourceFile.parse path text).names.resolve written) := by
  have hiff : (SourceFile.parse path' text').names.imports =
      (SourceFile.parse path text).names.imports ↔ d.Harmless := by
    rw [SourceFile.imports_parse, SourceFile.imports_parse, huses, huses', List.flatMap_append,
      List.flatMap_append, List.append_cancel_left_eq, List.flatMap_cons, List.flatMap_cons,
      List.append_cancel_right_eq]
    exact RemarkedUse.ofDeclaration_text_eq_iff hcalm
  refine ⟨hiff, fun hharmless written => ?_⟩
  rw [Names.eq_of_home_of_imports hhome (hiff.2 hharmless)]

/-- `USE A\{B, const /* c */C,# last` and, on the next line, `} /* end */;` -/
def remarkedGroup : RemarkedStatement where
  indent := .none
  keyword := ⟨"USE".toList, by decide⟩
  gap := .space
  inGap := ⟨[.char ' '], rfl⟩
  body := .group {
      rooted := false
      base := ⟨⟨"A".toList, by decide, by decide⟩, []⟩
      beforeBrace := .none
      opening := .none
      items := {
        first := .ofClass ⟨⟨false, ⟨⟨"B".toList, by decide, by decide⟩, []⟩, none⟩, by decide⟩
        more := [(⟨.none, Gap.space.toBlanks⟩, .foreign {
          word := "const"
          isForeign := by decide
          keyword := ⟨"const".toList, by decide⟩
          gap := .space
          clause := ⟨false, ⟨⟨"C".toList, by decide, by decide⟩, []⟩, none⟩ })] }
      trailing := some .none
      closing := .none }
    ⟨"A\\".toList.map .char, rfl⟩
    ⟨"B, const ".toList.map .char ++ .comment (.block " c ".toList (by decide)) ::
      "C,".toList.map .char ++
        [.comment (.line ['#'] " last".toList ['\n'] (by decide) (by decide) (by decide))],
      rfl⟩
  beforeEnd := Gap.space.toBlanks
  atEnd := ⟨[.char ' ', .comment (.block " end ".toList (by decide))], rfl⟩
  afterEnd := .none

/-- Comments about a constant, after the last comma and after the braces. -/
theorem comments_beside_classes_group :
    let file := SourceFile.parse ⟨"F.php"⟩ ("<?php " ++ remarkedGroup.plain.text)
    let file' := SourceFile.parse ⟨"F.php"⟩ ("<?php " ++ remarkedGroup.text)
    file.hasErrors = false ∧ file'.hasErrors = false ∧
      remarkedGroup.text = "USE A\\\x7bB, const /* c */C,# last\n\x7d /* end */;" ∧
      file.names.resolve "B" = "A\\B" ∧ file'.names.resolve "B" = "A\\B" := by
  intro file file'
  have hfacts : remarkedGroup.Calm ∧ remarkedGroup.Harmless ∧
      file.hasErrors = false ∧ file'.hasErrors = false ∧ file'.names.home = file.names.home ∧
      file.useTexts = [remarkedGroup.plain.text] ∧ file'.useTexts = [remarkedGroup.text] ∧
      remarkedGroup.text = "USE A\\\x7bB, const /* c */C,# last\n\x7d /* end */;" ∧
      file.names.resolve "B" = "A\\B" := by
    decide +kernel
  obtain ⟨hcalm, hharmless, herrors, herrors', hhome, huses, huses', htext, hresolve⟩ := hfacts
  have hsame := (comments_beside_classes (.classes remarkedGroup) hcalm _ _ _ _ [] []
    hhome huses huses').2 hharmless "B"
  exact ⟨herrors, herrors', htext, hresolve, hsame.trans hresolve⟩

/-- A comment before the alias is enough to lose the import. -/
theorem comment_before_alias :
    let file := SourceFile.parse ⟨"F.php"⟩ "<?php use A\\B as C;"
    let file' := SourceFile.parse ⟨"F.php"⟩ "<?php use A\\B /* c */ as C;"
    file.hasErrors = false ∧ file'.hasErrors = false ∧
      file.useTexts = ["use A\\B as C;"] ∧ file'.useTexts = ["use A\\B /* c */ as C;"] ∧
      file.names.resolve "C" = "A\\B" ∧ file'.names.resolve "C" = "C" := by
  decide +kernel

end LayerLint
