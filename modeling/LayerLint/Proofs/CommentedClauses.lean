import LayerLint.Proofs.UseDeclaration
import Mathlib.Data.List.Infix

/-!
# Clauses with comments in them

Comments may stand between the parts of a use declaration.  Its reader works on the text alone and
does not know of them, so that a comment becomes part of the clause that it stands in.

* `Comment`, `Part` — a text with comments put into it, which is read with and without them;
* `pieces_flatMap_parts` — both texts fall into the same pieces, as long as no comment has a comma in
  it;
* `isPlain_of_clause?` — a clause that is read has no character in it that could start a comment;
* `readClauses_written` — **so of the clauses, those are read that no comment stands in**;
* `isForeign_plain` — a word before the clauses is seen only if it comes before all comments.
-/

set_option autoImplicit false

namespace LayerLint.Syntax.Written

/-! ## Texts with comments -/

/-- A comment, which runs to the mark that closes it or to the end of the line. -/
inductive Comment where
  | block (body : List Char) (isOpen : ¬ ['*', '/'] <:+: body)
  | line (mark body newline : List Char)
    (isMark : mark = ['/', '/'] ∨ mark = ['#'] ∧ body.head? ≠ some '[')
    (isLine : '\n' ∉ body ∧ '\r' ∉ body ∧ ¬ ['?', '>'] <:+: body)
    (isNewline : newline ∈ [['\n'], ['\r', '\n'], ['\r']])

def Comment.chars : Comment → List Char
  | .block body _ => '/' :: '*' :: (body ++ ['*', '/'])
  | .line mark body newline _ _ _ => mark ++ body ++ newline

/-- A character of a text, or a comment that has been put into it. -/
inductive Part where
  | char (c : Char)
  | comment (c : Comment)

namespace Part

/-- As it is written. -/
def chars : Part → List Char
  | .char c => [c]
  | .comment c => c.chars

/-- Without comments. -/
def plain : Part → List Char
  | .char c => [c]
  | .comment _ => []

def isComment : Part → Bool
  | .char _ => false
  | .comment _ => true

/-- The part is the character `c` of the text, and not of a comment. -/
def isChar (c : Char) : Part → Bool
  | .char x => x == c
  | .comment _ => false

end Part

/-- The text with its comments. -/
def written (ps : List Part) : List Char :=
  ps.flatMap Part.chars

/-- The text without its comments. -/
def plain (ps : List Part) : List Char :=
  ps.flatMap Part.plain

/-- There are comments in the text. -/
def isRemarked (ps : List Part) : Bool :=
  ps.any Part.isComment

/-- No comment has the character in it. -/
def Lacks (c : Char) (ps : List Part) : Prop :=
  ∀ p ∈ ps, p.isComment = true → c ∉ p.chars

instance (c : Char) (ps : List Part) : Decidable (Lacks c ps) :=
  inferInstanceAs (Decidable (∀ p ∈ ps, p.isComment = true → c ∉ p.chars))

/-- The runs between the commas of the text. -/
def clausesOf (ps : List Part) : List (List Part) :=
  ps.splitOnP (Part.isChar ',')

/-- A text with comments put into it. -/
structure Remarked (cs : List Char) where
  parts : List Part
  plain_eq : plain parts = cs

/-! ## The characters of comments -/

/-- A character that starts a comment. -/
def isMark (c : Char) : Bool :=
  c == '/' || c == '#'

theorem isMark_iff {c : Char} : isMark c = true ↔ c = '/' ∨ c = '#' := by
  simp [isMark]

theorem isPlain_of_isMark {c : Char} (h : isMark c = true) : isPlain c = false := by
  obtain rfl | rfl := isMark_iff.1 h <;> decide

theorem isMark_of_isPlain {c : Char} (h : isPlain c = true) : isMark c = false := by
  refine Bool.eq_false_iff.2 fun hmark => ?_
  rw [isPlain_of_isMark hmark] at h
  cases h

theorem isBlank_of_isMark {c : Char} (h : isMark c = true) : Text.isBlank c = false := by
  obtain rfl | rfl := isMark_iff.1 h <;> decide

namespace Comment

theorem exists_mark (x : Comment) : ∃ m cs, x.chars = m :: cs ∧ isMark m = true := by
  cases x with
  | block body _ => exact ⟨'/', _, rfl, rfl⟩
  | line mark body newline isMark _ _ =>
    obtain rfl | ⟨rfl, -⟩ := isMark
    · exact ⟨'/', _, rfl, rfl⟩
    · exact ⟨'#', _, rfl, rfl⟩

theorem getLast_ne_semicolon (x : Comment) : ∀ c ∈ x.chars.getLast?, c ≠ ';' := by
  intro c hc
  cases x with
  | block body _ =>
    have hchars : chars (.block body ‹_›) = ('/' :: '*' :: body ++ ['*']) ++ ['/'] := by
      simp [chars]
    rw [hchars, List.getLast?_concat, Option.mem_some_iff] at hc
    rw [← hc]
    decide
  | line mark body newline _ _ isNewline =>
    simp only [List.mem_cons, List.not_mem_nil, or_false] at isNewline
    obtain ⟨hne, hnewline⟩ : newline ≠ [] ∧ ∀ x ∈ newline, x ≠ ';' := by
      obtain rfl | rfl | rfl := isNewline <;> simp
    rw [chars, List.getLast?_append_of_ne_nil _ hne] at hc
    exact hnewline c (List.mem_of_mem_getLast? hc)

end Comment

/-! ## The characters of texts with comments -/

section Parts

variable {ps qs : List Part}

@[simp] theorem written_nil : written [] = [] := rfl

@[simp] theorem plain_nil : plain [] = [] := rfl

@[simp] theorem isRemarked_char_cons (c : Char) : isRemarked (.char c :: ps) = isRemarked ps := rfl

@[simp] theorem isRemarked_comment_cons (x : Comment) : isRemarked (.comment x :: ps) = true := rfl

@[simp] theorem written_append : written (ps ++ qs) = written ps ++ written qs :=
  List.flatMap_append

@[simp] theorem plain_append : plain (ps ++ qs) = plain ps ++ plain qs :=
  List.flatMap_append

@[simp] theorem written_char_cons (c : Char) : written (.char c :: ps) = c :: written ps := rfl

@[simp] theorem plain_char_cons (c : Char) : plain (.char c :: ps) = c :: plain ps := rfl

@[simp] theorem written_comment_cons (x : Comment) :
    written (.comment x :: ps) = x.chars ++ written ps := rfl

@[simp] theorem plain_comment_cons (x : Comment) : plain (.comment x :: ps) = plain ps := rfl

@[simp] theorem written_map_char (cs : List Char) : written (cs.map .char) = cs := by
  induction cs with
  | nil => rfl
  | cons c cs ih => simp [ih]

@[simp] theorem plain_map_char (cs : List Char) : plain (cs.map .char) = cs := by
  induction cs with
  | nil => rfl
  | cons c cs ih => simp [ih]

/-- Without comments, there is one text. -/
theorem written_eq_plain : ∀ {ps : List Part}, isRemarked ps = false → written ps = plain ps
  | [], _ => rfl
  | .char c :: ps, h => by
    rw [isRemarked_char_cons] at h
    rw [written_char_cons, plain_char_cons, written_eq_plain h]
  | .comment _ :: _, h => by simp at h

/-- Comments bring their marks. -/
theorem exists_mark_mem (h : isRemarked ps = true) : ∃ m ∈ written ps, isMark m = true := by
  obtain ⟨part, hpart, hcomment⟩ := List.any_eq_true.1 h
  cases part with
  | char c => cases hcomment
  | comment x =>
    obtain ⟨m, cs, hchars, hmark⟩ := x.exists_mark
    refine ⟨m, List.mem_flatMap.2 ⟨_, hpart, ?_⟩, hmark⟩
    simp [Part.chars, hchars]

theorem written_ne_nil (h : plain ps ≠ []) : written ps ≠ [] := by
  match ps, h with
  | .char c :: _, _ => simp
  | .comment x :: _, _ =>
    obtain ⟨m, cs, hchars, -⟩ := x.exists_mark
    simp [hchars]

/-- A character that no comment has in it is written only in the text itself. -/
theorem not_mem_written {c : Char} (hplain : c ∉ plain ps) (hlacks : Lacks c ps) :
    c ∉ written ps := by
  intro hc
  obtain ⟨part, hpart, hc⟩ := List.mem_flatMap.1 hc
  cases part with
  | char x => exact hplain (List.mem_flatMap.2 ⟨_, hpart, hc⟩)
  | comment x => exact hlacks _ hpart rfl hc

/-- What is written before the first comment belongs to the text. -/
theorem prefix_plain : ∀ {start : List Char} {ps : List Part}, start <+: written ps →
    (∀ c ∈ start, isMark c = false) → start <+: plain ps
  | [], _, _, _ => List.nil_prefix
  | c :: start, [], h, _ => by simp at h
  | c :: start, .char x :: ps, h, hstart => by
    rw [written_char_cons, List.cons_prefix_cons] at h
    rw [plain_char_cons, List.cons_prefix_cons]
    exact ⟨h.1, prefix_plain h.2 fun y hy => hstart y (List.mem_cons_of_mem _ hy)⟩
  | c :: start, .comment x :: ps, h, hstart => by
    obtain ⟨m, cs, hchars, hmark⟩ := x.exists_mark
    rw [written_comment_cons, hchars, List.cons_append, List.cons_prefix_cons] at h
    have hc := hstart c List.mem_cons_self
    rw [h.1, hmark] at hc
    cases hc

theorem getLast_written (hplain : ∀ c ∈ (plain ps).getLast?, c ≠ ';') :
    ∀ c ∈ (written ps).getLast?, c ≠ ';' := by
  obtain rfl | ⟨init, last, rfl⟩ := List.eq_nil_or_concat' ps
  · simp
  · cases last with
    | char x =>
      intro c hc
      have hcx : x = c := by simpa using hc
      exact hplain c (by simp [hcx])
    | comment x =>
      obtain ⟨m, cs, hchars, -⟩ := x.exists_mark
      intro c hc
      rw [written_append, written_comment_cons, written_nil, List.append_nil,
        List.getLast?_append_of_ne_nil _ (by simp [hchars])] at hc
      exact x.getLast_ne_semicolon c hc

theorem head_written (hplain : ∀ c ∈ (plain ps).head?, Text.isBlank c = false) :
    ∀ c ∈ (written ps).head?, Text.isBlank c = false := by
  match ps with
  | [] => simp
  | .char c :: _ => simpa using hplain
  | .comment x :: _ =>
    obtain ⟨m, cs, hchars, hmark⟩ := x.exists_mark
    simpa [hchars] using isBlank_of_isMark hmark

/-- The blanks at the front, up to the first comment or other character. -/
theorem exists_blanks : ∀ ps : List Part, ∃ (bs : List Char) (rest : List Part),
    ps = bs.map .char ++ rest ∧ (∀ c ∈ bs, Text.isBlank c = true) ∧
      ∀ c ∈ (written rest).head?, Text.isBlank c = false
  | [] => ⟨[], [], by simp⟩
  | .char c :: ps => by
    by_cases hc : Text.isBlank c = true
    · obtain ⟨bs, rest, hps, hbs, hrest⟩ := exists_blanks ps
      refine ⟨c :: bs, rest, by simp [hps], ?_, hrest⟩
      simpa [hc] using hbs
    · exact ⟨[], .char c :: ps, rfl, by simp, by simpa using hc⟩
  | .comment x :: ps => by
    obtain ⟨m, cs, hchars, hmark⟩ := x.exists_mark
    refine ⟨[], .comment x :: ps, rfl, by simp, ?_⟩
    simpa [hchars] using isBlank_of_isMark hmark

/-- Cut at a character that no comment has in it, a text falls into pieces of the same parts. -/
theorem pieces_flatMap_parts {c : Char} {write : Part → List Char}
    (hchar : ∀ x, write (.char x) = [x]) : ∀ {ps : List Part},
    (∀ x, .comment x ∈ ps → c ∉ write (.comment x)) →
      Text.pieces (· == c) (ps.flatMap write) =
        (ps.splitOnP (Part.isChar c)).map fun piece => piece.flatMap write
  | [], _ => rfl
  | part :: ps, hlacks => by
    have ih := pieces_flatMap_parts hchar fun x hx => hlacks x (List.mem_cons_of_mem _ hx)
    rw [List.flatMap_cons, List.splitOnP_cons_eq_if_modifyHead]
    by_cases hpart : part.isChar c = true
    · cases part with
      | comment x => cases hpart
      | char x =>
        have hx : (x == c) = true := hpart
        rw [if_pos hpart, hchar, List.singleton_append, Text.pieces, if_pos hx, ih]
        rfl
    · have hfree : ∀ x ∈ write part, (x == c) = false := by
        intro x hx
        refine beq_eq_false_iff_ne.2 ?_
        rintro rfl
        cases part with
        | char y =>
          rw [hchar, List.mem_singleton] at hx
          exact hpart (beq_iff_eq.2 hx.symm)
        | comment y => exact hlacks y List.mem_cons_self hx
      rw [if_neg hpart, Text.pieces_append _ hfree, ih]
      cases ps.splitOnP (Part.isChar c) <;> simp

theorem pieces_written (hlacks : Lacks ',' ps) :
    Text.pieces (· == ',') (written ps) = (clausesOf ps).map written :=
  pieces_flatMap_parts (fun _ => rfl) fun _ hx => hlacks _ hx rfl

theorem pieces_plain (ps : List Part) :
    Text.pieces (· == ',') (plain ps) = (clausesOf ps).map plain :=
  pieces_flatMap_parts (fun _ => rfl) fun _ _ => List.not_mem_nil

end Parts

/-! ## Reading clauses -/

/-- Trimming takes only blanks. -/
theorem mem_trimChars {c : Char} (hc : Text.isBlank c = false) {cs : List Char} (h : c ∈ cs) :
    c ∈ Import.trimChars cs :=
  Text.mem_dropEndWhile hc (Text.mem_dropWhile hc h)

theorem isPlain_of_isAsLetter {letter c : Char} (hletter : Text.isWord letter = true)
    (h : Import.isAsLetter letter c = true) : isPlain c = true := by
  refine isPlain_of_isNameChar (isNameChar_of_isWord ?_)
  simp only [Import.isAsLetter, Bool.or_eq_true, Bool.and_eq_true, beq_iff_eq] at h
  obtain h | ⟨-, h⟩ := h
  · rw [← Text.isWord_toLower, h]
    exact hletter
  · have hc : c = Char.ofNat 0x17F := by
      rw [← h, Char.ofNat_toNat]
    rw [hc]
    decide

/-- An alias is made of plain characters. -/
theorem isPlain_of_aliasSuffix? {cs name : List Char} (h : Import.aliasSuffix? cs = some name) :
    ∀ c ∈ cs, isPlain c = true := by
  simp only [Import.aliasSuffix?, List.span_eq_takeWhile_dropWhile] at h
  have hcs := List.takeWhile_append_dropWhile (p := Text.isBlank) (l := cs)
  have hblanks := List.all_eq_true.1 (List.all_takeWhile (p := Text.isBlank) (l := cs))
  split at h
  · rename_i a s more hrest
    have hmore := List.takeWhile_append_dropWhile (p := Text.isBlank) (l := more)
    have hblanks' := List.all_eq_true.1 (List.all_takeWhile (p := Text.isBlank) (l := more))
    split at h
    · rename_i hshape
      simp only [Bool.and_eq_true] at hshape
      obtain ⟨⟨⟨⟨⟨-, ha⟩, hs⟩, -⟩, -⟩, hname⟩ := hshape
      intro c hc
      rw [← hcs, hrest, ← hmore] at hc
      simp only [List.mem_append, List.mem_cons] at hc
      obtain hc | rfl | rfl | hc | hc := hc
      · exact isPlain_of_isBlank (hblanks c hc)
      · exact isPlain_of_isAsLetter (by decide) ha
      · exact isPlain_of_isAsLetter (by decide) hs
      · exact isPlain_of_isBlank (hblanks' c hc)
      · exact isPlain_of_isNameChar (isNameChar_of_isWord (List.all_eq_true.1 hname c hc))
    · cases h
  · cases h

theorem append_clauseName (cs : List Char) :
    ∃ lead, (∀ c ∈ lead, c = '\\') ∧ (∀ c ∈ (Import.clauseName cs).1, Import.isNameChar c = true) ∧
      cs = lead ++ (Import.clauseName cs).1 ++ (Import.clauseName cs).2 := by
  have hcs := List.takeWhile_append_dropWhile (p := Import.isNameChar) (l := cs)
  have hname := List.all_eq_true.1 (List.all_takeWhile (p := Import.isNameChar) (l := cs))
  simp only [Import.clauseName, List.span_eq_takeWhile_dropWhile]
  split
  · rename_i c more htake
    rw [htake] at hcs hname
    exact ⟨['\\'], by simp, fun x hx => hname x (List.mem_cons_of_mem _ hx), by simp [hcs]⟩
  · exact ⟨[], by simp, hname, by simp⟩

/-- **A clause that is read is made of plain characters.** -/
theorem isPlain_of_clause? {cs : List Char} {clause : List Char × Option (List Char)}
    (h : Import.clause? cs = some clause) : ∀ c ∈ cs, isPlain c = true := by
  obtain ⟨lead, hlead, hname, hcs⟩ := append_clauseName cs
  simp only [Import.clause?] at h
  have hrest : ∀ c ∈ (Import.clauseName cs).2, isPlain c = true := by
    split at h
    · cases h
    · split at h
      · rename_i hempty
        rw [List.isEmpty_iff.1 hempty]
        simp
      · obtain ⟨name, halias, -⟩ := Option.map_eq_some_iff.1 h
        exact isPlain_of_aliasSuffix? halias
  intro c hc
  rw [hcs, List.mem_append, List.mem_append] at hc
  obtain (hc | hc) | hc := hc
  · rw [hlead c hc]
    decide
  · exact isPlain_of_isNameChar (hname c hc)
  · exact hrest c hc

/-- **A clause with a comment in it imports nothing.** -/
theorem readClause?_written {base : Option (List Char)} {ps : List Part}
    (h : isRemarked ps = true) : readClause? base (Import.trimChars (written ps)) = none := by
  obtain ⟨m, hm, hmark⟩ := exists_mark_mem h
  have htrim := mem_trimChars (isBlank_of_isMark hmark) hm
  have hclause : Import.clause? (Import.trimChars (written ps)) = none := by
    refine Option.eq_none_iff_forall_ne_some.2 fun clause hclause => ?_
    have hplain := isPlain_of_clause? hclause m htrim
    rw [isPlain_of_isMark hmark] at hplain
    cases hplain
  simp [readClause?, Import.ofClause?, hclause]

theorem trimChars_append_blanks {before after : List Char}
    (hbefore : ∀ c ∈ before, Text.isBlank c = true) (hafter : ∀ c ∈ after, Text.isBlank c = true)
    (cs : List Char) : Import.trimChars (before ++ cs ++ after) = Import.trimChars cs := by
  have hstart : (before ++ cs ++ after).dropWhile Text.isBlank =
      (cs ++ after).dropWhile Text.isBlank := by
    rw [List.append_assoc, List.dropWhile_append_of_pos hbefore]
  have hend : ∀ l : List Char,
      Text.dropEndWhile Text.isBlank (l ++ after) = Text.dropEndWhile Text.isBlank l := by
    intro l
    have hreverse : ∀ c ∈ after.reverse, Text.isBlank c = true := by simpa using hafter
    rw [Text.dropEndWhile, List.reverse_append, List.dropWhile_append_of_pos hreverse,
      Text.dropEndWhile]
  rw [Import.trimChars, hstart, List.dropWhile_append, Import.trimChars]
  split
  · rename_i hblank
    rw [List.isEmpty_iff.1 hblank, List.dropWhile_eq_nil_iff.2 hafter]
  · exact hend _

/-- Blanks around clauses make no difference. -/
theorem readClauses_append_blanks (base : Option (List Char)) {before after : List Char}
    (hbefore : ∀ c ∈ before, Text.isBlank c = true) (hafter : ∀ c ∈ after, Text.isBlank c = true)
    (cs : List Char) : readClauses base (before ++ cs ++ after) = readClauses base cs := by
  have hcomma : ∀ {blanks : List Char}, (∀ c ∈ blanks, Text.isBlank c = true) →
      ∀ c ∈ blanks, (c == ',') = false :=
    fun hblanks c hc => ne_comma_of_isPlain (isPlain_of_isBlank (hblanks c hc))
  have hnone : ∀ c ∈ ([] : List Char), Text.isBlank c = true := List.forall_mem_nil _
  calc readClauses base (before ++ cs ++ after)
      = readClauses base (cs ++ after) := by
        obtain ⟨first, more, hpieces⟩ :=
          List.exists_cons_of_ne_nil (Text.pieces_ne_nil (· == ',') (cs ++ after))
        have hfirst := trimChars_append_blanks hbefore hnone first
        rw [List.append_nil] at hfirst
        rw [readClauses, readClauses, List.append_assoc, Text.pieces_append _ (hcomma hbefore),
          hpieces, List.modifyHead_cons, List.map_cons, List.map_cons, hfirst]
    _ = readClauses base cs := by
        obtain ⟨init, last, hpieces, happend⟩ := Text.exists_pieces_append (hcomma hafter) cs
        have hlast := trimChars_append_blanks hnone hafter last
        rw [List.nil_append] at hlast
        rw [readClauses, readClauses, hpieces, happend, List.map_append, List.map_append,
          List.map_singleton, List.map_singleton, hlast]

/-- **Of the clauses, those are read that no comment stands in.** -/
theorem readClauses_written (base : Option (List Char)) {ps : List Part} (hlacks : Lacks ',' ps) :
    readClauses base (written ps) = (clausesOf ps).filterMap fun clause =>
      if isRemarked clause then none else readClause? base (Import.trimChars (plain clause)) := by
  rw [readClauses, pieces_written hlacks, List.map_map, List.filterMap_map]
  refine List.filterMap_congr fun clause _ => ?_
  rw [Function.comp_apply, Function.comp_apply]
  split
  · rename_i hremarked
    exact readClause?_written hremarked
  · rename_i hremarked
    rw [written_eq_plain (Bool.eq_false_iff.2 hremarked)]

/-! ## Words before the clauses -/

/-- The text starts with a keyword and a blank. -/
theorem isSome_afterKeyword?_iff {word : String} {cs : List Char} :
    (Import.afterKeyword? word cs).isSome = true ↔
      ∃ k b, k.map Char.toLower = word.toList ∧ Text.isBlank b = true ∧ k ++ [b] <+: cs := by
  simp only [Import.afterKeyword?]
  constructor
  · intro h
    split at h
    · rename_i hstart
      rw [Bool.and_eq_true, beq_iff_eq] at hstart
      cases hrest : cs.drop word.length with
      | nil => simp [hrest] at hstart
      | cons b rest =>
        refine ⟨cs.take word.length, b, hstart.1, by simpa [hrest] using hstart.2, rest, ?_⟩
        rw [List.append_assoc, List.singleton_append, ← hrest, List.take_append_drop]
    · cases h
  · rintro ⟨k, b, hk, hb, rest, rfl⟩
    have hlength : word.length = k.length := by
      rw [← String.length_toList, ← hk, List.length_map]
    rw [List.append_assoc, List.singleton_append, hlength, List.take_left', List.drop_left']
    · simp [hk, hb]
    · rfl
    · rfl

/-- What is announced before the first comment is announced by the text itself. -/
theorem isForeign_plain {ps : List Part} {start : List Char} (hstart : start <+: written ps)
    (h : Import.isForeign start = true) : Import.isForeign (plain ps) = true := by
  obtain ⟨word, hword, hsome⟩ := (isForeign_iff start).1 h
  obtain ⟨k, b, hk, hb, hinitial⟩ := isSome_afterKeyword?_iff.1 hsome
  refine (isForeign_iff _).2 ⟨word, hword, isSome_afterKeyword?_iff.2 ⟨k, b, hk, hb, ?_⟩⟩
  refine prefix_plain (hinitial.trans hstart) fun c hc => isMark_of_isPlain ?_
  obtain hc | hc := List.mem_append.1 hc
  · have hisWord := Keyword.isWord ⟨k, hk⟩ (isWord_of_mem_foreignWords hword) c hc
    exact isPlain_of_isNameChar (isNameChar_of_isWord hisWord)
  · rw [List.mem_singleton.1 hc]
    exact isPlain_of_isBlank hb

/-- No keyword starts with a blank. -/
theorem isForeign_blank_cons {b : Char} (hb : Text.isBlank b = true) (cs : List Char) :
    Import.isForeign (b :: cs) = false := by
  refine isForeign_eq_false fun word hword => ?_
  rw [List.takeWhile_cons_of_neg (by simp [isNameChar_of_isBlank hb])]
  exact fun h => ne_nil_of_mem_foreignWords hword h.symm

end LayerLint.Syntax.Written
