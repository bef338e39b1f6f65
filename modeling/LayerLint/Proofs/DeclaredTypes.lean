import LayerLint.Syntax.DeclaredTypes
import LayerLint.Proofs.UseDeclaration

/-!
# The classes that a variable is declared to hold

A variable of a method may be declared twice over: as a parameter with a type, and by tags in
comments.  A tag lists types with bars between them and then names the variable.  Tags are read from
left to right, and the text around them is passed over.

* `StandsAt` — a tag stands at the front of a text, `read?_eq_some_iff` — there it is read;
* `Scanned` — the tags of a text one after the other, `scanned_iff` — these are the ones that are
  found;
* `Written` — all ways to write a tag, and `Comment` — all comments made of tags and other text;
* `Written.classes_tag` — the classes that are read of a tag are those that it lists;
* `Comment.scan_text` — the tags that were written into a comment are read out of it again;
* `declared_classes_in_order` — the classes of a variable, and where each of them comes from.

That tags do not run into each other rests on two things.  The characters of a type, of the blanks
around it and of a variable are of different sorts, so that each of them ends in one place only.  And
the sign at which a tag begins is found nowhere else in the word for it.
-/

set_option autoImplicit false

namespace LayerLint

open Syntax (Node)
open Syntax.Import (isNameChar)
open Syntax.Written (Word Gap)

namespace TypeTag

/-! ## Where tags stand -/

/-- A tag stands at the front of the characters, and its variable does not go on in the rest. -/
structure StandsAt (cs : List Char) (tag : TypeTag) (rest : List Char) : Prop where
  written : ∃ before after : Gap, cs =
    "@var".toList ++ (before.chars ++ (tag.type.toList ++ (after.chars ++
      '$' :: (tag.binding.toList ++ rest))))
  type_ne_nil : tag.type.toList ≠ []
  isTypeChar : ∀ c ∈ tag.type.toList, isTypeChar c = true
  binding_ne_nil : tag.binding.toList ≠ []
  isWord : ∀ c ∈ tag.binding.toList, Text.isWord c = true
  ends : ∀ c ∈ rest.head?, Text.isWord c = false

/-- The tags of a text from left to right, none overlapping another: a character is passed over only
    where no tag stands, and after a tag reading goes on behind it. -/
inductive Scanned : List Char → List TypeTag → Prop
  | done : Scanned [] []
  | skip {c : Char} {cs : List Char} {tags : List TypeTag}
      (free : ∀ tag rest, ¬ StandsAt (c :: cs) tag rest) (later : Scanned cs tags) :
      Scanned (c :: cs) tags
  | tag {cs rest : List Char} {tag : TypeTag} {tags : List TypeTag}
      (stands : StandsAt cs tag rest) (later : Scanned rest tags) : Scanned cs (tag :: tags)

theorem isBlank_of_isTypeChar {c : Char} (h : isTypeChar c = true) : Text.isBlank c = false := by
  simp only [isTypeChar, Bool.or_eq_true, beq_iff_eq] at h
  obtain ((rfl | rfl) | rfl) | h := h
  · decide
  · decide
  · decide
  · exact Text.isBlank_of_isWord h

theorem isTypeChar_of_isBlank {c : Char} (h : Text.isBlank c = true) : isTypeChar c = false := by
  refine Bool.eq_false_iff.2 fun htype => ?_
  rw [isBlank_of_isTypeChar htype] at h
  cases h

theorem standsAt_of_read? {cs rest : List Char} {tag : TypeTag}
    (h : read? cs = some (tag, rest)) : StandsAt cs tag rest := by
  simp only [read?, List.span_eq_takeWhile_dropWhile, bind, Option.bind_eq_some_iff] at h
  obtain ⟨body, hbody, h⟩ := h
  rw [List.isPrefixOf?_eq_some_iff_append_eq] at hbody
  split at h
  · rename_i more hmore
    split at h
    · cases h
    · rename_i hfull
      simp only [Bool.or_eq_true, List.isEmpty_iff, not_or] at hfull
      obtain ⟨⟨⟨hbefore, htype⟩, hafter⟩, hbinding⟩ := hfull
      cases h
      refine ⟨⟨⟨⟨_, List.all_takeWhile⟩, hbefore⟩, ⟨⟨_, List.all_takeWhile⟩, hafter⟩, ?_⟩, ?_, ?_,
        ?_, ?_, ?_⟩
      · simp only [String.toList_ofList]
        rw [List.takeWhile_append_dropWhile, ← hmore, List.takeWhile_append_dropWhile,
          List.takeWhile_append_dropWhile, List.takeWhile_append_dropWhile, hbody]
      · simpa only [String.toList_ofList] using htype
      · simpa only [String.toList_ofList] using List.all_eq_true.1 List.all_takeWhile
      · simpa only [String.toList_ofList] using hbinding
      · simpa only [String.toList_ofList] using List.all_eq_true.1 List.all_takeWhile
      · intro c hc
        have hstop := List.head?_dropWhile_not Text.isWord more
        rw [Option.mem_def.1 hc] at hstop
        simpa using hstop
  · cases h

namespace StandsAt

variable {cs rest : List Char} {tag : TypeTag}

theorem read?_eq (h : StandsAt cs tag rest) : read? cs = some (tag, rest) := by
  obtain ⟨⟨before, after, hcs⟩, htype, htypes, hbinding, hwords, hends⟩ := h
  have hvariable := Text.span_append hwords hends
  generalize hend : '$' :: (tag.binding.toList ++ rest) = last at hcs
  have hafter : (after.chars ++ last).span Text.isBlank = (after.chars, last) := by
    refine Text.span_append after.isBlank ?_
    subst hend
    rintro c ⟨⟩
    decide
  have hname : (tag.type.toList ++ (after.chars ++ last)).span TypeTag.isTypeChar =
      (tag.type.toList, after.chars ++ last) :=
    Text.span_append htypes (Text.head_append after.ne_nil
      (fun c hc => isTypeChar_of_isBlank (after.isBlank c hc)) last)
  have hbefore : (before.chars ++ (tag.type.toList ++ (after.chars ++ last))).span Text.isBlank =
      (before.chars, tag.type.toList ++ (after.chars ++ last)) :=
    Text.span_append before.isBlank (Text.head_append htype
      (fun c hc => isBlank_of_isTypeChar (htypes c hc)) _)
  rw [read?, List.isPrefixOf?_eq_some_iff_append_eq.2 hcs.symm]
  simp only [Option.bind_eq_bind, Option.bind_some, hbefore, hname, hafter]
  subst hend
  simp only [hvariable]
  simp [htype, hbinding, before.ne_nil, after.ne_nil]

theorem lead (h : StandsAt cs tag rest) : "@var".toList <+: cs := by
  obtain ⟨before, after, rfl⟩ := h.written
  exact List.prefix_append _ _

theorem length_lt (h : StandsAt cs tag rest) : rest.length < cs.length := by
  obtain ⟨before, after, rfl⟩ := h.written
  simp only [List.length_append, List.length_cons]
  omega

theorem ne_nil (h : StandsAt cs tag rest) : cs ≠ [] :=
  List.ne_nil_of_length_pos (Nat.zero_lt_of_lt h.length_lt)

end StandsAt

/-- A tag is read just where it stands. -/
theorem read?_eq_some_iff {cs rest : List Char} {tag : TypeTag} :
    read? cs = some (tag, rest) ↔ StandsAt cs tag rest :=
  ⟨standsAt_of_read?, StandsAt.read?_eq⟩

theorem scanned_scanUpTo : ∀ {fuel : Nat} {cs : List Char}, cs.length ≤ fuel →
    Scanned cs (scanUpTo fuel cs)
  | 0, [], _ => .done
  | _ + 1, [], _ => .done
  | fuel + 1, c :: cs, h => by
    rw [List.length_cons] at h
    rw [scanUpTo]
    split
    · rename_i tag rest hread
      have hstands := read?_eq_some_iff.1 hread
      have hshorter := hstands.length_lt
      rw [List.length_cons] at hshorter
      exact .tag hstands (scanned_scanUpTo (by omega))
    · rename_i hnone
      refine .skip (fun tag rest hstands => ?_) (scanned_scanUpTo (by omega))
      rw [read?_eq_some_iff.2 hstands] at hnone
      cases hnone

/-- There is one way only to read a text. -/
theorem Scanned.unique {cs : List Char} {tags found : List TypeTag} (h : Scanned cs tags)
    (hfound : Scanned cs found) : found = tags := by
  induction h generalizing found with
  | done =>
    cases hfound with
    | done => rfl
    | tag stands _ => exact absurd rfl stands.ne_nil
  | skip free _ ih =>
    cases hfound with
    | skip _ later => exact ih later
    | tag stands _ => exact absurd stands (free _ _)
  | tag stands _ ih =>
    cases hfound with
    | done => exact absurd rfl stands.ne_nil
    | skip free _ => exact absurd stands (free _ _)
    | tag other later =>
      have hsame := other.read?_eq.symm.trans stands.read?_eq
      cases hsame
      rw [ih later]

/-- **The tags that are found in a text are its tags.** -/
theorem scanned_iff {text : String} {found : List TypeTag} :
    Scanned text.toList found ↔ found = scan text := by
  have hscan : Scanned text.toList (scan text) := scanned_scanUpTo le_rfl
  refine ⟨fun h => hscan.unique h, ?_⟩
  rintro rfl
  exact hscan

/-! ## What a tag names -/

/-- The types of a tag, without the question marks before them. -/
def parts (tag : TypeTag) : List String :=
  (Text.split (· == '|') tag.type).map (Text.trimStart (· == '?'))

/-- The text may name a class: it is not empty, and in no case a word for another type. -/
def NamesClass (written : String) : Prop :=
  written ≠ "" ∧ Text.foldAscii written ∉ pseudoTypes

instance (written : String) : Decidable (NamesClass written) :=
  inferInstanceAs (Decidable (_ ∧ _))

theorem isClassLike_iff (written : String) : isClassLike written = true ↔ NamesClass written := by
  have hfolded : ∀ word ∈ pseudoTypes, Text.foldAscii word = word := by
    decide +kernel
  have hany : pseudoTypes.any (Text.sameFolded written) = true ↔
      Text.foldAscii written ∈ pseudoTypes := by
    rw [List.any_eq_true]
    constructor
    · rintro ⟨word, hword, hsame⟩
      rw [Text.sameFolded_iff, hfolded word hword] at hsame
      rwa [hsame]
    · intro hword
      refine ⟨_, hword, ?_⟩
      rw [Text.sameFolded_iff, hfolded _ hword]
  rw [isClassLike, NamesClass, Bool.and_eq_true, bne_iff_ne, Bool.not_eq_true',
    Bool.eq_false_iff, ne_eq, ne_eq, hany]

theorem classes_eq (tag : TypeTag) : tag.classes = tag.parts.filter fun w => NamesClass w := by
  refine List.filter_congr fun written _ => ?_
  rw [Bool.eq_iff_iff, isClassLike_iff, decide_eq_true_iff]

/-! ## Tags as they are written -/

/-- One of the types that a tag lists: the name of a class or a word for another type, possibly with
    a question mark before it. -/
structure Alternative where
  isNullable : Bool
  name : List Char
  ne_nil : name ≠ []
  all_isNameChar : name.all isNameChar = true

namespace Alternative

def chars (a : Alternative) : List Char :=
  if a.isNullable then '?' :: a.name else a.name

def text (a : Alternative) : String :=
  String.ofList a.name

end Alternative

/-- A tag in full. -/
structure Written where
  before : Gap
  first : Alternative
  more : List Alternative
  after : Gap
  binding : Word

namespace Written

/-- The types with bars between them. -/
def type (w : Written) : List Char :=
  w.first.chars ++ w.more.flatMap fun a => '|' :: a.chars

def chars (w : Written) : List Char :=
  "@var".toList ++ (w.before.chars ++ (w.type ++ (w.after.chars ++ '$' :: w.binding.chars)))

/-- What is to be read of the tag. -/
def tag (w : Written) : TypeTag where
  type := String.ofList w.type
  binding := w.binding.text

/-- The types that are classes, in order. -/
def classNames (w : Written) : List String :=
  ((w.first :: w.more).map Alternative.text).filter fun name =>
    Text.foldAscii name ∉ pseudoTypes

end Written

/-- A tag with what follows it up to the next one.  Its variable is over where the rest starts, and
    no other tag begins there. -/
structure Passage where
  tag : Written
  rest : List Char
  ends : ∀ c ∈ rest.head?, Text.isWord c = false
  free : ¬ "@var".toList <:+: rest

def Passage.chars (p : Passage) : List Char :=
  p.tag.chars ++ p.rest

/-- A comment with any number of tags in it. -/
structure Comment where
  lead : List Char
  free : ¬ "@var".toList <:+: lead
  passages : List Passage

namespace Comment

def text (k : Comment) : String :=
  String.ofList (k.lead ++ k.passages.flatMap Passage.chars)

def tags (k : Comment) : List Written :=
  k.passages.map Passage.tag

end Comment

/-! ## Reading what is written -/

theorem isTypeChar_of_isNameChar {c : Char} (h : isNameChar c = true) : isTypeChar c = true := by
  simp only [isNameChar, Bool.or_eq_true] at h
  simp only [isTypeChar, Bool.or_eq_true]
  exact h.imp (fun hc => .inl (.inl hc)) id

/-- Other marks than backslashes do not stand in names. -/
theorem ne_of_isNameChar {c mark : Char} (hmark : isNameChar mark = false)
    (h : isNameChar c = true) : (c == mark) = false := by
  refine beq_eq_false_iff_ne.2 ?_
  rintro rfl
  rw [hmark] at h
  cases h

namespace Alternative

variable (a : Alternative)

theorem isNameChar_of_mem : ∀ c ∈ a.name, isNameChar c = true :=
  List.all_eq_true.1 a.all_isNameChar

theorem chars_ne_nil : a.chars ≠ [] := by
  rw [chars]
  split
  · exact List.cons_ne_nil _ _
  · exact a.ne_nil

theorem mem_chars {c : Char} (h : c ∈ a.chars) : c = '?' ∨ isNameChar c = true := by
  rw [chars] at h
  split at h
  · exact (List.mem_cons.1 h).imp id (a.isNameChar_of_mem c)
  · exact .inr (a.isNameChar_of_mem c h)

theorem isTypeChar : ∀ c ∈ a.chars, TypeTag.isTypeChar c = true := by
  intro c hc
  obtain rfl | hname := a.mem_chars hc
  · rfl
  · exact isTypeChar_of_isNameChar hname

theorem ne_bar : ∀ c ∈ a.chars, (c == '|') = false := by
  intro c hc
  obtain rfl | hname := a.mem_chars hc
  · rfl
  · exact ne_of_isNameChar (by decide) hname

/-- The question mark is taken off. -/
theorem trimStart_chars : Text.trimStart (· == '?') (String.ofList a.chars) = a.text := by
  have hhead : ∀ c ∈ a.text.toList.head?, (c == '?') = false := by
    intro c hc
    rw [text, String.toList_ofList] at hc
    exact ne_of_isNameChar (by decide) (a.isNameChar_of_mem c (List.mem_of_mem_head? hc))
  rw [Text.trimStart_eq_iff hhead, text, String.toList_ofList, String.toList_ofList, chars]
  split
  · exact ⟨['?'], by simp, rfl⟩
  · exact ⟨[], by simp, rfl⟩

theorem text_ne_empty : a.text ≠ "" := by
  intro h
  have hnil := congrArg String.toList h
  rw [text, String.toList_ofList] at hnil
  exact a.ne_nil hnil

end Alternative

namespace Written

variable (w : Written)

theorem parts_tag : w.tag.parts = (w.first :: w.more).map Alternative.text := by
  have hpieces : Text.pieces (· == '|') w.type = (w.first :: w.more).map Alternative.chars :=
    Text.pieces_flatMap (by rfl) Alternative.ne_bar w.more w.first
  rw [parts, tag, Text.split, String.toList_ofList, hpieces, List.map_map, List.map_map]
  exact List.map_congr_left fun a _ => a.trimStart_chars

/-- The classes that are read are those that the tag lists. -/
theorem classes_tag : w.tag.classes = w.classNames := by
  rw [classes_eq, parts_tag, classNames]
  refine List.filter_congr fun name hname => ?_
  obtain ⟨a, -, rfl⟩ := List.mem_map.1 hname
  rw [decide_eq_decide]
  exact and_iff_right a.text_ne_empty

theorem type_ne_nil : w.type ≠ [] := by
  rw [type, ne_eq, List.append_eq_nil_iff, not_and]
  exact fun h => absurd h w.first.chars_ne_nil

theorem isTypeChar : ∀ c ∈ w.type, TypeTag.isTypeChar c = true := by
  intro c hc
  simp only [type, List.mem_append, List.mem_flatMap, List.mem_cons] at hc
  obtain hc | ⟨a, -, rfl | hc⟩ := hc
  · exact w.first.isTypeChar c hc
  · rfl
  · exact a.isTypeChar c hc

theorem standsAt {rest : List Char} (hrest : ∀ c ∈ rest.head?, Text.isWord c = false) :
    StandsAt (w.chars ++ rest) w.tag rest where
  written := ⟨w.before, w.after, by simp [chars, tag, Word.text]⟩
  type_ne_nil := by simpa [tag] using w.type_ne_nil
  isTypeChar := by simpa [tag] using w.isTypeChar
  binding_ne_nil := by simpa [tag, Word.text] using w.binding.ne_nil
  isWord := by simpa [tag, Word.text] using w.binding.isWord
  ends := hrest

end Written

/-- Text without a tag is passed over, also right before a tag. -/
theorem Scanned.append_left {rest : List Char} {tags : List TypeTag} (h : Scanned rest tags)
    (hrest : ∀ x ∈ rest.head?, x = '@') : ∀ {text : List Char}, ¬ "@var".toList <:+: text →
      Scanned (text ++ rest) tags
  | [], _ => h
  | c :: text, hfree => by
    have hstart : ¬ '@' :: "var".toList <+: c :: text ++ rest :=
      Text.not_prefix_append (by decide) (fun hlead => hfree hlead.isInfix) hrest
    have hlater := h.append_left hrest fun hin =>
      hfree (hin.trans (List.suffix_cons c text).isInfix)
    exact .skip (fun _ _ stands => hstart stands.lead) hlater

theorem head_passages (passages : List Passage) :
    ∀ c ∈ (passages.flatMap Passage.chars).head?, c = '@' := by
  cases passages with
  | nil => simp
  | cons p passages =>
    rintro c ⟨⟩
    rfl

theorem scanned_passages : ∀ passages : List Passage,
    Scanned (passages.flatMap Passage.chars) (passages.map fun p => p.tag.tag)
  | [] => .done
  | p :: passages => by
    have hlater := (scanned_passages passages).append_left (head_passages passages) p.free
    rw [List.flatMap_cons, Passage.chars, List.append_assoc]
    refine .tag (p.tag.standsAt ?_) hlater
    intro c hc
    rw [List.head?_append, Option.mem_def, Option.or_eq_some_iff] at hc
    obtain hc | ⟨-, hc⟩ := hc
    · exact p.ends c hc
    · rw [head_passages passages c hc]
      decide

/-- **The tags of a comment are read back, one by one and in order.** -/
theorem Comment.scan_text (k : Comment) : scan k.text = k.tags.map Written.tag := by
  have hscanned := (scanned_passages k.passages).append_left (head_passages k.passages) k.free
  rw [tags, List.map_map]
  refine (scanned_iff.1 ?_).symm
  rwa [text, String.toList_ofList]

end TypeTag

/-! ## Types of a variable -/

namespace SourceFile

/-- The nodes that name a class in the type of a parameter: the type itself if it is a name, and
    otherwise the named types in it. -/
def classNodes (type : Node) : List Node :=
  if type.kind = .name ∨ type.kind = .qualifiedName then [type]
  else type.preorder.filter fun n => n.kind = .namedType

/-- The types of the parameters that bind a variable, as far as they have one. -/
def parameterTypes (file : SourceFile) (method : Node) (b : String) : List Node :=
  (method.methodParameters.filter fun p => p.binding? file.source = some b).filterMap
    (Node.child? · .type)

variable (file : SourceFile)

theorem namedTypes_eq (type : Node) : file.namedTypes type = (classNodes type).map file.text := by
  rw [namedTypes, classNodes, Node.findAll_eq_filter_preorder, apply_ite (List.map file.text)]
  simp only [Node.isClassName, Bool.or_eq_true, beq_iff_eq]
  rfl

theorem parameterClasses_eq (method : Node) (b : String) :
    file.parameterClasses method b =
      ((file.parameterTypes method b).flatMap classNodes).map fun n =>
        file.names.resolve (file.text n) := by
  rw [parameterTypes, List.filterMap_eq_flatMap_toList, List.flatMap_assoc, List.map_flatMap,
    parameterClasses]
  simp only [beq_eq_decide]
  refine List.flatMap_congr fun p _ => ?_
  cases p.child? .type with
  | none => rfl
  | some type => simp [namedTypes_eq]

theorem commentClasses_eq (comment : Node) (b : String) :
    file.commentClasses comment b =
      (((TypeTag.scan (file.text comment)).filter fun tag => tag.binding = b).flatMap
        TypeTag.classes).map file.names.resolve := by
  rw [commentClasses, List.map_flatMap]
  rfl

theorem commentClasses_of_text {comment : Node} {k : TypeTag.Comment}
    (h : file.text comment = k.text) (b : String) :
    file.commentClasses comment b =
      ((k.tags.filter fun w => w.binding.text = b).flatMap TypeTag.Written.classNames).map
        file.names.resolve := by
  rw [commentClasses_eq, h, k.scan_text, List.filter_map, List.flatMap_map]
  exact congrArg _ (List.flatMap_congr fun w _ => w.classes_tag)

/-- **The classes that a variable is declared to hold.**  First come those that are named in the
    types of the parameters that bind it, in order, and then those from the comments inside of the
    method, in pre-order.  All of them are resolved in the file.

    The tags of a comment are determined by its text.  A comment gives a variable the class-like
    parts of the types in its tags for the variable.

    For a comment that is put together from tags and other text these are the types that the tags
    for the variable list, in order and without the words for types that are no classes.  A tag for
    another variable adds nothing and takes nothing away, however its name begins or ends. -/
theorem declared_classes_in_order (method : Node) (b : String) :
    file.bindingClasses method b =
      ((file.parameterTypes method b).flatMap classNodes).map
        (fun n => file.names.resolve (file.text n)) ++
      (method.preorder.filter fun n => n.kind = .comment).flatMap (file.commentClasses · b) ∧
    (∀ comment, ∃ tags,
      (∀ found, TypeTag.Scanned (file.text comment).toList found ↔ found = tags) ∧
      file.commentClasses comment b =
        (((tags.filter fun tag => tag.binding = b).flatMap TypeTag.parts).filter
          fun name => TypeTag.NamesClass name).map file.names.resolve) ∧
    ∀ (comment : Node) (k : TypeTag.Comment), file.text comment = k.text →
      file.commentClasses comment b =
        ((k.tags.filter fun w => w.binding.text = b).flatMap TypeTag.Written.classNames).map
          file.names.resolve := by
  refine ⟨?_, fun comment => ?_, fun comment k h => file.commentClasses_of_text h b⟩
  · rw [bindingClasses, parameterClasses_eq, Node.findAll_eq_filter_preorder]
    rfl
  · refine ⟨TypeTag.scan (file.text comment), fun found => TypeTag.scanned_iff, ?_⟩
    rw [commentClasses_eq, List.filter_flatMap]
    exact congrArg _ (List.flatMap_congr fun tag _ => tag.classes_eq)

/-- A comment with three tags, of which the second is for a longer variable than the other two. -/
def mixedComment : TypeTag.Comment where
  lead := "/** ".toList
  free := mt (Text.isSome_cutAtFirst?_iff _ _).2 (by decide)
  passages := [
    { tag := {
        before := .space
        first := ⟨true, "Goal".toList, by decide, by decide⟩
        more := [⟨false, "NULL".toList, by decide, by decide⟩,
          ⟨false, "D".toList, by decide, by decide⟩]
        after := .space
        binding := ⟨"b".toList, by decide, by decide⟩ }
      rest := [' ', ',']
      ends := by
        rintro c ⟨⟩
        decide
      free := mt (Text.isSome_cutAtFirst?_iff _ _).2 (by decide) },
    { tag := {
        before := .space
        first := ⟨false, "E".toList, by decide, by decide⟩
        more := []
        after := .space
        binding := ⟨"bb".toList, by decide, by decide⟩ }
      rest := []
      ends := by simp
      free := mt (Text.isSome_cutAtFirst?_iff _ _).2 (by decide) },
    { tag := {
        before := .space
        first := ⟨false, "\\F".toList, by decide, by decide⟩
        more := []
        after := .space
        binding := ⟨"b".toList, by decide, by decide⟩ }
      rest := ['*', '/']
      ends := by
        rintro c ⟨⟩
        decide
      free := mt (Text.isSome_cutAtFirst?_iff _ _).2 (by decide) }]

/-- The variable is a parameter as well, and the tag for the longer variable is passed over. -/
theorem declared_classes_in_order_mixed :
    let file := SourceFile.parse ⟨"A.php"⟩
      ("<?php class A\x7bfunction f(A $b)\x7b" ++
        "/** @var ?Goal|NULL|D $b ,@var E $bb@var \\F $b*/\x7d\x7d")
    ∃ method comment, method.preorder.filter (fun n => n.kind = .comment) = [comment] ∧
      file.text comment = mixedComment.text ∧
      file.bindingClasses method "b" = ["A", "Goal", "D", "F"] := by
  intro file
  have hfacts : ((file.root.preorder.find? fun n => n.kind == .methodDeclaration).any fun method =>
      ((file.parameterTypes method "b").flatMap classNodes).map
        (fun n => file.names.resolve (file.text n)) == ["A"] &&
      (method.preorder.filter fun n => n.kind = .comment).map file.text ==
        [mixedComment.text]) = true := by
    decide +kernel
  have hlisted : ((mixedComment.tags.filter fun w => w.binding.text = "b").flatMap
      TypeTag.Written.classNames).map file.names.resolve = ["Goal", "D", "F"] := by
    decide +kernel
  simp only [Bool.and_eq_true, Option.any_eq_true, beq_iff_eq] at hfacts
  obtain ⟨method, -, hparameters, hcomments⟩ := hfacts
  obtain ⟨comment, hcomment, htext⟩ := List.map_eq_singleton_iff.1 hcomments
  obtain ⟨horder, -, hwritten⟩ := declared_classes_in_order file method "b"
  refine ⟨method, comment, hcomment, htext, ?_⟩
  rw [horder, hparameters, hcomment, List.flatMap_singleton, hwritten comment mixedComment htext,
    hlisted]
  rfl

end SourceFile

end LayerLint
