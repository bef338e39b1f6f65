import LayerLint.Syntax.Grammar
import LayerLint.Syntax.Source
import Mathlib.Data.List.TakeDrop

/-!
# What rules of the grammar read

A rule takes a reader to what it has read and to the reader after it.  The lemmas `run_…` say this for
the rules from which all others are made, so that a rule is run by rewriting.

* `Reader.StandsIn` — the reader stands at its place in the source; a token that it reads has the
  characters read as its text (`StandsIn.slice_eq`);
* `trivia_of_settled` — nothing is passed over where a token starts;
* `Repeats` — the rounds of a repetition, which gives what they read one after another if there are
  enough rounds (`Repeats.many_eq`, and `Repeats.statementsUpTo_eq` for the statements of a file);
* `group_append` — a node is made from what was read, and comments in front of it stay outside.
-/

set_option autoImplicit false

namespace LayerLint.Syntax.Grammar

/-! ## Bytes and characters -/

theorem foldl_utf8Size (cs : List Char) (n : Nat) :
    cs.foldl (fun n c => n + c.utf8Size) n = n + byteSize cs := by
  unfold byteSize
  induction cs generalizing n with
  | nil => rfl
  | cons c cs ih =>
    rw [List.foldl_cons, List.foldl_cons, ih, ih (0 + c.utf8Size)]
    omega

theorem byteSize_append (cs ds : List Char) : byteSize (cs ++ ds) = byteSize cs + byteSize ds := by
  rw [byteSize, List.foldl_append, foldl_utf8Size ds]
  rfl

theorem byteSize_cons (c : Char) (cs : List Char) :
    byteSize (c :: cs) = c.utf8Size + byteSize cs := by
  rw [byteSize, List.foldl_cons, foldl_utf8Size, Nat.zero_add]

theorem size_utf8Encode (cs : List Char) : cs.utf8Encode.size = byteSize cs := by
  induction cs with
  | nil => rfl
  | cons c cs ih =>
    rw [List.utf8Encode_cons, ByteArray.size_append, List.utf8Encode_singleton,
      List.size_toByteArray, String.length_utf8EncodeChar, ih, byteSize_cons]

theorem length_le_byteSize (cs : List Char) : cs.length ≤ byteSize cs := by
  induction cs with
  | nil => exact Nat.le_refl _
  | cons c cs ih =>
    have hpos := c.utf8Size_pos
    rw [byteSize_cons, List.length_cons]
    omega

/-- Between the sizes of two beginnings of a text stands what the longer one adds. -/
theorem slice_ofList (before middle after : List Char) :
    Source.slice ⟨String.ofList (before ++ (middle ++ after))⟩ (byteSize before)
      (byteSize before + byteSize middle) = String.ofList middle := by
  have hextract : (before ++ (middle ++ after)).utf8Encode.extract (byteSize before)
      (byteSize before + byteSize middle) = middle.utf8Encode := by
    rw [List.utf8Encode_append, List.utf8Encode_append, ← size_utf8Encode before]
    have hskip := ByteArray.extract_append_size_add (a := before.utf8Encode)
      (b := middle.utf8Encode ++ after.utf8Encode) (i := 0) (j := byteSize middle)
    rw [Nat.add_zero] at hskip
    rw [hskip]
    exact ByteArray.extract_append_eq_left (size_utf8Encode middle).symm
  have hvalid : middle.utf8Encode.IsValidUTF8 := (String.ofList middle).isValidUTF8
  rw [Source.slice, Source.bytes, String.toUTF8, String.toByteArray_ofList, hextract,
    String.fromUTF8?, dif_pos hvalid]
  rfl

/-! ## Readers -/

namespace Reader

/-- The reader after some characters, of which nothing is left to tell. -/
def past (r : Reader) (n : Nat) : Reader :=
  { r with
    rest := r.rest.drop n
    pos := r.pos + byteSize (r.rest.take n)
    closed := false
    comments := [] }

@[simp] theorem comments_past (r : Reader) (n : Nat) : (r.past n).comments = [] := rfl

@[simp] theorem closed_past (r : Reader) (n : Nat) : (r.past n).closed = false := rfl

theorem past_past (r : Reader) (m n : Nat) : (r.past m).past n = r.past (m + n) := by
  have hpos : byteSize (r.rest.take (m + n)) =
      byteSize (r.rest.take m) + byteSize ((r.rest.drop m).take n) := by
    rw [List.take_add, byteSize_append]
  simp [past, List.drop_drop, hpos, Nat.add_assoc]

/-- The reader stands in the source at the place that its offset says. -/
def StandsIn (r : Reader) (source : Source) : Prop :=
  ∃ before, source.text = String.ofList (before ++ r.rest) ∧ r.pos = byteSize before

theorem StandsIn.past {r : Reader} {source : Source} (h : r.StandsIn source) (n : Nat) :
    (r.past n).StandsIn source := by
  obtain ⟨before, htext, hpos⟩ := h
  refine ⟨before ++ r.rest.take n, ?_, ?_⟩
  · rw [htext, List.append_assoc, Reader.past, List.take_append_drop]
  · rw [Reader.past, byteSize_append, hpos]

/-- **The text of what was read are the characters read.** -/
theorem StandsIn.slice_eq {r : Reader} {source : Source} (h : r.StandsIn source) (n : Nat) :
    source.slice r.pos (r.past n).pos = String.ofList (r.rest.take n) := by
  obtain ⟨before, htext, hpos⟩ := h
  have hslice := slice_ofList before (r.rest.take n) (r.rest.drop n)
  rw [List.take_append_drop, ← htext, ← hpos] at hslice
  exact hslice

end Reader

/-! ## Running rules -/

section

variable {α β : Type}

@[simp] theorem run_bind (p : Parser α) (f : α → Parser β) (r : Reader) :
    (p >>= f) r = (p r).bind fun x => f x.1 x.2 := rfl

@[simp] theorem run_pure (a : α) (r : Reader) : (pure a : Parser α) r = some (a, r) := rfl

@[simp] theorem run_failure (r : Reader) : (failure : Parser α) r = none := rfl

@[simp] theorem run_get (r : Reader) : (get : Parser Reader) r = some (r, r) := rfl

@[simp] theorem run_rest (r : Reader) : rest r = some (r.rest, r) := rfl

@[simp] theorem run_peekSign (r : Reader) : peekSign r = some (sign? r.rest, r) := rfl

@[simp] theorem run_atSign (s : String) (r : Reader) :
    atSign s r = some (sign? r.rest == some s, r) := rfl

@[simp] theorem run_peekWord (r : Reader) :
    peekWord r = some ((word? r.rest).map fun w => String.ofList (w.map Char.toLower), r) := rfl

@[simp] theorem run_ahead (p : Parser α) (r : Reader) :
    ahead p r = some ((p r).map Prod.fst, r) := rfl

@[simp] theorem run_rounds (r : Reader) : rounds r = some (r.size - r.pos + 2, r) := rfl

@[simp] theorem run_atTagEnd (r : Reader) :
    atTagEnd r = some (r.closed && !r.bracketed, r) := rfl

@[simp] theorem run_furtherSign (r : Reader) :
    furtherSign r = some (if r.closed && !r.bracketed then none else sign? r.rest, r) := by
  change (if r.closed && !r.bracketed then (return none) else peekSign : Parser (Option String)) r = _
  cases r.closed && !r.bracketed <;> rfl

theorem run_within (bracketed : Bool) (p : Parser α) (r : Reader) :
    within bracketed p r =
      (p { r with bracketed }).map fun x => (x.1, { x.2 with bracketed := r.bracketed }) := by
  change (p { r with bracketed }).bind (fun x =>
    some (x.1, { x.2 with bracketed := r.bracketed })) = _
  cases p { r with bracketed } <;> rfl

@[simp] theorem run_seq_nil (r : Reader) : seq [] r = some ([], r) := rfl

@[simp] theorem run_seq_cons (p : Parser Forest) (ps : List (Parser Forest)) (r : Reader) :
    seq (p :: ps) r = (p r).bind fun x => (seq ps x.2).map fun y => (x.1 ++ y.1, y.2) := by
  rw [seq, run_bind]
  refine congrArg _ (funext fun x => ?_)
  rw [run_bind]
  cases seq ps x.2 <;> rfl

@[simp] theorem run_node (kind : Kind) (ps : List (Parser Forest)) (r : Reader) :
    node kind ps r = (seq ps r).map fun x => (group kind x.1, x.2) := by
  rw [node, run_bind]
  cases seq ps r <;> rfl

@[simp] theorem run_rawToken (kind : Kind) (n : Nat) (r : Reader) :
    rawToken kind n r =
      some (r.comments ++ [.mk kind .none r.pos (r.past n).pos []], r.past n) := rfl

@[simp] theorem run_token (kind : Kind) (n : Nat) (r : Reader) :
    token kind n r = (trivia (r.past n)).map fun x =>
      (r.comments ++ [.mk kind .none r.pos (r.past n).pos []], x.2) := by
  rw [token, run_bind, run_rawToken, Option.bind_some, run_bind]
  cases trivia (r.past n) <;> rfl

theorem run_sign {s : String} {r : Reader} (h : sign? r.rest = some s) :
    sign s r = token .symbol s.length r := by
  simp [sign, require, h]

theorem run_sign_of_ne {s : String} {r : Reader} (h : sign? r.rest ≠ some s) :
    sign s r = none := by
  simp [sign, require, h]

end

/-! ## Between tokens -/

/-- Neither blanks nor a comment nor a closing tag stand at the front. -/
def Settled (cs : List Char) : Prop :=
  ∀ c ∈ cs.head?, isSpace c = false ∧ c ≠ '?' ∧ c ≠ '/' ∧ c ≠ '#'

theorem comment?_eq_none {c : Char} (pos : Nat) (cs : List Char) (hslash : c ≠ '/')
    (hhash : c ≠ '#') : comment? pos (c :: cs) = none := by
  simp [comment?, hslash, hhash]

theorem skipTrivia_of_settled (fuel : Nat) {r : Reader} (h : Settled r.rest) :
    skipTrivia fuel r = some r := by
  cases fuel with
  | zero => rfl
  | succ fuel =>
    cases hrest : r.rest with
    | nil => simp [skipTrivia, hrest]
    | cons c cs =>
      obtain ⟨hspace, hquestion, hslash, hhash⟩ := h c (by simp [hrest])
      simp [skipTrivia, hrest, hquestion, hspace, comment?_eq_none r.pos cs hslash hhash]

/-- **Where a token starts, nothing is passed over.** -/
theorem trivia_of_settled {r : Reader} {n : Nat} (h : Settled (r.past n).rest) :
    trivia (r.past n) = some ((), r.past n) := by
  rw [trivia, skipTrivia_of_settled _ (by exact h)]
  rfl

/-- Before a token one blank is passed over. -/
theorem trivia_of_blank {r : Reader} {cs : List Char} (hrest : r.rest = ' ' :: cs)
    (hcs : Settled cs) : trivia r = some ((), r.past 1) := by
  have hspace : isSpace ' ' = true := by decide
  have hpast : r.past 1 =
      { r with rest := cs, pos := r.pos + ' '.utf8Size, closed := false, comments := [] } := by
    rw [Reader.past, hrest]
    rfl
  have hsettled (fuel : Nat) : skipTrivia fuel (r.past 1) = some (r.past 1) := by
    refine skipTrivia_of_settled fuel ?_
    rw [hpast]
    exact hcs
  rw [hpast] at hsettled ⊢
  simp [trivia, skipTrivia, hrest, hspace, hsettled]

/-! ## Repetitions -/

/-- The rounds of a repetition, with what they read, up to the reader at which it ends. -/
inductive Repeats (more : Parser Bool) (p : Parser Forest) : Reader → List Forest → Reader → Prop
  | stop {r : Reader} (hmore : more r = some (false, r)) : Repeats more p r [] r
  | round {r s t : Reader} {forest : Forest} {forests : List Forest}
      (hmore : more r = some (true, r)) (hread : p r = some (forest, s))
      (hrest : Repeats more p s forests t) : Repeats more p r (forest :: forests) t

section

variable {more : Parser Bool} {p : Parser Forest} {r s : Reader} {forests : List Forest}

theorem Repeats.repeatUpTo_eq (h : Repeats more p r forests s) {fuel : Nat}
    (hfuel : forests.length < fuel) (done : Forest) :
    repeatUpTo more p fuel done r = some (done.reverse ++ forests.flatten, s) := by
  induction h generalizing fuel done with
  | stop hmore =>
    obtain ⟨fuel, rfl⟩ := Nat.exists_eq_succ_of_ne_zero (Nat.ne_of_gt hfuel)
    simp [repeatUpTo, hmore]
  | round hmore hread _ ih =>
    obtain ⟨fuel, rfl⟩ := Nat.exists_eq_succ_of_ne_zero (Nat.ne_of_gt (Nat.zero_lt_of_lt hfuel))
    rw [List.length_cons] at hfuel
    simp [repeatUpTo, hmore, hread, ih (by omega : _ < fuel)]

/-- **A repetition with enough rounds gives what its rounds read, one after another.** -/
theorem Repeats.many_eq (h : Repeats more p r forests s)
    (hrounds : forests.length < r.size - r.pos + 2) :
    many more p r = some (forests.flatten, s) := by
  simp [many, h.repeatUpTo_eq hrounds []]

end

/-- **The statements of a file are read up to its end** if there are rounds enough for them. -/
theorem Repeats.statementsUpTo_eq {statement : Parser Forest} {r s : Reader}
    {forests : List Forest}
    (h : Repeats (do return !(← rest).isEmpty) statement r forests s) {fuel : Nat}
    (hfuel : forests.length < fuel) (done : Forest) :
    statementsUpTo statement fuel done r =
      (done.reverse ++ (forests.flatten ++ s.comments), true) := by
  induction h generalizing fuel done with
  | @stop r hmore =>
    obtain ⟨fuel, rfl⟩ := Nat.exists_eq_succ_of_ne_zero (Nat.ne_of_gt hfuel)
    have hempty : r.rest.isEmpty = true := by simpa using hmore
    simp [statementsUpTo, hempty]
  | @round r s t forest forests hmore hread _ ih =>
    obtain ⟨fuel, rfl⟩ := Nat.exists_eq_succ_of_ne_zero (Nat.ne_of_gt (Nat.zero_lt_of_lt hfuel))
    rw [List.length_cons] at hfuel
    have hleft : r.rest.isEmpty = false := by simpa using hmore
    simp [statementsUpTo, hleft, hread, ih (by omega : _ < fuel)]

/-! ## Nodes -/

theorem group_append (kind : Kind) {comments : Forest} (hcomments : ∀ c ∈ comments, c.isComment = true)
    {first : Node} (hfirst : first.isComment = false) (forest : Forest) :
    group kind (comments ++ first :: forest) =
      comments ++ [Node.ofChildren kind (first :: forest)] := by
  have hspan : (comments ++ first :: forest).span Node.isComment = (comments, first :: forest) := by
    rw [List.span_eq_takeWhile_dropWhile, List.takeWhile_append_of_pos hcomments,
      List.dropWhile_append_of_pos hcomments, List.takeWhile_cons_of_neg (by simp [hfirst]),
      List.dropWhile_cons_of_neg (by simp [hfirst]), List.append_nil]
  rw [group, hspan]
  rfl

theorem ofChildren_concat (kind : Kind) (first last : Node) (middle : Forest) :
    Node.ofChildren kind (first :: (middle ++ [last])) =
      .mk kind .none first.start last.stop (first :: (middle ++ [last])) := by
  rw [Node.ofChildren, ← List.cons_append, List.getLast?_concat]
  rfl

theorem group_pair (kind : Kind) {first : Node} (hfirst : first.isComment = false) (last : Node) :
    group kind [first, last] = [.mk kind .none first.start last.stop [first, last]] := by
  have hgroup := group_append kind (List.forall_mem_nil _) hfirst [last]
  rw [List.nil_append, List.nil_append] at hgroup
  rw [hgroup]
  exact congrArg (fun n => [n]) (ofChildren_concat kind first last [])

end LayerLint.Syntax.Grammar
