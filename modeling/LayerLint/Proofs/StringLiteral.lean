import LayerLint.Proofs.Reading
import LayerLint.Syntax.StringLiteral
import Mathlib.Tactic.SplitIfs

/-!
# String literals stand for the texts they were written from

A text is written between quotes character by character (`Quote.Writes`), with the escapes that the
quote asks for; line breaks and tabs may also stand as they are.  A `Literal` is a text with the
quotes and the letter around it.

* `Quote.Writes.unescape_eq` — what was written between quotes stands for the text;
* `Quote.unescape_eq_self_iff` — what is between quotes stands for itself if no escape is in it, and
  only then;
* `run_primary` — a literal is read up to its last quote, as one node with nothing but text inside;
* `stringLiteral?_eq_text` — the value of a node with the characters of a literal is the text;
* `program_file` — a file of literals is read without errors and has these strings and no others;
* `stand_for_their_texts` — all of it, for every text.
-/

set_option autoImplicit false

namespace LayerLint.Syntax

namespace Quote

/-! ## Writing a text -/

/-- A character as it may be written between the quotes: with the escape that the quote asks for, or
    raw if it is a line break or a tab. -/
def Spells (q : Quote) (c : Char) (piece : List Char) : Prop :=
  piece = q.escapeChar c ∨ ((c = '\n' ∨ c = '\t') ∧ piece = [c])

/-- A text as it may be written between the quotes, character by character. -/
inductive Writes (q : Quote) : List Char → List Char → Prop
  | nil : Writes q [] []
  | cons {c : Char} {piece cs body : List Char} (hfirst : q.Spells c piece)
      (hrest : Writes q cs body) : Writes q (c :: cs) (piece ++ body)

theorem writes_flatMap_escapeChar (q : Quote) (cs : List Char) :
    q.Writes cs (cs.flatMap q.escapeChar) := by
  induction cs with
  | nil => exact .nil
  | cons c cs ih =>
    rw [List.flatMap_cons]
    exact .cons (.inl rfl) ih

/-- The character stands for itself between the quotes. -/
structure IsPlain (q : Quote) (c : Char) : Prop where
  ne_backslash : c ≠ '\\'
  ne_char : c ≠ q.char
  ne_dollar : q = double → c ≠ '$'

theorem escapeChar_cases (q : Quote) (c : Char) :
    (∃ e, q.escapeChar c = ['\\', e] ∧ q.escaped? e = some c) ∨
      (q.escapeChar c = [c] ∧ q.IsPlain c) := by
  cases q with
  | single =>
    simp only [escapeChar, Bool.or_eq_true, beq_iff_eq]
    split_ifs with h
    · obtain rfl | rfl := h
      · exact .inl ⟨_, rfl, rfl⟩
      · exact .inl ⟨_, rfl, rfl⟩
    · obtain ⟨hback, hquote⟩ := not_or.1 h
      exact .inr ⟨rfl, hback, hquote, fun hq => nomatch hq⟩
  | double =>
    simp only [escapeChar, Bool.or_eq_true, beq_iff_eq, or_assoc]
    split_ifs with h hn ht
    · obtain rfl | rfl | rfl := h
      · exact .inl ⟨_, rfl, rfl⟩
      · exact .inl ⟨_, rfl, rfl⟩
      · exact .inl ⟨_, rfl, rfl⟩
    · subst c
      exact .inl ⟨_, rfl, rfl⟩
    · subst c
      exact .inl ⟨_, rfl, rfl⟩
    · simp only [not_or] at h
      exact .inr ⟨rfl, h.1, h.2.1, fun _ => h.2.2⟩

/-- The two ways to write a character: a backslash and the letter that stands for it, or itself. -/
theorem Spells.cases {q : Quote} {c : Char} {piece : List Char} (h : q.Spells c piece) :
    (∃ e, piece = ['\\', e] ∧ q.escaped? e = some c) ∨ (piece = [c] ∧ q.IsPlain c) := by
  obtain rfl | ⟨hblank, rfl⟩ := h
  · exact escapeChar_cases q c
  · refine .inr ⟨rfl, ?_⟩
    obtain rfl | rfl := hblank <;> cases q <;> exact ⟨by decide, by decide, fun _ => by decide⟩

/-! ## Reading it back -/

theorem escaped?_backslash (q : Quote) : q.escaped? '\\' = some '\\' := by
  cases q <;> rfl

theorem unescape_escape {q : Quote} {e c : Char} (h : q.escaped? e = some c) (cs : List Char) :
    q.unescape ('\\' :: e :: cs) = c :: q.unescape cs := by
  simp [unescape, h]

theorem unescape_plain (q : Quote) {c : Char} (h : c ≠ '\\') (cs : List Char) :
    q.unescape (c :: cs) = c :: q.unescape cs := by
  simp [unescape, h]

/-- **What was written between quotes stands for the text.** -/
theorem Writes.unescape_eq {q : Quote} {cs body : List Char} (h : q.Writes cs body) :
    q.unescape body = cs := by
  induction h with
  | nil => rfl
  | cons hfirst _ ih =>
    obtain ⟨e, rfl, hescaped⟩ | ⟨rfl, hplain⟩ := hfirst.cases
    · rw [List.cons_append, List.singleton_append, unescape_escape hescaped, ih]
    · rw [List.singleton_append, unescape_plain q hplain.ne_backslash, ih]

/-- No backslash stands before a character with which it would be an escape. -/
def EscapeFree (q : Quote) (body : List Char) : Prop :=
  ∀ before c after, body = before ++ '\\' :: c :: after → q.escaped? c = none

theorem escapeFree_nil (q : Quote) : q.EscapeFree [] := by
  intro before c after h
  simp at h

theorem escapeFree_cons_iff {q : Quote} {c : Char} {cs : List Char} :
    q.EscapeFree (c :: cs) ↔
      (c = '\\' → ∀ e ∈ cs.head?, q.escaped? e = none) ∧ q.EscapeFree cs := by
  constructor
  · intro h
    refine ⟨fun hc e he => ?_, fun before e after hcs => ?_⟩
    · obtain ⟨more, rfl⟩ := List.head?_eq_some_iff.1 he
      exact h [] e more (by rw [hc, List.nil_append])
    · exact h (c :: before) e after (by rw [hcs, List.cons_append])
  · rintro ⟨hfirst, hrest⟩ before e after hcs
    cases before with
    | nil =>
      rw [List.nil_append, List.cons.injEq] at hcs
      exact hfirst hcs.1 e (by simp [hcs.2])
    | cons b before =>
      rw [List.cons_append, List.cons.injEq] at hcs
      exact hrest before e after hcs.2

theorem length_unescape_le (q : Quote) (body : List Char) :
    (q.unescape body).length ≤ body.length := by
  fun_induction unescape q body with
  | case1 => exact Nat.le_refl _
  | case2 => exact Nat.le_refl _
  | case3 c cs u h ih =>
    simp only [List.length_cons]
    omega
  | case4 c cs h ih => simpa using ih
  | case5 c cs _ _ ih => simpa using ih

/-- **A text between quotes stands for itself if and only if there is no escape in it.**  A backslash
    at its end is none. -/
theorem unescape_eq_self_iff (q : Quote) (body : List Char) :
    q.unescape body = body ↔ q.EscapeFree body := by
  fun_induction unescape q body with
  | case1 => simp [escapeFree_nil]
  | case2 => simp [escapeFree_cons_iff, escapeFree_nil]
  | case3 c cs u h ih =>
    -- an escape makes the text shorter
    have hlength := length_unescape_le q cs
    constructor
    · intro heq
      have := congrArg List.length heq
      simp only [List.length_cons] at this
      omega
    · intro hfree
      have hnone := (escapeFree_cons_iff.1 hfree).1 rfl c rfl
      rw [h] at hnone
      exact nomatch hnone
  | case4 c cs h ih =>
    have hback : c ≠ '\\' := by
      rintro rfl
      rw [escaped?_backslash] at h
      exact nomatch h
    simp [escapeFree_cons_iff, h, hback, ih]
  | case5 c cs hlast hpair ih =>
    have hback : c ≠ '\\' := by
      intro hc
      cases cs with
      | nil => exact hlast hc rfl
      | cons e cs => exact hpair e cs hc rfl
    simp [escapeFree_cons_iff, hback, ih]

/-! ## Literals -/

/-- The letters that may stand in front of the quotes. -/
def letters : List (List Char) :=
  [[], ['b'], ['B']]

theorem mem_letters_iff {lead : List Char} :
    lead ∈ letters ↔ lead = [] ∨ lead = ['b'] ∨ lead = ['B'] := by
  simp [letters]

theorem inner?_eq (q : Quote) {lead : List Char} (hlead : lead ∈ letters) (body : List Char) :
    q.inner? (lead ++ q.char :: (body ++ [q.char])) = some body := by
  have hchar : (q.char == 'b' || q.char == 'B') = false := by cases q <;> rfl
  obtain rfl | rfl | rfl := mem_letters_iff.1 hlead <;> simp [inner?, hchar]

end Quote

/-- **The value of a string node without expressions inside** is what stands between its quotes, with
    the escapes read. -/
theorem Node.stringLiteral?_eq {n : Node} {source : Source} {q : Quote} {lead body : List Char}
    (hkind : Quote.ofKind? n.kind = some q) (hchildren : ∀ c ∈ n.namedChildren, c.kind = .stringContent)
    (hlead : lead ∈ Quote.letters)
    (htext : n.text source = String.ofList (lead ++ q.char :: (body ++ [q.char]))) :
    n.stringLiteral? source = some (String.ofList (q.unescape body)) := by
  have hplain : (n.namedChildren.any fun c => c.kind != .stringContent) = false := by
    simpa using hchildren
  simp [stringLiteral?, hkind, hplain, htext, Quote.inner?_eq q hlead]

/-- The node is a string. -/
def Node.isString (n : Node) : Bool :=
  (Quote.ofKind? n.kind).isSome

/-! ## Literals in a source -/

/-- A text written as a literal. -/
structure Literal where
  quote : Quote
  /-- The letter in front of the quotes, if there is one. -/
  lead : List Char
  text : String
  /-- What stands between the quotes. -/
  body : List Char
  lead_mem : lead ∈ Quote.letters
  written : quote.Writes text.toList body

namespace Literal

open Grammar

/-- The characters of the literal. -/
def chars (l : Literal) : List Char :=
  l.lead ++ l.quote.char :: (l.body ++ [l.quote.char])

theorem lead_cases (l : Literal) : l.lead = [] ∨ l.lead = ['b'] ∨ l.lead = ['B'] :=
  Quote.mem_letters_iff.1 l.lead_mem

theorem length_chars (l : Literal) : l.chars.length = l.lead.length + 1 + (l.body.length + 1) := by
  simp [chars]
  omega

theorem chars_append (l : Literal) (after : List Char) :
    l.chars ++ after = l.lead ++ l.quote.char :: (l.body ++ l.quote.char :: after) := by
  simp [chars]

/-- The literal of a text with every escape that the quote has for it. -/
def ofText (quote : Quote) {lead : List Char} (lead_mem : lead ∈ Quote.letters) (text : String) :
    Literal where
  quote
  lead
  text
  body := text.toList.flatMap quote.escapeChar
  lead_mem
  written := quote.writes_flatMap_escapeChar text.toList

theorem chars_ofText (q : Quote) {lead : List Char} (hlead : lead ∈ Quote.letters) (text : String) :
    (ofText q hlead text).chars = lead ++ q.write text.toList := by
  simp [chars, ofText, Quote.write]

/-! ### Between the quotes -/

theorem singleQuotedLength_eq {cs body : List Char} (h : Quote.single.Writes cs body) (n : Nat)
    (after : List Char) :
    singleQuotedLength n (body ++ '\'' :: after) = some (n + body.length + 1) := by
  induction h generalizing n with
  | nil => rfl
  | cons hfirst _ ih =>
    obtain ⟨e, rfl, -⟩ | ⟨rfl, hplain⟩ := hfirst.cases
    · simp only [List.cons_append, List.nil_append, singleQuotedLength, ih, List.length_cons]
      congr 1
      omega
    · have hquote : _ ≠ '\'' := hplain.ne_char
      simp [singleQuotedLength, hplain.ne_backslash, ih]
      omega

/-- What was written does not begin like the end of a text or like an expression. -/
theorem exists_first {cs body : List Char} (h : Quote.double.Writes cs body) (hbody : body ≠ []) :
    ∃ c more, body = c :: more ∧ c ≠ '"' ∧ c ≠ '$' := by
  cases h with
  | nil => exact (hbody rfl).elim
  | cons hfirst _ =>
    obtain ⟨e, rfl, -⟩ | ⟨rfl, hplain⟩ := hfirst.cases
    · exact ⟨_, _, rfl, by decide, by decide⟩
    · exact ⟨_, _, rfl, hplain.ne_char, hplain.ne_dollar rfl⟩

theorem head?_ne_dollar {cs body : List Char} (h : Quote.double.Writes cs body)
    (after : List Char) : (body ++ '"' :: after).head? ≠ some '$' := by
  by_cases hbody : body = []
  · simp [hbody]
  · obtain ⟨c, more, rfl, -, hdollar⟩ := exists_first h hbody
    simpa using hdollar

theorem startsPart_cons {c : Char} {cs : List Char} (hc : c ≠ '$')
    (hcs : cs.head? ≠ some '$') : startsPart (c :: cs) = false := by
  unfold startsPart
  split
  · rename_i heq
    exact (hc (List.cons.inj heq).1).elim
  · rename_i heq
    exact (hcs (by rw [(List.cons.inj heq).2]; rfl)).elim
  · rfl

theorem startsPart_eq_false {cs body : List Char} (h : Quote.double.Writes cs body)
    (after : List Char) : startsPart (body ++ '"' :: after) = false := by
  cases h with
  | nil => rfl
  | cons hfirst hrest =>
    obtain ⟨e, rfl, -⟩ | ⟨rfl, hplain⟩ := hfirst.cases
    · rfl
    · exact startsPart_cons (hplain.ne_dollar rfl) (head?_ne_dollar hrest after)

theorem ne_break_of_escaped? {e c : Char} (h : Quote.double.escaped? e = some c) :
    ¬(e = '\n' ∨ e = '\r') := by
  rintro (rfl | rfl) <;> exact nomatch h

theorem literalLength_eq {cs body : List Char} (h : Quote.double.Writes cs body) (n : Nat)
    (after : List Char) :
    literalLength (endsAt '"') n (body ++ '"' :: after) = n + body.length := by
  induction h generalizing n with
  | nil => simp [literalLength, endsAt]
  | cons hfirst hrest ih =>
    obtain ⟨e, rfl, hescaped⟩ | ⟨rfl, hplain⟩ := hfirst.cases
    · -- the scan takes a backslash and what follows together, but for a line break
      simp [literalLength, endsAt, ne_break_of_escaped? hescaped, ih]
      omega
    · -- a brace and a dollar begin an expression as well, so the next character counts too
      have hquote : _ ≠ '"' := hplain.ne_char
      have hpart := startsPart_cons (hplain.ne_dollar rfl) (head?_ne_dollar hrest after)
      simp [literalLength, endsAt, hplain.ne_backslash, hquote, hpart, ih]
      omega

/-! ### Nodes -/

/-- What stands between the quotes, for a reader right after the opening one. -/
def contents (l : Literal) (opened : Reader) : Forest :=
  if l.body = [] then []
  else [.mk .stringContent .none opened.pos (opened.past l.body.length).pos []]

/-- The node of the literal that comes next. -/
def node (l : Literal) (r : Reader) : Node :=
  let stop := (r.past l.chars.length).pos
  match l.quote with
  | .single => .mk .string .none r.pos stop []
  | .double =>
    let opened := r.past (l.lead.length + 1)
    .mk .encapsedString .none r.pos stop
      (.mk .symbol .none r.pos opened.pos [] ::
        (l.contents opened ++ [.mk .symbol .none (opened.past l.body.length).pos stop []]))

section

variable {l : Literal} {r : Reader} {after : List Char}

theorem rest_opened (hrest : r.rest = l.chars ++ after) :
    (r.past (l.lead.length + 1)).rest = l.body ++ l.quote.char :: after := by
  rw [Reader.past, hrest, chars_append]
  simp

theorem rest_past (hrest : r.rest = l.chars ++ after) : (r.past l.chars.length).rest = after := by
  rw [Reader.past, hrest, List.drop_left]

theorem run_singleQuoted (hquote : l.quote = .single) (hrest : r.rest = l.chars ++ after) :
    singleQuoted (l.lead.length + 1) r = token .string l.chars.length r := by
  have hopened := rest_opened hrest
  have hlength := singleQuotedLength_eq (hquote ▸ l.written) (l.lead.length + 1) after
  rw [hquote] at hopened
  simp only [Reader.past] at hopened
  simp [singleQuoted, hopened, Quote.char, hlength, length_chars, Nat.add_assoc]

theorem run_textPieces (recur : Recur) (hquote : l.quote = .double)
    (hrest : r.rest = l.chars ++ after) :
    textPieces recur (endsAt '"') (r.past (l.lead.length + 1)) =
      some (l.contents (r.past (l.lead.length + 1)),
        (r.past (l.lead.length + 1)).past l.body.length) := by
  have hopened : (r.past (l.lead.length + 1)).rest = l.body ++ '"' :: after := by
    simpa only [hquote, Quote.char] using rest_opened hrest
  generalize hreader : r.past (l.lead.length + 1) = opened at hopened ⊢
  have hwritten : Quote.double.Writes l.text.toList l.body := hquote ▸ l.written
  have hclosed : (opened.past l.body.length).rest = '"' :: after := by
    rw [Reader.past, hopened, List.drop_left]
  have hends : (do return !endsAt '"' (← rest) : Parser Bool) (opened.past l.body.length) =
      some (false, opened.past l.body.length) := by
    simp [hclosed, endsAt]
  -- the text is one piece, and none if it is empty
  by_cases hbody : l.body = []
  · have hend : opened.past l.body.length = opened := by
      rw [hbody, ← hreader, Reader.past_past]
      rfl
    rw [hend] at hends ⊢
    have hstop := Repeats.stop (p := textPiece recur (endsAt '"')) hends
    rw [textPieces, hstop.many_eq (by simp), contents, if_pos hbody, List.flatten_nil]
  · have hmore : (do return !endsAt '"' (← rest) : Parser Bool) opened = some (true, opened) := by
      obtain ⟨c, more, hcons, hne, -⟩ := exists_first hwritten hbody
      simp [hopened, hcons, endsAt, hne]
    have hpiece : textPiece recur (endsAt '"') opened =
        some (l.contents opened, opened.past l.body.length) := by
      have hcomments : opened.comments = [] := by rw [← hreader, Reader.comments_past]
      simp [textPiece, hopened, startsPart_eq_false hwritten, literalLength_eq hwritten, require,
        contents, hbody, hcomments]
    have hround := Repeats.round hmore hpiece (.stop hends)
    rw [textPieces, hround.many_eq (by simp), List.flatten_singleton]

theorem run_doubleQuoted (recur : Recur) (hquote : l.quote = .double)
    (hrest : r.rest = l.chars ++ after) (hcomments : ∀ c ∈ r.comments, c.isComment = true) :
    doubleQuoted recur l.lead.length r =
      (trivia (r.past l.chars.length)).map fun x => (r.comments ++ [l.node r], x.2) := by
  have hpast : ((r.past (l.lead.length + 1)).past l.body.length).past 1 = r.past l.chars.length := by
    rw [Reader.past_past, Reader.past_past, length_chars, Nat.add_assoc]
  simp only [doubleQuoted, run_node, run_seq_cons, run_seq_nil, run_rawToken, run_token,
    run_textPieces recur hquote hrest, hpast, Option.bind_some, Option.map_some, Reader.comments_past]
  cases trivia (r.past l.chars.length) with
  | none => rfl
  | some x =>
    simp only [Option.bind_some, Option.map_some, List.nil_append, List.append_nil,
      List.append_assoc, List.cons_append]
    rw [group_append _ hcomments rfl, ofChildren_concat]
    simp [Node.start, Node.stop, node, hquote]

theorem primary_eq (recur : Recur) (hrest : r.rest = l.chars ++ after) :
    primary recur r =
      match l.quote with
      | .single => singleQuoted (l.lead.length + 1) r
      | .double => doubleQuoted recur l.lead.length r := by
  rw [chars_append] at hrest
  cases hquote : l.quote <;> obtain h | h | h := l.lead_cases <;>
    simp [primary, hrest, h, hquote, Quote.char]

/-- **A literal is read up to its last quote, as one node.**  What follows it does not matter. -/
theorem run_primary (recur : Recur) (hrest : r.rest = l.chars ++ after)
    (hcomments : ∀ c ∈ r.comments, c.isComment = true) :
    primary recur r =
      (trivia (r.past l.chars.length)).map fun x => (r.comments ++ [l.node r], x.2) := by
  rw [primary_eq recur hrest]
  cases hquote : l.quote with
  | single =>
    simp only [run_singleQuoted hquote hrest, run_token]
    simp [node, hquote]
  | double => simp only [run_doubleQuoted recur hquote hrest hcomments]

/-! ### Statements -/

/-- The characters with which a literal or the end of its statement begins. -/
def openers : List Char :=
  [';', '\'', '"', 'b', 'B']

theorem mem_openers_iff {c : Char} :
    c ∈ openers ↔ c = ';' ∨ c = '\'' ∨ c = '"' ∨ c = 'b' ∨ c = 'B' := by
  simp [openers]

theorem char_mem_openers (q : Quote) : q.char ∈ openers := by
  cases q <;> decide

theorem sign?_cons {c : Char} (h : c ∈ openers) (cs : List Char) :
    sign? (c :: cs) = if isNameChar c then none else some c.toString := by
  obtain rfl | rfl | rfl | rfl | rfl := mem_openers_iff.1 h <;> simp [sign?, signs, leads]

theorem sign?_semicolon (after : List Char) : sign? (';' :: after) = some ";" := by
  rw [sign?_cons (by decide)]
  decide

theorem settled_cons {c : Char} (h : c ∈ openers) (cs : List Char) : Settled (c :: cs) := by
  intro d hd
  cases hd
  obtain rfl | rfl | rfl | rfl | rfl := mem_openers_iff.1 h <;> decide

/-- A literal begins with a quote, or with a letter before one. -/
theorem starts_cases (l : Literal) (after : List Char) :
    (∃ cs, l.chars ++ after = l.quote.char :: cs) ∨
      ∃ c cs, l.chars ++ after = c :: l.quote.char :: cs ∧ (c = 'b' ∨ c = 'B') := by
  rw [chars_append]
  obtain h | h | h := l.lead_cases <;> rw [h]
  · exact .inl ⟨_, rfl⟩
  · exact .inr ⟨_, _, rfl, .inl rfl⟩
  · exact .inr ⟨_, _, rfl, .inr rfl⟩

theorem exists_opener (l : Literal) (after : List Char) :
    ∃ c ∈ openers, ∃ cs, l.chars ++ after = c :: cs := by
  obtain ⟨cs, h⟩ | ⟨c, cs, h, rfl | rfl⟩ := l.starts_cases after
  · exact ⟨_, char_mem_openers _, cs, h⟩
  · exact ⟨_, by decide, _, h⟩
  · exact ⟨_, by decide, _, h⟩

theorem settled_chars (l : Literal) (after : List Char) : Settled (l.chars ++ after) := by
  obtain ⟨c, hc, cs, h⟩ := l.exists_opener after
  rw [h]
  exact settled_cons hc cs

theorem sign?_quote (q : Quote) (cs : List Char) :
    sign? (q.char :: cs) ∈ [none, some "'", some "\""] := by
  rw [sign?_cons (char_mem_openers q)]
  cases q <;> decide

/-- At a literal no sign begins that is not a quote. -/
theorem sign?_chars (l : Literal) (after : List Char) :
    sign? (l.chars ++ after) ∈ [none, some "'", some "\""] := by
  obtain ⟨cs, h⟩ | ⟨c, cs, h, rfl | rfl⟩ := l.starts_cases after <;> rw [h]
  · exact sign?_quote _ cs
  · rw [sign?_cons (by decide)]
    decide
  · rw [sign?_cons (by decide)]
    decide

theorem run_atCast (hrest : r.rest = l.chars ++ after) : atCast r = some (false, r) := by
  obtain ⟨c, hc, cs, h⟩ := l.exists_opener after
  rw [h] at hrest
  obtain rfl | rfl | rfl | rfl | rfl := mem_openers_iff.1 hc <;> simp [atCast, hrest]

theorem operand_eq (recur : Recur) (hrest : r.rest = l.chars ++ after) :
    operand recur r = (primary recur r).bind fun x =>
      (postfixes recur (x.2.size - x.2.pos + 2) x.1 x.2).bind fun y => assigned recur y.1 y.2 := by
  have hsign := l.sign?_chars after
  rw [← hrest] at hsign
  simp only [List.mem_cons, List.not_mem_nil, or_false] at hsign
  obtain h | h | h := hsign <;> simp [operand, run_atCast hrest, h]

theorem run_operand (recur : Recur) (hrest : r.rest = l.chars ++ ';' :: after)
    (hcomments : r.comments = []) :
    operand recur r = some ([l.node r], r.past l.chars.length) := by
  have hpast : (r.past l.chars.length).rest = ';' :: after := rest_past hrest
  have hprimary : primary recur r = some ([l.node r], r.past l.chars.length) := by
    rw [run_primary recur hrest (by simp [hcomments]), trivia_of_settled, hcomments]
    · rfl
    · rw [hpast]
      exact settled_cons (by decide) after
  have hpostfixes (fuel : Nat) :
      postfixes recur (fuel + 1) [l.node r] (r.past l.chars.length) =
        some ([l.node r], r.past l.chars.length) := by
    simp [postfixes, hpast, sign?_semicolon]
  have hkind : isAssignable (l.node r).kind = false := by
    cases hquote : l.quote <;> simp [node, hquote, Node.kind] <;> decide
  simp [operand_eq recur hrest, hprimary, hpostfixes, assigned, hkind]

theorem run_expression (recur : Recur) (level : Nat) (hrest : r.rest = l.chars ++ ';' :: after)
    (hcomments : r.comments = []) :
    expression recur level r = some ([l.node r], r.past l.chars.length) := by
  have hpast : (r.past l.chars.length).rest = ';' :: after := rest_past hrest
  have hoperator : peekOperator (r.past l.chars.length) = some (some ";", r.past l.chars.length) := by
    have hword : word? (';' :: after) = none := rfl
    simp [peekOperator, hpast, hword, sign?_semicolon]
  simp [expression, run_operand recur hrest hcomments, operators, hoperator, binaryLevel?]

/-- The letter before a quote is neither a keyword nor a label. -/
theorem wordStatement_eq (recur : Recur) {c : Char} {cs : List Char}
    (hword : word? r.rest = some [c]) (hlower : c.toLower = 'b')
    (hrest : r.rest = c :: l.quote.char :: cs) :
    wordStatement recur "b" r = expressionStatement recur r := by
  have hpast : (r.past 1).rest = l.quote.char :: cs := by
    rw [Reader.past, hrest]
    rfl
  have hsettled : Settled (r.past 1).rest := by
    rw [hpast]
    exact settled_cons (by cases l.quote <;> decide) cs
  have hname : nameToken r =
      some (r.comments ++ [.mk .name .none r.pos (r.past 1).pos []], r.past 1) := by
    simp [nameToken, hword, trivia_of_settled hsettled]
  have hcolon : sign ":" (r.past 1) = none := by
    refine run_sign_of_ne fun hs => ?_
    have hmem := sign?_quote l.quote cs
    rw [← hpast, hs] at hmem
    simp at hmem
  have hdeclaration : declaration? recur [] r = some (none, r) := by
    have hb : String.ofList ['b'] = "b" := rfl
    simp [declaration?, hword, hlower, hb]
  have hlabel : wordThenSign ":" r = some (false, r) := by
    simp [wordThenSign, hname, hcolon]
  simp [wordStatement, hdeclaration, hlabel]

theorem statement_eq (recur : Recur) (hrest : r.rest = l.chars ++ after) :
    statement recur r = expressionStatement recur r := by
  have hsign := l.sign?_chars after
  have hstarts := l.starts_cases after
  rw [← hrest] at hsign hstarts
  obtain ⟨cs, h⟩ | ⟨c, cs, h, hc⟩ := hstarts
  · have hword : word? r.rest = none := by
      rw [h]
      cases l.quote <;> rfl
    simp only [List.mem_cons, List.not_mem_nil, or_false] at hsign
    obtain hs | hs | hs := hsign <;> simp [statement, hs, hword]
  · have hletter : isNameStart c = true ∧ isNameChar c = true ∧ c.toLower = 'b' := by
      obtain rfl | rfl := hc <;> decide
    obtain ⟨hstart, hchar, hlower⟩ := hletter
    have hquote : isNameChar l.quote.char = false := by
      cases l.quote <;> decide
    have hword : word? r.rest = some [c] := by
      simp [h, word?, hstart, hchar, hquote]
    have hs : sign? r.rest = none := by
      rw [h, sign?_cons (by obtain rfl | rfl := hc <;> decide), if_pos hchar]
    have hb : String.ofList ['b'] = "b" := rfl
    simp [statement, hs, hword, hlower, hb, wordStatement_eq recur hword hlower h]

/-- The statement that is the literal that comes next. -/
def statementNode (l : Literal) (r : Reader) : Node :=
  .mk .expressionStatement .none r.pos (r.past (l.chars.length + 1)).pos
    [l.node r,
     .mk .symbol .none (r.past l.chars.length).pos (r.past (l.chars.length + 1)).pos []]

theorem start_node (l : Literal) (r : Reader) : (l.node r).start = r.pos := by
  cases hquote : l.quote <;> simp [node, hquote, Node.start]

theorem isComment_node (l : Literal) (r : Reader) : (l.node r).isComment = false := by
  cases hquote : l.quote <;> simp [node, hquote, Node.isComment, Node.kind]

theorem run_expressionStatement (depth : Nat) (hrest : r.rest = l.chars ++ ';' :: after)
    (hcomments : r.comments = []) (hafter : Settled after) :
    expressionStatement (phrase (depth + 1)) r =
      some ([l.statementNode r], r.past (l.chars.length + 1)) := by
  have hpast : (r.past l.chars.length).rest = ';' :: after := rest_past hrest
  have hexpression : phrase (depth + 1) (.expression 0) r =
      some ([l.node r], r.past l.chars.length) :=
    run_expression (phrase depth) 0 hrest hcomments
  have hsettled : Settled (r.past (l.chars.length + 1)).rest := by
    rw [← Reader.past_past, Reader.past, hpast]
    exact hafter
  have hsemicolon : semicolon (r.past l.chars.length) =
      some ([.mk .symbol .none (r.past l.chars.length).pos (r.past (l.chars.length + 1)).pos []],
        r.past (l.chars.length + 1)) := by
    have hsign : sign? (r.past l.chars.length).rest = some ";" := by
      rw [hpast, sign?_semicolon]
    have hlength : ";".length = 1 := rfl
    rw [semicolon, run_bind, run_get, Option.bind_some]
    simp [run_sign hsign, hlength, Reader.past_past, trivia_of_settled hsettled]
  rw [expressionStatement]
  simp only [run_node, run_seq_cons, run_seq_nil, hexpression, hsemicolon, Option.bind_some,
    Option.map_some, List.append_nil, List.singleton_append]
  rw [group_pair _ (l.isComment_node r), l.start_node]
  rfl

/-- **A literal and a semicolon are read as a statement.** -/
theorem run_statement (depth : Nat) (hrest : r.rest = l.chars ++ ';' :: after)
    (hcomments : r.comments = []) (hafter : Settled after) :
    phrase (depth + 2) .statement r =
      some ([l.statementNode r], r.past (l.chars.length + 1)) := by
  have hphrase : phrase (depth + 2) .statement = within false (statement (phrase (depth + 1))) := rfl
  have hopen : ({ r with bracketed := false } : Reader).rest = l.chars ++ ';' :: after := hrest
  rw [hphrase, run_within, statement_eq _ hopen, run_expressionStatement depth hopen hcomments hafter]
  rfl

/-! ### Values -/

theorem ofKind?_node (l : Literal) (r : Reader) : Quote.ofKind? (l.node r).kind = some l.quote := by
  cases hquote : l.quote <;> simp [node, hquote, Node.kind, Quote.ofKind?]

theorem namedChildren_node (hquote : l.quote = .double) :
    (l.node r).namedChildren = l.contents (r.past (l.lead.length + 1)) := by
  by_cases hbody : l.body = []
  · simp only [node, hquote, contents, hbody, if_true]
    rfl
  · simp only [node, hquote, contents, hbody, if_false]
    rfl

theorem kind_of_mem_namedChildren {n : Node} (h : n ∈ (l.node r).namedChildren) :
    n.kind = .stringContent := by
  cases hquote : l.quote with
  | single => simp [node, hquote, Node.namedChildren, Node.children] at h
  | double =>
    rw [namedChildren_node hquote, contents] at h
    split at h
    · exact (List.not_mem_nil h).elim
    · rw [List.mem_singleton.1 h, Node.kind]

theorem text_node {source : Source} (hstands : r.StandsIn source) (hrest : r.rest = l.chars ++ after) :
    (l.node r).text source = String.ofList l.chars := by
  have hstop : (l.node r).stop = (r.past l.chars.length).pos := by
    cases hquote : l.quote <;> simp [node, hquote, Node.stop]
  rw [Node.text, start_node, hstop, hstands.slice_eq, hrest, List.take_left]

/-- **A string node with the characters of a literal has the text as its value**, wherever the node
    comes from. -/
theorem stringLiteral?_eq_text {n : Node} {source : Source}
    (hkind : Quote.ofKind? n.kind = some l.quote)
    (hchildren : ∀ c ∈ n.namedChildren, c.kind = .stringContent)
    (htext : n.text source = String.ofList l.chars) : n.stringLiteral? source = some l.text := by
  rw [Node.stringLiteral?_eq hkind hchildren l.lead_mem htext, l.written.unescape_eq,
    String.ofList_toList]

theorem stringLiteral?_node {source : Source} (hstands : r.StandsIn source)
    (hrest : r.rest = l.chars ++ after) : (l.node r).stringLiteral? source = some l.text :=
  stringLiteral?_eq_text (l.ofKind?_node r) (fun _ => kind_of_mem_namedChildren)
    (text_node hstands hrest)

end

/-! ### Files -/

/-- Literals as statements one after another. -/
def listing (ls : List Literal) : List Char :=
  ls.flatMap fun l => l.chars ++ [';']

/-- A file with literals as its statements. -/
def file (ls : List Literal) : String :=
  "<?php " ++ String.ofList (listing ls)

theorem settled_listing (ls : List Literal) : Settled (listing ls) := by
  cases ls with
  | nil => simp [listing, Settled]
  | cons l ls =>
    rw [listing, List.flatMap_cons, List.append_assoc]
    exact l.settled_chars _

theorem filter_isString_statementNode (l : Literal) (r : Reader) :
    (l.statementNode r).preorder.filter Node.isString = [l.node r] := by
  cases hquote : l.quote with
  | single =>
    simp only [statementNode, node, hquote]
    rfl
  | double =>
    by_cases hbody : l.body = []
    · simp only [statementNode, node, hquote, contents, hbody, if_true]
      rfl
    · simp only [statementNode, node, hquote, contents, hbody, if_false]
      rfl

theorem repeats_listing (depth : Nat) {source : Source} (ls : List Literal) {r : Reader}
    (hstands : r.StandsIn source) (hrest : r.rest = listing ls) (hcomments : r.comments = []) :
    ∃ forests s, Repeats (do return !(← rest).isEmpty) (phrase (depth + 2) .statement) r forests s ∧
      s.comments = [] ∧ forests.length = ls.length ∧
      ((Node.preorderAll forests.flatten).filter Node.isString).map
          (fun n => (n.text source, n.stringLiteral? source)) =
        ls.map fun l => (String.ofList l.chars, some l.text) := by
  induction ls generalizing r with
  | nil =>
    refine ⟨[], r, .stop ?_, hcomments, rfl, rfl⟩
    simp [hrest, listing]
  | cons l ls ih =>
    have hfirst : r.rest = l.chars ++ ';' :: listing ls := by
      rw [hrest, listing, List.flatMap_cons, List.append_assoc]
      rfl
    have hnext : (r.past (l.chars.length + 1)).rest = listing ls := by
      rw [← Reader.past_past, Reader.past, rest_past hfirst]
      rfl
    obtain ⟨forests, s, hrepeats, hs, hlength, hread⟩ := ih (hstands.past _) hnext rfl
    have hmore : (do return !(← rest).isEmpty : Parser Bool) r = some (true, r) := by
      simp [hfirst]
    refine ⟨[l.statementNode r] :: forests, s, .round hmore ?_ hrepeats, hs, ?_, ?_⟩
    · exact run_statement depth hfirst hcomments (settled_listing ls)
    · rw [List.length_cons, List.length_cons, hlength]
    · rw [List.flatten_cons, List.singleton_append, Node.preorderAll, List.filter_append,
        filter_isString_statementNode, List.map_append, hread, List.map_cons]
      simp [text_node hstands hfirst, stringLiteral?_node hstands hfirst]

theorem toList_file (ls : List Literal) :
    (file ls).toList = ['<', '?', 'p', 'h', 'p', ' '] ++ listing ls := by
  simp [file]

theorem utf8ByteSize_file (ls : List Literal) :
    (file ls).utf8ByteSize = 6 + byteSize (listing ls) := by
  have hsize : (file ls).utf8ByteSize = byteSize (file ls).toList := by
    rw [← size_utf8Encode, String.utf8Encode_toList, String.size_toByteArray]
  rw [hsize, toList_file, byteSize_append]
  rfl

theorem length_le_length_listing (ls : List Literal) : ls.length ≤ (listing ls).length := by
  induction ls with
  | nil => exact Nat.le_refl _
  | cons l ls ih =>
    rw [listing, List.flatMap_cons, List.length_append, List.length_append, List.length_cons]
    rw [listing] at ih
    simp only [List.length_singleton]
    omega

/-- The reader of a file after the opening tag and the blank. -/
def opened (ls : List Literal) : Reader :=
  { rest := listing ls, pos := 6, size := (file ls).utf8ByteSize }

theorem topStatements_opened (ls : List Literal) {forests : List Forest} {s : Reader}
    (hrepeats : Repeats (do return !(← rest).isEmpty)
      (phrase (depthBound (file ls).utf8ByteSize) .statement) (opened ls) forests s)
    (hrounds : forests.length < (opened ls).size - (opened ls).pos + 2) (hs : s.comments = []) :
    topStatements { rest := ' ' :: listing ls, pos := 5, size := (file ls).utf8ByteSize } =
      (forests.flatten, true) := by
  have htrivia : trivia { rest := ' ' :: listing ls, pos := 5, size := (file ls).utf8ByteSize } =
      some ((), opened ls) := by
    rw [trivia_of_blank rfl (settled_listing ls)]
    rfl
  have hall := hrepeats.statementsUpTo_eq hrounds []
  rw [hs, List.append_nil, List.reverse_nil, List.nil_append] at hall
  simp only [topStatements, htrivia]
  exact hall

theorem parse_file (ls : List Literal) {statements : Forest}
    (hstatements : topStatements
      { rest := ' ' :: listing ls, pos := 5, size := (file ls).utf8ByteSize } = (statements, true)) :
    parse (file ls) =
      ⟨.mk .program .none 0 (file ls).utf8ByteSize (.mk .openTag .none 0 5 [] :: statements),
        false⟩ := by
  simp [parse, program, toList_file, textEnd, openTagLength, hstatements]

theorem standsIn_opened (ls : List Literal) : (opened ls).StandsIn ⟨file ls⟩ := by
  refine ⟨['<', '?', 'p', 'h', 'p', ' '], ?_, rfl⟩
  rw [opened, ← toList_file, String.ofList_toList]

/-- **A file of literals is read without errors, and the strings found in it are the literals.** -/
theorem program_file (ls : List Literal) :
    (parse (file ls)).hasErrors = false ∧
      ((parse (file ls)).root.findAll Node.isString).map
          (fun n => (n.text ⟨file ls⟩, n.stringLiteral? ⟨file ls⟩)) =
        ls.map fun l => (String.ofList l.chars, some l.text) := by
  obtain ⟨forests, s, hrepeats, hs, hlength, hread⟩ :=
    repeats_listing (8 * (file ls).utf8ByteSize + 62) ls (standsIn_opened ls) rfl rfl
  have hrounds : forests.length < (opened ls).size - (opened ls).pos + 2 := by
    have hle := length_le_length_listing ls
    have hbytes := length_le_byteSize (listing ls)
    simp only [opened, utf8ByteSize_file, hlength]
    omega
  rw [parse_file ls (topStatements_opened ls hrepeats hrounds hs)]
  refine ⟨rfl, ?_⟩
  rw [Node.findAll_eq_filter_preorder, ← hread]
  rfl

/-! ## Every text -/

/-- **String literals stand for the texts they were written from.**

    * For every text, quote and letter there is the literal that `Quote.write` gives.
    * Every string node that has the characters of a literal and no expressions inside has the text
      as its value.
    * Wherever a literal comes next, it is read as a node with its characters, with nothing but text
      inside and with the text as its value; whatever comments stand before it and whatever follows.
    * A file whose statements are literals has no errors, and its strings are these literals.
    * What stands between the quotes is its own value if and only if no backslash in it stands before
      a character with which it would be an escape; a backslash at the end does not.  Then it is the
      value of every string node that has it between its quotes and no expressions inside. -/
theorem stand_for_their_texts :
    (∀ (q : Quote) (lead : List Char) (text : String), lead ∈ Quote.letters →
      ∃ l : Literal, l.text = text ∧ l.chars = lead ++ q.write text.toList) ∧
    (∀ (l : Literal) (n : Node) (source : Source),
      Quote.ofKind? n.kind = some l.quote → (∀ c ∈ n.namedChildren, c.kind = .stringContent) →
      n.text source = String.ofList l.chars → n.stringLiteral? source = some l.text) ∧
    (∀ (l : Literal) (recur : Recur) (source : Source) (r : Reader) (after : List Char),
      r.StandsIn source → r.rest = l.chars ++ after → (∀ c ∈ r.comments, c.isComment = true) →
      ∃ n : Node,
        primary recur r =
          (trivia (r.past l.chars.length)).map (fun x => (r.comments ++ [n], x.2)) ∧
        n.text source = String.ofList l.chars ∧
        (∀ c ∈ n.namedChildren, c.kind = .stringContent) ∧
        n.stringLiteral? source = some l.text) ∧
    (∀ ls : List Literal,
      (parse (file ls)).hasErrors = false ∧
      ((parse (file ls)).root.findAll Node.isString).map
          (fun n => (n.text ⟨file ls⟩, n.stringLiteral? ⟨file ls⟩)) =
        ls.map fun l => (String.ofList l.chars, some l.text)) ∧
    (∀ (q : Quote) (body : List Char), q.unescape body = body ↔ q.EscapeFree body) ∧
    (∀ (q : Quote) (body lead : List Char) (n : Node) (source : Source),
      q.EscapeFree body → lead ∈ Quote.letters →
      Quote.ofKind? n.kind = some q → (∀ c ∈ n.namedChildren, c.kind = .stringContent) →
      n.text source = String.ofList (lead ++ q.char :: (body ++ [q.char])) →
      n.stringLiteral? source = some (String.ofList body)) := by
  refine ⟨?_, fun l n source => stringLiteral?_eq_text, ?_, program_file,
    Quote.unescape_eq_self_iff, ?_⟩
  · intro q lead text hlead
    exact ⟨ofText q hlead text, rfl, chars_ofText q hlead text⟩
  · intro l recur source r after hstands hrest hcomments
    exact ⟨l.node r, run_primary recur hrest hcomments, text_node hstands hrest,
      fun _ => kind_of_mem_namedChildren, stringLiteral?_node hstands hrest⟩
  · intro q body lead n source hfree hlead hkind hchildren htext
    rw [Node.stringLiteral?_eq hkind hchildren hlead htext, (q.unescape_eq_self_iff body).2 hfree]

/-- Quotes and backslashes side by side, a raw line break after an escaped dollar, and backslashes
    that are no escapes, one of them at the end. -/
theorem stand_for_their_texts_hard_cases :
    (∃ l : Literal, l.text = "\\'\\" ∧ String.ofList l.chars = "B'\\\\\\'\\\\'") ∧
    (Node.mk .encapsedString .none 0 6
      [.mk .symbol .none 0 2 [], .mk .stringContent .none 2 5 [], .mk .symbol .none 5 6 []]).stringLiteral?
        ⟨"b\"\\$\n\""⟩ = some "$\n" ∧
    (∃ n : Node,
      (primary (phrase 1) { rest := "b\"\\$\n\"".toList, pos := 0, size := 6 }).map Prod.fst =
        some [n] ∧
      n.text ⟨"b\"\\$\n\""⟩ = "b\"\\$\n\"" ∧ n.stringLiteral? ⟨"b\"\\$\n\""⟩ = some "$\n") ∧
    Quote.single.EscapeFree "C:\\q\\".toList ∧
    (Node.mk .string .none 0 6 []).stringLiteral? ⟨"'C:\\q'"⟩ = some "C:\\q" := by
  obtain ⟨hwrite, hnode, hread, -, hself, hvalue⟩ := stand_for_their_texts
  have hwritten : Quote.double.Writes "$\n".toList ['\\', '$', '\n'] :=
    .cons (.inl rfl) (.cons (.inr ⟨.inl rfl, rfl⟩) .nil)
  refine ⟨?_, ?_, ?_, (hself _ _).1 rfl, ?_⟩
  · obtain ⟨l, htext, hchars⟩ := hwrite .single ['B'] "\\'\\" (by decide)
    refine ⟨l, htext, ?_⟩
    rw [hchars]
    decide
  · have hplain : ∀ c ∈ Node.namedChildren (.mk .encapsedString .none 0 6
        [.mk .symbol .none 0 2 [], .mk .stringContent .none 2 5 [], .mk .symbol .none 5 6 []]),
        c.kind = .stringContent := by decide
    exact hnode ⟨.double, ['b'], "$\n", ['\\', '$', '\n'], by decide, hwritten⟩ _ _ rfl hplain rfl
  · obtain ⟨n, hprimary, htext, -, hstring⟩ :=
      hread ⟨.double, ['b'], "$\n", ['\\', '$', '\n'], by decide, hwritten⟩ (phrase 1)
        ⟨"b\"\\$\n\""⟩ { rest := "b\"\\$\n\"".toList, pos := 0, size := 6 } []
        ⟨[], rfl, rfl⟩ rfl (by simp)
    refine ⟨n, ?_, htext, hstring⟩
    rw [hprimary]
    rfl
  · refine hvalue .single "C:\\q".toList [] _ _ ((hself _ _).1 rfl) (by decide) rfl ?_ ?_
    · intro c hc
      exact nomatch hc
    · decide

end Literal

end LayerLint.Syntax
