import LayerLint.Data.Json.Printer
import LayerLint.Data.Json.Reader
import LayerLint.Proofs.Text
import Mathlib.Tactic.SplitIfs

/-!
# Reading back what was written as JSON

The reader undoes the indented layout.

* `stringBody_escapeChar` — however a character is written inside a string, it is read as itself;
* `number?_integer` — the digits of an integer are read to the end of the number;
* `Exact.reads` — a value is read back from its lines, at any depth and whatever follows it;
* `parse?_pretty` — so a whole text gives the value from which it was written, and different values
  have different texts (`eq_of_pretty_eq`).

Numbers with a fraction or an exponent are left out: they keep whatever text they have, and nothing
says that it is a number.
-/

set_option autoImplicit false

namespace LayerLint.Data.Json

/-! ## Strings -/

theorem hexValue?_hexDigit : ∀ n < 16, hexValue? (hexDigit n) = some n := by
  decide

theorem hex4?_control {n : Nat} (h : n < 0x20) :
    hex4? '0' '0' (hexDigit (n / 16)) (hexDigit (n % 16)) = some n := by
  have hzero : hexValue? '0' = some 0 := rfl
  have hhigh := hexValue?_hexDigit (n / 16) (by omega)
  have hlow := hexValue?_hexDigit (n % 16) (by omega)
  simp only [hex4?, hzero, hhigh, hlow, Option.bind_eq_bind, Option.bind_some]
  exact congrArg some (by omega)

/-- The three ways to write a character: a backslash and a letter, the number of a control, or the
    character itself. -/
theorem escapeChar_cases (c : Char) :
    (∃ letter, escapeChar c = ['\\', letter] ∧ letter ≠ 'u' ∧ unescape? letter = some c) ∨
    (c.toNat < 0x20 ∧
      escapeChar c = ['\\', 'u', '0', '0', hexDigit (c.toNat / 16), hexDigit (c.toNat % 16)]) ∨
    (c ≠ '"' ∧ c ≠ '\\' ∧ 0x20 ≤ c.toNat ∧ escapeChar c = [c]) := by
  simp only [escapeChar, beq_iff_eq]
  split_ifs with hquote hback hb hf hn hr ht hlow
  iterate 7
    · subst c
      exact .inl ⟨_, rfl, by decide, rfl⟩
  · exact .inr (.inl ⟨hlow, rfl⟩)
  · exact .inr (.inr ⟨hquote, hback, Nat.le_of_not_lt hlow, rfl⟩)

section

attribute [local simp] stringBody

variable {a b c d : Char} (done rest : List Char)

theorem stringBody_letter {u : Char} (hne : c ≠ 'u') (h : unescape? c = some u) :
    stringBody done ('\\' :: c :: rest) = stringBody (u :: done) rest := by
  simp [hne, h]

theorem stringBody_unicode_none (h : hex4? a b c d = none) :
    stringBody done ('\\' :: 'u' :: a :: b :: c :: d :: rest) = none := by
  by_cases hpair : ∃ e f g h more, rest = '\\' :: 'u' :: e :: f :: g :: h :: more
  · obtain ⟨_, _, _, _, _, rfl⟩ := hpair
    simp [h]
  · rw [stringBody, h]
    exact fun e f g h more hrest => hpair ⟨e, f, g, h, more, hrest⟩

/-- Two numbers in a row may be a pair of surrogates; the number of a control is none, also before
    another number. -/
theorem stringBody_unicode {m : Nat} (hm : hex4? a b c d = some m) (hlow : m < 0xD800) :
    stringBody done ('\\' :: 'u' :: a :: b :: c :: d :: rest) =
      stringBody (Char.ofNat m :: done) rest := by
  by_cases hpair : ∃ e f g h more, rest = '\\' :: 'u' :: e :: f :: g :: h :: more
  · obtain ⟨e, f, g, h, more, rfl⟩ := hpair
    rw [stringBody, hm]
    cases hnext : hex4? e f g h with
    | none => exact (stringBody_unicode_none _ _ hnext).symm
    | some n =>
      dsimp only
      rw [if_neg (by omega), if_neg (by omega)]
  · rw [stringBody, hm]
    · dsimp only
      rw [if_neg (by omega)]
    · exact fun e f g h more hrest => hpair ⟨e, f, g, h, more, hrest⟩

theorem stringBody_plain (hquote : c ≠ '"') (hback : c ≠ '\\') (hprint : 0x20 ≤ c.toNat) :
    stringBody done (c :: rest) = stringBody (c :: done) rest := by
  simp [hback, Nat.not_lt.2 hprint]

/-- **However a character is written, it is read as itself.** -/
theorem stringBody_escapeChar (c : Char) :
    stringBody done (escapeChar c ++ rest) = stringBody (c :: done) rest := by
  obtain ⟨letter, hwritten, hne, hread⟩ | ⟨hlow, hwritten⟩ | ⟨hquote, hback, hprint, hwritten⟩ :=
    escapeChar_cases c
  · rw [hwritten]
    exact stringBody_letter done rest hne hread
  · rw [hwritten]
    have hread := stringBody_unicode done rest (hex4?_control hlow) (by omega)
    rwa [Char.ofNat_toNat] at hread
  · rw [hwritten]
    exact stringBody_plain done rest hquote hback hprint

theorem stringBody_flatMap_escapeChar (cs : List Char) :
    stringBody done (cs.flatMap escapeChar ++ '"' :: rest) =
      some (String.ofList (done.reverse ++ cs), rest) := by
  induction cs generalizing done with
  | nil => rw [List.flatMap_nil, List.nil_append, stringBody, List.append_nil]
  | cons c cs ih =>
    rw [List.flatMap_cons, List.append_assoc, stringBody_escapeChar, ih, List.reverse_cons,
      List.append_assoc, List.singleton_append]

end

theorem quote_append (s : String) (rest : List Char) :
    quote s ++ rest = '"' :: (s.toList.flatMap escapeChar ++ '"' :: rest) := by
  simp [quote]

/-- After its opening quote, a string is read up to its closing quote. -/
theorem stringBody_quote (s : String) (rest : List Char) :
    stringBody [] (s.toList.flatMap escapeChar ++ '"' :: rest) = some (s, rest) := by
  rw [stringBody_flatMap_escapeChar, List.reverse_nil, List.nil_append, String.ofList_toList]

/-! ## Numbers -/

/-- A number starts with a digit or a sign. -/
def StartsNumber (c : Char) : Prop :=
  c.isDigit = true ∨ c = '-'

/-- What follows does not go on with a number. -/
def EndsNumber (rest : List Char) : Prop :=
  ∀ c ∈ rest.head?, c.isDigit = false ∧ c ≠ '.' ∧ c ≠ 'e' ∧ c ≠ 'E'

theorem exists_cons_toDigits (n : Nat) :
    ∃ d ds, Nat.toDigits 10 n = d :: ds ∧ d.isDigit = true := by
  obtain ⟨d, ds, hcons⟩ := List.exists_cons_of_ne_nil (@Nat.toDigits_ne_nil n 10)
  have hmem : d ∈ Nat.toDigits 10 n := by
    rw [hcons]
    exact List.mem_cons_self
  exact ⟨d, ds, hcons, Nat.isDigit_of_mem_toDigits (by decide) (by decide) hmem⟩

theorem exists_cons_integer (n : Int) : ∃ c cs, integer n = c :: cs ∧ StartsNumber c := by
  unfold integer
  split
  · exact ⟨_, _, rfl, .inr rfl⟩
  · obtain ⟨d, ds, hcons, hdigit⟩ := exists_cons_toDigits n.natAbs
    exact ⟨d, ds, hcons, .inl hdigit⟩

theorem digitsValue_toDigits (n : Nat) : digitsValue (Nat.toDigits 10 n) = n := by
  have h := @Nat.ofDigitChars_ten_toDigits n
  rw [Nat.ofDigitChars_eq_foldl] at h
  simpa only [digitsValue, Nat.mul_comm] using h

/-- Only zero starts with the digit zero. -/
theorem eq_zero_of_head?_toDigits {n : Nat} (h : (Nat.toDigits 10 n).head? = some '0') : n = 0 := by
  induction n using Nat.strongRecOn with
  | _ n ih =>
    by_cases hn : n < 10
    · rw [Nat.toDigits_of_lt_base hn] at h
      have hdigit : ∀ d < 10, Nat.digitChar d = '0' → d = 0 := by decide
      exact hdigit n hn (Option.some.inj h)
    · rw [Nat.toDigits_of_base_le (by decide) (Nat.le_of_not_lt hn),
        List.head?_append_of_ne_nil _ Nat.toDigits_ne_nil] at h
      have hzero := ih (n / 10) (by omega) h
      omega

/-- The digits of a number are accepted: there are some, and no zero stands before others. -/
theorem whole_toDigits (n : Nat) :
    ((Nat.toDigits 10 n).isEmpty ||
      ((Nat.toDigits 10 n).head? == some '0' && (Nat.toDigits 10 n).length != 1)) = false := by
  rw [Bool.or_eq_false_iff, List.isEmpty_eq_false_iff, Bool.and_eq_false_imp, beq_iff_eq]
  refine ⟨Nat.toDigits_ne_nil, fun hhead => ?_⟩
  rw [eq_zero_of_head?_toDigits hhead]
  rfl

theorem fractionAndExponent_of_endsNumber {rest : List Char} (h : EndsNumber rest) :
    fractionAndExponent rest = some ([], rest) := by
  cases rest with
  | nil => rfl
  | cons c rest =>
    obtain ⟨-, hpoint, he, hE⟩ := h c rfl
    simp [fractionAndExponent, hpoint, he, hE]

/-- **The digits of an integer are read to the end of the number.** -/
theorem number?_integer (n : Int) {rest : List Char} (h : EndsNumber rest) :
    number? (integer n ++ rest) = some (.int n, rest) := by
  have hspan : (Nat.toDigits 10 n.natAbs ++ rest).span Char.isDigit =
      (Nat.toDigits 10 n.natAbs, rest) :=
    Text.span_append (fun _ hc => Nat.isDigit_of_mem_toDigits (by decide) (by decide) hc)
      fun c hc => (h c hc).1
  have htail := fractionAndExponent_of_endsNumber h
  unfold integer
  split
  · have hzero : (n.natAbs == 0) = false := by
      rw [beq_eq_false_iff_ne]
      omega
    have hvalue : -(n.natAbs : Int) = n := by omega
    simp only [number?, List.cons_append, hspan, whole_toDigits, htail, digitsValue_toDigits,
      Option.bind_eq_bind, Option.bind_some, Bool.false_eq_true, if_false, hzero, Bool.and_false,
      Bool.not_false, Bool.and_true, List.isEmpty_nil, if_true, hvalue]
  · have hvalue : (n.natAbs : Int) = n := by omega
    have hsign : ∀ more, Nat.toDigits 10 n.natAbs ++ rest ≠ '-' :: more := by
      obtain ⟨d, ds, hcons, hdigit⟩ := exists_cons_toDigits n.natAbs
      rw [hcons]
      rintro more ⟨⟩
      cases hdigit
    simp only [number?, hspan, whole_toDigits, htail, digitsValue_toDigits, Option.bind_eq_bind,
      Option.bind_some, Bool.false_eq_true, if_false, Bool.false_and, Bool.not_false,
      Bool.and_true, List.isEmpty_nil, if_true, hvalue]

/-! ## Blanks -/

theorem skipSpace_newline (depth : Nat) (cs : List Char) :
    skipSpace (newline depth ++ cs) = skipSpace cs := by
  refine List.dropWhile_append_of_pos fun c hc => ?_
  obtain rfl | hc := List.mem_cons.1 hc
  · rfl
  · rw [List.eq_of_mem_replicate hc]
    rfl

theorem skipSpace_cons {c : Char} (h : isSpace c = false) (cs : List Char) :
    skipSpace (c :: cs) = c :: cs := by
  rw [skipSpace, List.dropWhile_cons_of_neg (by rw [h]; exact Bool.false_ne_true)]

theorem isSpace_of_startsNumber {c : Char} (h : StartsNumber c) : isSpace c = false := by
  refine Bool.eq_false_iff.2 fun hspace => ?_
  simp only [isSpace, Bool.or_eq_true, beq_iff_eq] at hspace
  obtain ((rfl | rfl) | rfl) | rfl := hspace <;> obtain h | h := h <;> cases h

/-! ## One step of the reader -/

section

attribute [local simp] value? items? members?

variable {fuel : Nat} {cs more next rest : List Char} {v : Value} {items : List Value}
  {members : List (String × Value)}

theorem value?_newline (fuel depth : Nat) (cs : List Char) :
    value? fuel (newline depth ++ cs) = value? fuel cs := by
  cases fuel <;> simp [skipSpace_newline]

theorem value?_space (fuel : Nat) (cs : List Char) : value? fuel (' ' :: cs) = value? fuel cs := by
  have hskip : skipSpace (' ' :: cs) = skipSpace cs := List.dropWhile_cons_of_pos rfl
  cases fuel <;> simp [hskip]

theorem value?_number {c : Char} (h : StartsNumber c) :
    value? (fuel + 1) (c :: cs) = number? (c :: cs) := by
  rw [value?, skipSpace_cons (isSpace_of_startsNumber h)]
  split
  case h_7 => rfl
  all_goals
    rename_i heq
    cases heq
    obtain h | h := h <;> cases h

theorem value?_integer (n : Int) (h : EndsNumber rest) :
    value? (fuel + 1) (integer n ++ rest) = some (.int n, rest) := by
  obtain ⟨c, cs, hcons, hstart⟩ := exists_cons_integer n
  have hnumber := number?_integer n h
  rw [hcons, List.cons_append] at hnumber ⊢
  rw [value?_number hstart, hnumber]

theorem value?_quote (s : String) :
    value? (fuel + 1) (quote s ++ rest) = some (.string s, rest) := by
  simp [quote_append, skipSpace_cons, isSpace, stringBody_quote]

/-- No value starts with a closing bracket, so what is read as items is not taken for none. -/
theorem skipSpace_ne_of_items? (h : items? fuel cs = some (items, rest)) :
    skipSpace cs ≠ ']' :: more := by
  intro hclose
  match fuel with
  | 0 => cases h
  | 1 => cases h
  | fuel + 2 =>
    rw [items?, value?, hclose] at h
    cases h

theorem value?_array (h : items? fuel cs = some (items, rest)) :
    value? (fuel + 1) ('[' :: cs) = some (.array items, rest) := by
  have hopen : ∀ more, skipSpace cs ≠ ']' :: more := fun _ => skipSpace_ne_of_items? h
  simp [skipSpace_cons, isSpace, h]

theorem value?_record {k : String} {depth : Nat}
    (h : members? fuel (newline depth ++ (quote k ++ cs)) = some (members, rest)) :
    value? (fuel + 1) ('\x7b' :: (newline depth ++ (quote k ++ cs))) =
      some (.record members, rest) := by
  have hopen : ∀ more, skipSpace (newline depth ++ (quote k ++ cs)) ≠ '\x7d' :: more := by
    rw [skipSpace_newline, quote_append, skipSpace_cons rfl]
    rintro more ⟨⟩
  simp [skipSpace_cons, isSpace, h]

theorem items?_last (hv : value? fuel cs = some (v, more)) (hclose : skipSpace more = ']' :: rest) :
    items? (fuel + 1) cs = some ([v], rest) := by
  simp [hv, hclose]

theorem items?_comma (hv : value? fuel cs = some (v, more)) (hcomma : skipSpace more = ',' :: next)
    (hitems : items? fuel next = some (items, rest)) :
    items? (fuel + 1) cs = some (v :: items, rest) := by
  simp [hv, hcomma, hitems]

theorem members?_last (k : String) (depth : Nat) (hv : value? fuel cs = some (v, more))
    (hclose : skipSpace more = '\x7d' :: rest) :
    members? (fuel + 1) (newline depth ++ (quote k ++ ':' :: cs)) = some ([(k, v)], rest) := by
  simp [skipSpace_newline, quote_append, skipSpace_cons, isSpace, stringBody_quote, hv, hclose]

theorem members?_comma (k : String) (depth : Nat) (hv : value? fuel cs = some (v, more))
    (hcomma : skipSpace more = ',' :: next) (hmembers : members? fuel next = some (members, rest)) :
    members? (fuel + 1) (newline depth ++ (quote k ++ ':' :: cs)) =
      some ((k, v) :: members, rest) := by
  simp [skipSpace_newline, quote_append, skipSpace_cons, isSpace, stringBody_quote, hv, hcomma,
    hmembers]

end

/-! ## Values -/

/-- A value without numbers that keep their text. -/
inductive Exact : Value → Prop
  | null : Exact .null
  | bool (b : Bool) : Exact (.bool b)
  | int (n : Int) : Exact (.int n)
  | string (s : String) : Exact (.string s)
  | array {items : List Value} (h : ∀ v ∈ items, Exact v) : Exact (.array items)
  | record {members : List (String × Value)} (h : ∀ m ∈ members, Exact m.2) :
    Exact (.record members)

attribute [simp] Exact.null Exact.bool Exact.int Exact.string

@[simp] theorem exact_array {items : List Value} :
    Exact (.array items) ↔ ∀ v ∈ items, Exact v :=
  ⟨fun h => by cases h; assumption, .array⟩

@[simp] theorem exact_record {members : List (String × Value)} :
    Exact (.record members) ↔ ∀ m ∈ members, Exact m.2 :=
  ⟨fun h => by cases h; assumption, .record⟩

/-- The value is read back from its lines, at any depth, before whatever does not go on with a
    number.  Every call of the reader takes a character, so the length of the text bounds them. -/
def Reads (v : Value) : Prop :=
  ∀ (depth fuel : Nat) (rest : List Char), (prettyChars depth v).length < fuel → EndsNumber rest →
    value? fuel (prettyChars depth v ++ rest) = some (v, rest)

theorem endsNumber_newline (depth : Nat) (rest : List Char) :
    EndsNumber (newline depth ++ rest) := by
  rintro c ⟨⟩
  decide

theorem endsNumber_comma (rest : List Char) : EndsNumber (',' :: rest) := by
  rintro c ⟨⟩
  decide

theorem endsNumber_prettyItems (depth : Nat) (items : List Value) (rest : List Char) :
    EndsNumber (prettyItems depth items ++ rest) := by
  cases items with
  | nil =>
    rw [prettyItems, List.append_assoc]
    exact endsNumber_newline depth _
  | cons v items => exact endsNumber_comma _

theorem endsNumber_prettyMembers (depth : Nat) (members : List (String × Value))
    (rest : List Char) : EndsNumber (prettyMembers depth members ++ rest) := by
  cases members with
  | nil =>
    rw [prettyMembers, List.append_assoc]
    exact endsNumber_newline depth _
  | cons m members => exact endsNumber_comma _

theorem items?_pretty (depth : Nat) (rest : List Char) : ∀ (items : List Value) {v : Value}
    {fuel : Nat}, Reads v → (∀ w ∈ items, Reads w) →
    (prettyChars (depth + 1) v).length + (prettyItems depth items).length < fuel →
    items? fuel (newline (depth + 1) ++
      (prettyChars (depth + 1) v ++ (prettyItems depth items ++ rest))) = some (v :: items, rest)
  | _, _, 0, _, _, hfuel => absurd hfuel (Nat.not_lt_zero _)
  | [], v, fuel + 1, hv, _, hfuel => by
    simp only [prettyItems, List.length_append, List.length_singleton] at hfuel
    refine items?_last ((value?_newline _ _ _).trans (hv _ _ _ (by omega)
      (endsNumber_prettyItems depth [] rest))) ?_
    rw [prettyItems, List.append_assoc, skipSpace_newline, List.singleton_append,
      skipSpace_cons rfl]
  | w :: items, v, fuel + 1, hv, hitems, hfuel => by
    simp only [prettyItems, List.length_cons, List.length_append] at hfuel
    have hmore : items? fuel _ = _ := items?_pretty depth rest items (hitems w List.mem_cons_self)
      (fun u hu => hitems u (List.mem_cons_of_mem w hu)) (by omega)
    refine items?_comma ((value?_newline _ _ _).trans (hv _ _ _ (by omega)
      (endsNumber_prettyItems depth (w :: items) rest))) ?_ hmore
    rw [prettyItems, List.cons_append, skipSpace_cons rfl, List.append_assoc, List.append_assoc]

theorem members?_pretty (depth : Nat) (rest : List Char) : ∀ (members : List (String × Value))
    (k : String) {v : Value} {fuel : Nat}, Reads v → (∀ m ∈ members, Reads m.2) →
    (prettyChars (depth + 1) v).length + (prettyMembers depth members).length < fuel →
    members? fuel (newline (depth + 1) ++ (quote k ++ ':' ::
      (' ' :: (prettyChars (depth + 1) v ++ (prettyMembers depth members ++ rest))))) =
        some ((k, v) :: members, rest)
  | _, _, _, 0, _, _, hfuel => absurd hfuel (Nat.not_lt_zero _)
  | [], k, v, fuel + 1, hv, _, hfuel => by
    simp only [prettyMembers, List.length_append, List.length_singleton] at hfuel
    refine members?_last k _ ((value?_space _ _).trans (hv _ _ _ (by omega)
      (endsNumber_prettyMembers depth [] rest))) ?_
    rw [prettyMembers, List.append_assoc, skipSpace_newline, List.singleton_append,
      skipSpace_cons rfl]
  | (l, w) :: members, k, v, fuel + 1, hv, hmembers, hfuel => by
    simp only [prettyMembers, List.length_cons, List.length_append] at hfuel
    have hw : Reads w := hmembers (l, w) List.mem_cons_self
    have hmore : members? fuel _ = _ := members?_pretty depth rest members l hw
      (fun m hm => hmembers m (List.mem_cons_of_mem (l, w) hm)) (by omega)
    refine members?_comma k _ ((value?_space _ _).trans (hv _ _ _ (by omega)
      (endsNumber_prettyMembers depth ((l, w) :: members) rest))) ?_ hmore
    rw [prettyMembers, List.cons_append, skipSpace_cons rfl]
    simp only [List.append_assoc, List.cons_append]

/-- **A value is read back from its lines.** -/
theorem Exact.reads {v : Value} (h : Exact v) : Reads v := by
  induction h
  all_goals
    rintro depth (_ | fuel) rest hfuel hrest
    · exact absurd hfuel (Nat.not_lt_zero _)
  case null => rfl
  case bool b => cases b <;> rfl
  case int n => exact value?_integer n hrest
  case string s => exact value?_quote s
  case array items _ ih =>
    cases items with
    | nil => rfl
    | cons v items =>
      simp only [prettyChars, List.length_cons, List.length_append] at hfuel
      have hitems : items? fuel _ = _ := items?_pretty depth rest items (ih v List.mem_cons_self)
        (fun w hw => ih w (List.mem_cons_of_mem v hw)) (by omega)
      simpa only [prettyChars, List.cons_append, List.append_assoc] using value?_array hitems
  case record members _ ih =>
    cases members with
    | nil => rfl
    | cons m members =>
      obtain ⟨k, v⟩ := m
      simp only [prettyChars, List.length_cons, List.length_append] at hfuel
      have hv : Reads v := ih (k, v) List.mem_cons_self
      have hmembers : members? fuel _ = _ := members?_pretty depth rest members k hv
        (fun m hm => ih m (List.mem_cons_of_mem (k, v) hm)) (by omega)
      simpa only [prettyChars, List.cons_append, List.append_assoc] using value?_record hmembers

/-- **A text gives the value from which it was written.** -/
theorem parse?_pretty {v : Value} (h : Exact v) : parse? (pretty v) = some v := by
  have hread := h.reads 0 _ [] (Nat.lt_succ_self _) (by rintro c ⟨⟩)
  rw [List.append_nil] at hread
  simp only [parse?, pretty, String.toList_ofList, hread]
  rfl

/-- A text that ends its last line gives the same value. -/
theorem parse?_pretty_line {v : Value} (h : Exact v) : parse? (pretty v ++ "\n") = some v := by
  have hread := h.reads 0 ((prettyChars 0 v).length + 1 + 1) ['\n']
    (Nat.lt_succ_of_lt (Nat.lt_succ_self _)) (endsNumber_newline 0 [])
  have hlist : (pretty v ++ "\n").toList = prettyChars 0 v ++ ['\n'] := by simp [pretty]
  simp only [parse?, hlist, List.length_append, List.length_singleton, hread]
  rfl

/-- Different values have different texts. -/
theorem eq_of_pretty_eq {v w : Value} (hv : Exact v) (hw : Exact w) (h : pretty v = pretty w) :
    v = w := by
  have hread := parse?_pretty hv
  rw [h, parse?_pretty hw] at hread
  exact (Option.some.inj hread).symm

end LayerLint.Data.Json
