import LayerLint.Text.Case
import LayerLint.Text.Cut
import LayerLint.Text.Word
import Mathlib.Data.List.Basic
import Mathlib.Data.List.TakeDrop

/-!
# Cutting a text where it was put together

A text that was put together from parts is cut into the same parts again, as long as no part holds
a character at which the cut may happen:

* `pieces_append_cons`, `pieces_eq_singleton`, `pieces_flatMap` — the pieces between separators;
* `append_of_cutAtFirst?`, `length_le_of_cutAtFirst?` — the parts around the first occurrence of a
  text;
* `span_append` — the part before the first character of another sort;
* `cutAtFirst?_append_cons` — the parts around the first occurrence of a character;
* `Solid.trim_append` — what stands between blanks.

Looking for one text inside another finds what the lists of characters say
(`startsWith_iff_prefix`, `occursIn_iff_infix`).

Word characters are not blank, and the case of a letter has no influence on which of the two a
character is.
-/

set_option autoImplicit false

namespace LayerLint.Text

/-! ## Sorts of characters -/

/-- No code point lies in both lists of ranges. -/
def Ranges.disjoint (a b : Ranges) : Bool :=
  a.all fun r => b.all fun q => decide (r.2 < q.1) || decide (q.2 < r.1)

theorem Ranges.contains_eq_false {a b : Ranges} (h : a.disjoint b = true) {c : Char}
    (hc : a.contains c = true) : b.contains c = false := by
  refine Bool.eq_false_iff.2 fun hb => ?_
  obtain ⟨r, hr, hrl, hru⟩ := (a.contains_iff c).1 hc
  obtain ⟨q, hq, hql, hqu⟩ := (b.contains_iff c).1 hb
  have hrq := List.all_eq_true.1 (List.all_eq_true.1 h r hr) q hq
  simp only [Bool.or_eq_true, decide_eq_true_eq] at hrq
  omega

/-- The word characters among the first 128 code points. -/
def asciiWordRanges : Ranges :=
  [(0x30, 0x39), (0x41, 0x5A), (0x5F, 0x5F), (0x61, 0x7A)]

theorem contains_of_isWord {c : Char} (h : isWord c = true) :
    Ranges.contains (asciiWordRanges ++ wordRanges) c = true := by
  rw [Ranges.contains, List.any_append, Bool.or_eq_true]
  simp only [isWord, Bool.or_eq_true, Bool.and_eq_true] at h
  obtain (h | h) | ⟨-, h⟩ := h
  · left
    delta Char.isAlphanum Char.isAlpha Char.isUpper Char.isLower Char.isDigit at h
    simp only [Bool.or_eq_true, Bool.and_eq_true, decide_eq_true_eq,
      UInt32.le_iff_toNat_le] at h
    change ((65 ≤ c.toNat ∧ c.toNat ≤ 90) ∨ (97 ≤ c.toNat ∧ c.toNat ≤ 122)) ∨
      (48 ≤ c.toNat ∧ c.toNat ≤ 57) at h
    simp only [asciiWordRanges, List.any_cons, List.any_nil, Bool.or_eq_true, Bool.and_eq_true,
      decide_eq_true_eq]
    omega
  · left
    simp only [beq_iff_eq] at h
    subst h
    rfl
  · exact .inr h

theorem isBlank_of_isWord {c : Char} (h : isWord c = true) : isBlank c = false :=
  Ranges.contains_eq_false (a := asciiWordRanges ++ wordRanges) (by decide +kernel)
    (contains_of_isWord h)

/-! ## Case -/

/-- Lowering moves a capital to a small letter and leaves everything else alone. -/
theorem toLower_cases (c : Char) :
    c.toLower = c ∨ (c.isUpper = true ∧ c.toLower.isLower = true) := by
  delta Char.toLower Char.isUpper Char.isLower
  split
  · rename_i h
    right
    simp only [Bool.and_eq_true, decide_eq_true_eq, UInt32.le_iff_toNat_le] at h ⊢
    change 65 ≤ c.val.toNat ∧ c.val.toNat ≤ 90 at h
    have hadd : (c.val + ('a'.val - 'A'.val)).toNat = c.val.toNat + 32 := by
      rw [UInt32.toNat_add]
      change (c.val.toNat + 32) % 4294967296 = _
      omega
    refine ⟨h, ?_⟩
    change 97 ≤ (c.val + ('a'.val - 'A'.val)).toNat ∧ (c.val + ('a'.val - 'A'.val)).toNat ≤ 122
    omega
  · exact .inl rfl

theorem isWord_of_isAlpha {c : Char} (h : c.isAlpha = true) : isWord c = true := by
  simp [isWord, Char.isAlphanum, h]

theorem isWord_toLower (c : Char) : isWord c.toLower = isWord c := by
  obtain h | ⟨hupper, hlower⟩ := toLower_cases c
  · rw [h]
  · have hlowered : c.toLower.isAlpha = true := Bool.or_eq_true_iff.2 (.inr hlower)
    have hwritten : c.isAlpha = true := Bool.or_eq_true_iff.2 (.inl hupper)
    rw [isWord_of_isAlpha hlowered, isWord_of_isAlpha hwritten]

/-- Only a backslash is lowered to one. -/
theorem toLower_eq_backslash (c : Char) : c.toLower = '\\' ↔ c = '\\' := by
  refine ⟨fun h => ?_, fun h => by rw [h]; rfl⟩
  obtain hsame | ⟨-, hlower⟩ := toLower_cases c
  · rw [← hsame, h]
  · rw [h] at hlower
    cases hlower

theorem backslash_mem_foldAscii (s : String) :
    '\\' ∈ (foldAscii s).toList ↔ '\\' ∈ s.toList := by
  simp [foldAscii, toLower_eq_backslash]

/-- Leading backslashes are taken off before lowering or after it. -/
theorem foldAscii_trimStart (s : String) :
    foldAscii (trimStart (· == '\\') s) = trimStart (· == '\\') (foldAscii s) := by
  have hlower : ((· == '\\') ∘ Char.toLower : Char → Bool) = (· == '\\') := by
    funext c
    rw [Function.comp_apply, Bool.eq_iff_iff, beq_iff_eq, beq_iff_eq, toLower_eq_backslash]
  simp only [foldAscii, trimStart, String.toList_ofList, List.dropWhile_map, hlower]

theorem foldAscii_append (a b : String) : foldAscii (a ++ b) = foldAscii a ++ foldAscii b := by
  simp [foldAscii]

theorem foldAscii_append_inj (a : String) {b c : String} :
    foldAscii (a ++ b) = foldAscii (a ++ c) ↔ foldAscii b = foldAscii c := by
  rw [foldAscii_append, foldAscii_append]
  constructor
  · intro h
    rw [← String.toList_inj] at h ⊢
    simpa using h
  · intro h
    rw [h]

/-! ## Runs -/

section Runs

variable {p : Char → Bool} {run rest : List Char}

/-- A run of one sort of characters ends where the next part starts with another sort. -/
theorem takeWhile_append (hrun : ∀ c ∈ run, p c = true) (hrest : ∀ c ∈ rest.head?, p c = false) :
    (run ++ rest).takeWhile p = run := by
  rw [List.takeWhile_append_of_pos hrun]
  cases rest with
  | nil => simp
  | cons c rest => simp [hrest c rfl]

theorem dropWhile_eq_self (hrest : ∀ c ∈ rest.head?, p c = false) : rest.dropWhile p = rest := by
  cases rest with
  | nil => rfl
  | cons c rest => simp [hrest c rfl]

theorem dropWhile_append (hrun : ∀ c ∈ run, p c = true) (hrest : ∀ c ∈ rest.head?, p c = false) :
    (run ++ rest).dropWhile p = rest := by
  rw [List.dropWhile_append_of_pos hrun, dropWhile_eq_self hrest]

theorem span_append (hrun : ∀ c ∈ run, p c = true) (hrest : ∀ c ∈ rest.head?, p c = false) :
    (run ++ rest).span p = (run, rest) := by
  rw [List.span_eq_takeWhile_dropWhile, takeWhile_append hrun hrest, dropWhile_append hrun hrest]

/-- What stands first decides how a text begins. -/
theorem head_append (hne : run ≠ []) (hrun : ∀ c ∈ run, p c = false) (rest : List Char) :
    ∀ c ∈ (run ++ rest).head?, p c = false := by
  intro c hc
  rw [List.head?_append_of_ne_nil _ hne] at hc
  exact hrun c (List.mem_of_mem_head? hc)

theorem mem_dropWhile {c : Char} (hc : p c = false) {cs : List Char} (h : c ∈ cs) :
    c ∈ cs.dropWhile p := by
  rw [← List.takeWhile_append_dropWhile (p := p) (l := cs), List.mem_append] at h
  refine h.resolve_left fun htake => ?_
  have hrun := List.all_eq_true.1 (List.all_takeWhile (p := p) (l := cs)) c htake
  rw [hc] at hrun
  cases hrun

theorem mem_dropEndWhile {c : Char} (hc : p c = false) {cs : List Char} (h : c ∈ cs) :
    c ∈ dropEndWhile p cs :=
  List.mem_reverse.2 (mem_dropWhile hc (List.mem_reverse.2 h))

theorem dropEndWhile_append (hrun : ∀ c ∈ run, p c = true)
    (hrest : ∀ c ∈ rest.getLast?, p c = false) : dropEndWhile p (rest ++ run) = rest := by
  rw [dropEndWhile, List.reverse_append, dropWhile_append, List.reverse_reverse]
  · simpa using hrun
  · simpa using hrest

theorem dropEndWhile_append_cons {c : Char} (hc : p c = false) (a b : List Char) :
    dropEndWhile p (a ++ c :: b) = a ++ c :: dropEndWhile p b := by
  have hreverse : (a ++ c :: b).reverse = b.reverse ++ c :: a.reverse := by simp
  rw [dropEndWhile, dropEndWhile, hreverse, List.dropWhile_append]
  split
  · rename_i hall
    rw [List.isEmpty_iff] at hall
    simp [hall, hc]
  · simp

theorem exists_dropEndWhile_append (p : Char → Bool) (cs : List Char) :
    ∃ run, (∀ c ∈ run, p c = true) ∧ cs = dropEndWhile p cs ++ run := by
  refine ⟨(cs.reverse.takeWhile p).reverse, ?_, ?_⟩
  · simpa using List.all_eq_true.1 (List.all_takeWhile (p := p) (l := cs.reverse))
  · rw [dropEndWhile, ← List.reverse_append, List.takeWhile_append_dropWhile, List.reverse_reverse]

theorem dropEndWhile_prefix (p : Char → Bool) (cs : List Char) : dropEndWhile p cs <+: cs := by
  refine List.reverse_suffix.1 ?_
  rw [dropEndWhile, List.reverse_reverse]
  exact List.dropWhile_suffix p

/-- A text that begins with another character keeps all of them. -/
theorem trimStart_eq_self {s : String} (h : ∀ c ∈ s.toList.head?, p c = false) :
    trimStart p s = s := by
  rw [trimStart, dropWhile_eq_self h, String.ofList_toList]

/-- Nothing is left of a text, or the rest begins with another character than those taken off. -/
theorem trimStart_cases (p : Char → Bool) (s : String) :
    trimStart p s = "" ∨ ∃ c cs, (trimStart p s).toList = c :: cs ∧ p c = false := by
  have hhead := List.head?_dropWhile_not p s.toList
  rw [trimStart]
  cases hrest : s.toList.dropWhile p with
  | nil => exact .inl rfl
  | cons c cs =>
    rw [hrest] at hhead
    exact .inr ⟨c, cs, String.toList_ofList, by simpa using hhead⟩

/-- A text is what is left when leading characters of one sort are taken off. -/
theorem trimStart_eq_iff {s left : String} (hleft : ∀ c ∈ left.toList.head?, p c = false) :
    trimStart p s = left ↔ ∃ run, (∀ c ∈ run, p c = true) ∧ s.toList = run ++ left.toList := by
  rw [← String.toList_inj, trimStart, String.toList_ofList]
  constructor
  · intro hdropped
    refine ⟨s.toList.takeWhile p, List.all_eq_true.1 List.all_takeWhile, ?_⟩
    rw [← hdropped, List.takeWhile_append_dropWhile]
  · rintro ⟨run, hrun, hs⟩
    rw [hs, dropWhile_append hrun hleft]

end Runs

/-! ## Blanks around a text -/

/-- There is something in the text, and it neither starts nor ends with a blank. -/
structure Solid (cs : List Char) : Prop where
  ne_nil : cs ≠ []
  head : ∀ c ∈ cs.head?, isBlank c = false
  last : ∀ c ∈ cs.getLast?, isBlank c = false

namespace Solid

theorem of_forall {cs : List Char} (hne : cs ≠ []) (h : ∀ c ∈ cs, isBlank c = false) :
    Solid cs where
  ne_nil := hne
  head c hc := h c (List.mem_of_mem_head? hc)
  last c hc := h c (List.mem_of_mem_getLast? hc)

theorem singleton {c : Char} (h : isBlank c = false) : Solid [c] :=
  .of_forall (by simp) (by simpa using h)

/-- Only the two ends matter. -/
theorem append {a b : List Char} (ha : Solid a) (middle : List Char) (hb : Solid b) :
    Solid (a ++ middle ++ b) where
  ne_nil := by simp [ha.ne_nil]
  head c hc := by
    rw [List.append_assoc, List.head?_append_of_ne_nil _ ha.ne_nil] at hc
    exact ha.head c hc
  last c hc := by
    rw [List.getLast?_append_of_ne_nil _ hb.ne_nil] at hc
    exact hb.last c hc

theorem of_dropEndWhile {cs : List Char} (hne : cs ≠ [])
    (hhead : ∀ c ∈ cs.head?, isBlank c = false) : Solid (dropEndWhile isBlank cs) := by
  obtain ⟨c, rest, rfl⟩ := List.exists_cons_of_ne_nil hne
  have hc : isBlank c = false := hhead c rfl
  have hkept : dropEndWhile isBlank (c :: rest) = c :: dropEndWhile isBlank rest :=
    dropEndWhile_append_cons hc [] rest
  refine ⟨by simp [hkept], by simpa [hkept] using hc, fun x hx => ?_⟩
  have hlast := List.head?_dropWhile_not isBlank (c :: rest).reverse
  rw [dropEndWhile, List.getLast?_reverse, Option.mem_def] at hx
  rw [hx] at hlast
  simpa using hlast

/-- **Trimming leaves what stands between blanks.** -/
theorem trim_append {cs before after : List Char} (h : Solid cs)
    (hbefore : ∀ c ∈ before, isBlank c = true) (hafter : ∀ c ∈ after, isBlank c = true) :
    dropEndWhile isBlank ((before ++ cs ++ after).dropWhile isBlank) = cs := by
  rw [List.append_assoc, dropWhile_append hbefore, dropEndWhile_append hafter h.last]
  intro c hc
  rw [List.head?_append_of_ne_nil _ h.ne_nil] at hc
  exact h.head c hc

end Solid

/-! ## Pieces -/

theorem pieces_append_cons {p : Char → Bool} {c : Char} (hc : p c = true) (b : List Char) :
    ∀ a : List Char, pieces p (a ++ c :: b) = pieces p a ++ pieces p b
  | [] => by simp [pieces, hc]
  | x :: a => by
    have ih := pieces_append_cons hc b a
    by_cases hx : p x = true
    · simp [pieces, hx, ih]
    · obtain ⟨piece, rest, hpieces⟩ := List.exists_cons_of_ne_nil (pieces_ne_nil p a)
      simp [pieces, hx, ih, hpieces]

/-- What has no separator in it goes to the first piece. -/
theorem pieces_append {p : Char → Bool} (b : List Char) : ∀ {a : List Char},
    (∀ c ∈ a, p c = false) → pieces p (a ++ b) = (pieces p b).modifyHead (a ++ ·)
  | [], _ => by
    obtain ⟨piece, rest, hpieces⟩ := List.exists_cons_of_ne_nil (pieces_ne_nil p b)
    simp [hpieces]
  | x :: a, h => by
    obtain ⟨piece, rest, hpieces⟩ := List.exists_cons_of_ne_nil (pieces_ne_nil p b)
    have ih := pieces_append b fun c hc => h c (List.mem_cons_of_mem _ hc)
    rw [hpieces, List.modifyHead_cons] at ih ⊢
    simp [pieces, h x List.mem_cons_self, ih]

/-- What has no separator in it goes to the last piece. -/
theorem exists_pieces_append {p : Char → Bool} {b : List Char} (hb : ∀ c ∈ b, p c = false) :
    ∀ a : List Char, ∃ init last, pieces p a = init ++ [last] ∧
      pieces p (a ++ b) = init ++ [last ++ b]
  | [] => by
    refine ⟨[], [], rfl, ?_⟩
    simpa [pieces] using pieces_append [] hb
  | x :: a => by
    obtain ⟨init, last, hpieces, happend⟩ := exists_pieces_append hb a
    by_cases hx : p x = true
    · exact ⟨[] :: init, last, by simp [pieces, hx, hpieces], by simp [pieces, hx, happend]⟩
    · cases init with
      | nil => exact ⟨[], x :: last, by simp [pieces, hx, hpieces], by simp [pieces, hx, happend]⟩
      | cons first init =>
        exact ⟨(x :: first) :: init, last, by simp [pieces, hx, hpieces],
          by simp [pieces, hx, happend]⟩

theorem pieces_eq_singleton {p : Char → Bool} :
    ∀ {a : List Char}, (∀ c ∈ a, p c = false) → pieces p a = [a]
  | [], _ => rfl
  | x :: a, h => by
    have ih := pieces_eq_singleton fun c hc => h c (List.mem_cons_of_mem _ hc)
    simp [pieces, h x List.mem_cons_self, ih]

/-- Parts with separators between them are told apart again. -/
theorem pieces_flatMap {α : Type} {p : Char → Bool} {c : Char} (hc : p c = true)
    {write : α → List Char} (hwrite : ∀ a, ∀ x ∈ write a, p x = false) :
    ∀ (more : List α) (first : α),
      pieces p (write first ++ more.flatMap fun a => c :: write a) = (first :: more).map write
  | [], first => by simpa using pieces_eq_singleton (hwrite first)
  | a :: more, first => by
    have ih := pieces_flatMap hc hwrite more a
    rw [List.flatMap_cons, List.cons_append, pieces_append_cons hc, ih,
      pieces_eq_singleton (hwrite first)]
    rfl

/-- Cutting at separators is how the library splits a list. -/
theorem pieces_eq_splitOnP (p : Char → Bool) : ∀ cs : List Char, pieces p cs = cs.splitOnP p
  | [] => by rw [pieces, List.splitOnP_nil]
  | c :: cs => by
    have ih := pieces_eq_splitOnP p cs
    obtain ⟨piece, rest, hpieces⟩ := List.exists_cons_of_ne_nil (pieces_ne_nil p cs)
    rw [pieces, List.splitOnP_cons_eq_if_modifyHead, ← ih, hpieces]
    rfl

/-- Every separator begins a further piece. -/
theorem length_pieces (p : Char → Bool) : ∀ cs : List Char, (pieces p cs).length = cs.countP p + 1
  | [] => rfl
  | c :: cs => by
    have ih := length_pieces p cs
    obtain ⟨piece, rest, hpieces⟩ := List.exists_cons_of_ne_nil (pieces_ne_nil p cs)
    rw [pieces, List.countP_cons]
    rw [hpieces] at ih ⊢
    split <;> simp_all

/-- What follows the last separator is cut off again. -/
theorem afterLast_append {p : Char → Bool} {c : Char} {mark : String} (hmark : mark.toList = [c])
    (hc : p c = true) (a : String) {b : String} (hb : ∀ x ∈ b.toList, p x = false) :
    afterLast p (a ++ mark ++ b) = b := by
  have hpieces : pieces p (a ++ mark ++ b).toList = pieces p a.toList ++ [b.toList] := by
    rw [String.toList_append, String.toList_append, hmark, List.append_assoc,
      List.singleton_append, pieces_append_cons hc, pieces_eq_singleton hb]
  rw [afterLast, split, hpieces]
  simp

/-! ## One text inside another -/

theorem startsWith_iff_prefix {lead s : String} :
    startsWith lead s = true ↔ lead.toList <+: s.toList :=
  List.isPrefixOf_iff_prefix

theorem dropLead?_eq_some_iff {lead s rest : String} :
    dropLead? lead s = some rest ↔ s = lead ++ rest := by
  simp only [dropLead?, Option.map_eq_some_iff, List.isPrefixOf?_eq_some_iff_append_eq]
  constructor
  · rintro ⟨cs, hcs, rfl⟩
    rw [← String.toList_inj, ← hcs]
    simp
  · rintro rfl
    exact ⟨rest.toList, by simp, by simp⟩

/-- A text that does not begin with another one does not do so either where the other one follows
    it, as long as the other one could only begin anew there. -/
theorem not_prefix_append {x : Char} {needle : List Char} (hx : x ∉ needle) {c : Char}
    {cs rest : List Char} (hfree : ¬ x :: needle <+: c :: cs) (hrest : ∀ y ∈ rest.head?, y = x) :
    ¬ x :: needle <+: c :: cs ++ rest := by
  intro hlead
  obtain h | ⟨more, hmore⟩ := List.prefix_or_prefix_of_prefix hlead (List.prefix_append _ rest)
  · exact hfree h
  · cases more with
    | nil =>
      rw [List.append_nil] at hmore
      exact hfree (hmore ▸ List.prefix_rfl)
    | cons y more =>
      -- what follows would stand inside of the other text, where its first character does not occur
      rw [← hmore, List.prefix_append_right_inj] at hlead
      obtain ⟨t, rfl⟩ := hlead
      have hy : y = x := hrest y rfl
      injection hmore with _ hneedle
      refine hx ?_
      rw [← hneedle, hy]
      simp

theorem isSome_isPrefixOf?_iff (needle cs : List Char) :
    (needle.isPrefixOf? cs).isSome = true ↔ needle <+: cs := by
  simp only [Option.isSome_iff_exists, List.isPrefixOf?_eq_some_iff_append_eq]
  rfl

theorem isSome_cutAtFirst?_iff (needle : List Char) :
    ∀ cs : List Char, (cutAtFirst? needle cs).isSome = true ↔ needle <:+: cs
  | [] => by
    rw [List.infix_nil, cutAtFirst?]
    cases needle <;> simp
  | c :: cs => by
    have ih := isSome_cutAtFirst?_iff needle cs
    rw [List.infix_cons_iff, ← isSome_isPrefixOf?_iff, ← ih, cutAtFirst?]
    cases needle.isPrefixOf? (c :: cs) <;> simp

/-- A cut loses nothing but what was looked for. -/
theorem append_of_cutAtFirst? {needle : List Char} :
    ∀ {cs before after : List Char}, cutAtFirst? needle cs = some (before, after) →
      cs = before ++ needle ++ after
  | [], before, after, h => by
    cases needle with
    | nil =>
      cases h
      rfl
    | cons c needle => cases h
  | c :: cs, before, after, h => by
    rw [cutAtFirst?] at h
    split at h
    · rename_i rest hrest
      cases h
      exact (List.isPrefixOf?_eq_some_iff_append_eq.1 hrest).symm
    · obtain ⟨cut, hcut, heq⟩ := Option.map_eq_some_iff.1 h
      cases heq
      rw [append_of_cutAtFirst? hcut]
      rfl

/-- Nothing occurs before the place of the cut. -/
theorem length_le_of_cutAtFirst? {needle : List Char} :
    ∀ {cs before after : List Char}, cutAtFirst? needle cs = some (before, after) →
      ∀ {before' after' : List Char}, cs = before' ++ needle ++ after' →
        before.length ≤ before'.length
  | [], before, after, h, before', after', _ => by
    have hempty := append_of_cutAtFirst? h
    simp_all
  | c :: cs, before, after, h, before', after', hcs => by
    rw [cutAtFirst?] at h
    split at h
    · cases h
      exact Nat.zero_le _
    · rename_i hnone
      obtain ⟨cut, hcut, heq⟩ := Option.map_eq_some_iff.1 h
      cases heq
      cases before' with
      | nil =>
        -- an occurrence at the very start would have been found there
        have hsome := (isSome_isPrefixOf?_iff needle (c :: cs)).2 (hcs ▸ List.prefix_append _ _)
        rw [hnone] at hsome
        cases hsome
      | cons x before' =>
        injection hcs with _ hcs
        exact Nat.succ_le_succ (length_le_of_cutAtFirst? hcut hcs)

theorem occursIn_iff_infix {needle s : String} :
    occursIn needle s = true ↔ needle.toList <:+: s.toList := by
  rw [occursIn, cutFirst?, Option.isSome_map, isSome_cutAtFirst?_iff]

/-! ## The first occurrence of a character -/

theorem cutAtFirst?_eq_none {c : Char} (needle : List Char) :
    ∀ {a : List Char}, c ∉ a → cutAtFirst? (c :: needle) a = none
  | [], _ => rfl
  | x :: a, h => by
    have hx : (c == x) = false := by
      simpa using fun hcx => h (by simp [hcx])
    have ih := cutAtFirst?_eq_none needle fun ha => h (List.mem_cons_of_mem x ha)
    simp [cutAtFirst?, List.isPrefixOf?, hx, ih]

theorem cutAtFirst?_append_cons {c : Char} (b : List Char) :
    ∀ {a : List Char}, c ∉ a → cutAtFirst? [c] (a ++ c :: b) = some (a, b)
  | [], _ => by simp [cutAtFirst?, List.isPrefixOf?]
  | x :: a, h => by
    have hx : (c == x) = false := by
      simpa using fun hcx => h (by simp [hcx])
    have ih := cutAtFirst?_append_cons b fun ha => h (List.mem_cons_of_mem x ha)
    simp [cutAtFirst?, List.isPrefixOf?, hx, ih]

end LayerLint.Text
