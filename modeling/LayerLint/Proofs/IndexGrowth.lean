import LayerLint.Proofs.ClassIndex

/-!
# Answers that more knowledge leaves as they are

An index may come to know more classes.  The search then enters traits and ancestors at which it had
to stop before, and may end elsewhere.

* `Within` — a larger index, which says the same about all that the smaller one knows;
* `Consulted.mono` — what a class inherits from in the smaller index, it does in the larger;
* `Consulted.of_within` — and nothing else, where the smaller index knows all of it;
* `definite_answers_persist` — so an answer of the smaller index is the answer of the larger.
-/

set_option autoImplicit false

namespace LayerLint.ClassIndex

/-- All that the index knows, the larger one knows too, and says the same about it. -/
def Within (index larger : ClassIndex) : Prop :=
  ∀ name info, index.get? name = some info → larger.get? name = some info

/-- New classes leave alone what was known before. -/
theorem within_insertAll {index : ClassIndex} {classes : List (String × ClassInfo)}
    (hnew : ∀ c ∈ classes, index.get? c.1 = none) : index.Within (index.insertAll classes) := by
  intro name info hinfo
  rw [get?_insertAll]
  cases hlast : lastNamed classes name with
  | none => exact hinfo
  | some other =>
    -- a new class of that name would have been known
    obtain ⟨c, hfind, -⟩ := Option.map_eq_some_iff.1 hlast
    have hkey : classKey c.1 = classKey name := by simpa using List.find?_some hfind
    have hmem : c ∈ classes := List.mem_reverse.1 (List.mem_of_find?_eq_some hfind)
    have hnone := hnew c hmem
    rw [get?_congr index hkey, hinfo] at hnone
    cases hnone

section

variable {index larger : ClassIndex} {start name : String}

/-! ## Into the larger index -/

theorem OnChain.mono (h : index.Within larger) (hname : OnChain index start name) :
    OnChain larger start name := by
  induction hname with
  | self => exact .self
  | parent _ hinfo hparent ih => exact .parent ih (h _ _ hinfo) hparent

theorem TraitReach.mono (h : index.Within larger) (hname : TraitReach index start name) :
    TraitReach larger start name := by
  induction hname with
  | self => exact .self
  | use _ hinfo hused ih => exact .use ih (h _ _ hinfo) hused

theorem Consulted.mono (h : index.Within larger) (hname : Consulted index start name) :
    Consulted larger start name := by
  cases hname with
  | chain hchain => exact .chain (hchain.mono h)
  | trait hchain hinfo hused hreached =>
    exact .trait (hchain.mono h) (h _ _ hinfo) hused (hreached.mono h)

theorem Declares.mono (h : index.Within larger) {method : String}
    (hname : Declares index method name) : Declares larger method name := by
  obtain ⟨info, hinfo, hmethod⟩ := hname
  exact ⟨info, h _ _ hinfo, hmethod⟩

theorem Lacks.mono (h : index.Within larger) {method : String}
    (hname : Lacks index method name) : Lacks larger method name := by
  obtain ⟨info, hinfo, hmethod⟩ := hname
  exact ⟨info, h _ _ hinfo, hmethod⟩

/-! ## Back from the larger index

Where the smaller index knows a class, both say the same about it.  So a way through the larger
index is one through the smaller, as long as each class on it is known there.
-/

/-- What the larger index says about a class that the smaller one knows. -/
theorem Within.get?_eq (h : index.Within larger) {info : ClassInfo}
    (hknown : index.get? name ≠ none) (hinfo : larger.get? name = some info) :
    index.get? name = some info := by
  obtain ⟨info', hinfo'⟩ := Option.ne_none_iff_exists'.1 hknown
  rw [h _ _ hinfo'] at hinfo
  rw [hinfo', hinfo]

theorem OnChain.of_within (h : index.Within larger)
    (hknown : ∀ other, OnChain index start other → index.get? other ≠ none)
    (hname : OnChain larger start name) : OnChain index start name := by
  induction hname with
  | self => exact .self
  | parent _ hinfo hparent ih => exact .parent ih (h.get?_eq (hknown _ ih) hinfo) hparent

theorem TraitReach.of_within (h : index.Within larger)
    (hknown : ∀ other, TraitReach index start other → index.get? other ≠ none)
    (hname : TraitReach larger start name) : TraitReach index start name := by
  induction hname with
  | self => exact .self
  | use _ hinfo hused ih => exact .use ih (h.get?_eq (hknown _ ih) hinfo) hused

theorem Consulted.of_within (h : index.Within larger)
    (hknown : ∀ other, Consulted index start other → index.get? other ≠ none)
    (hname : Consulted larger start name) : Consulted index start name := by
  have hchains : ∀ {other}, OnChain larger start other → OnChain index start other :=
    fun hother => hother.of_within h fun other hchain => hknown other (.chain hchain)
  cases hname with
  | chain hchain => exact .chain (hchains hchain)
  | trait hchain hinfo hused hreached =>
    have hinfo' := h.get?_eq (hknown _ (.chain (hchains hchain))) hinfo
    refine .trait (hchains hchain) hinfo' hused (hreached.of_within h fun other hother => ?_)
    exact hknown other (.trait (hchains hchain) hinfo' hused hother)

end

/-! ## Answers -/

theorem ancestorDeclares_within {index larger : ClassIndex} (h : index.Within larger)
    {name method : String} {declared : Bool}
    (hanswer : index.ancestorDeclares name method = some declared) :
    larger.ancestorDeclares name method = some declared := by
  have hsmaller := ancestorDeclares_answers index name method
  have hlarger := ancestorDeclares_answers larger name method
  cases declared with
  | true =>
    obtain ⟨found, hfound, hdeclares⟩ := hsmaller.eq_some_true_iff.1 hanswer
    exact hlarger.eq_some_true_iff.2 ⟨found, hfound.mono h, hdeclares.mono h⟩
  | false =>
    -- the smaller index knows all that is consulted, so the larger consults nothing else
    have hlacks := hsmaller.eq_some_false_iff.1 hanswer
    refine hlarger.eq_some_false_iff.2 fun other hother => ?_
    have hother' : Consulted index name other :=
      hother.of_within h fun known hknown => (hlacks known hknown).get?_ne
    exact (hlacks other hother').mono h

/-- **Definite answers stay.**  What an index answers about a method, every index answers that knows
    the same and more.  So classes that were unknown before, as many as there may be, can change the
    answer only where there was none. -/
theorem definite_answers_persist (index : ClassIndex) (name method : String) :
    (∀ larger : ClassIndex, index.Within larger → ∀ declared,
      index.ancestorDeclares name method = some declared →
        larger.ancestorDeclares name method = some declared) ∧
    ∀ classes : List (String × ClassInfo), (∀ c ∈ classes, index.get? c.1 = none) →
      (index.insertAll classes).ancestorDeclares name method = index.ancestorDeclares name method ∨
        index.ancestorDeclares name method = none := by
  refine ⟨fun larger h declared => ancestorDeclares_within h, fun classes hnew => ?_⟩
  cases hanswer : index.ancestorDeclares name method with
  | none => exact .inr rfl
  | some declared => exact .inl (ancestorDeclares_within (within_insertAll hnew) hanswer)

/-- A class with an unknown trait before one that declares a method.  Once the trait is known, the
    search goes through it and back to the class, and still finds the method; about another method
    there was no answer before. -/
theorem definite_answers_persist_unknown_trait :
    let index : ClassIndex := empty.insertAll
      [("A\\C", { parent := some "A\\P", traits := ["A\\U", "A\\T"] }), ("A\\P", {}),
       ("A\\T", { methods := ["run"] })]
    let classes : List (String × ClassInfo) :=
      [("\\a\\u", { traits := ["A\\T", "A\\V"] }), ("A\\V", {})]
    (∀ c ∈ classes, index.get? c.1 = none) ∧
      index.ancestorDeclares "A\\C" "Run" = some true ∧
      (index.insertAll classes).ancestorDeclares "A\\C" "Run" = some true ∧
      index.ancestorDeclares "A\\C" "stop" = none ∧
      (index.insertAll classes).ancestorDeclares "A\\C" "stop" = some false := by
  intro index classes
  have hnew : ∀ c ∈ classes, index.get? c.1 = none := by decide +kernel
  have hbefore : index.ancestorDeclares "A\\C" "Run" = some true := by decide +kernel
  have hafter := (definite_answers_persist index "A\\C" "Run").1 _ (within_insertAll hnew) true
    hbefore
  exact ⟨hnew, hbefore, hafter, by decide +kernel, by decide +kernel⟩

end LayerLint.ClassIndex
