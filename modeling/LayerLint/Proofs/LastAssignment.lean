import LayerLint.Proofs.PartialLoad

/-!
# Which assignment to a variable counts

The assignments of a method body are kept in pre-order, which is the order in which they begin.  What
a variable holds at some place is what the assignment gave that was completed last before, and these
two orders differ where one assignment stands inside another.

* `isNested` — the nodes of a tree lie inside each other and one after another;
* `exists_later` — so all that follows a node in pre-order, but is not below it, begins after its end;
* `liveAt_eq` — of the assignments that end before a place, the last one in pre-order counts;
* `last_in_preorder_counts` — this is the one that is completed last, unless another assignment to
  the variable stands inside that one;
* `outer_assignment_missed` — there are files in which one does, and the projection that was
  overwritten is taken for the one that holds.
-/

set_option autoImplicit false

namespace LayerLint

open Syntax (Node Source)

namespace Syntax.Node

/-! ## Places of nodes -/

mutual

/-- What is below the node lies inside it, one after another, and is nested itself. -/
def isNested : Node → Bool
  | mk _ _ s e cs => decide (s ≤ e) && areNested s e cs

/-- Trees between two offsets, one after another, each of them nested. -/
def areNested (lo hi : Nat) : List Node → Bool
  | [] => decide (lo ≤ hi)
  | n :: ns => decide (lo ≤ n.start) && n.isNested && areNested n.stop hi ns

end

theorem isNested_iff (n : Node) :
    n.isNested = true ↔ n.start ≤ n.stop ∧ areNested n.start n.stop n.children = true := by
  cases n
  simp [isNested, start, stop, children]

theorem areNested_cons_iff {lo hi : Nat} {n : Node} {ns : List Node} :
    areNested lo hi (n :: ns) = true ↔
      lo ≤ n.start ∧ n.isNested = true ∧ areNested n.stop hi ns = true := by
  simp [areNested, and_assoc]

theorem le_of_areNested {hi : Nat} : ∀ {ns : List Node} {lo : Nat},
    areNested lo hi ns = true → lo ≤ hi
  | [], lo, h => by simpa [areNested] using h
  | n :: ns, lo, h => by
    obtain ⟨hlo, hn, hns⟩ := areNested_cons_iff.1 h
    have hle := ((isNested_iff n).1 hn).1
    have hrest := le_of_areNested hns
    omega

theorem mem_of_areNested {hi : Nat} : ∀ {ns : List Node} {lo : Nat}, areNested lo hi ns = true →
    ∀ n ∈ ns, lo ≤ n.start ∧ n.stop ≤ hi ∧ n.isNested = true
  | [], _, _, n, hn => (List.not_mem_nil hn).elim
  | m :: ns, lo, h, n, hn => by
    obtain ⟨hlo, hm, hns⟩ := areNested_cons_iff.1 h
    rcases List.mem_cons.1 hn with rfl | hn
    · exact ⟨hlo, le_of_areNested hns, hm⟩
    · have hle := ((isNested_iff m).1 hm).1
      obtain ⟨hstart, hstop, hnested⟩ := mem_of_areNested hns n hn
      exact ⟨by omega, hstop, hnested⟩

/-- Whatever is in a nested tree lies inside it, and is nested. -/
theorem within_of_mem_preorder {n m : Node} (h : n.isNested = true) (hm : m ∈ n.preorder) :
    n.start ≤ m.start ∧ m.stop ≤ n.stop ∧ m.isNested = true := by
  induction n using induct with
  | h n ih =>
    rw [preorder_eq] at hm
    rcases List.mem_cons.1 hm with rfl | hm
    · exact ⟨Nat.le_refl _, Nat.le_refl _, h⟩
    · obtain ⟨c, hc, hm⟩ := mem_preorderAll.1 hm
      obtain ⟨hstart, hstop, hnested⟩ := mem_of_areNested ((isNested_iff n).1 h).2 c hc
      obtain ⟨hstart', hstop', hm⟩ := ih c hc hnested hm
      exact ⟨by omega, by omega, hm⟩

/-- The tree is cut where one of its nodes begins: what is below that node comes first, and then
    nodes that begin after its end. -/
def CutsAt (all : List Node) : Prop :=
  ∀ before n after, all = before ++ n :: after →
    ∃ later, after = preorderAll n.children ++ later ∧ ∀ m ∈ later, n.stop ≤ m.start

theorem cutsAt_preorderAll {hi : Nat} : ∀ {ns : List Node} {lo : Nat},
    areNested lo hi ns = true → (∀ n ∈ ns, CutsAt n.preorder) → CutsAt (preorderAll ns)
  | [], _, _, _ => by
    intro before n after hsplit
    simp [preorderAll] at hsplit
  | root :: ns, lo, h, hcuts => by
    obtain ⟨-, hroot, hns⟩ := areNested_cons_iff.1 h
    obtain ⟨hfirst, hrest⟩ := List.forall_mem_cons.1 hcuts
    intro before n after hsplit
    rw [preorderAll] at hsplit
    rcases List.append_eq_append_iff.1 hsplit with ⟨middle, rfl, hmiddle⟩ | ⟨middle, hmiddle, hafter⟩
    · exact cutsAt_preorderAll hns hrest middle n after hmiddle
    · cases middle with
      | nil =>
        -- the node is the first one of the remaining trees
        exact cutsAt_preorderAll hns hrest [] n after hafter.symm
      | cons first middle =>
        rw [List.cons_append, List.cons.injEq] at hafter
        obtain ⟨rfl, rfl⟩ := hafter
        obtain ⟨later, rfl, hlater⟩ := hfirst before n middle hmiddle
        refine ⟨later ++ preorderAll ns, List.append_assoc .., fun m hm => ?_⟩
        rcases List.mem_append.1 hm with hm | hm
        · exact hlater m hm
        · have hn : n ∈ root.preorder := by simp [hmiddle]
          have hstop := (within_of_mem_preorder hroot hn).2.1
          obtain ⟨c, hc, hmc⟩ := mem_preorderAll.1 hm
          obtain ⟨hstart, -, hnested⟩ := mem_of_areNested hns c hc
          have hstart' := (within_of_mem_preorder hnested hmc).1
          omega

/-- **What follows a node in pre-order is below it or begins after its end.** -/
theorem exists_later {root : Node} (h : root.isNested = true) : CutsAt root.preorder := by
  induction root using induct with
  | h root ih =>
    have hbelow := ((isNested_iff root).1 h).2
    have hcuts : CutsAt (preorderAll root.children) := by
      refine cutsAt_preorderAll hbelow fun c hc => ih c hc ?_
      exact (mem_of_areNested hbelow c hc).2.2
    intro before n after hsplit
    rw [preorder_eq] at hsplit
    cases before with
    | nil =>
      rw [List.nil_append, List.cons.injEq] at hsplit
      obtain ⟨rfl, rfl⟩ := hsplit
      exact ⟨[], (List.append_nil _).symm, fun _ hm => (List.not_mem_nil hm).elim⟩
    | cons first before =>
      rw [List.cons_append, List.cons.injEq] at hsplit
      exact hcuts before n after hsplit.2

/-- The node is an assignment to the variable. -/
def assigns (source : Source) (binding : String) (n : Node) : Bool :=
  n.kind == .assignment &&
    ((n.child? .left).bind fun target => target.variableName? source) == some binding

end Syntax.Node

namespace Convention.PartialLoad

open Syntax.Node (preorderAll assigns)

/-! ## The assignment that counts -/

/-- The projection that an assignment gives to its variable. -/
def given (ctx : Context) (n : Node) : Option Projection :=
  (n.child? .right).bind (projection? ctx)

/-- The assignments to a variable that end at an offset or before, in pre-order. -/
def ended (source : Source) (body : Node) (binding : String) (offset : Nat) : List Node :=
  body.preorder.filter fun n => n.assigns source binding && decide (n.stop ≤ offset)

theorem any_ofNode? (ctx : Context) (binding : String) (offset : Nat) (n : Node) :
    (n.kind == .assignment && (Assignment.ofNode? ctx n).any fun a =>
      a.binding == binding && decide (a.stop ≤ offset)) =
      (n.assigns ctx.source binding && decide (n.stop ≤ offset)) := by
  unfold Assignment.ofNode? assigns
  rw [Bool.and_assoc]
  congr 1
  cases n.child? .left with
  | none => rfl
  | some target => cases htarget : target.variableName? ctx.source <;> simp [htarget]

theorem projection_ofNode? {ctx : Context} {n : Node} {binding : String}
    (h : n.assigns ctx.source binding = true) :
    (Assignment.ofNode? ctx n).bind Assignment.projection = given ctx n := by
  unfold assigns at h
  rw [Bool.and_eq_true, beq_iff_eq, beq_iff_eq] at h
  obtain ⟨target, htarget, hname⟩ := Option.bind_eq_some_iff.1 h.2
  simp [Assignment.ofNode?, given, htarget, hname]

/-- **Of the assignments that end before a place, the last one in pre-order counts.** -/
theorem liveAt_eq (ctx : Context) (body : Node) (binding : String) (offset : Nat) :
    liveAt (assignments ctx body) binding offset =
      (ended ctx.source body binding offset).getLast?.bind (given ctx) := by
  have hlast : (ended ctx.source body binding offset).getLast? =
      body.preorder.reverse.find? fun n =>
        n.assigns ctx.source binding && decide (n.stop ≤ offset) := by
    rw [ended, List.getLast?_eq_head?_reverse, ← List.filter_reverse, List.head?_filter]
  have hfound : ((assignments ctx body).filter fun a => a.binding == binding).reverse.find?
      (fun a => decide (a.stop ≤ offset)) =
        (body.preorder.reverse.find? fun n =>
          n.assigns ctx.source binding && decide (n.stop ≤ offset)).bind
            (Assignment.ofNode? ctx) := by
    rw [assignments, Node.findAll_eq_filter_preorder, ← List.filter_reverse, List.find?_filter,
      ← List.filterMap_reverse, ← List.filter_reverse, List.find?_filterMap, List.find?_filter]
    simp only [Bool.decide_and, Bool.decide_eq_true, any_ofNode?]
  have hlive : liveAt (assignments ctx body) binding offset =
      ((body.preorder.reverse.find? fun n =>
        n.assigns ctx.source binding && decide (n.stop ≤ offset)).bind
          (Assignment.ofNode? ctx)).bind Assignment.projection := by
    rw [← hfound]
    rfl
  rw [hlive, hlast]
  cases hnode : body.preorder.reverse.find? fun n =>
      n.assigns ctx.source binding && decide (n.stop ≤ offset) with
  | none => rfl
  | some n =>
    have hassigns := List.find?_some hnode
    rw [Bool.and_eq_true] at hassigns
    exact projection_ofNode? hassigns.1

/-- The body is cut at an assignment to the variable that ends at the offset or before, and after
    all others that do. -/
structure CompletedLast (source : Source) (body : Node) (binding : String) (offset : Nat)
    (before : List Node) (last : Node) (after : List Node) : Prop where
  split : body.preorder = before ++ last :: after
  assigned : last.assigns source binding = true
  inTime : last.stop ≤ offset
  latest : ∀ other ∈ before ++ after, other.assigns source binding = true →
    other.stop ≤ offset → other.stop < last.stop

/-- After the assignment that is completed last, only those inside it come in pre-order. -/
theorem CompletedLast.getLast?_ended {source : Source} {body : Node} {binding : String}
    {offset : Nat} {before : List Node} {last : Node} {after : List Node}
    (h : CompletedLast source body binding offset before last after)
    (hbody : body.isNested = true) :
    (ended source body binding offset).getLast? =
      (last :: (preorderAll last.children).filter (assigns source binding)).getLast? := by
  obtain ⟨later, rfl, hlater⟩ := Node.exists_later hbody before last after h.split
  have hlast : last ∈ body.preorder := by simp [h.split]
  have hnested := (Node.within_of_mem_preorder hbody hlast).2.2
  have hinside : (preorderAll last.children).filter (fun n =>
      n.assigns source binding && decide (n.stop ≤ offset)) =
        (preorderAll last.children).filter (assigns source binding) := by
    refine List.filter_congr fun n hn => ?_
    have hmem : n ∈ last.preorder := by
      rw [Node.preorder_eq]
      exact List.mem_cons_of_mem _ hn
    have hstop := (Node.within_of_mem_preorder hnested hmem).2.1
    have hended := h.inTime
    have hle : n.stop ≤ offset := by omega
    rw [decide_eq_true hle, Bool.and_true]
  have hnone : later.filter (fun n =>
      n.assigns source binding && decide (n.stop ≤ offset)) = [] := by
    refine List.filter_eq_nil_iff.2 fun n hn hended => ?_
    rw [Bool.and_eq_true, decide_eq_true_eq] at hended
    have hmem : n ∈ body.preorder := by simp [h.split, hn]
    have hless := h.latest n (by simp [hn]) hended.1 hended.2
    have hstart := hlater n hn
    have hle := ((Node.isNested_iff n).1 (Node.within_of_mem_preorder hbody hmem).2.2).1
    omega
  rw [ended, h.split, List.filter_append, List.filter_cons_of_pos (by simp [h.assigned, h.inTime]),
    List.filter_append, hinside, hnone, List.append_nil, List.getLast?_append_cons]

/-- **Which assignment counts.**  What a variable is taken to hold at some place comes from the last
    assignment in pre-order among those that end before.  If one of these ends after all others, and
    the nodes of the body lie in their places, then that is the one that counts, unless there are
    assignments to the variable inside it: then the last one of these counts. -/
theorem last_in_preorder_counts (ctx : Context) (body : Node) (binding : String) (offset : Nat) :
    let live := liveAt (assignments ctx body) binding offset
    live = (ended ctx.source body binding offset).getLast?.bind (given ctx) ∧
    (body.isNested = true → ∀ before last after,
      CompletedLast ctx.source body binding offset before last after →
        let inside := (preorderAll last.children).filter (assigns ctx.source binding)
        (inside = [] → live = given ctx last) ∧
        ∀ inner, inside.getLast? = some inner → live = given ctx inner) := by
  intro live
  have hlive : live = (ended ctx.source body binding offset).getLast?.bind (given ctx) :=
    liveAt_eq ctx body binding offset
  refine ⟨hlive, fun hbody before last after hlast => ?_⟩
  intro inside
  rw [hlast.getLast?_ended hbody] at hlive
  constructor
  · intro hnone
    have hsole : (last :: inside).getLast? = some last := by rw [hnone]; rfl
    rw [hlive, hsole, Option.bind_some]
  · intro inner hinner
    have hinner' : (last :: inside).getLast? = some inner := by
      rw [List.getLast?_cons, hinner]
      rfl
    rw [hlive, hinner', Option.bind_some]

/-! ## Assignments inside assignments -/

/-- The node at a position of the body is the assignment that is completed last, and passes a
    check. -/
def completedLastAt (source : Source) (body : Node) (binding : String) (offset position : Nat)
    (check : Node → Bool) : Bool :=
  (body.preorder[position]?).any fun last =>
    last.assigns source binding && decide (last.stop ≤ offset) && check last &&
      (body.preorder.take position ++ body.preorder.drop (position + 1)).all fun other =>
        !(other.assigns source binding && decide (other.stop ≤ offset)) ||
          decide (other.stop < last.stop)

theorem exists_completedLast {source : Source} {body : Node} {binding : String}
    {offset position : Nat} {check : Node → Bool}
    (h : completedLastAt source body binding offset position check = true) :
    ∃ before last after, CompletedLast source body binding offset before last after ∧
      check last = true := by
  obtain ⟨last, hlast, hfacts⟩ := (Option.any_eq_true _ _).1 h
  simp only [Bool.and_eq_true, decide_eq_true_eq, List.all_eq_true] at hfacts
  obtain ⟨⟨⟨hassigned, hinTime⟩, hcheck⟩, hothers⟩ := hfacts
  obtain ⟨hposition, rfl⟩ := List.getElem?_eq_some_iff.1 hlast
  refine ⟨body.preorder.take position, _, body.preorder.drop (position + 1),
    ⟨?_, hassigned, hinTime, fun other hother hassigns hstop => ?_⟩, hcheck⟩
  · rw [← List.drop_eq_getElem_cons hposition, List.take_append_drop]
  · simpa [hassigns, hstop] using hothers other hother

/-- The body of the first method of a file. -/
def firstBody? (ctx : Context) : Option Node :=
  (ctx.file.root.preorder.find? Node.isMethod).bind Node.methodBody?

/-- A variable is loaded with one field inside an assignment to it, and is assigned once more after
    it was saved.  The first save comes after the outer assignment, but the inner one counts; at the
    second save nothing of that is left. -/
theorem last_in_preorder_counts_cleared :
    let ctx := hookedContext ("<?php class A\x7bfunction f()\x7b" ++
      "$o=$this->wrap($o=$q->getRepository('E')->select('b'));$m->save($o);" ++
      "$o=$q->find();$m->save($o);\x7d\x7d")
    ∃ body, firstBody? ctx = some body ∧ body.isNested = true ∧
      (∃ before last after, CompletedLast ctx.source body "o" 82 before last after ∧
        given ctx last = none) ∧
      liveAt (assignments ctx body) "o" 82 = some { fields := ["b"], entity := some "E" } ∧
      (∃ before last after, CompletedLast ctx.source body "o" 109 before last after) ∧
      liveAt (assignments ctx body) "o" 109 = none := by
  intro ctx
  let inside (n : Node) : List Node := (preorderAll n.children).filter (assigns ctx.source "o")
  have hfacts : (firstBody? ctx).any (fun body => body.isNested &&
      completedLastAt ctx.source body "o" 82 3 (fun last => given ctx last == none &&
        (inside last).getLast?.any fun inner =>
          given ctx inner == some { fields := ["b"], entity := some "E" }) &&
      completedLastAt ctx.source body "o" 109 47 (fun last =>
        (inside last).isEmpty && given ctx last == none)) = true := by
    decide +kernel
  obtain ⟨body, hbody, hchecks⟩ := (Option.any_eq_true _ _).1 hfacts
  simp only [Bool.and_eq_true] at hchecks
  obtain ⟨⟨hnested, hfirst⟩, hsecond⟩ := hchecks
  obtain ⟨before, outer, after, houter, hcheck⟩ := exists_completedLast hfirst
  obtain ⟨before', last, after', hlast, hcheck'⟩ := exists_completedLast hsecond
  simp only [Bool.and_eq_true, beq_iff_eq, Option.any_eq_true] at hcheck hcheck'
  obtain ⟨hgiven, inner, hinner, hprojection⟩ := hcheck
  obtain ⟨hempty, hgiven'⟩ := hcheck'
  have hlive := ((last_in_preorder_counts ctx body "o" 82).2 hnested _ _ _ houter).2 inner hinner
  have hlive' := ((last_in_preorder_counts ctx body "o" 109).2 hnested _ _ _ hlast).1
    (List.isEmpty_iff.1 hempty)
  exact ⟨body, hbody, hnested, ⟨before, outer, after, houter, hgiven⟩, hlive.trans hprojection,
    ⟨before', last, after', hlast⟩, hlive'.trans hgiven'⟩

/-- The variable is loaded with one field and assigned anew in the same statement.  The assignment
    around the other one is completed last and makes no projection; yet at the save that follows, the
    projection of the inner one is taken to hold, and the save is reported. -/
theorem outer_assignment_missed :
    let ctx := hookedContext ("<?php class A\x7bfunction f()\x7b" ++
      "$o=$this->wrap($o=$q->getRepository('E')->select('b'));$m->save($o);\x7d\x7d")
    ctx.file.hasErrors = false ∧
    (∃ body, firstBody? ctx = some body ∧ body.isNested = true ∧
      ∃ save, body.preorder.find? (isSaveCall ctx.source) = some save ∧
        ∃ before last after, CompletedLast ctx.source body "o" save.start before last after ∧
          given ctx last = none ∧
          liveAt (assignments ctx body) "o" save.start =
            some { fields := ["b"], entity := some "E" }) ∧
    ((((Engine.ofRules defaultRules).visit ctx).run .empty).1.map Diagnostic.ruleId) =
      ["espocrm.hooks.saveRestrictedEntityFieldsRule"] := by
  intro ctx
  have hfacts : (!ctx.file.hasErrors && ((firstBody? ctx).any fun body => body.isNested &&
      (body.preorder.find? (isSaveCall ctx.source)).any fun save =>
        completedLastAt ctx.source body "o" save.start 3 (fun last => given ctx last == none) &&
          liveAt (assignments ctx body) "o" save.start ==
            some { fields := ["b"], entity := some "E" }) &&
      (((Engine.ofRules defaultRules).visit ctx).run .empty).1.map Diagnostic.ruleId ==
        ["espocrm.hooks.saveRestrictedEntityFieldsRule"]) = true := by
    decide +kernel
  simp only [Bool.and_eq_true, Bool.not_eq_true', beq_iff_eq] at hfacts
  obtain ⟨⟨hparsed, hbodies⟩, hfound⟩ := hfacts
  obtain ⟨body, hbody, hchecks⟩ := (Option.any_eq_true _ _).1 hbodies
  obtain ⟨hnested, hsaves⟩ := (Bool.and_eq_true _ _).mp hchecks
  obtain ⟨save, hsave, hchecks'⟩ := (Option.any_eq_true _ _).1 hsaves
  simp only [Bool.and_eq_true, beq_iff_eq] at hchecks'
  obtain ⟨before, last, after, hlast, hgiven⟩ := exists_completedLast hchecks'.1
  refine ⟨hparsed, ⟨body, hbody, hnested, save, hsave, before, last, after, hlast, ?_, ?_⟩, hfound⟩
  · exact beq_iff_eq.1 hgiven
  · exact hchecks'.2

end Convention.PartialLoad

end LayerLint
