import LayerLint.Proofs.Catalog
import Mathlib.Data.List.Flatten

/-!
# Which partial saves a visit reports

The rule for partially loaded entities searches the whole body of a method, and a visit asks it
about every method of the file.  A method may stand in the body of another one, as a method of an
anonymous class or of a class that is declared there.

* `offences` — the saves of a method that the rule reports;
* `reports_eq_offences` — the rule reports these, in their order;
* `flatMap_found_subperm` — if a search of method bodies finds nothing in a method that it also finds
  in one around it, all that it finds in a tree are different nodes of it;
* `saves_reported_once` — so a visit reports no save twice, unless the save is an offence of two
  methods, one in the other;
* `nested_save_reported_twice` — there are files in which one is.
-/

set_option autoImplicit false

namespace LayerLint

open Syntax (Node Site MemberCall)

namespace Syntax.Node

/-- To prove something of all trees, prove it of a node from its children. -/
theorem induct {P : Node → Prop} (h : ∀ n : Node, (∀ c ∈ n.children, P c) → P n) (n : Node) :
    P n :=
  h n fun c _ => induct h c
termination_by sizeOf n
decreasing_by
  rename_i hc
  cases n
  have hlt := List.sizeOf_lt_of_mem hc
  simp only [children] at hlt
  simp only [mk.sizeOf_spec]
  omega

theorem preorder_eq (n : Node) : n.preorder = n :: preorderAll n.children := by
  cases n
  simp only [preorder, children]

theorem preorderAll_append (ns ms : List Node) :
    preorderAll (ns ++ ms) = preorderAll ns ++ preorderAll ms := by
  induction ns with
  | nil => rfl
  | cons n ns ih => simp only [List.cons_append, preorderAll, ih, List.append_assoc]

theorem mem_preorderAll {ns : List Node} {m : Node} :
    m ∈ preorderAll ns ↔ ∃ n ∈ ns, m ∈ n.preorder := by
  induction ns with
  | nil => simp [preorderAll]
  | cons n ns ih => simp [preorderAll, ih]

/-- Below a node stands what is below each of its descendants. -/
theorem preorder_sublist {n m : Node} (h : m ∈ n.preorder) : m.preorder.Sublist n.preorder := by
  induction n using induct with
  | h n ih =>
    rw [preorder_eq n] at h
    rcases List.mem_cons.1 h with rfl | h
    · exact List.Sublist.refl _
    · obtain ⟨c, hc, hm⟩ := mem_preorderAll.1 h
      obtain ⟨before, after, hcut⟩ := List.append_of_mem hc
      rw [preorder_eq n, hcut, preorderAll_append, preorderAll]
      refine (ih c hc hm).trans (List.Sublist.cons _ ?_)
      exact (List.sublist_append_left _ _).trans (List.sublist_append_right _ _)

/-- The node is a method. -/
def isMethod (n : Node) : Bool :=
  n.kind == .methodDeclaration

/-- The methods in the body of a method. -/
def innerMethods (n : Node) : List Node :=
  (n.methodBody?.map fun body => body.preorder.filter isMethod).getD []

theorem mem_children_of_methodBody? {n body : Node} (h : n.methodBody? = some body) :
    body ∈ n.children := by
  have hchild := (Option.filter_eq_some_iff.1 h).1
  exact List.mem_of_find?_eq_some hchild

/-! ## Searching the bodies of methods -/

section

variable {found : Node → List Node} {accept : Node → Bool}

theorem flatMap_found_subperm_all : ∀ {ns : List Node},
    (∀ n ∈ ns, ((n.preorder.filter isMethod).flatMap found).Subperm (n.preorder.filter accept)) →
      (((preorderAll ns).filter isMethod).flatMap found).Subperm ((preorderAll ns).filter accept)
  | [], _ => List.Subperm.refl _
  | n :: ns, h => by
    obtain ⟨hn, hns⟩ := List.forall_mem_cons.1 h
    simp only [preorderAll, List.filter_append, List.flatMap_append]
    exact hn.append (flatMap_found_subperm_all hns)

/-- Two parts of a list that have nothing in common are a part of it together. -/
theorem append_subperm_of_disjoint {first second all : List Node} (hfirst : first.Subperm all)
    (hsecond : second.Subperm all) (hdisjoint : first.Disjoint second) :
    (first ++ second).Subperm all := by
  classical
  rw [List.subperm_ext_iff]
  intro n _
  rw [List.count_append]
  by_cases hmem : n ∈ first
  · rw [List.count_eq_zero_of_not_mem (hdisjoint hmem), Nat.add_zero]
    exact hfirst.count_le n
  · rw [List.count_eq_zero_of_not_mem hmem, Nat.zero_add]
    exact hsecond.count_le n

/-- Suppose that for each method accepted nodes of its body are found, in their order, and none of
    them is found for a method in the body as well.  Then all that is found in a tree are different
    accepted nodes of it. -/
theorem flatMap_found_subperm
    (hfound : ∀ method, (found method).Sublist
      (((method.methodBody?.map preorder).getD []).filter accept))
    (n : Node) (hinner : ∀ outer ∈ n.preorder.filter isMethod, ∀ inner ∈ outer.innerMethods,
      (found outer).Disjoint (found inner)) :
    ((n.preorder.filter isMethod).flatMap found).Subperm (n.preorder.filter accept) := by
  induction n using induct with
  | h n ih =>
    have hchildren : ∀ c ∈ n.children,
        ((c.preorder.filter isMethod).flatMap found).Subperm (c.preorder.filter accept) := by
      intro c hc
      refine ih c hc fun outer houter => hinner outer ?_
      obtain ⟨hmem, hmethod⟩ := List.mem_filter.1 houter
      rw [preorder_eq]
      exact List.mem_filter.2 ⟨List.mem_cons_of_mem _ (mem_preorderAll.2 ⟨c, hc, hmem⟩), hmethod⟩
    have hself : ((preorderAll n.children).filter accept).Sublist (n.preorder.filter accept) := by
      rw [preorder_eq]
      exact (List.sublist_cons_self _ _).filter _
    cases hmethod : n.isMethod with
    | false =>
      rw [preorder_eq, List.filter_cons_of_neg (by simp [hmethod]), ← preorder_eq]
      exact (flatMap_found_subperm_all hchildren).trans hself.subperm
    | true =>
      have hsearch : (n.preorder.filter isMethod).flatMap found =
          found n ++ ((preorderAll n.children).filter isMethod).flatMap found := by
        rw [preorder_eq, List.filter_cons_of_pos hmethod, List.flatMap_cons]
      rw [hsearch]
      refine List.Subperm.trans ?_ hself.subperm
      cases hbody : n.methodBody? with
      | none =>
        have hnone : found n = [] := by simpa [hbody] using hfound n
        rw [hnone, List.nil_append]
        exact flatMap_found_subperm_all hchildren
      | some body =>
        -- the body is searched for this method and for those in it, with nothing in common
        obtain ⟨before, after, hcut⟩ := List.append_of_mem (mem_children_of_methodBody? hbody)
        rw [hcut] at hchildren ⊢
        have hdisjoint : (found n).Disjoint ((body.preorder.filter isMethod).flatMap found) := by
          intro call hcall hcall'
          obtain ⟨inner, hmem, hin⟩ := List.mem_flatMap.1 hcall'
          refine hinner n ?_ inner ?_ hcall hin
          · rw [preorder_eq]
            exact List.mem_filter.2 ⟨List.mem_cons_self, hmethod⟩
          · rw [innerMethods, hbody]
            exact hmem
        have hown : (found n).Subperm (body.preorder.filter accept) := by
          have hsub := hfound n
          rw [hbody] at hsub
          exact hsub.subperm
        have hboth := append_subperm_of_disjoint hown
          (hchildren body (List.mem_append_right _ List.mem_cons_self)) hdisjoint
        have hbefore := flatMap_found_subperm_all fun c hc =>
          hchildren c (List.mem_append_left _ hc)
        have hafter := flatMap_found_subperm_all fun c hc =>
          hchildren c (List.mem_append_right _ (List.mem_cons_of_mem _ hc))
        simp only [preorderAll_append, preorderAll, List.filter_append, List.flatMap_append]
        have hmoved := (hbefore.append (hboth.append hafter))
        rw [List.append_assoc] at hmoved
        exact (List.perm_append_comm_assoc ..).subperm.trans hmoved

end

/-- What is found for a method comes before what is found for a method in its body. -/
theorem append_found_sublist {β : Type} (found : Node → List β) {n outer inner : Node}
    (houter : outer ∈ n.preorder.filter isMethod) (hinner : inner ∈ outer.innerMethods) :
    (found outer ++ found inner).Sublist ((n.preorder.filter isMethod).flatMap found) := by
  obtain ⟨hmem, hmethod⟩ := List.mem_filter.1 houter
  have hpair : [outer, inner].Sublist (n.preorder.filter isMethod) := by
    cases hbody : outer.methodBody? with
    | none => simp [innerMethods, hbody] at hinner
    | some body =>
      rw [innerMethods, hbody] at hinner
      have hbelow : inner ∈ (preorderAll outer.children).filter isMethod := by
        obtain ⟨hin, hkind⟩ := List.mem_filter.1 hinner
        exact List.mem_filter.2
          ⟨mem_preorderAll.2 ⟨body, mem_children_of_methodBody? hbody, hin⟩, hkind⟩
      refine List.Sublist.trans ?_ ((preorder_sublist hmem).filter _)
      rw [preorder_eq, List.filter_cons_of_pos hmethod]
      exact (List.singleton_sublist.2 hbelow).cons_cons outer
  have hflat := hpair.flatMap found
  simpa using hflat

end Syntax.Node

namespace Convention.PartialLoad

/-- The node is a call that stores an entity. -/
def isSaveCall (source : Syntax.Source) (n : Node) : Bool :=
  ((MemberCall.ofNode? source n).map fun call => call.isNamed persistCalls).getD false

/-- Hooks read a field that the save lacks. -/
def PartialSave.offends (fields : Path → List String) (save : PartialSave) : Bool :=
  !(missingFields (fields save.hooks) save.projection).isEmpty

/-- The saves of a method that lack a field which hooks read. -/
def offences (fields : Path → List String) (ctx : Context) (method : Node) : List PartialSave :=
  (partialSaves ctx method).filter (PartialSave.offends fields)

/-- What the rule says about an offence. -/
def PartialSave.report (fields : Path → List String) (id : String) (ctx : Context)
    (save : PartialSave) : Diagnostic :=
  Rule.report id ctx save.call.node
    (message save.entityType (missingFields (fields save.hooks) save.projection))

/-! ## What the rule reports -/

theorem answer_judgeSaves (fields : Path → List String) (id : String) (ctx : Context) :
    ∀ saves : List PartialSave, (judgeSaves id ctx saves).answer fields =
      (saves.filter (PartialSave.offends fields)).map (PartialSave.report fields id ctx)
  | [] => rfl
  | save :: rest => by
    have hfirst : (judgeSave id ctx save).answer fields =
        if save.offends fields then [save.report fields id ctx] else [] := by
      unfold judgeSave PartialSave.offends PartialSave.report
      rw [HookInquiry.answer_bind]
      cases hmissing : missingFields (fields save.hooks) save.projection <;>
        simp [HookInquiry.fields, HookInquiry.answer, hmissing]
    simp only [judgeSaves, HookInquiry.answer_bind, HookInquiry.answer_pure, hfirst,
      answer_judgeSaves fields id ctx rest]
    cases hoffends : save.offends fields <;> simp [hoffends]

theorem answer_judge (fields : Path → List String) (id : String) (ctx : Context) (site : Site) :
    (judge id ctx site).answer fields =
      .ok (if ctx.inBackend then
        (offences fields ctx site.node).map (PartialSave.report fields id ctx) else []) := by
  unfold judge
  cases ctx.inBackend with
  | false => rfl
  | true =>
    simp only [Bool.not_true, Bool.false_eq_true, if_false, if_true, HookInquiry.answer_bind,
      HookInquiry.answer_pure, answer_judgeSaves]
    rfl

/-- **In the backend the rule reports the offences of each method**, in their order. -/
theorem reports_eq_offences (fields : Path → List String) (ctx : Context) (site : Site) :
    Engine.reports fields saveRestrictedEntityFields ctx site =
      if site.node.isMethod && ctx.inBackend then
        (offences fields ctx site.node).map
          (PartialSave.report fields saveRestrictedEntityFields.id ctx)
      else [] := by
  have hsubject : saveRestrictedEntityFields.subject = .methodDecl := rfl
  have hjudge : ∀ id, saveRestrictedEntityFields.judge id ctx site = judge id ctx site := by
    intro id
    unfold saveRestrictedEntityFields Rule.declare
    dsimp only
  unfold Engine.reports
  rw [Rule.looksAt_of_methodDecl hsubject, ← Syntax.Node.isMethod, hjudge, answer_judge]
  generalize saveRestrictedEntityFields.id = id
  cases site.node.isMethod <;> simp [Except.toOption]

/-! ## Different calls -/

/-- A part of some elements, taken in their order, is found there again. -/
theorem map_filterMap_sublist {α β : Type} {take : α → Option β} {back : β → α} {accept : α → Bool}
    (h : ∀ a b, take a = some b → back b = a ∧ accept a = true) :
    ∀ l : List α, ((l.filterMap take).map back).Sublist (l.filter accept)
  | [] => .slnil
  | a :: l => by
    have ih := map_filterMap_sublist h l
    cases htake : take a with
    | none =>
      rw [List.filterMap_cons_none htake]
      exact ih.trans ((List.sublist_cons_self a l).filter _)
    | some b =>
      obtain ⟨hback, haccept⟩ := h a b htake
      rw [List.filterMap_cons_some htake, List.map_cons, hback, List.filter_cons_of_pos haccept]
      exact ih.cons_cons a

theorem node_of_ofCall? {ctx : Context} {method : Node} {made : List Assignment} {call : MemberCall}
    {save : PartialSave} (h : PartialSave.ofCall? ctx method made call = some save) :
    save.call = call ∧ call.isNamed persistCalls = true := by
  unfold PartialSave.ofCall? at h
  split at h
  · split at h
    · rename_i hnamed
      simp only [bind, Option.bind_eq_some_iff, pure, Option.some.injEq] at h
      obtain ⟨_, _, _, _, _, _, _, _, rfl⟩ := h
      exact ⟨rfl, hnamed⟩
    · cases h
  · cases h

/-- The offences of a method are calls in its body that store entities, in their order. -/
theorem map_node_offences (fields : Path → List String) (ctx : Context) (method : Node) :
    ((offences fields ctx method).map fun save => save.call.node).Sublist
      (((method.methodBody?.map Node.preorder).getD []).filter (isSaveCall ctx.source)) := by
  refine (List.filter_sublist.map _).trans ?_
  unfold partialSaves
  cases method.methodBody? with
  | none => exact .slnil
  | some body =>
    simp only [Node.memberCalls, Node.findAll_eq_filter_preorder, List.filterMap_filterMap]
    refine (map_filterMap_sublist ?_ _).trans (List.filter_sublist.filter _)
    intro n save htake
    obtain ⟨call, hcall, hsave⟩ := Option.bind_eq_some_iff.1 htake
    obtain ⟨hsame, hnamed⟩ := node_of_ofCall? hsave
    have hnode : call.node = n := by
      unfold MemberCall.ofNode? at hcall
      split at hcall
      · cases hcall
        rfl
      · cases hcall
    refine ⟨?_, ?_⟩
    · rw [hsame, hnode]
    · simp only [isSaveCall, hcall, Option.map_some, Option.getD_some, hnamed]

/-! ## In a visit -/

theorem id_eq :
    saveRestrictedEntityFields.id = "espocrm.hooks.saveRestrictedEntityFieldsRule" := by
  decide +kernel

theorem flatMap_reports (fields : Path → List String) (ctx : Context) :
    (ctx.file.root.sites []).flatMap (Engine.reports fields saveRestrictedEntityFields ctx) =
      if ctx.inBackend then
        ((ctx.file.root.preorder.filter Node.isMethod).flatMap (offences fields ctx)).map
          (PartialSave.report fields saveRestrictedEntityFields.id ctx)
      else [] := by
  rw [funext (reports_eq_offences fields ctx), ← Node.map_node_sites [] ctx.file.root]
  generalize saveRestrictedEntityFields.id = id
  cases ctx.inBackend with
  | false => simp
  | true =>
    simp only [Bool.and_true, if_true]
    induction ctx.file.root.sites [] with
    | nil => rfl
    | cons site sites ih =>
      rw [List.flatMap_cons, ih, List.map_cons, List.filter_cons]
      cases site.node.isMethod <;> simp

/-- A call is an offence of a method and of another one that stands in its body. -/
def SharedOffence (fields : Path → List String) (ctx : Context) : Prop :=
  ∃ outer ∈ ctx.file.root.preorder.filter Node.isMethod, ∃ inner ∈ outer.innerMethods,
    ∃ save ∈ offences fields ctx outer, ∃ save' ∈ offences fields ctx inner,
      save.call.node = save'.call.node

/-- Without shared offences, the offences of all methods are different calls of the file. -/
theorem offences_subperm {fields : Path → List String} {ctx : Context}
    (hshared : ¬ SharedOffence fields ctx) :
    ((ctx.file.root.preorder.filter Node.isMethod).flatMap fun method =>
      (offences fields ctx method).map fun save => save.call.node).Subperm
        (ctx.file.root.preorder.filter (isSaveCall ctx.source)) := by
  refine Node.flatMap_found_subperm (map_node_offences fields ctx) _ ?_
  intro outer houter inner hinner call hcall hcall'
  obtain ⟨save, hsave, hnode⟩ := List.mem_map.1 hcall
  obtain ⟨save', hsave', hnode'⟩ := List.mem_map.1 hcall'
  exact hshared
    ⟨outer, houter, inner, hinner, save, hsave, save', hsave', hnode.trans hnode'.symm⟩

/-- A shared offence is a call of the file, and there are two reports about it. -/
theorem SharedOffence.reports {fields : Path → List String} {ctx : Context}
    (h : SharedOffence fields ctx) (id : String) :
    ∃ call ∈ ctx.file.root.preorder.filter (isSaveCall ctx.source), ∃ twice : List Diagnostic,
      twice.Sublist (((ctx.file.root.preorder.filter Node.isMethod).flatMap
        (offences fields ctx)).map (PartialSave.report fields id ctx)) ∧
      twice.map Diagnostic.location = [ctx.location call, ctx.location call] := by
  obtain ⟨outer, houter, inner, hinner, save, hsave, save', hsave', hnode⟩ := h
  refine ⟨save.call.node, ?_, [save.report fields id ctx, save'.report fields id ctx], ?_, ?_⟩
  · obtain ⟨hmem, -⟩ := List.mem_filter.1 houter
    have hcall := (map_node_offences fields ctx outer).subset (List.mem_map_of_mem hsave)
    cases hbody : outer.methodBody? with
    | none => simp [hbody] at hcall
    | some body =>
      rw [hbody] at hcall
      refine List.Sublist.subset (List.Sublist.filter _ ?_) hcall
      refine List.Sublist.trans ?_ (Node.preorder_sublist hmem)
      refine Node.preorder_sublist ?_
      rw [Node.preorder_eq]
      refine List.mem_cons_of_mem _ (Node.mem_preorderAll.2 ⟨body, ?_, ?_⟩)
      · exact Node.mem_children_of_methodBody? hbody
      · rw [Node.preorder_eq]
        exact List.mem_cons_self
  · have hpair : [save, save'].Sublist (offences fields ctx outer ++ offences fields ctx inner) :=
      (List.singleton_sublist.2 hsave).append (List.singleton_sublist.2 hsave')
    exact (hpair.trans (Node.append_found_sublist _ houter hinner)).map _
  · simp only [List.map_cons, List.map_nil, PartialSave.report, Rule.report, hnode]

/-- **When a save is reported once.**  Take all rules of the catalog or some of them, each
    registered once and in any order, any context and any state of the memory.  Unless a call is an
    offence both of a method and of one in its body, the findings of the rule are about different
    calls of the file that store entities, so there are no more of them than such calls.  In the
    backend every shared offence is a call that is reported twice. -/
theorem saves_reported_once (ctx : Context) (memo : HookMemo) {rules : List Rule}
    (hrules : rules.Subperm defaultRules) :
    let found := (((Engine.ofRules rules).visit ctx).run memo).1.filter fun d =>
      d.ruleId == "espocrm.hooks.saveRestrictedEntityFieldsRule"
    let saves := ctx.file.root.preorder.filter (isSaveCall ctx.source)
    (¬ SharedOffence (memo.reply ctx.fs) ctx →
      (∃ calls : List Node, calls.Subperm saves ∧
        found.map Diagnostic.location = calls.map ctx.location) ∧
      found.length ≤ saves.length) ∧
    (saveRestrictedEntityFields ∈ rules → ctx.inBackend = true →
      SharedOffence (memo.reply ctx.fs) ctx →
        ∃ call ∈ saves, ∃ twice : List Diagnostic, twice.Sublist found ∧
          twice.map Diagnostic.location = [ctx.location call, ctx.location call]) := by
  intro found saves
  have hmem : saveRestrictedEntityFields ∈ defaultRules := by simp [defaultRules]
  have hfound : found = (Engine.contributions (memo.reply ctx.fs) rules ctx).filter
      fun d => d.ruleId == saveRestrictedEntityFields.id := by
    rw [id_eq, ← Engine.run_visit]
  obtain ⟨hchosen, hleft⟩ :=
    Engine.filter_contributions_of_subperm (memo.reply ctx.fs) ctx hrules hmem
  rw [flatMap_reports] at hchosen
  refine ⟨fun hshared => ?_, fun hrule hbackend hshared => ?_⟩
  · have hcalls : ∃ calls : List Node, calls.Subperm saves ∧
        found.map Diagnostic.location = calls.map ctx.location := by
      rw [hfound]
      by_cases hrule : saveRestrictedEntityFields ∈ rules
      · rw [hchosen hrule]
        split
        · refine ⟨_, offences_subperm hshared, ?_⟩
          simp only [List.map_flatMap, List.map_map]
          rfl
        · exact ⟨[], List.nil_subperm, rfl⟩
      · rw [hleft hrule]
        exact ⟨[], List.nil_subperm, rfl⟩
    refine ⟨hcalls, ?_⟩
    obtain ⟨calls, hsub, hlocations⟩ := hcalls
    have hlength := congrArg List.length hlocations
    rw [List.length_map, List.length_map] at hlength
    rw [hlength]
    exact hsub.length_le
  · rw [hfound, hchosen hrule, if_pos hbackend]
    exact hshared.reports _

/-- A project in which the hooks of one entity type read one field. -/
def hookedProject : FileSystem where
  root := .directory [("src", .directory [("backend", .directory [("Hooks", .directory
    [("E", .directory [("H.php", .file (.text
      "<?php class H\x7bfunction beforeSave($e)\x7b$e->get('a');\x7d\x7d"))])])])])]

/-- A file of that project. -/
def hookedContext (text : String) : Context :=
  let file := SourceFile.parse ⟨"src/backend/Tools/A.php"⟩ text
  Context.ofFile file (ClassIndex.empty.addFile file) {} hookedProject

/-- The method of an anonymous class declares the type of what it saves, which the method around it
    does not know: the call is an offence of the inner one only. -/
theorem saves_reported_once_inner_type :
    let ctx := hookedContext
      ("<?php class A\x7bfunction f()\x7bnew class\x7bfunction g(\\Entities\\E $o)" ++
        "\x7b$o=$q->select('b');$m->save($o);\x7d\x7d;\x7d\x7d")
    let found := (((Engine.ofRules defaultRules).visit ctx).run .empty).1.filter fun d =>
      d.ruleId == "espocrm.hooks.saveRestrictedEntityFieldsRule"
    let saves := ctx.file.root.preorder.filter (isSaveCall ctx.source)
    ¬ SharedOffence (HookMemo.empty.reply ctx.fs) ctx ∧ found.length = 1 ∧ saves.length = 1 ∧
      found.length ≤ saves.length := by
  intro ctx found saves
  have hfacts : (∀ outer ∈ ctx.file.root.preorder.filter Node.isMethod,
      ∀ inner ∈ outer.innerMethods,
        (offences (HookMemo.empty.reply ctx.fs) ctx outer).isEmpty ∨
          (offences (HookMemo.empty.reply ctx.fs) ctx inner).isEmpty) ∧
      found.length = 1 ∧ saves.length = 1 := by decide +kernel
  obtain ⟨hempty, hcounts⟩ := hfacts
  have hshared : ¬ SharedOffence (HookMemo.empty.reply ctx.fs) ctx := by
    rintro ⟨outer, houter, inner, hinner, save, hsave, save', hsave', -⟩
    rcases hempty outer houter inner hinner with h | h
    · rw [List.isEmpty_iff.1 h] at hsave
      cases hsave
    · rw [List.isEmpty_iff.1 h] at hsave'
      cases hsave'
  exact ⟨hshared, hcounts.1, hcounts.2,
    ((saves_reported_once ctx .empty (List.Subperm.refl _)).1 hshared).2⟩

/-- A save in a method of an anonymous class is reported for that method and for the one around it:
    there is one call, and there are two findings. -/
theorem nested_save_reported_twice :
    let ctx := hookedContext ("<?php class A\x7bfunction f()\x7bnew class\x7bfunction g()"
      ++ "\x7b$o=$q->getRepository('E')->select('b');$m->save($o);\x7d\x7d;\x7d\x7d")
    let found := (((Engine.ofRules defaultRules).visit ctx).run .empty).1.filter fun d =>
      d.ruleId == "espocrm.hooks.saveRestrictedEntityFieldsRule"
    let saves := ctx.file.root.preorder.filter (isSaveCall ctx.source)
    ctx.file.hasErrors = false ∧ saves.length = 1 ∧ found.length = 2 := by
  decide +kernel

end Convention.PartialLoad

end LayerLint
