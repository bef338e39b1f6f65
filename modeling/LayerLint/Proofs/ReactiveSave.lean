import LayerLint.Convention.ReactiveSave
import LayerLint.Proofs.Calls
import LayerLint.Proofs.Text
import Mathlib.Data.List.Forall2

/-!
# Which saves in save hooks are reported

The rule looks for one call: the first one in a save hook that stores the entity of the hook and
does not suppress the hooks.

* `SuppressionKey`, `IsOff` — the keys of options that suppress hooks, and the values that undo this;
* `suppressesHooks_iff` — options suppress hooks if one of their items does, whatever the others are;
* `isCopy` — the same expression at two places, which is read alike at both;
* `Suppressing.of_addsItems` — so options that suppress hooks still do so when items are added;
* `Resaves` — a call that stores the entity with hooks;
* `first_resave_reported` — the first such call in pre-order is reported, and nothing else.
-/

set_option autoImplicit false

namespace LayerLint

open Syntax (Node Site Source MemberCall ArrayItem)

namespace Syntax

/-! ## Copies of expressions -/

namespace Node

mutual

/-- Two nodes, each with its source, are of one kind and have the same text, and so do the nodes
    below them. -/
def isCopy (source source' : Source) : Node → Node → Bool
  | mk k r s e cs, n =>
    k == n.kind && (mk k r s e cs).text source == n.text source' &&
      areCopies source source' cs n.children

/-- The same for one tree after another. -/
def areCopies (source source' : Source) : List Node → List Node → Bool
  | [], ms => ms.isEmpty
  | n :: ns, ms =>
    ms.head?.any (fun m => isCopy source source' n m) && areCopies source source' ns ms.tail

end

variable {source source' : Source}

theorem areCopies_iff : ∀ ns ms : List Node, areCopies source source' ns ms = true ↔
    List.Forall₂ (fun n m => n.isCopy source source' m = true) ns ms
  | [], ms => by simp [areCopies]
  | n :: ns, [] => by simp [areCopies]
  | n :: ns, m :: ms => by simp [areCopies, areCopies_iff ns ms]

theorem isCopy_iff {n m : Node} : n.isCopy source source' m = true ↔
    n.kind = m.kind ∧ n.text source = m.text source' ∧
      List.Forall₂ (fun c d => c.isCopy source source' d = true) n.children m.children := by
  cases n
  simp [isCopy, kind, children, areCopies_iff, and_assoc]

theorem map_eq_of_copies {β : Type} {f g : Node → β} {ns ms : List Node}
    (hcopies : List.Forall₂ (fun n m => n.isCopy source source' m = true) ns ms)
    (hsame : ∀ n m, n.isCopy source source' m = true → f n = g m) : ns.map f = ms.map g := by
  induction hcopies with
  | nil => rfl
  | cons hcopy _ ih => rw [List.map_cons, List.map_cons, hsame _ _ hcopy, ih]

theorem map_kind_of_copies {ns ms : List Node}
    (hcopies : List.Forall₂ (fun n m => n.isCopy source source' m = true) ns ms) :
    ns.map kind = ms.map kind :=
  map_eq_of_copies hcopies fun _ _ hcopy => (isCopy_iff.1 hcopy).1

/-- The last of some nodes has its copy in the last of their copies. -/
theorem exists_getLast?_of_copies {ns ms : List Node} {n : Node}
    (hcopies : List.Forall₂ (fun n m => n.isCopy source source' m = true) ns ms)
    (hlast : ns.getLast? = some n) :
    ∃ m, ms.getLast? = some m ∧ n.isCopy source source' m = true := by
  rw [List.getLast?_eq_head?_reverse] at hlast ⊢
  have hreverse := List.forall₂_reverse_iff.2 hcopies
  generalize ns.reverse = ns' at hlast hreverse
  generalize ms.reverse = ms' at hreverse ⊢
  cases hreverse with
  | nil => cases hlast
  | cons hcopy _ =>
    cases hlast
    exact ⟨_, rfl, hcopy⟩

section

variable {n m : Node} (h : n.isCopy source source' m = true)
include h

theorem namedChildren_of_isCopy :
    List.Forall₂ (fun c d => c.isCopy source source' d = true) n.namedChildren m.namedChildren := by
  refine List.rel_filter (fun c d hcopy => ?_) (isCopy_iff.1 h).2.2
  change c.isNamed = true ↔ d.isNamed = true
  unfold isNamed
  rw [(isCopy_iff.1 hcopy).1]

theorem hasChild_of_isCopy (k : Kind) : n.hasChild k = m.hasChild k := by
  have hkinds := congrArg (List.any · (· == k)) (map_kind_of_copies (isCopy_iff.1 h).2.2)
  simp only [List.any_map] at hkinds
  exact hkinds

/-! A copy is read like the original. -/

theorem stringLiteral?_of_isCopy : n.stringLiteral? source = m.stringLiteral? source' := by
  obtain ⟨hkind, htext, -⟩ := isCopy_iff.1 h
  have hparts := congrArg (List.any · (· != .stringContent))
    (map_kind_of_copies (namedChildren_of_isCopy h))
  simp only [List.any_map, Function.comp_def] at hparts
  unfold stringLiteral?
  rw [hkind, htext, hparts]

theorem classConstant?_of_isCopy : n.classConstant? source = m.classConstant? source' := by
  have hparts := namedChildren_of_isCopy h
  unfold classConstant?
  rw [(isCopy_iff.1 h).1]
  generalize n.namedChildren = ns at hparts
  generalize m.namedChildren = ms at hparts
  cases hparts with
  | nil => rfl
  | cons hfirst hrest =>
    cases hrest with
    | nil => rfl
    | @cons second _ more _ hsecond hmore =>
      have hlast := List.getLast?_eq_some_getLast (List.cons_ne_nil second more)
      obtain ⟨last', hlast', hcopy⟩ := exists_getLast?_of_copies (.cons hsecond hmore) hlast
      simp only [hlast, hlast', Option.getD_some, (isCopy_iff.1 hfirst).2.1,
        (isCopy_iff.1 hcopy).2.1]

theorem isFalsy_of_isCopy : n.isFalsy source = m.isFalsy source' := by
  unfold isFalsy
  rw [(isCopy_iff.1 h).2.1]

end

end Node

theorem ArrayItem.exists_ofElement?_of_isCopy {source source' : Source} {n m : Node}
    {item : ArrayItem} (h : n.isCopy source source' m = true) (hitem : ofElement? n = some item) :
    ∃ item', ofElement? m = some item' ∧ item.value.isCopy source source' item'.value = true ∧
      ∀ key, item.key = some key →
        ∃ key', item'.key = some key' ∧ key.isCopy source source' key' = true := by
  have hparts := Node.namedChildren_of_isCopy h
  have harrow := Node.hasChild_of_isCopy h .doubleArrow
  simp only [ofElement?, bind, Option.bind_eq_some_iff, pure, Option.some.injEq] at hitem ⊢
  obtain ⟨value, hvalue, rfl⟩ := hitem
  obtain ⟨value', hvalue', hcopy⟩ := Node.exists_getLast?_of_copies hparts hvalue
  refine ⟨_, ⟨value', hvalue', rfl⟩, hcopy, fun key hkey => ?_⟩
  rw [← harrow]
  generalize n.namedChildren = ns at hparts hkey
  generalize m.namedChildren = ms at hparts
  cases hparts with
  | nil => cases hkey
  | cons hfirst hrest =>
    cases hrest with
    | nil => cases hkey
    | cons _ _ =>
      dsimp only at hkey ⊢
      split at hkey
      · rename_i hsome
        cases hkey
        exact ⟨_, if_pos hsome, hfirst⟩
      · cases hkey

end Syntax

namespace Convention.ReactiveSave

variable {source source' : Source}

/-! ## Options that suppress hooks -/

/-- The key of an option that suppresses hooks: a text or a constant of a class for options. -/
inductive SuppressionKey (source : Source) (key : Node) : Prop where
  | text (name : String) (h : key.stringLiteral? source = some name)
      (hname : "skip".toList <+: name.toList ∨ name = "silent")
  | constant (owner constant : String) (h : key.classConstant? source = some (owner, constant))
      (howner : "SaveOption".toList <:+: owner.toList)
      (hconstant : "SKIP_".toList <+: constant.toList ∨ constant = "SILENT")

/-- The literal for false or for null, in small letters or capitals, after any number of
    backslashes. -/
def IsOff (source : Source) (value : Node) : Prop :=
  ∃ word backslashes, (word = "false" ∨ word = "null") ∧ (∀ c ∈ backslashes, c = '\\') ∧
    (Text.foldAscii (Text.trim (value.text source))).toList = backslashes ++ word.toList

/-- The options are an array, and one of its items has a key that suppresses hooks and a value that
    does not switch it off. -/
def Suppressing (source : Source) (options : Node) : Prop :=
  ∃ items, options.arrayItems? = some items ∧ ∃ item ∈ items,
    (∃ key, item.key = some key ∧ SuppressionKey source key) ∧ ¬ IsOff source item.value

theorem isSuppressionKey_iff {key : Node} :
    isSuppressionKey source key = true ↔ SuppressionKey source key := by
  constructor
  · intro h
    unfold isSuppressionKey at h
    split at h
    · rename_i name hname
      rw [Bool.or_eq_true, beq_iff_eq, Text.startsWith_iff_prefix] at h
      exact .text name hname h
    · split at h
      · rename_i owner constant haccess
        rw [Bool.and_eq_true, Bool.or_eq_true, beq_iff_eq, Text.startsWith_iff_prefix,
          Text.occursIn_iff_infix] at h
        exact .constant owner constant haccess h.1 h.2
      · cases h
  · intro h
    unfold isSuppressionKey
    cases h with
    | text name h hname =>
      simpa only [h, Bool.or_eq_true, beq_iff_eq, Text.startsWith_iff_prefix] using hname
    | constant owner constant h howner hconstant =>
      simp only [Node.stringLiteral?_of_classConstant? h, h, Bool.and_eq_true, Bool.or_eq_true,
        beq_iff_eq, Text.startsWith_iff_prefix, Text.occursIn_iff_infix]
      exact ⟨howner, hconstant⟩

/-- Case and leading backslashes of a word make no difference. -/
theorem sameFolded_trimStart_iff {text word : String} (hfolded : Text.foldAscii word = word)
    (hword : word.toList.head? ≠ some '\\') :
    Text.sameFolded (Text.trimStart (· == '\\') text) word = true ↔
      ∃ backslashes, (∀ c ∈ backslashes, c = '\\') ∧
        (Text.foldAscii text).toList = backslashes ++ word.toList := by
  have hhead : ∀ c ∈ word.toList.head?, (c == '\\') = false := by
    intro c hc
    refine beq_eq_false_iff_ne.2 fun hslash => hword ?_
    rw [← hslash]
    exact hc
  rw [Text.sameFolded_iff, hfolded, Text.foldAscii_trimStart, Text.trimStart_eq_iff hhead]
  simp only [beq_iff_eq]

theorem isFalsy_iff {value : Node} :
    value.isFalsy source = true ↔ IsOff source value := by
  rw [Node.isFalsy, Bool.or_eq_true, sameFolded_trimStart_iff (by decide) (by decide),
    sameFolded_trimStart_iff (by decide) (by decide), IsOff]
  constructor
  · rintro (⟨backslashes, h⟩ | ⟨backslashes, h⟩)
    · exact ⟨_, backslashes, .inl rfl, h⟩
    · exact ⟨_, backslashes, .inr rfl, h⟩
  · rintro ⟨word, backslashes, rfl | rfl, h⟩
    · exact .inl ⟨backslashes, h⟩
    · exact .inr ⟨backslashes, h⟩

theorem suppresses_iff {item : ArrayItem} :
    suppresses source item = true ↔
      (∃ key, item.key = some key ∧ SuppressionKey source key) ∧ ¬ IsOff source item.value := by
  rw [suppresses, Bool.and_eq_true, Bool.not_eq_true', ← isFalsy_iff, Bool.not_eq_true]
  cases hkey : item.key with
  | none => simp
  | some key => simp [isSuppressionKey_iff]

/-- **Options suppress hooks if one of their items does**, whatever the others are. -/
theorem suppressesHooks_iff {options : Node} :
    suppressesHooks source options = true ↔ Suppressing source options := by
  unfold suppressesHooks Suppressing
  cases options.arrayItems? with
  | none => simp
  | some items => simp [List.any_eq_true, suppresses_iff]

/-! ## More items -/

/-- The second options are an array that has a copy of every item of the first ones. -/
structure AddsItems (source source' : Source) (options options' : Node) : Prop where
  isArray : options'.kind = .arrayCreation
  kept : ∀ element ∈ options.children, element.kind = .arrayElement →
    ∃ element' ∈ options'.children, element.isCopy source source' element' = true

theorem mem_arrayItems?_iff {options : Node} {item : ArrayItem} :
    (∃ items, options.arrayItems? = some items ∧ item ∈ items) ↔
      options.kind = .arrayCreation ∧ ∃ element ∈ options.children,
        element.kind = .arrayElement ∧ ArrayItem.ofElement? element = some item := by
  unfold Node.arrayItems? Node.namedChildren
  by_cases hkind : options.kind = .arrayCreation
  · have hnamed {n : Node} (hn : n.kind = .arrayElement) : n.isNamed = true := by
      unfold Node.isNamed
      rw [hn]
      rfl
    simp only [hkind, BEq.rfl, if_true, Option.some.injEq, exists_eq_left', List.mem_filterMap,
      List.mem_filter, beq_iff_eq, true_and, and_assoc]
    constructor
    · rintro ⟨n, hn, -, hfacts⟩
      exact ⟨n, hn, hfacts⟩
    · rintro ⟨n, hn, helement, hitem⟩
      exact ⟨n, hn, hnamed helement, helement, hitem⟩
  · simp [hkind]

theorem SuppressionKey.of_isCopy {key key' : Node}
    (h : SuppressionKey source key) (hcopy : key.isCopy source source' key' = true) :
    SuppressionKey source' key' := by
  cases h with
  | text name h hname => exact .text name ((Node.stringLiteral?_of_isCopy hcopy).symm.trans h) hname
  | constant owner constant h howner hconstant =>
    exact .constant owner constant ((Node.classConstant?_of_isCopy hcopy).symm.trans h) howner
      hconstant

/-- **Options that suppress hooks still do so when items are added.** -/
theorem Suppressing.of_addsItems {options options' : Node}
    (h : Suppressing source options) (hadds : AddsItems source source' options options') :
    Suppressing source' options' := by
  obtain ⟨items, hitems, item, hitem, ⟨key, hkey, hsuppresses⟩, hon⟩ := h
  obtain ⟨-, element, helement, hkind, hread⟩ := mem_arrayItems?_iff.1 ⟨items, hitems, hitem⟩
  obtain ⟨element', helement', hcopy⟩ := hadds.kept element helement hkind
  obtain ⟨item', hread', hvalue, hkeys⟩ := ArrayItem.exists_ofElement?_of_isCopy hcopy hread
  obtain ⟨key', hkey', hcopyKey⟩ := hkeys key hkey
  have hkind' : element'.kind = .arrayElement := (Node.isCopy_iff.1 hcopy).1.symm.trans hkind
  obtain ⟨items', hitems', hitem'⟩ :=
    mem_arrayItems?_iff.2 ⟨hadds.isArray, element', helement', hkind', hread'⟩
  refine ⟨items', hitems', item', hitem', ⟨key', hkey', hsuppresses.of_isCopy hcopyKey⟩, ?_⟩
  rwa [← isFalsy_iff, ← Node.isFalsy_of_isCopy hvalue, isFalsy_iff]

/-! ## The call that is reported -/

/-- The call stores the variable, and its second argument, if there is one, does not suppress
    hooks. -/
structure Resaves (source : Source) (entity : String) (call : Node) : Prop where
  saves : call.Calls source ["save", "saveEntity"]
  own : ∃ first, call.callArguments.head? = some first ∧
    first.variableName? source = some entity
  unguarded : ∀ options, call.callArguments[1]? = some options → ¬ Suppressing source options

/-- The node is a call that stores the variable with hooks. -/
def resaves (source : Source) (entity : String) (n : Node) : Bool :=
  (MemberCall.ofNode? source n).any (offends source entity)

theorem resaves_iff {entity : String} {n : Node} :
    resaves source entity n = true ↔ Resaves source entity n := by
  have hreads {call : MemberCall} (hcall : MemberCall.ofNode? source n = some call) :
      offends source entity call = true ↔ Resaves source entity n := by
    rw [offends, MemberCall.arguments_of_ofNode? hcall, Bool.and_eq_true, Bool.and_eq_true,
      MemberCall.isNamed_iff hcall, beq_iff_eq, Option.bind_eq_some_iff, Bool.not_eq_true']
    constructor
    · rintro ⟨⟨hsaves, hown⟩, hoptions⟩
      refine ⟨hsaves, hown, fun options harguments => ?_⟩
      rw [← suppressesHooks_iff]
      simpa [harguments] using hoptions
    · intro h
      refine ⟨⟨h.saves, h.own⟩, ?_⟩
      cases harguments : n.callArguments[1]? with
      | none => rfl
      | some options =>
        have hguard := h.unguarded options harguments
        rw [← suppressesHooks_iff] at hguard
        simpa using hguard
  rw [resaves, Option.any_eq_true]
  constructor
  · rintro ⟨call, hcall, hoffends⟩
    exact (hreads hcall).1 hoffends
  · intro h
    obtain ⟨call, hcall, -⟩ := MemberCall.calls_iff.1 h.saves
    exact ⟨call, hcall, (hreads hcall).2 h⟩

/-- The call that is looked for is the first one that stores the entity of the method with hooks. -/
theorem map_node_offendingCall? (source : Source) (method : Node) :
    (offendingCall? source method).map MemberCall.node =
      (method.firstBinding? source).bind fun entity =>
        method.methodBody?.bind fun body => body.preorder.find? (resaves source entity) := by
  unfold offendingCall?
  cases method.firstBinding? source with
  | none => rfl
  | some entity =>
    cases method.methodBody? with
    | none => rfl
    | some body =>
      simp only [bind, Option.bind_some, Node.memberCalls_eq, List.find?_filterMap]
      change ((body.preorder.find? (resaves source entity)).bind
        (MemberCall.ofNode? source)).map MemberCall.node = body.preorder.find? (resaves source entity)
      cases hfound : body.preorder.find? (resaves source entity) with
      | none => rfl
      | some n =>
        have hresaves : resaves source entity n = true := List.find?_some hfound
        obtain ⟨call, hcall, -⟩ := (Option.any_eq_true _ _).1 hresaves
        rw [Option.bind_some, hcall, Option.map_some, MemberCall.node_of_ofNode? hcall]

/-- The call stores the entity of the method with hooks, and none before it in pre-order does. -/
def FirstResave (source : Source) (method call : Node) : Prop :=
  ∃ entity body, method.firstBinding? source = some entity ∧ method.methodBody? = some body ∧
    ∃ before after, body.preorder = before ++ call :: after ∧ Resaves source entity call ∧
      ∀ n ∈ before, ¬ Resaves source entity n

theorem map_node_offendingCall?_eq_some_iff {method call : Node} :
    (offendingCall? source method).map MemberCall.node = some call ↔
      FirstResave source method call := by
  rw [map_node_offendingCall?, Option.bind_eq_some_iff]
  simp only [Option.bind_eq_some_iff, List.find?_eq_some_iff_append, Bool.not_eq_true',
    Bool.eq_false_iff, ne_eq, resaves_iff]
  constructor
  · rintro ⟨entity, hentity, body, hbody, hresaves, before, after, hsplit, hnone⟩
    exact ⟨entity, body, hentity, hbody, before, after, hsplit, hresaves, hnone⟩
  · rintro ⟨entity, body, hentity, hbody, before, after, hsplit, hresaves, hnone⟩
    exact ⟨entity, hentity, body, hbody, hresaves, before, after, hsplit, hnone⟩

theorem exists_firstResave_iff {method : Node} :
    (∃ call, FirstResave source method call) ↔
      ∃ entity body, method.firstBinding? source = some entity ∧ method.methodBody? = some body ∧
        ∃ call ∈ body.preorder, Resaves source entity call := by
  constructor
  · rintro ⟨call, entity, body, hentity, hbody, before, after, hsplit, hresaves, -⟩
    exact ⟨entity, body, hentity, hbody, call, by simp [hsplit], hresaves⟩
  · rintro ⟨entity, body, hentity, hbody, call, hcall, hresaves⟩
    have hsome : (body.preorder.find? (resaves source entity)).isSome = true :=
      List.find?_isSome.2 ⟨call, hcall, resaves_iff.2 hresaves⟩
    obtain ⟨first, hfirst⟩ := Option.isSome_iff_exists.1 hsome
    refine ⟨first, map_node_offendingCall?_eq_some_iff.1 ?_⟩
    rw [map_node_offendingCall?, hentity, hbody]
    exact hfirst

theorem judge_eq {ctx : Context} {site : Site} {name : Node} (id : String)
    (hname : site.node.child? .name = some name) :
    judge id ctx site = .ok
      (if ctx.inLayer .hooks = true ∧ (ctx.text name = "beforeSave" ∨ ctx.text name = "afterSave")
      then
        (((offendingCall? ctx.source site.node).map MemberCall.node).map fun call =>
          Rule.report id ctx call
            (if ctx.text name = "afterSave" then afterMessage else beforeMessage)).toList
      else []) := by
  have hpart : Rule.part .methodDecl site.node .name = .ok name := by rw [Rule.part, hname]
  have hhooks : saveHooks.contains (ctx.text name) = true ↔
      ctx.text name = "beforeSave" ∨ ctx.text name = "afterSave" := by
    simp [saveHooks]
  unfold judge
  simp only [hpart, ← hhooks, bind, Except.bind, pure, Except.pure]
  cases ctx.inLayer .hooks with
  | false => rfl
  | true =>
    cases saveHooks.contains (ctx.text name) with
    | false => rfl
    | true =>
      cases offendingCall? ctx.source site.node with
      | none => rfl
      | some call =>
        simp only [beq_iff_eq]
        rfl

/-- **Which save is reported.**  Take a method with a name, in any file and with any state of the
    memory, which is left alone.  The rule gives at most one finding.  It gives one just if the file
    stands in the layer of hooks, the method is called as one of the two save hooks, and some call
    in its body stores the variable of its first parameter with hooks.  The finding is about the
    first of these calls in pre-order, and what it says depends on which hook the method is.  A call
    whose options suppress hooks is none of these calls, and does not become one when items are added
    to the options. -/
theorem first_resave_reported {ctx : Context} {site : Site} {name : Node} (id : String)
    (memo : HookMemo) (hname : site.node.child? .name = some name) :
    (∃ found, ((noSameEntitySave.judge id ctx site).run ctx.fs).run memo = (.ok found, memo) ∧
      found.length ≤ 1 ∧
      (found ≠ [] ↔
        ctx.inLayer .hooks = true ∧
        (ctx.text name = "beforeSave" ∨ ctx.text name = "afterSave") ∧
        ∃ entity body, site.node.firstBinding? ctx.source = some entity ∧
          site.node.methodBody? = some body ∧
          ∃ call ∈ body.preorder, Resaves ctx.source entity call) ∧
      ∀ d ∈ found, ∃ call, FirstResave ctx.source site.node call ∧
        d =
          { ruleId := id
            message := if ctx.text name = "afterSave" then afterMessage else beforeMessage
            location := ctx.location call
            kind := .violation }) ∧
    ∀ source source' options options', Suppressing source options →
      AddsItems source source' options options' →
        ∀ entity call, call.callArguments[1]? = some options' → ¬ Resaves source' entity call := by
  refine ⟨⟨_, congrArg (fun result => (result, memo)) (judge_eq id hname), ?_, ?_, ?_⟩, ?_⟩
  · split
    · cases (offendingCall? ctx.source site.node).map MemberCall.node <;> simp
    · simp
  · rw [← exists_firstResave_iff]
    split
    · rename_i hhook
      simp only [← map_node_offendingCall?_eq_some_iff]
      cases (offendingCall? ctx.source site.node).map MemberCall.node <;> simp [hhook]
    · rename_i hhook
      simp only [ne_eq, not_true_eq_false, false_iff]
      exact fun h => hhook ⟨h.1, h.2.1⟩
  · intro d hd
    split at hd
    · rw [Option.mem_toList, Option.map_eq_some_iff] at hd
      obtain ⟨call, hcall, rfl⟩ := hd
      exact ⟨call, map_node_offendingCall?_eq_some_iff.1 hcall, rfl⟩
    · cases hd
  · intro source source' options options' hsuppresses hadds entity call harguments hresaves
    exact hresaves.unguarded options' harguments (hsuppresses.of_addsItems hadds)

/-- A hook that saves its entity three times: with an option that suppresses hooks, with that option
    after another one, and with an option that is switched off.  The second options add an item to
    the first ones; the third call is the one that is reported. -/
theorem first_resave_reported_third :
    let file := SourceFile.parse ⟨"src/backend/Hooks/E/H.php"⟩
      ("<?php class H\x7bfunction afterSave($e)\x7b$m->save($e,[SaveOption::SILENT=>1]);" ++
        "$m->save($e,['x'=>0,SaveOption::SILENT=>1]);$m->save($e,['silent'=>\\NULL]);\x7d\x7d")
    let ctx := Context.ofFile file .empty {} { root := .directory [] }
    (∃ site name, site.node.child? .name = some name ∧
      ∃ d call, ((noSameEntitySave.judge "r" ctx site).run ctx.fs).run .empty = (.ok [d], .empty) ∧
        FirstResave ctx.source site.node call ∧ d.location = ctx.location call ∧
        d.message = afterMessage ∧ d.location.column = 119) ∧
    ∃ options options' call, Suppressing ctx.source options ∧
      AddsItems ctx.source ctx.source options options' ∧
      call.callArguments[1]? = some options' ∧ ¬ Resaves ctx.source "e" call := by
  intro file ctx
  let calls := ctx.file.root.preorder.filter Node.isMemberCall
  have hfacts : (((ctx.file.root.sites []).find? fun site => site.node.kind == .methodDeclaration).any
      (fun site => (site.node.child? .name).isSome &&
        (((noSameEntitySave.judge "r" ctx site).run ctx.fs).run .empty).1.toOption.any fun found =>
          found.map (fun d => (d.message == afterMessage, d.location.column)) == [(true, 119)]) &&
      ((calls[0]?).bind fun call => call.callArguments[1]?).any fun options =>
        (calls[1]?).any fun call => (call.callArguments[1]?).any fun options' =>
          suppressesHooks ctx.source options && options'.kind == .arrayCreation &&
            options.children.all fun element => !(element.kind == .arrayElement) ||
              options'.children.any fun element' =>
                element.isCopy ctx.source ctx.source element') = true := by
    decide +kernel
  obtain ⟨hreports, hguards⟩ := (Bool.and_eq_true _ _).mp hfacts
  simp only [Option.any_eq_true, Bool.and_eq_true, Option.isSome_iff_exists, beq_iff_eq] at hreports
  obtain ⟨site, -, ⟨name, hname⟩, reports, hreports, hthird⟩ := hreports
  obtain ⟨⟨found, hrun, -, -, hfirst⟩, hadding⟩ :=
    @first_resave_reported ctx site name "r" .empty hname
  refine ⟨?_, ?_⟩
  · rw [hrun] at hreports
    cases hreports
    obtain ⟨d, rfl, hd⟩ := List.map_eq_singleton_iff.1 hthird
    rw [Prod.mk.injEq, beq_iff_eq] at hd
    obtain ⟨call, hcall, hmade⟩ := hfirst d (List.mem_singleton_self d)
    exact ⟨site, name, hname, d, call, hrun, hcall, congrArg Diagnostic.location hmade, hd⟩
  · simp only [Option.any_eq_true, Bool.and_eq_true, List.all_eq_true, List.any_eq_true,
      Bool.or_eq_true, Bool.not_eq_true', beq_eq_false_iff_ne, beq_iff_eq] at hguards
    obtain ⟨options, -, call, -, options', hoptions', ⟨hsuppresses, hkind⟩, hkept⟩ := hguards
    have hsuppressing := suppressesHooks_iff.1 hsuppresses
    have hadds : AddsItems ctx.source ctx.source options options' :=
      ⟨hkind, fun element helement helementKind => (hkept element helement).resolve_left
        fun hother => hother helementKind⟩
    exact ⟨options, options', call, hsuppressing, hadds, hoptions',
      hadding _ _ _ _ hsuppressing hadds _ _ hoptions'⟩

end Convention.ReactiveSave

end LayerLint
