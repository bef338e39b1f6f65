import LayerLint.Proofs.Calls
import LayerLint.Proofs.PartialLoad
import LayerLint.Proofs.Text

/-!
# What a chain of calls selects

An expression is followed inwards, from a call to the object that it is made on, as long as that is a
call as well.  One loop collects two things on the way, and it has opposite rules for them: a later
selection replaces an earlier one, while the entity type that was named first stays.

* `Chained` — the calls of an expression, which exist (`chained_chain`) and are unique;
* `fields_foldl_step`, `entity_foldl_step` — what the loop holds after any number of calls: the fields
  of the innermost selection, and the outermost entity type;
* `entityOfClass?_eq_some_iff`, `entityOfArgument?_eq_some_iff` — which arguments name an entity type;
* `projection_of_chain` — **the projection of an expression**, read off its chain.
-/

set_option autoImplicit false

namespace LayerLint

open Syntax (Node Source MemberCall ArrayItem)

namespace Text

/-! ## The last piece of a text -/

theorem eq_of_pieces_eq_singleton {p : Char → Bool} :
    ∀ {cs piece : List Char}, pieces p cs = [piece] → cs = piece
  | [], piece, h => by simpa [pieces] using h
  | c :: cs, piece, h => by
    obtain ⟨first, rest, hpieces⟩ := List.exists_cons_of_ne_nil (pieces_ne_nil p cs)
    by_cases hc : p c = true
    · simp [pieces, hc, hpieces] at h
    · simp only [pieces, if_neg hc, hpieces, List.cons.injEq] at h
      obtain ⟨rfl, rfl⟩ := h
      rw [eq_of_pieces_eq_singleton hpieces]

/-- What stands before the last piece ends in a separator. -/
theorem exists_of_pieces_eq_concat {p : Char → Bool} {last : List Char} :
    ∀ {cs : List Char} {before : List (List Char)}, before ≠ [] → pieces p cs = before ++ [last] →
      ∃ a c, p c = true ∧ cs = a ++ c :: last ∧ pieces p a = before
  | [], before, hne, h => by
    obtain ⟨first, before, rfl⟩ := List.exists_cons_of_ne_nil hne
    simp [pieces] at h
  | c :: cs, before, hne, h => by
    obtain ⟨first, before, rfl⟩ := List.exists_cons_of_ne_nil hne
    obtain ⟨piece, rest, hpieces⟩ := List.exists_cons_of_ne_nil (pieces_ne_nil p cs)
    by_cases hc : p c = true
    · simp only [pieces, if_pos hc, List.cons_append, List.cons.injEq] at h
      obtain ⟨rfl, hrest⟩ := h
      cases before with
      | nil => exact ⟨[], c, hc, by rw [eq_of_pieces_eq_singleton hrest]; rfl, rfl⟩
      | cons second before =>
        obtain ⟨a, d, hd, rfl, ha⟩ := exists_of_pieces_eq_concat (List.cons_ne_nil _ _) hrest
        exact ⟨c :: a, d, hd, rfl, by simp [pieces, hc, ha]⟩
    · simp only [pieces, if_neg hc, hpieces, List.cons_append, List.cons.injEq] at h
      obtain ⟨rfl, rfl⟩ := h
      obtain ⟨a, d, hd, rfl, ha⟩ :=
        exists_of_pieces_eq_concat (List.cons_ne_nil piece before) hpieces
      exact ⟨c :: a, d, hd, rfl, by simp [pieces, hc, ha]⟩

theorem pieces_of_split {p : Char → Bool} {s : String} {texts : List String}
    (h : split p s = texts) : pieces p s.toList = texts.map String.toList := by
  rw [← h, split, List.map_map]
  simp [Function.comp_def]

end Text

namespace Convention.PartialLoad

variable {ctx : Context}

/-! ## Chains -/

/-- The calls that an expression is made of: it is a call, the object of that call is one, and so on
    until an object is no call or there is none. -/
inductive Chained : Node → List Node → Prop where
  | ended {n : Node} (h : n.isMemberCall = false) : Chained n []
  | alone {n : Node} (h : n.isMemberCall = true) (hobject : n.child? .object = none) :
      Chained n [n]
  | made {n object : Node} {calls : List Node} (h : n.isMemberCall = true)
      (hobject : n.child? .object = some object) (hcalls : Chained object calls) :
      Chained n (n :: calls)

theorem Chained.unique {n : Node} {calls others : List Node} (h : Chained n calls)
    (hothers : Chained n others) : others = calls := by
  induction h generalizing others with
  | ended h => cases hothers <;> simp_all
  | alone h hobject => cases hothers <;> simp_all
  | made h hobject hcalls ih =>
    cases hothers with
    | ended h' => simp_all
    | alone h' hobject' => simp_all
    | made h' hobject' hcalls' =>
      rw [hobject, Option.some.injEq] at hobject'
      subst hobject'
      rw [ih hcalls']

theorem size_lt_of_child? {n c : Node} {role : Syntax.Role} (h : n.child? role = some c) :
    c.size < n.size := by
  have hmem : c ∈ n.children := List.mem_of_find?_eq_some h
  obtain ⟨before, after, hcut⟩ := List.append_of_mem hmem
  simp only [Node.size, n.preorder_eq, hcut, Node.preorderAll_append, Syntax.Node.preorderAll,
    List.length_cons, List.length_append]
  omega

/-- With fuel for every node of an expression, all of its calls are found. -/
theorem chained_chainUpTo (ctx : Context) : ∀ (fuel : Nat) (n : Node), n.size ≤ fuel →
    Chained n ((chainUpTo ctx fuel (MemberCall.ofNode? ctx.source n)).map MemberCall.node)
  | 0, n, hfuel => by
    have hsize : n.size = 0 := by omega
    simp [Node.size, n.preorder_eq] at hsize
  | fuel + 1, n, hfuel => by
    by_cases hcall : n.isMemberCall = true
    · obtain ⟨call, hread⟩ : ∃ call, MemberCall.ofNode? ctx.source n = some call :=
        MemberCall.exists_ofNode? hcall
      rw [hread, chainUpTo, MemberCall.receiver?, MemberCall.object_of_ofNode? hread, List.map_cons,
        MemberCall.node_of_ofNode? hread]
      cases hobject : n.child? .object with
      | none =>
        rw [Option.bind_none, chainUpTo]
        exact .alone hcall hobject
      | some object =>
        have hlt := size_lt_of_child? hobject
        exact .made hcall hobject (chained_chainUpTo ctx fuel object (by omega))
    · rw [MemberCall.ofNode?, if_neg hcall, chainUpTo]
      exact .ended (by simpa using hcall)

/-- **The calls that are followed are those of the expression.** -/
theorem chained_chain (ctx : Context) (expression : Node) :
    Chained expression ((chain ctx expression).map MemberCall.node) :=
  chained_chainUpTo ctx _ expression (Nat.le_succ _)

theorem ofNode?_of_mem_chainUpTo (ctx : Context) : ∀ (fuel : Nat) (n : Node),
    ∀ call ∈ chainUpTo ctx fuel (MemberCall.ofNode? ctx.source n),
      MemberCall.ofNode? ctx.source call.node = some call
  | 0, n, call, hmem => by
    cases hread : MemberCall.ofNode? ctx.source n <;> simp [hread, chainUpTo] at hmem
  | fuel + 1, n, call, hmem => by
    cases hread : MemberCall.ofNode? ctx.source n with
    | none => simp [hread, chainUpTo] at hmem
    | some first =>
      rw [hread, chainUpTo, MemberCall.receiver?] at hmem
      rcases List.mem_cons.1 hmem with rfl | hmem
      · rw [MemberCall.node_of_ofNode? hread, hread]
      · cases hobject : first.object with
        | none => simp [hobject, chainUpTo] at hmem
        | some object =>
          rw [hobject, Option.bind_some] at hmem
          exact ofNode?_of_mem_chainUpTo ctx fuel object call hmem

/-! ## The loop -/

/-- The call selects fields. -/
def isSelection (call : MemberCall) : Bool :=
  call.isNamed ["select"]

/-- The entity type that a call gives access to. -/
def lookedUp? (ctx : Context) (call : MemberCall) : Option String :=
  if call.isNamed repositoryLookups then call.arguments.head?.bind (entityOfArgument? ctx) else none

theorem fields_step (state : ChainState) (call : MemberCall) :
    (state.step ctx call).fields =
      if isSelection call then selectedFields? ctx call.arguments else state.fields := by
  unfold ChainState.step isSelection
  split
  · rfl
  · split <;> rfl

theorem entity_step (state : ChainState) (call : MemberCall) :
    (state.step ctx call).entity = state.entity.or (lookedUp? ctx call) := by
  unfold ChainState.step lookedUp?
  by_cases hselects : call.isNamed ["select"] = true
  · -- a selection gives access to nothing
    have hname : call.name = some "select" := by
      unfold MemberCall.isNamed at hselects
      split at hselects
      · simp_all
      · cases hselects
    have hother : call.isNamed repositoryLookups = false := by
      rw [MemberCall.isNamed, hname]
      decide
    simp [hselects, hother]
  · rw [if_neg hselects]
    cases hentity : state.entity with
    | none => by_cases hlooks : call.isNamed repositoryLookups = true <;> simp [hlooks, hentity]
    | some entity => simp [hentity]

/-- **After any number of calls, the loop holds the fields of the last selection.** -/
theorem fields_foldl_step (ctx : Context) (calls : List MemberCall) : ∀ state : ChainState,
    (calls.foldl (ChainState.step ctx) state).fields =
      match calls.reverse.find? isSelection with
      | some select => selectedFields? ctx select.arguments
      | none => state.fields := by
  induction calls with
  | nil => exact fun _ => rfl
  | cons call calls ih =>
    intro state
    rw [List.foldl_cons, ih, fields_step, List.reverse_cons, List.find?_append, List.find?_singleton]
    cases calls.reverse.find? isSelection with
    | some select => rfl
    | none => cases isSelection call <;> rfl

/-- **After any number of calls, the loop holds the first entity type.** -/
theorem entity_foldl_step (ctx : Context) (calls : List MemberCall) : ∀ state : ChainState,
    (calls.foldl (ChainState.step ctx) state).entity =
      state.entity.or (calls.findSome? (lookedUp? ctx)) := by
  induction calls with
  | nil => simp
  | cons call calls ih =>
    intro state
    rw [List.foldl_cons, ih, entity_step, List.findSome?_cons]
    cases state.entity <;> cases lookedUp? ctx call <;> rfl

/-! ## Entity types -/

/-- A class in a namespace for entities: the last word of its name is the entity type. -/
structure EntityClass (fullName entity : String) : Prop where
  ne_empty : entity ≠ ""
  plain : ∀ c ∈ entity.toList, c.isAlphanum = true ∨ c = '_'
  placed : fullName = "Entities\\" ++ entity ∨
    ∃ space : String, fullName = space ++ "\\Entities\\" ++ entity

theorem all_isEntityChar_iff {entity : String} :
    entity.toList.all isEntityChar = true ↔ ∀ c ∈ entity.toList, c.isAlphanum = true ∨ c = '_' := by
  simp [isEntityChar]

/-- The name of a class ends in two words just if it is made of those or they follow a backslash. -/
theorem reverse_split_iff {fullName entity : String} (hentity : '\\' ∉ entity.toList) :
    (∃ outer, (Text.split (· == '\\') fullName).reverse = entity :: "Entities" :: outer) ↔
      fullName = "Entities\\" ++ entity ∨
        ∃ space : String, fullName = space ++ "\\Entities\\" ++ entity := by
  have hlast : Text.pieces (· == '\\') entity.toList = [entity.toList] :=
    Text.pieces_eq_singleton fun c hc => beq_eq_false_iff_ne.2 fun hslash => hentity (hslash ▸ hc)
  have hword : Text.pieces (· == '\\') "Entities".toList = ["Entities".toList] := by decide
  constructor
  · rintro ⟨outer, houter⟩
    have hsplit : Text.split (· == '\\') fullName = (outer.reverse ++ ["Entities"]) ++ [entity] := by
      rw [← List.reverse_reverse (Text.split _ _), houter]
      simp
    have hpieces := Text.pieces_of_split hsplit
    rw [List.map_append, List.map_singleton] at hpieces
    obtain ⟨a, c, hc, hname, ha⟩ := Text.exists_of_pieces_eq_concat (by simp) hpieces
    obtain rfl : c = '\\' := beq_iff_eq.1 hc
    rw [List.map_append, List.map_singleton] at ha
    by_cases hnone : outer = []
    · left
      rw [hnone] at ha
      rw [← String.toList_inj, hname, Text.eq_of_pieces_eq_singleton ha]
      simp
    · right
      obtain ⟨b, d, hd, rfl, -⟩ := Text.exists_of_pieces_eq_concat (by simpa using hnone) ha
      obtain rfl : d = '\\' := beq_iff_eq.1 hd
      refine ⟨String.ofList b, ?_⟩
      rw [← String.toList_inj, hname]
      simp
  · rintro (rfl | ⟨space, rfl⟩)
    · refine ⟨[], ?_⟩
      have hchars : ("Entities\\" ++ entity).toList = "Entities".toList ++ '\\' :: entity.toList := by
        simp
      rw [Text.split, hchars, Text.pieces_append_cons (by rfl), hlast, hword]
      simp
    · refine ⟨(Text.split (· == '\\') space).reverse, ?_⟩
      have hchars : (space ++ "\\Entities\\" ++ entity).toList =
          space.toList ++ '\\' :: ("Entities".toList ++ '\\' :: entity.toList) := by
        simp
      rw [Text.split, hchars, Text.pieces_append_cons (by rfl), Text.pieces_append_cons (by rfl),
        hlast, hword]
      simp [Text.split]

theorem backslash_not_mem {entity : String}
    (h : ∀ c ∈ entity.toList, c.isAlphanum = true ∨ c = '_') : '\\' ∉ entity.toList := by
  intro hmem
  rcases h _ hmem with hplain | hplain
  · exact absurd hplain (by decide)
  · exact absurd hplain (by decide)

/-- **Which classes stand for an entity type.** -/
theorem entityOfClass?_eq_some_iff {fullName entity : String} :
    entityOfClass? fullName = some entity ↔ EntityClass fullName entity := by
  constructor
  · intro h
    unfold entityOfClass? at h
    split at h
    · rename_i last outer hpieces
      split at h
      · rename_i hchars
        simp only [Bool.and_eq_true, bne_iff_ne] at hchars
        cases h
        have hplain := all_isEntityChar_iff.1 hchars.2
        exact ⟨hchars.1, hplain, (reverse_split_iff (backslash_not_mem hplain)).1 ⟨outer, hpieces⟩⟩
      · cases h
    · cases h
  · intro h
    obtain ⟨outer, houter⟩ := (reverse_split_iff (backslash_not_mem h.plain)).2 h.placed
    simp [entityOfClass?, houter, h.ne_empty, all_isEntityChar_iff.2 h.plain]

/-- An argument names an entity type: by a text, or by the class of the entity. -/
inductive NamesEntity (ctx : Context) (argument : Node) (entity : String) : Prop where
  | text (h : argument.stringLiteral? ctx.source = some entity) (hne : entity ≠ "")
  | ofClass (owner constant : String)
      (h : argument.classConstant? ctx.source = some (owner, constant))
      (hconstant : Text.foldAscii constant = "class")
      (hclass : EntityClass (ctx.file.names.resolve owner) entity)

theorem entityOfArgument?_eq_some_iff {argument : Node} {entity : String} :
    entityOfArgument? ctx argument = some entity ↔ NamesEntity ctx argument entity := by
  have hfolds : Text.foldAscii "class" = "class" := by decide
  constructor
  · intro h
    unfold entityOfArgument? at h
    split at h
    · rename_i name hname
      split at h
      · cases h
      · rename_i hne
        cases h
        exact .text hname (by simpa using hne)
    · split at h
      · rename_i owner constant hconstant
        split at h
        · rename_i hfolded
          rw [Text.sameFolded_iff, hfolds] at hfolded
          exact .ofClass owner constant hconstant hfolded (entityOfClass?_eq_some_iff.1 h)
        · cases h
      · cases h
  · intro h
    cases h with
    | text h hne => simp [entityOfArgument?, h, hne]
    | ofClass owner constant h hconstant hclass =>
      have hfolded : Text.sameFolded constant "class" = true := by
        rw [Text.sameFolded_iff, hfolds, hconstant]
      simp [entityOfArgument?, Node.stringLiteral?_of_classConstant? h, h, hfolded,
        entityOfClass?_eq_some_iff.2 hclass]

/-- A call gives access to the entities of a type that its first argument names. -/
structure LooksUp (ctx : Context) (call : Node) (entity : String) : Prop where
  named : call.Calls ctx.source ["getRDBRepositoryByClass", "getRDBRepository", "getRepository"]
  first : ∃ argument, call.callArguments.head? = some argument ∧ NamesEntity ctx argument entity

theorem lookedUp?_eq_some_iff {n : Node} {call : MemberCall} {entity : String}
    (h : MemberCall.ofNode? ctx.source n = some call) :
    lookedUp? ctx call = some entity ↔ LooksUp ctx n entity := by
  have hnamed : call.isNamed repositoryLookups = true ↔ n.Calls ctx.source repositoryLookups :=
    MemberCall.isNamed_iff h
  unfold lookedUp?
  constructor
  · intro hlooks
    split at hlooks
    · rename_i hname
      rw [MemberCall.arguments_of_ofNode? h, Option.bind_eq_some_iff] at hlooks
      obtain ⟨argument, hfirst, hentity⟩ := hlooks
      exact ⟨hnamed.1 hname, argument, hfirst, entityOfArgument?_eq_some_iff.1 hentity⟩
    · cases hlooks
  · rintro ⟨hname, argument, hfirst, hentity⟩
    rw [if_pos (hnamed.2 hname), MemberCall.arguments_of_ofNode? h, hfirst, Option.bind_some]
    exact entityOfArgument?_eq_some_iff.2 hentity

/-! ## Selected fields -/

/-- The texts that a selection writes out: its arguments that are texts, and the texts among the
    items of its arguments that are arrays, in order. -/
def writtenFields (source : Source) (call : Node) : List String :=
  (call.callArguments.flatMap fun argument =>
    argument :: (argument.arrayItems?.getD []).map ArrayItem.value).filterMap fun n =>
      n.stringLiteral? source

theorem flatMap_literalFields (arguments : List Node) :
    arguments.flatMap (literalFields ctx) =
      (arguments.flatMap fun argument =>
        argument :: (argument.arrayItems?.getD []).map ArrayItem.value).filterMap fun n =>
          n.stringLiteral? ctx.source := by
  rw [List.filterMap_flatMap]
  refine congrArg (fun read => arguments.flatMap read) (funext fun argument => ?_)
  unfold literalFields
  cases hitems : argument.arrayItems? with
  | none => cases htext : argument.stringLiteral? ctx.source <;> simp [htext]
  | some items =>
    simp [Node.stringLiteral?_of_arrayItems? hitems, List.filterMap_map]

theorem selectedFields?_eq_some_iff {n : Node} {call : MemberCall} {fields : List String}
    (h : MemberCall.ofNode? ctx.source n = some call) :
    selectedFields? ctx call.arguments = some fields ↔
      fields = writtenFields ctx.source n ∧ fields ≠ [] := by
  unfold selectedFields?
  rw [MemberCall.arguments_of_ofNode? h, flatMap_literalFields, ← writtenFields]
  dsimp only
  split
  · rename_i hnone
    simp_all
  · rename_i hsome
    constructor
    · intro hfields
      cases hfields
      exact ⟨rfl, by simpa using hsome⟩
    · rintro ⟨rfl, -⟩
      rfl

/-! ## The projection of an expression -/

/-- Of the calls of a chain, outermost first, the last one that selects fields. -/
structure InnermostSelection (source : Source) (calls : List Node) (select : Node) : Prop where
  selects : select.Calls source ["select"]
  innermost : ∃ outer inner, calls = outer ++ select :: inner ∧
    ∀ call ∈ inner, ¬ call.Calls source ["select"]

/-- The entity type that the first call of a chain names which names one, if there is such a call. -/
def OutermostEntity (ctx : Context) (calls : List Node) : Option String → Prop
  | some entity => ∃ outer lookup inner, calls = outer ++ lookup :: inner ∧
      LooksUp ctx lookup entity ∧ ∀ call ∈ outer, ∀ other, ¬ LooksUp ctx call other
  | none => ∀ call ∈ calls, ∀ entity, ¬ LooksUp ctx call entity

section Read

variable {calls : List MemberCall}
  (hread : ∀ call ∈ calls, MemberCall.ofNode? ctx.source call.node = some call)

include hread

theorem innermostSelection_iff {select : Node} :
    InnermostSelection ctx.source (calls.map MemberCall.node) select ↔
      ∃ call, calls.reverse.find? isSelection = some call ∧ call.node = select := by
  have hselects : ∀ call ∈ calls,
      (isSelection call = true ↔ call.node.Calls ctx.source ["select"]) := fun call hcall =>
    MemberCall.isNamed_iff (hread call hcall)
  constructor
  · rintro ⟨hselect, outer, inner, hcut, hinner⟩
    obtain ⟨outer', rest, rfl, rfl, hrest⟩ := List.map_eq_append_iff.1 hcut
    obtain ⟨call, inner', rfl, rfl, rfl⟩ := List.map_eq_cons_iff.1 hrest
    refine ⟨call, List.find?_eq_some_iff_append.2 ⟨?_, inner'.reverse, outer'.reverse, ?_, ?_⟩, rfl⟩
    · exact (hselects call (by simp)).2 hselect
    · simp
    · intro other hother
      have hmem : other ∈ inner' := List.mem_reverse.1 hother
      have hnot := hinner _ (List.mem_map_of_mem hmem)
      rw [← hselects other (by simp [hmem])] at hnot
      simpa using hnot
  · rintro ⟨call, hfound, rfl⟩
    obtain ⟨hselect, after, before, hcut, hafter⟩ := List.find?_eq_some_iff_append.1 hfound
    have hcalls : calls = before.reverse ++ call :: after.reverse := by
      rw [← List.reverse_reverse calls, hcut]
      simp
    refine ⟨(hselects call (by simp [hcalls])).1 hselect, before.reverse.map MemberCall.node,
      after.reverse.map MemberCall.node, by simp [hcalls], ?_⟩
    intro n hn
    obtain ⟨other, hother, rfl⟩ := List.mem_map.1 hn
    have hmem : other ∈ after := List.mem_reverse.1 hother
    rw [← hselects other (by simp [hcalls, hmem])]
    simpa using hafter other hmem

theorem InnermostSelection.unique {select other : Node}
    (h : InnermostSelection ctx.source (calls.map MemberCall.node) select)
    (hother : InnermostSelection ctx.source (calls.map MemberCall.node) other) :
    other = select := by
  obtain ⟨call, hfound, rfl⟩ := (innermostSelection_iff hread).1 h
  obtain ⟨call', hfound', rfl⟩ := (innermostSelection_iff hread).1 hother
  rw [hfound, Option.some.injEq] at hfound'
  rw [hfound']

/-- The last selection of the loop is the innermost one, and it gives the fields that it writes. -/
theorem selectedFields?_find?_iff {fields : List String} :
    (∃ call, calls.reverse.find? isSelection = some call ∧
      selectedFields? ctx call.arguments = some fields) ↔
    (∃ select, InnermostSelection ctx.source (calls.map MemberCall.node) select ∧
      fields = writtenFields ctx.source select) ∧ fields ≠ [] := by
  have hmem : ∀ {call}, calls.reverse.find? isSelection = some call → call ∈ calls := fun h =>
    List.mem_reverse.1 (List.mem_of_find?_eq_some h)
  constructor
  · rintro ⟨call, hfound, hfields⟩
    obtain ⟨hwritten, hne⟩ := (selectedFields?_eq_some_iff (hread call (hmem hfound))).1 hfields
    exact ⟨⟨call.node, (innermostSelection_iff hread).2 ⟨call, hfound, rfl⟩, hwritten⟩, hne⟩
  · rintro ⟨⟨select, hselect, hwritten⟩, hne⟩
    obtain ⟨call, hfound, rfl⟩ := (innermostSelection_iff hread).1 hselect
    exact ⟨call, hfound,
      (selectedFields?_eq_some_iff (hread call (hmem hfound))).2 ⟨hwritten, hne⟩⟩

theorem outermostEntity_iff {entity : Option String} :
    OutermostEntity ctx (calls.map MemberCall.node) entity ↔
      calls.findSome? (lookedUp? ctx) = entity := by
  have hlooks : ∀ call ∈ calls, ∀ entity,
      (lookedUp? ctx call = some entity ↔ LooksUp ctx call.node entity) := fun call hcall _ =>
    lookedUp?_eq_some_iff (hread call hcall)
  have hnone : ∀ call ∈ calls,
      (lookedUp? ctx call = none ↔ ∀ entity, ¬ LooksUp ctx call.node entity) := by
    intro call hcall
    rw [Option.eq_none_iff_forall_ne_some]
    exact forall_congr' fun entity => not_congr (hlooks call hcall entity)
  cases entity with
  | none =>
    rw [List.findSome?_eq_none_iff, OutermostEntity, List.forall_mem_map]
    exact forall₂_congr fun call hcall => (hnone call hcall).symm
  | some entity =>
    rw [List.findSome?_eq_some_iff]
    constructor
    · rintro ⟨outer, lookup, inner, hcut, hlookup, houter⟩
      obtain ⟨outer', rest, rfl, rfl, hrest⟩ := List.map_eq_append_iff.1 hcut
      obtain ⟨call, inner', rfl, rfl, rfl⟩ := List.map_eq_cons_iff.1 hrest
      refine ⟨outer', call, inner', rfl, (hlooks call (by simp) entity).2 hlookup, ?_⟩
      intro other hother
      exact (hnone other (by simp [hother])).2 (houter _ (List.mem_map_of_mem hother))
    · rintro ⟨outer, call, inner, rfl, hentity, houter⟩
      refine ⟨outer.map MemberCall.node, call.node, inner.map MemberCall.node, by simp,
        (hlooks call (by simp) entity).1 hentity, ?_⟩
      intro n hn
      obtain ⟨other, hother, rfl⟩ := List.mem_map.1 hn
      exact (hnone other (by simp [hother])).1 (houter other hother)

end Read

/-- What the loop ends with, when it has gone through the whole chain. -/
theorem projection?_eq_some_iff {expression : Node} {projection : Projection} :
    projection? ctx expression = some projection ↔
      (∃ call, (chain ctx expression).reverse.find? isSelection = some call ∧
        selectedFields? ctx call.arguments = some projection.fields) ∧
      (chain ctx expression).findSome? (lookedUp? ctx) = projection.entity := by
  have hfields := fields_foldl_step ctx (chain ctx expression) {}
  have hentity := entity_foldl_step ctx (chain ctx expression) {}
  obtain ⟨fields, entity⟩ := projection
  unfold projection?
  simp only [Option.map_eq_some_iff, Projection.mk.injEq, hfields, hentity, Option.none_or]
  cases (chain ctx expression).reverse.find? isSelection with
  | none => simp
  | some call => simp

/-- **What an expression selects.**  Every expression has one chain of calls, as long as it can be.
    The innermost of them that is called `select` decides on the fields, whatever the ones around it
    select: they are the texts that it writes out, in order, and if there are none the expression has
    no projection.  The outermost lookup whose first argument names an entity type decides on the
    type, whether it stands around that selection or inside. -/
theorem projection_of_chain (ctx : Context) (expression : Node) :
    ∃ calls, Chained expression calls ∧ (∀ others, Chained expression others → others = calls) ∧
      (∀ projection, projection? ctx expression = some projection ↔
        (∃ select, InnermostSelection ctx.source calls select ∧
          projection.fields = writtenFields ctx.source select) ∧
        projection.fields ≠ [] ∧ OutermostEntity ctx calls projection.entity) ∧
      ((projection? ctx expression).isSome = true ↔
        ∃ select, InnermostSelection ctx.source calls select ∧
          writtenFields ctx.source select ≠ []) ∧
      ∀ select, InnermostSelection ctx.source calls select → writtenFields ctx.source select = [] →
        projection? ctx expression = none := by
  have hchained := chained_chain ctx expression
  have hread : ∀ call ∈ chain ctx expression,
      MemberCall.ofNode? ctx.source call.node = some call :=
    ofNode?_of_mem_chainUpTo ctx _ expression
  have hprojection : ∀ projection, projection? ctx expression = some projection ↔
      (∃ select, InnermostSelection ctx.source ((chain ctx expression).map MemberCall.node) select ∧
        projection.fields = writtenFields ctx.source select) ∧ projection.fields ≠ [] ∧
      OutermostEntity ctx ((chain ctx expression).map MemberCall.node) projection.entity := by
    intro projection
    rw [projection?_eq_some_iff, selectedFields?_find?_iff hread, outermostEntity_iff hread,
      and_assoc]
  refine ⟨_, hchained, fun others => hchained.unique, hprojection, ?_, ?_⟩
  · rw [Option.isSome_iff_exists]
    constructor
    · rintro ⟨projection, hsome⟩
      obtain ⟨⟨select, hselect, hwritten⟩, hne, -⟩ := (hprojection projection).1 hsome
      exact ⟨select, hselect, hwritten ▸ hne⟩
    · rintro ⟨select, hselect, hne⟩
      exact ⟨⟨_, _⟩, (hprojection _).2 ⟨⟨select, hselect, rfl⟩, hne, (outermostEntity_iff hread).2 rfl⟩⟩
  · intro select hselect hnone
    refine Option.eq_none_iff_forall_ne_some.2 fun projection hsome => ?_
    obtain ⟨⟨other, hother, hwritten⟩, hne, -⟩ := (hprojection projection).1 hsome
    rw [hselect.unique hread hother, hnone] at hwritten
    exact hne hwritten

end Convention.PartialLoad

end LayerLint
