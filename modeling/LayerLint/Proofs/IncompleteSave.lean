import LayerLint.Proofs.Calls
import LayerLint.Proofs.LastAssignment

/-!
# Which saves lack fields

What the rule for partially loaded entities says about one method.  Five things are read off the
file before the hooks are asked: what the call is, what it saves, what that was assigned last, of
which entity type it is, and where the hooks of the type are.

* `ofNode?_bind_ofCall?_eq_some_iff` — when a node is read as a partial save;
* `Incomplete` — the call saves a variable whose projection lacks fields that hooks read;
* `verdict_eq_some_iff` — what the rule says about a node of the body, and about which nodes;
* `incomplete_saves_reported` — the rule says this about the nodes of the body one after another,
  and nothing else.
-/

set_option autoImplicit false

namespace LayerLint.Convention.PartialLoad

open Syntax (Node Site MemberCall)

variable {ctx : Context} {method body : Node}

/-! ## Reading a save -/

theorem entityType?_eq (binding : String) (projection : Projection) :
    entityType? ctx method binding projection =
      ((ctx.bindingClasses method binding).findSome? entityOfClass?).or projection.entity := by
  unfold entityType?
  cases (ctx.bindingClasses method binding).findSome? entityOfClass? <;> rfl

theorem ofCall?_eq_some_iff {made : List Assignment} {call : MemberCall} {save : PartialSave} :
    PartialSave.ofCall? ctx method made call = some save ↔
      save.call = call ∧ call.isNamed persistCalls = true ∧
      ∃ binding, call.arguments.map (fun a => a.variableName? ctx.source) = [some binding] ∧
        liveAt made binding call.node.start = some save.projection ∧
        entityType? ctx method binding save.projection = some save.entityType ∧
        hooksDirectory? ctx.file.displayPath ctx.config.backendRoot save.entityType =
          some save.hooks := by
  obtain ⟨node, object, name, arguments⟩ := call
  constructor
  · intro hsave
    unfold PartialSave.ofCall? at hsave
    split at hsave
    · rename_i argument harguments
      split at hsave
      · rename_i hnamed
        simp only [bind, Option.bind_eq_some_iff, pure, Option.some.injEq] at hsave
        obtain ⟨binding, hbinding, projection, hlive, entityType, htype, hooks, hhooks, rfl⟩ := hsave
        refine ⟨rfl, hnamed, binding, ?_, hlive, htype, hhooks⟩
        rw [harguments, List.map_singleton, hbinding]
      · cases hsave
    · cases hsave
  · rintro ⟨hcall, hnamed, binding, harguments, hlive, htype, hhooks⟩
    obtain ⟨argument, rfl, hbinding⟩ := List.map_eq_singleton_iff.1 harguments
    unfold PartialSave.ofCall?
    simp only [if_pos hnamed, bind, pure, hbinding, hlive, htype, hhooks, Option.bind_some,
      Option.some.injEq]
    rw [← hcall]

/-- When a node is read as a partial save, and as which. -/
theorem ofNode?_bind_ofCall?_eq_some_iff {n : Node} {save : PartialSave} :
    (MemberCall.ofNode? ctx.source n).bind
        (PartialSave.ofCall? ctx method (assignments ctx body)) = some save ↔
      MemberCall.ofNode? ctx.source n = some save.call ∧ n.Calls ctx.source persistCalls ∧
      ∃ binding, n.callArguments.map (fun a => a.variableName? ctx.source) = [some binding] ∧
        ((ended ctx.source body binding n.start).getLast?.bind (given ctx)) =
          some save.projection ∧
        ((ctx.bindingClasses method binding).findSome? entityOfClass?).or save.projection.entity =
          some save.entityType ∧
        hooksDirectory? ctx.file.displayPath ctx.config.backendRoot save.entityType =
          some save.hooks := by
  rw [Option.bind_eq_some_iff]
  constructor
  · rintro ⟨call, hcall, hsave⟩
    obtain ⟨rfl, hnamed, binding, hfacts⟩ := ofCall?_eq_some_iff.1 hsave
    rw [MemberCall.arguments_of_ofNode? hcall, MemberCall.node_of_ofNode? hcall, liveAt_eq,
      entityType?_eq] at hfacts
    exact ⟨hcall, (MemberCall.isNamed_iff hcall).1 hnamed, binding, hfacts⟩
  · rintro ⟨hcall, hcalls, binding, hfacts⟩
    refine ⟨save.call, hcall, ofCall?_eq_some_iff.2
      ⟨rfl, (MemberCall.isNamed_iff hcall).2 hcalls, binding, ?_⟩⟩
    rw [MemberCall.arguments_of_ofNode? hcall, MemberCall.node_of_ofNode? hcall, liveAt_eq,
      entityType?_eq]
    exact hfacts

/-! ## Incomplete saves -/

/-- A call saves a variable and passes nothing else.  The last assignment to it in pre-order, among
    those that end before the call, makes a projection.  The first declared class in a namespace for
    entities, or else the chain of the projection, names the entity type.  The hooks of that type
    read fields, other than the identifier, that the projection leaves out. -/
structure Incomplete (required : Path → List String) (ctx : Context) (method body call : Node)
    (binding : String) (projection : Projection) (entityType : String)
    (missing : List String) : Prop where
  saves : call.Calls ctx.source ["save", "saveEntity"]
  alone : call.callArguments.map (fun a => a.variableName? ctx.source) = [some binding]
  loaded : ∃ last, (ended ctx.source body binding call.start).getLast? = some last ∧
    given ctx last = some projection
  typed : ((ctx.bindingClasses method binding).findSome? entityOfClass?).or projection.entity =
    some entityType
  lacks : ∃ hooks,
    hooksDirectory? ctx.file.displayPath ctx.config.backendRoot entityType = some hooks ∧
      missing = (required hooks).filter fun f => f ≠ "id" ∧ f ∉ projection.fields
  some_missing : missing ≠ []

/-- What the rule says about a node of a body. -/
def verdict (required : Path → List String) (id : String) (ctx : Context) (method body n : Node) :
    Option Diagnostic :=
  (((MemberCall.ofNode? ctx.source n).bind
      (PartialSave.ofCall? ctx method (assignments ctx body))).filter
    (PartialSave.offends required)).map (PartialSave.report required id ctx)

theorem map_report_offences (required : Path → List String) (id : String)
    (hbody : method.methodBody? = some body) :
    (offences required ctx method).map (PartialSave.report required id ctx) =
      body.preorder.filterMap (verdict required id ctx method body) := by
  rw [offences, partialSaves, hbody]
  simp only [Node.memberCalls_eq, List.filterMap_filterMap, List.filter_filterMap,
    List.map_filterMap]
  rfl

theorem missingFields_eq (required : List String) (projection : Projection) :
    missingFields required projection =
      required.filter fun f => f ≠ "id" ∧ f ∉ projection.fields := by
  unfold missingFields
  refine List.filter_congr fun f _ => ?_
  simp [bne, beq_eq_decide, Bool.decide_and]

/-- **About which nodes the rule says something, and what.** -/
theorem verdict_eq_some_iff {required : Path → List String} {id : String} {n : Node}
    {d : Diagnostic} :
    verdict required id ctx method body n = some d ↔
      ∃ binding projection entityType missing,
        Incomplete required ctx method body n binding projection entityType missing ∧
          d = Rule.report id ctx n (message entityType missing) := by
  simp only [verdict, Option.map_eq_some_iff, Option.filter_eq_some_iff,
    ofNode?_bind_ofCall?_eq_some_iff]
  constructor
  · rintro ⟨save, ⟨⟨hcall, hcalls, binding, halone, hlive, htype, hhooks⟩, hoffends⟩, rfl⟩
    refine ⟨binding, save.projection, save.entityType, _,
      ⟨hcalls, halone, Option.bind_eq_some_iff.1 hlive, htype,
        ⟨save.hooks, hhooks, missingFields_eq _ _⟩, ?_⟩, ?_⟩
    · intro hnone
      simp [PartialSave.offends, hnone] at hoffends
    · rw [PartialSave.report, MemberCall.node_of_ofNode? hcall]
  · rintro ⟨binding, projection, entityType, missing, h, rfl⟩
    obtain ⟨hooks, hhooks, rfl⟩ := h.lacks
    rw [← missingFields_eq] at h ⊢
    obtain ⟨call, hcall, -⟩ := MemberCall.calls_iff.1 h.saves
    refine ⟨{ call, projection, entityType, hooks },
      ⟨⟨hcall, h.saves, binding, h.alone, Option.bind_eq_some_iff.2 h.loaded, h.typed, hhooks⟩, ?_⟩,
      ?_⟩
    · have hsome := h.some_missing
      simpa [PartialSave.offends] using hsome
    · rw [PartialSave.report, MemberCall.node_of_ofNode? hcall]

/-! ## What the rule reports -/

/-- In the backend every entity type has a place for its hooks. -/
theorem exists_hooksDirectory (hbackend : ctx.inBackend = true) (entityType : String) :
    ∃ hooks,
      hooksDirectory? ctx.file.displayPath ctx.config.backendRoot entityType = some hooks := by
  rw [Context.inBackend, Context.layer?, Layer.classify?, Option.isSome_map] at hbackend
  rw [← Option.isSome_iff_exists, hooksDirectory?, Option.isSome_map]
  exact hbackend

/-- **Which saves are reported.**  Take a method with a body in a file of the backend, and any state
    of the memory.  The rule does not fail.  It goes through the nodes of the body in pre-order, says
    one thing about each that is an incomplete save, and nothing about the others.  The message names
    the entity type and at most five of the missing fields, in the order of what the hooks read.
    That is taken from the memory, whose answers stay the same, and no entity type is without a place
    for its hooks. -/
theorem incomplete_saves_reported {ctx : Context} {site : Site} {body : Node} (id : String)
    (memo : HookMemo) (hbackend : ctx.inBackend = true)
    (hbody : site.node.methodBody? = some body) :
    let after := ((saveRestrictedEntityFields.judge id ctx site).run ctx.fs).run memo
    (∃ found : Node → Option Diagnostic,
      after.1 = .ok (body.preorder.filterMap found) ∧
      ∀ n d, found n = some d ↔ ∃ binding projection entityType missing,
        Incomplete (memo.reply ctx.fs) ctx site.node body n binding projection entityType missing ∧
        d =
          { ruleId := id
            message := "Saving partially-loaded " ++ entityType ++
              " without skipHooks/silent may break hooks; missing fields: " ++
              (", ".intercalate (missing.take 5) ++ if 5 < missing.length then ", …" else "") ++
              ". Add fields to select() or pass SaveOptions with skipHooks=true or silent=true."
            location := ctx.location n
            kind := .violation }) ∧
    after.2.reply ctx.fs = memo.reply ctx.fs ∧
    ∀ entityType, ∃ hooks,
      hooksDirectory? ctx.file.displayPath ctx.config.backendRoot entityType = some hooks := by
  intro after
  have hjudge : saveRestrictedEntityFields.judge id ctx site = judge id ctx site := by
    unfold saveRestrictedEntityFields Rule.declare
    dsimp only
  obtain ⟨hvalue, hkept⟩ := HookInquiry.run_spec ctx.fs (judge id ctx site) memo
  rw [answer_judge, if_pos hbackend, map_report_offences _ id hbody, ← hjudge] at hvalue
  rw [← hjudge] at hkept
  exact ⟨⟨_, hvalue, fun n d => verdict_eq_some_iff⟩, hkept, exists_hooksDirectory hbackend⟩

/-- A project in which the hooks of one entity type read some fields. -/
def readingProject (fields : List String) : FileSystem where
  root := .directory [("src", .directory [("backend", .directory [("Hooks", .directory
    [("E", .directory [("H.php", .file (.text
      ("<?php class H\x7bfunction beforeSave($e)\x7b" ++
        String.join (fields.map fun f => "$e->get('" ++ f ++ "');") ++ "\x7d\x7d")))])])])])]

/-- A variable that was loaded with one field is saved with options and without.  The hooks read
    six other fields and the identifier: the save without options is reported, and the message
    lists five of the fields. -/
theorem incomplete_saves_reported_shortened :
    let ctx : Context :=
      { hookedContext ("<?php class A\x7bfunction f()\x7b$o=$q->getRepository('E')->select('b');" ++
          "$m->save($o,[]);$m?->saveEntity($o);\x7d\x7d") with
        fs := readingProject ["id", "a", "b", "c", "d", "e", "f", "g"] }
    ∃ site body, ctx.inBackend = true ∧ site.node.methodBody? = some body ∧
      ∃ d, (((saveRestrictedEntityFields.judge "r" ctx site).run ctx.fs).run .empty).1 = .ok [d] ∧
        d.message = "Saving partially-loaded E without skipHooks/silent may break hooks; " ++
          "missing fields: a, c, d, e, f, …. " ++
          "Add fields to select() or pass SaveOptions with skipHooks=true or silent=true." ∧
        ∃ call ∈ body.preorder, ∃ binding projection entityType missing,
          Incomplete (HookReads.collect ctx.fs) ctx site.node body call binding projection
            entityType missing := by
  intro ctx
  have hfacts : (ctx.inBackend && ((ctx.file.root.sites []).find? fun site =>
      site.node.isMethod).any fun site => site.node.methodBody?.isSome &&
        (((saveRestrictedEntityFields.judge "r" ctx site).run ctx.fs).run .empty).1.toOption.any
          fun found => found.map Diagnostic.message ==
            ["Saving partially-loaded E without skipHooks/silent may break hooks; " ++
              "missing fields: a, c, d, e, f, …. " ++
              "Add fields to select() or pass SaveOptions with skipHooks=true or silent=true."]) =
      true := by
    decide +kernel
  simp only [Bool.and_eq_true, Option.any_eq_true, Option.isSome_iff_exists, beq_iff_eq] at hfacts
  obtain ⟨hbackend, site, -, ⟨body, hbody⟩, diagnostics, hrun, hmessages⟩ := hfacts
  obtain ⟨⟨found, hfound, hiff⟩, -⟩ := incomplete_saves_reported "r" .empty hbackend hbody
  obtain ⟨d, rfl, hmessage⟩ := List.map_eq_singleton_iff.1 hmessages
  rw [hfound] at hrun
  have hsole : body.preorder.filterMap found = [d] := Option.some.inj hrun
  have hmem : d ∈ body.preorder.filterMap found := by rw [hsole]; exact List.mem_singleton_self d
  obtain ⟨call, hcall, hsays⟩ := List.mem_filterMap.1 hmem
  obtain ⟨binding, projection, entityType, missing, hincomplete, -⟩ := (hiff call d).1 hsays
  refine ⟨site, body, hbackend, hbody, d, ?_, hmessage, call, hcall, binding, projection,
    entityType, missing, hincomplete⟩
  rw [hfound, hsole]

end LayerLint.Convention.PartialLoad
