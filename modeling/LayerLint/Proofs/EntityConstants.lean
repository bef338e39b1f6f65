import LayerLint.Convention.Entity
import Mathlib.Data.List.Basic

/-!
# Which constants of an entity count

Two rules look at the public constants of an entity.  The type has to be given by the first constant
of the right name that is typed as a string, or that is a string without being typed where that is
enough; a later one does not help.  The template may be given by any constant of its name.

* `publicElements` — the constants that the rules may look at, and `Constant` — what one consists of;
* `publicConstants_eq` — the rules read these one by one;
* `judgeEntityType_of_first`, `judgeEntityType_of_none` — the verdict about the type;
* `judgeTemplateType_of_known`, `judgeTemplateType_of_unknown`, `judgeTemplateType_of_none` — the
  verdict about the template;
* `entity_constants_judged` — what the two rules report, and about what.
-/

set_option autoImplicit false

namespace LayerLint.Convention.Entity

open Syntax (Node Site Source)

/-! ## Constants -/

/-- The constants that everybody may see: the elements of the declarations directly in the body of a
    class that are marked as public or not marked at all, each with its declaration, in order. -/
def publicElements (source : Source) (entity : Node) : List (Node × Node) :=
  (entity.classMembers.filter fun m => m.kind = .constDeclaration ∧
      (m.visibility? source = none ∨ m.visibility? source = some .public)).flatMap
    fun declaration =>
      (declaration.namedChildren.filter fun c => c.kind = .constElement).map (declaration, ·)

/-- An element of a declaration of constants that consists of a name and a value. -/
structure Constant where
  declaration : Node
  element : Node
  name : Node
  value : Node
  parts : element.namedChildren = [name, value]

/-- Where a constant stands. -/
def Constant.place (k : Constant) : Node × Node :=
  (k.declaration, k.element)

/-- What the rules read of a constant. -/
def Constant.read (ctx : Context) (k : Constant) : PublicConstant where
  declaredType := declaredType? k.declaration
  name := ctx.text k.name
  value := some k.value

namespace Constant

variable (ctx : Context) (k : Constant)

@[simp] theorem name_read : (k.read ctx).name = ctx.text k.name := by
  rw [read]

@[simp] theorem declaredType_read : (k.read ctx).declaredType = declaredType? k.declaration := by
  rw [read]

@[simp] theorem value_read : (k.read ctx).value = some k.value := by
  rw [read]

@[simp] theorem literal?_read :
    (k.read ctx).literal? ctx = k.value.stringLiteral? ctx.source := by
  rw [PublicConstant.literal?, value_read, Option.bind_some]

end Constant

/-- Elements of two parts are constants. -/
theorem exists_constants {elements : List (Node × Node)}
    (h : ∀ e ∈ elements, e.2.namedChildren.length = 2) :
    ∃ constants : List Constant, elements = constants.map Constant.place := by
  induction elements with
  | nil => exact ⟨[], rfl⟩
  | cons e elements ih =>
    obtain ⟨constants, rfl⟩ := ih fun other hother => h other (List.mem_cons_of_mem e hother)
    obtain ⟨name, value, hparts⟩ := List.length_eq_two.1 (h e List.mem_cons_self)
    exact ⟨⟨e.1, e.2, name, value, hparts⟩ :: constants, rfl⟩

theorem isPublic_iff {m : Node} {source : Source} :
    m.isPublic source = true ↔
      m.visibility? source = none ∨ m.visibility? source = some .public := by
  unfold Node.isPublic
  cases m.visibility? source <;> simp

theorem publicConstants_eq_filterMap (ctx : Context) (entity : Node) :
    publicConstants ctx entity =
      (publicElements ctx.source entity).filterMap fun e => PublicConstant.ofElement? ctx e.1 e.2 := by
  have hkept : (fun m : Node => m.kind == .constDeclaration && m.isPublic ctx.source) =
      fun m => decide (m.kind = .constDeclaration ∧
        (m.visibility? ctx.source = none ∨ m.visibility? ctx.source = some .public)) := by
    funext m
    rw [Bool.eq_iff_iff, Bool.and_eq_true, beq_iff_eq, isPublic_iff, decide_eq_true_iff]
  rw [publicConstants, publicElements, hkept, List.filterMap_flatMap]
  refine List.flatMap_congr fun declaration _ => ?_
  rw [List.filterMap_map]
  rfl

/-- **The rules read the public constants one by one.** -/
theorem publicConstants_eq {ctx : Context} {entity : Node} {constants : List Constant}
    (h : publicElements ctx.source entity = constants.map Constant.place) :
    publicConstants ctx entity = constants.map (Constant.read ctx) := by
  rw [publicConstants_eq_filterMap, h, List.filterMap_map, ← List.filterMap_eq_map]
  refine List.filterMap_congr fun k _ => ?_
  simp [PublicConstant.ofElement?, Constant.place, Constant.read, k.parts]

/-- The first of some constants with a property. -/
def IsFirst (p : Constant → Prop) (constants : List Constant) (k : Constant) : Prop :=
  ∃ before after, constants = before ++ k :: after ∧ p k ∧ ∀ other ∈ before, ¬ p other

open Classical in
theorem isFirst_iff_find? {p : Constant → Prop} {constants : List Constant} {k : Constant} :
    IsFirst p constants k ↔ constants.find? (fun k => decide (p k)) = some k := by
  rw [List.find?_eq_some_iff_append]
  simp only [IsFirst, decide_eq_true_eq, Bool.not_eq_true', decide_eq_false_iff_not]
  constructor
  · rintro ⟨before, after, hsplit, hk, hbefore⟩
    exact ⟨hk, before, after, hsplit, hbefore⟩
  · rintro ⟨hk, before, after, hsplit, hbefore⟩
    exact ⟨before, after, hsplit, hk, hbefore⟩

theorem IsFirst.exists_mem {p : Constant → Prop} {constants : List Constant} {k : Constant}
    (h : IsFirst p constants k) : ∃ k ∈ constants, p k := by
  obtain ⟨before, after, rfl, hk, -⟩ := h
  exact ⟨k, by simp, hk⟩

theorem exists_isFirst {p : Constant → Prop} {constants : List Constant}
    (h : ∃ k ∈ constants, p k) : ∃ k, IsFirst p constants k := by
  classical
  simp only [isFirst_iff_find?, ← Option.isSome_iff_exists, List.find?_isSome]
  simpa using h

section Reading

variable {ctx : Context} {constants : List Constant} {p : Constant → Prop}
  (test : PublicConstant → Bool) (htest : ∀ k : Constant, test (k.read ctx) = true ↔ p k)

include htest

theorem filter_of_none (hnone : ∀ k ∈ constants, ¬ p k) :
    (constants.map (Constant.read ctx)).filter test = [] := by
  rw [List.filter_eq_nil_iff]
  intro c hc
  obtain ⟨k, hk, rfl⟩ := List.mem_map.1 hc
  rw [htest]
  exact hnone k hk

theorem exists_filter_of_isFirst {k : Constant} (hfirst : IsFirst p constants k) :
    ∃ rest, (constants.map (Constant.read ctx)).filter test = k.read ctx :: rest := by
  obtain ⟨before, after, rfl, hk, hbefore⟩ := hfirst
  refine ⟨(after.map (Constant.read ctx)).filter test, ?_⟩
  rw [List.map_append, List.filter_append, filter_of_none test htest hbefore, List.nil_append,
    List.map_cons, List.filter_cons_of_pos ((htest k).2 hk)]

theorem find?_of_none (hnone : ∀ k ∈ constants, ¬ p k) :
    (constants.map (Constant.read ctx)).find? test = none := by
  rw [← List.head?_filter, filter_of_none test htest hnone, List.head?_nil]

theorem find?_of_isFirst {k : Constant} (hfirst : IsFirst p constants k) :
    (constants.map (Constant.read ctx)).find? test = some (k.read ctx) := by
  obtain ⟨rest, hrest⟩ := exists_filter_of_isFirst test htest hfirst
  rw [← List.head?_filter, hrest, List.head?_cons]

end Reading

variable {ctx : Context} {site : Site} {className : String} {constants : List Constant} (id : String)

/-! ## What gives the type, and what the template -/

/-- A constant that may give the type of an entity. -/
structure MayGiveType (ctx : Context) (k : Constant) : Prop where
  named : ctx.text k.name = "ENTITY_TYPE"
  isString :
    (∃ type, declaredType? k.declaration = some type ∧
      Text.foldAscii (ctx.text type) = "string") ∨
    (ctx.config.entities.requireTypedConstants = false ∧ declaredType? k.declaration = none ∧
      ∃ v, k.value.stringLiteral? ctx.source = some v)

theorem givesEntityType_read (k : Constant) :
    givesEntityType ctx (k.read ctx) = true ↔ MayGiveType ctx k := by
  have hfolded : Text.foldAscii "string" = "string" := by decide
  rw [givesEntityType, k.literal?_read, k.declaredType_read, k.name_read, Bool.and_eq_true,
    beq_iff_eq]
  constructor
  · rintro ⟨hnamed, htyped⟩
    refine ⟨hnamed, ?_⟩
    split at htyped
    · rename_i type htype
      rw [Text.sameFolded_iff, hfolded] at htyped
      exact .inl ⟨type, htype, htyped⟩
    · rename_i htype
      rw [Bool.and_eq_true, Bool.not_eq_true', Option.isSome_iff_exists] at htyped
      exact .inr ⟨htyped.1, htype, htyped.2⟩
  · rintro ⟨hnamed, ⟨type, htype, htext⟩ | ⟨hconfig, htype, v, hv⟩⟩
    · refine ⟨hnamed, ?_⟩
      rw [htype]
      dsimp only
      rw [Text.sameFolded_iff, hfolded]
      exact htext
    · refine ⟨hnamed, ?_⟩
      simp [htype, hconfig, hv]

/-- A constant with the name for the template of an entity. -/
def NamesTemplate (ctx : Context) (k : Constant) : Prop :=
  ctx.text k.name = "TEMPLATE_TYPE"

/-- The value of the constant is written out, and it is one of the configured templates. -/
def KnownTemplate (ctx : Context) (k : Constant) : Prop :=
  ∃ v ∈ ctx.config.entities.templateTypes, k.value.stringLiteral? ctx.source = some v

/-- A constant is read as one that gives the template. -/
def isTemplate (c : PublicConstant) : Bool :=
  c.name == "TEMPLATE_TYPE"

theorem isTemplate_read (k : Constant) : isTemplate (k.read ctx) = true ↔ NamesTemplate ctx k := by
  rw [isTemplate, k.name_read, beq_iff_eq, NamesTemplate]

theorem literal?_any_read (k : Constant) :
    ((k.read ctx).literal? ctx).any ctx.config.entities.templateTypes.contains = true ↔
      KnownTemplate ctx k := by
  rw [k.literal?_read, Option.any_eq_true, KnownTemplate]
  refine exists_congr fun v => ?_
  rw [List.contains_iff_mem, and_comm]

/-- Some constant of the right name has an allowed value. -/
theorem any_templates_iff :
    ((constants.map (Constant.read ctx)).filter isTemplate).any (fun c =>
        (c.literal? ctx).any ctx.config.entities.templateTypes.contains) = true ↔
      ∃ k ∈ constants, NamesTemplate ctx k ∧ KnownTemplate ctx k := by
  simp only [List.any_filter, List.any_map, List.any_eq_true, Function.comp_apply,
    Bool.and_eq_true, isTemplate_read, literal?_any_read]

/-! ## Verdicts -/

section Verdicts

variable (hlayer : ctx.inLayer .entities = true)
  (hname : site.node.declaredName? ctx.source = some className)
  (hconstants : publicElements ctx.source site.node = constants.map Constant.place)

include hlayer hname hconstants

/-- The first constant that may give the type decides. -/
theorem judgeEntityType_of_first {k : Constant} (hfirst : IsFirst (MayGiveType ctx) constants k) :
    judgeEntityType id ctx site =
      if k.value.stringLiteral? ctx.source = some className then []
      else [Rule.report id ctx k.value
        (wrongTypeMessage className (k.value.stringLiteral? ctx.source))] := by
  have hfind := find?_of_isFirst (givesEntityType ctx) givesEntityType_read hfirst
  rw [← publicConstants_eq hconstants] at hfind
  simp [judgeEntityType, hlayer, hname, hfind]

theorem judgeEntityType_of_none (hnone : ∀ k ∈ constants, ¬ MayGiveType ctx k) :
    judgeEntityType id ctx site = [Rule.report id ctx site.node missingTypeMessage] := by
  have hfind := find?_of_none (givesEntityType ctx) givesEntityType_read hnone
  rw [← publicConstants_eq hconstants] at hfind
  simp only [judgeEntityType, hlayer, hname, hfind]
  rfl

/-- What the rule makes of the constants of the right name, if there is one. -/
theorem judgeTemplateType_of_cons {first : PublicConstant} {rest : List PublicConstant}
    (htemplates : (constants.map (Constant.read ctx)).filter isTemplate = first :: rest) :
    judgeTemplateType id ctx site =
      if ((first :: rest).any fun c =>
        (c.literal? ctx).any ctx.config.entities.templateTypes.contains) = true then []
      else [Rule.report id ctx (first.value.getD site.node)
        (wrongTemplateMessage (expectedTemplates ctx))] := by
  rw [← publicConstants_eq hconstants] at htemplates
  unfold isTemplate at htemplates
  simp only [judgeTemplateType, hlayer, hname, htemplates]
  rw [if_neg (by simp)]
  refine if_congr ?_ rfl rfl
  rw [List.any_eq_true, List.any_eq_true]
  refine exists_congr fun c => and_congr_right fun _ => ?_
  cases c.literal? ctx <;> exact Iff.rfl

theorem judgeTemplateType_of_known
    (hknown : ∃ k ∈ constants, NamesTemplate ctx k ∧ KnownTemplate ctx k) :
    judgeTemplateType id ctx site = [] := by
  have hnamed : ∃ k ∈ constants, NamesTemplate ctx k :=
    hknown.imp fun k h => ⟨h.1, h.2.1⟩
  obtain ⟨first, hfirst⟩ := exists_isFirst hnamed
  obtain ⟨rest, hrest⟩ := exists_filter_of_isFirst isTemplate isTemplate_read hfirst
  rw [judgeTemplateType_of_cons id hlayer hname hconstants hrest, ← hrest,
    if_pos (any_templates_iff.2 hknown)]

theorem judgeTemplateType_of_unknown {k : Constant}
    (hfirst : IsFirst (NamesTemplate ctx) constants k)
    (hunknown : ∀ k ∈ constants, NamesTemplate ctx k → ¬ KnownTemplate ctx k) :
    judgeTemplateType id ctx site =
      [Rule.report id ctx k.value (wrongTemplateMessage (expectedTemplates ctx))] := by
  obtain ⟨rest, hrest⟩ := exists_filter_of_isFirst isTemplate isTemplate_read hfirst
  rw [judgeTemplateType_of_cons id hlayer hname hconstants hrest, ← hrest, if_neg]
  · rw [k.value_read, Option.getD_some]
  · rw [any_templates_iff]
    rintro ⟨k, hk, hnames, hknown⟩
    exact hunknown k hk hnames hknown

theorem judgeTemplateType_of_none (hnone : ∀ k ∈ constants, ¬ NamesTemplate ctx k) :
    judgeTemplateType id ctx site =
      [Rule.report id ctx site.node (missingTemplateMessage (expectedTemplates ctx))] := by
  have htemplates := filter_of_none isTemplate isTemplate_read hnone
  rw [← publicConstants_eq hconstants] at htemplates
  unfold isTemplate at htemplates
  simp only [judgeTemplateType, hlayer, hname, htemplates]
  rfl

end Verdicts

/-! ## What is reported -/

/-- The two messages about the type of an entity are told apart by how they begin. -/
theorem wrongTypeMessage_ne (className : String) (value : Option String) :
    wrongTypeMessage className value ≠ missingTypeMessage := by
  have hstart : (wrongTypeMessage className value).toList.take 8 = "Entity E".toList := by
    unfold wrongTypeMessage
    simp only [String.toList_append, List.append_assoc]
    rw [List.take_append_of_le_length (by decide +kernel)]
    decide +kernel
  intro h
  rw [h] at hstart
  revert hstart
  decide +kernel

theorem wrongTemplateMessage_ne (expected : String) :
    wrongTemplateMessage expected ≠ missingTemplateMessage expected := by
  have hwrong : (wrongTemplateMessage expected).toList.take 8 = "Entity T".toList := by
    unfold wrongTemplateMessage
    simp only [String.toList_append, List.append_assoc]
    rw [List.take_append_of_le_length (by decide +kernel)]
    decide +kernel
  have hmissing : (missingTemplateMessage expected).toList.take 8 = "Entity m".toList := by
    unfold missingTemplateMessage
    simp only [String.toList_append, List.append_assoc]
    rw [List.take_append_of_le_length (by decide +kernel)]
    decide +kernel
  intro h
  rw [h, hmissing] at hwrong
  revert hwrong
  decide +kernel

theorem judge_defineEntityTypeConstant (ctx : Context) (site : Site) :
    defineEntityTypeConstant.judge id ctx site =
      Rule.verdict (.ok (judgeEntityType id ctx site)) := by
  unfold defineEntityTypeConstant Rule.declare
  dsimp only

theorem judge_defineTemplateTypeConstant (ctx : Context) (site : Site) :
    defineTemplateTypeConstant.judge id ctx site =
      Rule.verdict (.ok (judgeTemplateType id ctx site)) := by
  unfold defineTemplateTypeConstant Rule.declare
  dsimp only

/-- Three things that exclude each other can happen: all is fine, nothing has the property, or the
    first constant with the property is wrong. -/
theorem judged_once {p : Constant → Prop} {constants : List Constant} {found : List Diagnostic}
    {fine : Prop} {missing : Diagnostic} {wrong : Constant → Diagnostic}
    (hfine : fine → found = []) (hgiven : fine → ∃ k ∈ constants, p k)
    (hmissing : (∀ k ∈ constants, ¬ p k) → found = [missing])
    (hwrong : ∀ k, IsFirst p constants k → ¬ fine → found = [wrong k])
    (hne : ∀ k, wrong k ≠ missing) :
    found.length ≤ 1 ∧ (found = [] ↔ fine) ∧
      (found = [missing] ↔ ∀ k ∈ constants, ¬ p k) := by
  by_cases hright : fine
  · obtain ⟨k, hk, hp⟩ := hgiven hright
    rw [hfine hright]
    exact ⟨by simp, iff_of_true rfl hright, iff_of_false (by simp) fun hnone => hnone k hk hp⟩
  · by_cases hsome : ∃ k ∈ constants, p k
    · obtain ⟨first, hfirst⟩ := exists_isFirst hsome
      rw [hwrong first hfirst hright]
      refine ⟨by simp, iff_of_false (by simp) hright, iff_of_false ?_ (by simpa using hsome)⟩
      exact fun h => hne first (List.singleton_inj.1 h)
    · have hnone : ∀ k ∈ constants, ¬ p k := by simpa using hsome
      rw [hmissing hnone]
      exact ⟨by simp, iff_of_false (by simp) hright, iff_of_true rfl hnone⟩

/-- **What the two rules about the constants of an entity report.**  Take a class with a name in the
    layer of entities, whose public constants consist of a name and a value each, and any state of
    the memory, which is left alone.  Each rule gives at most one finding.

    The rule for the type is satisfied just if there is a constant that may give the type and the
    value of the first such constant is the name of the class.  If there is none, it says so about
    the class; if the first one has another value, it says so about this value.

    The rule for the template is satisfied just if some constant of the right name has an allowed
    value.  If no constant has the name, it says so about the class; otherwise it complains about the
    value of the first one that has it. -/
theorem entity_constants_judged {ctx : Context} {site : Site} {className : String}
    {constants : List Constant} (id : String) (memo : HookMemo)
    (hlayer : ctx.inLayer .entities = true)
    (hname : site.node.declaredName? ctx.source = some className)
    (hconstants : publicElements ctx.source site.node = constants.map Constant.place) :
    (∃ found,
      ((defineEntityTypeConstant.judge id ctx site).run ctx.fs).run memo = (.ok found, memo) ∧
      found.length ≤ 1 ∧
      (found = [] ↔ ∃ k, IsFirst (MayGiveType ctx) constants k ∧
        k.value.stringLiteral? ctx.source = some className) ∧
      (found = [Rule.report id ctx site.node missingTypeMessage] ↔
        ∀ k ∈ constants, ¬ MayGiveType ctx k) ∧
      ∀ k, IsFirst (MayGiveType ctx) constants k →
        k.value.stringLiteral? ctx.source ≠ some className →
          found = [Rule.report id ctx k.value
            (wrongTypeMessage className (k.value.stringLiteral? ctx.source))]) ∧
    (∃ found,
      ((defineTemplateTypeConstant.judge id ctx site).run ctx.fs).run memo = (.ok found, memo) ∧
      found.length ≤ 1 ∧
      (found = [] ↔ ∃ k ∈ constants, NamesTemplate ctx k ∧ KnownTemplate ctx k) ∧
      (found = [Rule.report id ctx site.node (missingTemplateMessage (expectedTemplates ctx))] ↔
        ∀ k ∈ constants, ¬ NamesTemplate ctx k) ∧
      ∀ k, IsFirst (NamesTemplate ctx) constants k →
        (∀ k ∈ constants, NamesTemplate ctx k → ¬ KnownTemplate ctx k) →
          found = [Rule.report id ctx k.value (wrongTemplateMessage (expectedTemplates ctx))]) := by
  have hmessage {n n' : Node} {message message' : String} (hne : message ≠ message') :
      Rule.report id ctx n message ≠ Rule.report id ctx n' message' := fun h =>
    hne (congrArg Diagnostic.message h)
  rw [judge_defineEntityTypeConstant, judge_defineTemplateTypeConstant]
  refine ⟨⟨judgeEntityType id ctx site, rfl, ?_⟩, ⟨judgeTemplateType id ctx site, rfl, ?_⟩⟩
  · have hwrong : ∀ k, IsFirst (MayGiveType ctx) constants k →
        k.value.stringLiteral? ctx.source ≠ some className → judgeEntityType id ctx site =
          [Rule.report id ctx k.value
            (wrongTypeMessage className (k.value.stringLiteral? ctx.source))] := by
      intro k hfirst hother
      rw [judgeEntityType_of_first id hlayer hname hconstants hfirst, if_neg hother]
    have hright : (∃ k, IsFirst (MayGiveType ctx) constants k ∧
        k.value.stringLiteral? ctx.source = some className) → judgeEntityType id ctx site = [] := by
      rintro ⟨k, hfirst, hequal⟩
      rw [judgeEntityType_of_first id hlayer hname hconstants hfirst, if_pos hequal]
    obtain ⟨hlength, hnil, hnone⟩ := judged_once hright
      (fun ⟨k, hfirst, _⟩ => hfirst.exists_mem)
      (judgeEntityType_of_none id hlayer hname hconstants)
      (fun k hfirst hnot => hwrong k hfirst fun hequal => hnot ⟨k, hfirst, hequal⟩)
      (fun k => hmessage (wrongTypeMessage_ne _ _))
    exact ⟨hlength, hnil, hnone, hwrong⟩
  · have hwrong : ∀ k, IsFirst (NamesTemplate ctx) constants k →
        (∀ k ∈ constants, NamesTemplate ctx k → ¬ KnownTemplate ctx k) →
          judgeTemplateType id ctx site =
            [Rule.report id ctx k.value (wrongTemplateMessage (expectedTemplates ctx))] :=
      fun k => judgeTemplateType_of_unknown id hlayer hname hconstants
    obtain ⟨hlength, hnil, hnone⟩ := judged_once
      (judgeTemplateType_of_known id hlayer hname hconstants)
      (fun ⟨k, hk, hnames, _⟩ => ⟨k, hk, hnames⟩)
      (judgeTemplateType_of_none id hlayer hname hconstants)
      (fun k hfirst hnot => hwrong k hfirst (by simpa using hnot))
      (fun k => hmessage (wrongTemplateMessage_ne _))
    exact ⟨hlength, hnil, hnone, hwrong⟩

/-- Two constants have the name for the type of an entity.  The first one has the right value, but no
    type, and so the second one decides.  Of the two templates the second one is allowed. -/
theorem entity_constants_judged_second :
    let file := SourceFile.parse ⟨"src/backend/Entities/A.php"⟩
      ("<?php class A\x7bconst ENTITY_TYPE='A';const STRING Y='',ENTITY_TYPE='B';" ++
        "const TEMPLATE_TYPE='X',TEMPLATE_TYPE='Base';\x7d")
    let ctx := Context.ofFile file .empty {} { root := .directory [] }
    ∃ site constants, ctx.inLayer .entities = true ∧
      site.node.declaredName? ctx.source = some "A" ∧
      publicElements ctx.source site.node = constants.map Constant.place ∧
      (∃ d k, ((defineEntityTypeConstant.judge "r" ctx site).run ctx.fs).run .empty =
          (.ok [d], .empty) ∧
        d.message = "Entity ENTITY_TYPE must equal the class name 'A', found 'B'." ∧
        IsFirst (MayGiveType ctx) constants k ∧ d.location = ctx.location k.value ∧
        d.location.column = 67) ∧
      ((defineTemplateTypeConstant.judge "r" ctx site).run ctx.fs).run .empty =
        (.ok [], .empty) ∧
      ∃ k ∈ constants, NamesTemplate ctx k ∧ KnownTemplate ctx k := by
  intro file ctx
  have hfacts : (ctx.inLayer .entities && ((ctx.file.root.sites []).find? fun site =>
      site.node.kind == .classDeclaration).any fun site =>
        site.node.declaredName? ctx.source == some "A" &&
        (publicElements ctx.source site.node).all (fun e => e.2.namedChildren.length == 2) &&
        (judgeEntityType "r" ctx site).map (fun d => (d.message, d.location.column)) ==
          [("Entity ENTITY_TYPE must equal the class name 'A', found 'B'.", 67)] &&
        (judgeTemplateType "r" ctx site).isEmpty) = true := by
    decide +kernel
  simp only [Bool.and_eq_true, Option.any_eq_true, List.all_eq_true, beq_iff_eq,
    List.isEmpty_iff] at hfacts
  obtain ⟨hlayer, site, -, ⟨⟨hname, hparts⟩, htype⟩, htemplate⟩ := hfacts
  obtain ⟨constants, hconstants⟩ := exists_constants hparts
  obtain ⟨⟨types, htypes, -, hright, hmissing, hwrong⟩, ⟨templates, htemplates, -, hallowed, -⟩⟩ :=
    entity_constants_judged "r" .empty hlayer hname hconstants
  have hfound : judgeEntityType "r" ctx site = types :=
    Except.ok.inj (congrArg Prod.fst (judge_defineEntityTypeConstant "r" ctx site ▸ htypes))
  have hnothing : judgeTemplateType "r" ctx site = templates :=
    Except.ok.inj (congrArg Prod.fst (judge_defineTemplateTypeConstant "r" ctx site ▸ htemplates))
  rw [hfound] at htype
  rw [hnothing] at htemplate
  obtain ⟨d, rfl, hd⟩ := List.map_eq_singleton_iff.1 htype
  rw [Prod.mk.injEq] at hd
  have hgiven : ∃ k ∈ constants, MayGiveType ctx k := by
    by_contra hnone
    have hreport := List.singleton_inj.1 (hmissing.2 (by simpa using hnone))
    have hmessage : missingTypeMessage =
        "Entity ENTITY_TYPE must equal the class name 'A', found 'B'." :=
      (congrArg Diagnostic.message hreport).symm.trans hd.1
    exact absurd hmessage (by decide +kernel)
  obtain ⟨k, hfirst⟩ := exists_isFirst hgiven
  have hother : k.value.stringLiteral? ctx.source ≠ some "A" := fun hequal =>
    List.cons_ne_nil _ _ (hright.2 ⟨k, hfirst, hequal⟩)
  have hreport := List.singleton_inj.1 (hwrong k hfirst hother)
  refine ⟨site, constants, hlayer, hname, hconstants,
    ⟨d, k, htypes, hd.1, hfirst, by rw [hreport, Rule.report], hd.2⟩, ?_, hallowed.1 htemplate⟩
  rw [← htemplate]
  exact htemplates

end LayerLint.Convention.Entity
