import LayerLint.Proofs.Analysis
import LayerLint.Proofs.Catalog

/-!
# New methods in controllers

The rule for controllers joins the search for the enclosing class, the name after `extends`, the
names that hold in the file, and the index of all classes.

* `IsNew` — a method that its class adds to all that it inherits, said without the rule;
* `reports_of_isNew`, `reports_of_not_isNew` — the rule reports exactly these, once each;
* `analyzeFiles_controller` — and so does an analysis, for every file in the layer of controllers;
* `relative_names_unfollowed` — a parent or a trait that is written relative to the namespace does
  not count as one.
-/

set_option autoImplicit false

namespace LayerLint.Convention.Controller

open Syntax (Node Site)

/-! ## New methods -/

/-- A declaration with members of its own. -/
def isClassLike (n : Node) : Bool :=
  n.kind == .classDeclaration || Node.hidesClass n.kind

/-- A method directly in a class that extends `parent`, where neither `parent` nor anything that it
    inherits from declares a method of that name, and all of it is known. -/
structure IsNew (classes : ClassIndex) (file : SourceFile) (site : Site) (method parent : String) :
    Prop where
  isMethod : site.node.kind = .methodDeclaration
  named : site.node.declaredName? file.source = some method
  inClass : ∃ owner, site.ancestors.find? isClassLike = some owner ∧
    owner.kind = .classDeclaration ∧
      (owner.baseClass? file.source).map file.names.resolve = some parent
  undeclared : ∀ name, classes.Consulted parent name →
    classes.Lacks (Text.foldAscii method) name

/-- The class around a node is the nearest declaration with members, if that is a named class. -/
theorem classAmong_eq (ancestors : List Node) :
    Node.classAmong ancestors =
      (ancestors.find? isClassLike).filter fun n => n.kind == .classDeclaration := by
  induction ancestors with
  | nil => rfl
  | cons n outer ih =>
    rw [Node.classAmong]
    split
    · rename_i hclass
      have hlike : isClassLike n = true := by simp [isClassLike, hclass]
      rw [List.find?_cons_of_pos hlike, Option.filter_some, if_pos hclass]
    · rename_i hclass
      split
      · rename_i hhides
        have hlike : isClassLike n = true := by simp [isClassLike, hhides]
        rw [List.find?_cons_of_pos hlike, Option.filter_some, if_neg hclass]
      · rename_i hhides
        have hlike : ¬ isClassLike n = true := by simp [isClassLike, hclass, hhides]
        rw [List.find?_cons_of_neg hlike, ih]

theorem enclosingClass?_eq_some_iff {site : Site} {owner : Node} :
    site.enclosingClass? = some owner ↔
      site.ancestors.find? isClassLike = some owner ∧ owner.kind = .classDeclaration := by
  rw [Site.enclosingClass?, classAmong_eq, Option.filter_eq_some_iff, beq_iff_eq]

theorem looksAt_iff (n : Node) :
    onlyOverrideParentMethods.looksAt n = true ↔ n.kind = .methodDeclaration := by
  have hsubject : onlyOverrideParentMethods.subject = .methodDecl := rfl
  rw [Rule.looksAt_of_methodDecl hsubject, beq_iff_eq]

/-! ## What the rule reports -/

section

variable {ctx : Context} {site : Site}

/-- The rule looks at the class around the method, at the name after `extends`, at the name of the
    method and at the index, in this order. -/
theorem judge_eq (id : String) (hlayer : ctx.inLayer .controllers = true) :
    judge id ctx site =
      match (site.enclosingClass?.bind fun c => c.baseClass? ctx.source).map
        ctx.file.names.resolve with
      | none => .ok []
      | some parent =>
        match site.node.declaredName? ctx.source with
        | none => .error (.missing .methodDecl .name)
        | some method =>
          .ok (if ctx.classes.ancestorDeclares parent method = some false then
            [Rule.report id ctx site.node (message method parent)] else []) := by
  unfold judge
  rw [hlayer]
  cases site.enclosingClass?.bind fun c => c.baseClass? ctx.source with
  | none => rfl
  | some written =>
    simp only [Option.map_some, Rule.part, Node.declaredName?, Bool.not_true, Bool.false_eq_true,
      if_false]
    cases site.node.child? .name with
    | none => rfl
    | some name =>
      simp only [bind, Except.bind, Option.map_some, beq_iff_eq, Context.text]
      by_cases hfalse : ctx.classes.ancestorDeclares (ctx.file.names.resolve written)
          (name.text ctx.source) = some false
      · rw [if_pos hfalse, if_pos hfalse]
        rfl
      · rw [if_neg hfalse, if_neg hfalse]
        rfl

theorem reports_eq (fields : Path → List String) :
    Engine.reports fields onlyOverrideParentMethods ctx site =
      if site.node.kind = .methodDeclaration then
        (judge onlyOverrideParentMethods.id ctx site).toOption.getD []
      else [] := by
  have hjudge : ∀ id, (onlyOverrideParentMethods.judge id ctx site).answer fields =
      judge id ctx site := by
    intro id
    unfold onlyOverrideParentMethods Rule.declare
    dsimp only
    exact HookInquiry.answer_pure fields _
  unfold Engine.reports
  rw [hjudge]
  by_cases hmethod : site.node.kind = .methodDeclaration
  · rw [if_pos hmethod, if_pos ((looksAt_iff _).2 hmethod)]
  · rw [if_neg hmethod, if_neg fun hlooks => hmethod ((looksAt_iff _).1 hlooks)]

/-- **A new method is reported once**, at its node. -/
theorem reports_of_isNew (fields : Path → List String) (hlayer : ctx.inLayer .controllers = true)
    {method parent : String} (h : IsNew ctx.classes ctx.file site method parent) :
    Engine.reports fields onlyOverrideParentMethods ctx site =
      [Rule.report onlyOverrideParentMethods.id ctx site.node (message method parent)] := by
  obtain ⟨owner, hfind, hkind, hparent⟩ := h.inClass
  have hbase : (site.enclosingClass?.bind fun c => c.baseClass? ctx.source).map
      ctx.file.names.resolve = some parent := by
    rw [enclosingClass?_eq_some_iff.2 ⟨hfind, hkind⟩]
    exact hparent
  have hnamed : site.node.declaredName? ctx.source = some method := h.named
  have hundeclared : ctx.classes.ancestorDeclares parent method = some false :=
    (ClassIndex.ancestorDeclares_answers _ _ _).eq_some_false_iff.2 h.undeclared
  rw [reports_eq, if_pos h.isMethod, judge_eq _ hlayer, hbase, hnamed]
  simp only [hundeclared, if_true, Except.toOption, Option.getD_some]

/-- **Nothing else is reported.** -/
theorem reports_of_not_isNew (fields : Path → List String)
    (hlayer : ctx.inLayer .controllers = true)
    (h : ∀ method parent, ¬ IsNew ctx.classes ctx.file site method parent) :
    Engine.reports fields onlyOverrideParentMethods ctx site = [] := by
  rw [reports_eq]
  split
  · rename_i hmethod
    rw [judge_eq _ hlayer]
    cases hbase : (site.enclosingClass?.bind fun c => c.baseClass? ctx.source).map
        ctx.file.names.resolve with
    | none => rfl
    | some parent =>
      cases hnamed : site.node.declaredName? ctx.source with
      | none => rfl
      | some method =>
        -- with a parent and a name, only the search can have kept the method from being new
        have hdeclared : ¬ ctx.classes.ancestorDeclares parent method = some false := by
          intro hfalse
          rw [Option.map_bind] at hbase
          obtain ⟨owner, howner, hparent⟩ := Option.bind_eq_some_iff.1 hbase
          obtain ⟨hfind, hkind⟩ := enclosingClass?_eq_some_iff.1 howner
          exact h method parent ⟨hmethod, hnamed, ⟨owner, hfind, hkind, hparent⟩,
            (ClassIndex.ancestorDeclares_answers _ _ _).eq_some_false_iff.1 hfalse⟩
        simp only [hdeclared, if_false, Except.toOption, Option.getD_some]
  · rfl

end

theorem id_eq :
    onlyOverrideParentMethods.id = "espocrm.controllers.onlyOverrideParentMethodsRule" := by
  decide +kernel

/-! ## In an analysis -/

/-- **New methods of controllers.**  Where a configuration leaves the rule on, the report has the
    files of the layer of controllers that can be read.  Under the identifier of the rule it holds
    about such a file, for each node in pre-order, one finding at the node if that is a new method,
    and nothing else; new with respect to the classes of the configuration, of the class sources and
    of all sources, which are those of its entries and those whose nodes are in the trees. -/
theorem analyzeFiles_controller {fs : FileSystem} {config : Config}
    {sources classSources : List Path} {path : Path} {file : SourceFile}
    (henabled :
      config.rules.isEnabled "espocrm.controllers.onlyOverrideParentMethodsRule" = true)
    (hpath : path ∈ sources) (hread : SourceFile.read fs path = .ok file)
    (hlayer : Layer.classify? file.displayPath config.backendRoot = some .controllers) :
    let classes := ClassIndex.empty.insertAll
      (ClassIndex.knownClasses config ++
        (Analysis.textFiles fs classSources).flatMap ClassIndex.declarations ++
        (Analysis.textFiles fs sources).flatMap ClassIndex.declarations)
    (∃ report ∈ (analyzeFiles fs config sources classSources).files, report.path = path) ∧
    config.Declares (ClassIndex.knownClasses config) ∧
    (∀ f ∈ Analysis.textFiles fs classSources ++ Analysis.textFiles fs sources,
      f.Declares (ClassIndex.declarations f)) ∧
    (file.root.sites []).map Site.node = file.root.preorder ∧
    ∀ report ∈ (analyzeFiles fs config sources classSources).files, report.path = path →
      ∃ verdict : Site → List Diagnostic,
        (report.diagnostics.filter fun d =>
          d.ruleId == "espocrm.controllers.onlyOverrideParentMethodsRule") =
            (file.root.sites []).flatMap verdict ∧
        (∀ site method parent, IsNew classes file site method parent →
          verdict site =
            [{ ruleId := "espocrm.controllers.onlyOverrideParentMethodsRule"
               message := message method parent
               location :=
                { file := file.displayPath
                  line := (file.source.position site.node.start).line
                  column := (file.source.position site.node.start).column }
               kind := .violation }]) ∧
        ∀ site, (∀ method parent, ¬ IsNew classes file site method parent) → verdict site = [] := by
  intro classes
  have hclasses : Analysis.knownClasses config (Analysis.textFiles fs classSources)
      (Analysis.textFiles fs sources) = classes := Analysis.knownClasses_eq config _ _
  refine ⟨Analysis.exists_report hpath hread, config.declares_knownClasses,
    fun f _ => f.declares_declarations, Syntax.Node.map_node_sites [] file.root, ?_⟩
  intro report hreport hsame
  have hmem : onlyOverrideParentMethods ∈ defaultRules := List.mem_cons_self
  have hon : config.rules.isEnabled onlyOverrideParentMethods.id = true := by
    rw [id_eq]
    exact henabled
  have hin : (Context.ofFile file classes config fs).inLayer .controllers = true :=
    beq_iff_eq.2 hlayer
  refine ⟨Engine.reports (HookReads.collect fs) onlyOverrideParentMethods
    (Context.ofFile file classes config fs), ?_, fun site method parent hnew => ?_,
    fun site hnone => reports_of_not_isNew _ hin hnone⟩
  · rw [Analysis.diagnostics_of_read hread hreport hsame, hclasses, ← id_eq]
    exact Engine.filter_contributions _ _ hmem hon
  · rw [reports_of_isNew _ hin hnew, Rule.report, id_eq]
    rfl

/-- A project with one controller. -/
def soleController (text : String) : FileSystem where
  root := .directory [("src", .directory [("backend", .directory
    [("Controllers", .directory [("A.php", .file (.text text))])])])]

/-- The path of that controller. -/
def solePath : Path := ⟨"src/backend/Controllers/A.php"⟩

/-- One method overrides that of a known class, in other letters, and one is new. -/
theorem analyzeFiles_controller_override :
    let text :=
      "<?php namespace N; class A extends B \x7b function f() \x7b\x7d function G() \x7b\x7d \x7d"
    let fs := soleController text
    let config : Config := { knownClasses := [{ name := "N\\B", methods := ["g"] }] }
    (∃ report ∈ (analyzeFiles fs config [solePath] []).files, report.path = solePath) ∧
      (analyzeFiles fs config [solePath] []).diagnostics.map Diagnostic.message =
        [message "f" "N\\B"] := by
  intro text fs config
  have hread : SourceFile.read fs solePath = .ok (SourceFile.parse solePath text) := by
    have htext : fs.readText solePath = .ok text := by decide +kernel
    rw [SourceFile.read, htext, Except.map]
  refine ⟨(analyzeFiles_controller ?_ List.mem_cons_self hread ?_).1, ?_⟩
  · decide +kernel
  · decide +kernel
  · decide +kernel

/-- Names that are written relative to the namespace are not followed.  The parent of the first class
    is known, whichever way its name is read, and declares nothing; yet the method is not reported.
    The parent of the second class uses a trait that declares the method; yet it is reported. -/
theorem relative_names_unfollowed :
    let text := "<?php namespace N;class A extends namespace\\B\x7bfunction f()\x7b\x7d\x7d"
      ++ "class D extends E\x7bfunction g()\x7b\x7d\x7dclass E\x7buse namespace\\T;\x7d"
    let config : Config :=
      { knownClasses :=
        [{ name := "N\\B" }, { name := "N\\namespace\\B" },
         { name := "N\\T", methods := ["g"] }, { name := "N\\namespace\\T", methods := ["g"] }] }
    let file := SourceFile.parse solePath text
    let methods := (file.root.sites []).filter fun site => site.node.kind == .methodDeclaration
    file.hasErrors = false ∧
      config.rules.isEnabled "espocrm.controllers.onlyOverrideParentMethodsRule" = true ∧
      Layer.classify? file.displayPath config.backendRoot = some .controllers ∧
      (methods.map fun site =>
        (site.node.declaredName? file.source, (site.ancestors.find? isClassLike).map fun owner =>
          ((owner.namedChildren.filter fun n => n.kind == .baseClause).flatMap
            Node.namedChildren).map fun n => n.text file.source)) =
        [(some "f", some ["namespace\\B"]), (some "g", some ["E"])] ∧
      ClassIndex.declarations file =
        [("N\\A", { methods := ["f"] }), ("N\\D", { parent := some "N\\E", methods := ["g"] }),
         ("N\\E", {})] ∧
      (analyzeFiles (soleController text) config [solePath] []).diagnostics.map Diagnostic.message =
        [message "g" "N\\E"] := by
  decide +kernel

end LayerLint.Convention.Controller
