import LayerLint.Proofs.Catalog

/-!
# Rules stay in their layers

A rule checks where a file lies before it looks at anything that can fail or be reported.

* `Ground`, `grounds` — where each rule of the catalog may report: in one layer, or in all of the
  backend;
* `silentOff_of_mem` — off its ground a rule finds nothing and does not fail, whatever the node is;
* `total_of_mem` — the only thing on which a rule can fail is a method without a name;
* `exists_report_of_mem` — so what a visit gives about a file whose methods have names are findings,
  each of a rule on its ground;
* `visit_confined` — said of the identifiers.
-/

set_option autoImplicit false

namespace LayerLint

open Syntax (Node Site)

/-! ## Grounds -/

/-- Where a rule may report: in the files of one layer, or in all files of the backend. -/
inductive Ground where
  | within (layer : Layer)
  | backend
deriving DecidableEq

/-- The file of the context lies on the ground. -/
def Ground.holds (ground : Ground) (ctx : Context) : Bool :=
  match ground with
  | within layer => ctx.inLayer layer
  | backend => ctx.inBackend

/-- The rules of the catalog, each with its ground. -/
def grounds : List (Rule × Ground) :=
  [(Convention.Controller.onlyOverrideParentMethods, .within .controllers),
   (Convention.Entity.defineEntityTypeConstant, .within .entities),
   (Convention.Entity.defineTemplateTypeConstant, .within .entities),
   (Convention.Entity.noEntityManagerInEntity, .within .entities),
   (Convention.HookOrder.requireOrderProperty, .within .hooks),
   (Convention.ReactiveSave.noSameEntitySave, .within .hooks),
   (Convention.PartialLoad.saveRestrictedEntityFields, .backend),
   (Convention.Service.callParentConstructor, .within .services),
   (Convention.Service.dependencyVisibilityOrFinal, .within .services),
   (Convention.Service.serviceMustExtendRecord, .within .services)]

theorem map_fst_grounds : grounds.map Prod.fst = defaultRules := rfl

theorem exists_ground {rule : Rule} (h : rule ∈ defaultRules) :
    ∃ ground, (rule, ground) ∈ grounds := by
  rw [← map_fst_grounds] at h
  obtain ⟨⟨_, ground⟩, hmem, rfl⟩ := List.mem_map.1 h
  exact ⟨ground, hmem⟩

/-- Every ground lies in the backend. -/
theorem Ground.inBackend_of_holds {ground : Ground} {ctx : Context} (h : ground.holds ctx = true) :
    ctx.inBackend = true := by
  cases ground with
  | backend => exact h
  | within layer =>
    have hlayer : ctx.layer? = some layer := beq_iff_eq.1 h
    rw [Context.inBackend, hlayer]
    rfl

/-! ## Silence off the ground -/

/-- Off the ground the rule finds nothing and does not fail. -/
def Rule.SilentOff (rule : Rule) (ground : Ground) : Prop :=
  ∀ id ctx site fields, ground.holds ctx = false →
    (rule.judge id ctx site).answer fields = .ok []

theorem Rule.silentOff_declare {place name : String} {subject : Subject} {description : String}
    {judge : String → Context → Site → Judgement} {ground : Ground}
    (h : ∀ id ctx site fields, ground.holds ctx = false →
      (judge id ctx site).answer fields = .ok []) :
    (Rule.declare place name subject description judge).SilentOff ground := h

/-- **Every rule checks its ground first.** -/
theorem silentOff_of_mem : ∀ e ∈ grounds, e.1.SilentOff e.2 := by
  simp only [grounds, List.forall_mem_cons]
  refine ⟨?_, ?_, ?_, ?_, ?_, ?_, ?_, ?_, ?_, ?_, List.forall_mem_nil _⟩ <;>
    refine Rule.silentOff_declare fun id ctx site fields h => ?_ <;>
    simp only [Ground.holds] at h
  · simp [Convention.Controller.judge, h, Rule.verdict]
  · simp [Convention.Entity.judgeEntityType, h, Rule.verdict]
  · simp [Convention.Entity.judgeTemplateType, h, Rule.verdict]
  · simp [Convention.Entity.judgeEntityManager, h, Rule.verdict]
  · simp [Convention.HookOrder.judge, h, Rule.verdict]
  · simp [Convention.ReactiveSave.judge, h, Rule.verdict]
  · simp [Convention.PartialLoad.judge, h]
  · simp [Convention.Service.judgeConstructor, h, Rule.verdict]
  · simp [Convention.Service.judgeDependencies, h, Rule.verdict]
  · simp [Convention.Service.judgeRecord, h, Rule.verdict]

/-! ## Failures -/

/-- Every method of the file has a name. -/
def SourceFile.MethodsNamed (file : SourceFile) : Prop :=
  ∀ n ∈ file.root.preorder, n.kind = .methodDeclaration → (n.child? .name).isSome = true

instance (file : SourceFile) : Decidable file.MethodsNamed :=
  inferInstanceAs (Decidable (∀ n ∈ file.root.preorder, _))

/-- The rule judges every node, unless it looks at methods and the node has no name. -/
def Rule.Total (rule : Rule) : Prop :=
  ∀ id ctx site fields, (rule.subject = .methodDecl → (site.node.child? .name).isSome = true) →
    ∃ found, (rule.judge id ctx site).answer fields = .ok found

theorem Rule.total_declare {place name : String} {subject : Subject} {description : String}
    {judge : String → Context → Site → Judgement}
    (h : ∀ id ctx site fields, (subject = .methodDecl → (site.node.child? .name).isSome = true) →
      ∃ found, (judge id ctx site).answer fields = .ok found) :
    (Rule.declare place name subject description judge).Total := h

theorem Rule.exists_verdict {result : Except Fault (List Diagnostic)}
    (h : ∃ found, result = .ok found) (fields : Path → List String) :
    ∃ found, (Rule.verdict result).answer fields = .ok found := h

theorem Rule.exists_part {n : Node} (h : (n.child? .name).isSome = true) :
    ∃ name, Rule.part .methodDecl n .name = .ok name := by
  obtain ⟨name, hname⟩ := Option.isSome_iff_exists.1 h
  exact ⟨name, by rw [Rule.part, hname]⟩

namespace Convention

variable (id : String) (ctx : Context) {site : Site} (h : (site.node.child? .name).isSome = true)
include h

theorem Controller.exists_found : ∃ found, Controller.judge id ctx site = .ok found := by
  obtain ⟨name, hname⟩ := Rule.exists_part h
  unfold Controller.judge
  rw [hname]
  split
  · exact ⟨_, rfl⟩
  split
  · exact ⟨_, rfl⟩
  · simp only [bind, Except.bind]
    split <;> exact ⟨_, rfl⟩

theorem ReactiveSave.exists_found : ∃ found, ReactiveSave.judge id ctx site = .ok found := by
  obtain ⟨name, hname⟩ := Rule.exists_part h
  unfold ReactiveSave.judge
  rw [hname]
  split
  · exact ⟨_, rfl⟩
  simp only [bind, Except.bind]
  split
  · exact ⟨_, rfl⟩
  · split <;> exact ⟨_, rfl⟩

theorem Service.exists_found : ∃ found, Service.judgeConstructor id ctx site = .ok found := by
  obtain ⟨name, hname⟩ := Rule.exists_part h
  unfold Service.judgeConstructor
  rw [hname]
  split
  · exact ⟨_, rfl⟩
  simp only [bind, Except.bind]
  split
  · exact ⟨_, rfl⟩
  split
  · exact ⟨_, rfl⟩
  · split <;> exact ⟨_, rfl⟩

end Convention

theorem Convention.PartialLoad.exists_found (id : String) (ctx : Context) (site : Site)
    (fields : Path → List String) :
    ∃ found, (PartialLoad.judge id ctx site).answer fields = .ok found := by
  unfold PartialLoad.judge
  split
  · exact ⟨_, rfl⟩
  · rw [HookInquiry.answer_bind]
    exact ⟨_, rfl⟩

/-- **No rule fails on anything but a method without a name.** -/
theorem total_of_mem : ∀ rule ∈ defaultRules, rule.Total := by
  simp only [defaultRules, List.forall_mem_cons]
  refine ⟨?_, ?_, ?_, ?_, ?_, ?_, ?_, ?_, ?_, ?_, List.forall_mem_nil _⟩ <;>
    refine Rule.total_declare fun id ctx site fields hnamed => ?_
  · exact Rule.exists_verdict (Convention.Controller.exists_found id ctx (hnamed rfl)) fields
  · exact Rule.exists_verdict ⟨_, rfl⟩ fields
  · exact Rule.exists_verdict ⟨_, rfl⟩ fields
  · exact Rule.exists_verdict ⟨_, rfl⟩ fields
  · exact Rule.exists_verdict ⟨_, rfl⟩ fields
  · exact Rule.exists_verdict (Convention.ReactiveSave.exists_found id ctx (hnamed rfl)) fields
  · exact Convention.PartialLoad.exists_found id ctx site fields
  · exact Rule.exists_verdict (Convention.Service.exists_found id ctx (hnamed rfl)) fields
  · exact Rule.exists_verdict ⟨_, rfl⟩ fields
  · exact Rule.exists_verdict ⟨_, rfl⟩ fields

/-! ## Visits -/

namespace Engine

/-- Whatever a visit gives was said by one of the rules about one of the nodes. -/
theorem exists_of_mem_contributions {fields : Path → List String} {rules : List Rule}
    {ctx : Context} {d : Diagnostic} (hd : d ∈ contributions fields rules ctx) :
    ∃ rule ∈ rules, ∃ site, site.node ∈ ctx.file.root.preorder ∧
      rule.looksAt site.node = true ∧ d ∈ contribution fields rule ctx site := by
  obtain ⟨site, hsite, hd⟩ := List.mem_flatMap.1 hd
  obtain ⟨rule, hrule, hd⟩ := List.mem_flatMap.1 hd
  obtain ⟨hmem, hlooks⟩ := List.mem_filter.1 hrule
  have hnode : site.node ∈ ctx.file.root.preorder := by
    rw [← Syntax.Node.map_node_sites [] ctx.file.root]
    exact List.mem_map_of_mem hsite
  exact ⟨rule, hmem, site, hnode, hlooks, hd⟩

theorem contribution_of_silentOff {rule : Rule} {ground : Ground} (h : rule.SilentOff ground)
    {ctx : Context} (hoff : ground.holds ctx = false) (fields : Path → List String) (site : Site) :
    contribution fields rule ctx site = [] := by
  rw [contribution, h rule.id ctx site fields hoff]

/-- Where methods have names, a rule contributes what it finds. -/
theorem contribution_findings {rule : Rule} (hmem : rule ∈ defaultRules) {ctx : Context}
    (hnamed : ctx.file.MethodsNamed) {site : Site} (hnode : site.node ∈ ctx.file.root.preorder)
    (hlooks : rule.looksAt site.node = true) (fields : Path → List String) :
    Findings rule.id ctx (contribution fields rule ctx site) := by
  have hname : rule.subject = .methodDecl → (site.node.child? .name).isSome = true := by
    intro hsubject
    rw [Rule.looksAt_of_methodDecl hsubject, beq_iff_eq] at hlooks
    exact hnamed site.node hnode hlooks
  obtain ⟨found, hfound⟩ := total_of_mem rule hmem rule.id ctx site fields hname
  have hcontribution : contribution fields rule ctx site = found := by rw [contribution, hfound]
  rw [hcontribution]
  exact signs_of_mem rule hmem rule.id ctx site fields found hfound

/-- **Everything that a visit gives is a finding of a rule on its ground.** -/
theorem exists_report_of_mem {fields : Path → List String} {rules : List Rule} {ctx : Context}
    (hrules : ∀ rule ∈ rules, rule ∈ defaultRules) (hnamed : ctx.file.MethodsNamed)
    {d : Diagnostic} (hd : d ∈ contributions fields rules ctx) :
    ∃ rule ground, rule ∈ rules ∧ (rule, ground) ∈ grounds ∧ ground.holds ctx = true ∧
      ∃ n message, d = Rule.report rule.id ctx n message := by
  obtain ⟨rule, hrule, site, hnode, hlooks, hd⟩ := exists_of_mem_contributions hd
  obtain ⟨ground, hground⟩ := exists_ground (hrules rule hrule)
  refine ⟨rule, ground, hrule, hground, Bool.of_not_eq_false fun hoff => ?_, ?_⟩
  · rw [contribution_of_silentOff (silentOff_of_mem _ hground) hoff] at hd
    exact List.not_mem_nil hd
  · exact contribution_findings (hrules rule hrule) hnamed hnode hlooks fields d hd

/-- Nothing is said about a file outside the backend, not even about failures. -/
theorem contributions_of_outside {rules : List Rule} {ctx : Context}
    (hrules : ∀ rule ∈ rules, rule ∈ defaultRules) (hout : ctx.layer? = none)
    (fields : Path → List String) : contributions fields rules ctx = [] := by
  refine List.eq_nil_iff_forall_not_mem.2 fun d hd => ?_
  obtain ⟨rule, hrule, site, -, -, hd⟩ := exists_of_mem_contributions hd
  obtain ⟨ground, hground⟩ := exists_ground (hrules rule hrule)
  have hoff : ground.holds ctx = false := by
    refine Bool.eq_false_iff.2 fun hon => ?_
    have hback := Ground.inBackend_of_holds hon
    simp [Context.inBackend, hout] at hback
  rw [contribution_of_silentOff (silentOff_of_mem _ hground) hoff] at hd
  exact List.not_mem_nil hd

/-- The group in the identifier of a rule names its ground; among the rules for hooks, all but one
    keep to the layer. -/
theorem ground_of_id : ∀ e ∈ grounds,
    (Text.startsWith "espocrm.controllers." e.1.id = true → e.2 = .within .controllers) ∧
    (Text.startsWith "espocrm.entities." e.1.id = true → e.2 = .within .entities) ∧
    (Text.startsWith "espocrm.services." e.1.id = true → e.2 = .within .services) ∧
    (e.1.id = "espocrm.hooks.requireOrderPropertyRule" ∨
      e.1.id = "espocrm.hooks.noSameEntitySaveRule" → e.2 = .within .hooks) := by
  decide +kernel

/-- **Layer confinement.**  In whatever state a visit finds the memory, and whatever rules the
    configuration leaves on: if the methods of the file have names, all diagnostics are findings,
    about this file, under the identifier of a rule that is on; rules for controllers, entities and
    services report in their layers only, so do the rules for hooks, except that on partial saves,
    which reports in the backend only.  About a file outside the backend there are no diagnostics at
    all. -/
theorem visit_confined (config : Config) (ctx : Context) (memo : HookMemo) :
    let found := (((Engine.ofConfig config).visit ctx).run memo).1
    let layer? := Layer.classify? ctx.file.displayPath ctx.config.backendRoot
    (ctx.file.MethodsNamed → ∀ d ∈ found,
      d.kind = .violation ∧
      d.location.file = ctx.file.displayPath ∧
      (∃ rule ∈ defaultRules, config.rules.isEnabled rule.id = true ∧ d.ruleId = rule.id) ∧
      (Text.startsWith "espocrm.controllers." d.ruleId = true → layer? = some .controllers) ∧
      (Text.startsWith "espocrm.entities." d.ruleId = true → layer? = some .entities) ∧
      (Text.startsWith "espocrm.services." d.ruleId = true → layer? = some .services) ∧
      (d.ruleId = "espocrm.hooks.requireOrderPropertyRule" ∨
        d.ruleId = "espocrm.hooks.noSameEntitySaveRule" → layer? = some .hooks) ∧
      (d.ruleId = "espocrm.hooks.saveRestrictedEntityFieldsRule" → layer? ≠ none)) ∧
    (layer? = none → found = []) := by
  intro found layer?
  have hrules : ∀ rule ∈ defaultRules.filter (fun rule => config.rules.isEnabled rule.id),
      rule ∈ defaultRules := fun rule hrule => (List.mem_filter.1 hrule).1
  have hfound : found = contributions (memo.reply ctx.fs)
      (defaultRules.filter fun rule => config.rules.isEnabled rule.id) ctx := run_visit _ ctx memo
  refine ⟨fun hnamed d hd => ?_, fun hout => hfound.trans (contributions_of_outside hrules hout _)⟩
  rw [hfound] at hd
  obtain ⟨rule, ground, hrule, hground, hon, n, message, rfl⟩ :=
    exists_report_of_mem hrules hnamed hd
  obtain ⟨hmem, henabled⟩ := List.mem_filter.1 hrule
  obtain ⟨hcontrollers, hentities, hservices, hhooks⟩ := ground_of_id _ hground
  have hlayer : ∀ layer, ground = .within layer → layer? = some layer := by
    rintro layer rfl
    exact beq_iff_eq.1 hon
  refine ⟨rfl, rfl, ⟨rule, hmem, henabled, rfl⟩, fun hid => hlayer _ (hcontrollers hid),
    fun hid => hlayer _ (hentities hid), fun hid => hlayer _ (hservices hid),
    fun hid => hlayer _ (hhooks hid), fun _ hnone => ?_⟩
  have hback : layer?.isSome = true := Ground.inBackend_of_holds hon
  rw [hnone] at hback
  cases hback

/-- A hook that saves its own entity and has no order, first in the layer of hooks and then beside
    the backend. -/
theorem visit_confined_hook :
    let text := "<?php class H\x7bfunction beforeSave($e)\x7b$m->save($e);\x7d\x7d"
    let visited (path : String) : List Diagnostic :=
      (((Engine.ofConfig {}).visit (Context.ofFile (SourceFile.parse ⟨path⟩ text) .empty {}
        { root := .directory [] })).run .empty).1
    (SourceFile.parse ⟨"m\\src/backend/Hooks/E/H.php"⟩ text).MethodsNamed ∧
      (visited "m\\src/backend/Hooks/E/H.php").map Diagnostic.ruleId =
        ["espocrm.hooks.requireOrderPropertyRule", "espocrm.hooks.noSameEntitySaveRule"] ∧
      (∀ d ∈ visited "m\\src/backend/Hooks/E/H.php",
        d.kind = .violation ∧ d.location.file = "m/src/backend/Hooks/E/H.php") ∧
      visited "m/src/Hooks/E/H.php" = [] := by
  intro text visited
  have hnamed : (SourceFile.parse ⟨"m\\src/backend/Hooks/E/H.php"⟩ text).MethodsNamed := by
    decide +kernel
  refine ⟨hnamed, by decide +kernel, fun d hd => ?_, ?_⟩
  · obtain ⟨hkind, hfile, -⟩ := (visit_confined {} _ _).1 hnamed d hd
    exact ⟨hkind, hfile.trans (by decide +kernel)⟩
  · exact (visit_confined {} _ _).2 (by decide +kernel)

end Engine

end LayerLint
