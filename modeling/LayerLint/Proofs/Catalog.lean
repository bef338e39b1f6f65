import LayerLint.Convention.Catalog
import LayerLint.Proofs.Engine
import Mathlib.Data.List.Nodup
import Mathlib.Data.List.Perm.Subperm

/-!
# Who reports under which identifier

Diagnostics do not carry the rule that they come from, only an identifier.  That is enough:

* `signs_of_mem` — every rule of the catalog reports under its own identifier only, and about the
  file that it judges;
* `nodup_ids`, `faultId_not_mem_ids` — no two rules share an identifier, and none has that of
  failures;
* `filter_contributions`, `filter_contributions_of_subperm` — so what a visit reports under the
  identifier of a rule is what that rule reports, node by node.
-/

set_option autoImplicit false

namespace LayerLint

open Syntax (Node Site)

/-! ## Findings

What a rule says about a file without failing is made of findings: reports under the identifier that
it is given, about nodes of the file.
-/

/-- All diagnostics are findings under the identifier about the file of the context. -/
def Findings (id : String) (ctx : Context) (found : List Diagnostic) : Prop :=
  ∀ d ∈ found, ∃ n message, d = Rule.report id ctx n message

@[simp] theorem findings_nil (id : String) (ctx : Context) : Findings id ctx [] := nofun

@[simp] theorem findings_report (id : String) (ctx : Context) (n : Node) (message : String) :
    Findings id ctx [Rule.report id ctx n message] := by
  intro d hd
  exact ⟨n, message, List.mem_singleton.1 hd⟩

theorem Findings.append {id : String} {ctx : Context} {first more : List Diagnostic}
    (h : Findings id ctx first) (hmore : Findings id ctx more) : Findings id ctx (first ++ more) := by
  intro d hd
  exact (List.mem_append.1 hd).elim (h d) (hmore d)

/-- A judgement that, unless it fails, consists of findings. -/
def FindingsUnlessFault (id : String) (ctx : Context) (result : Except Fault (List Diagnostic)) :
    Prop :=
  ∀ found, result = .ok found → Findings id ctx found

section

variable {id : String} {ctx : Context}

theorem FindingsUnlessFault.ok {found : List Diagnostic} (h : Findings id ctx found) :
    FindingsUnlessFault id ctx (.ok found) := by
  intro other heq
  cases heq
  exact h

theorem FindingsUnlessFault.bind {α : Type} {part : Except Fault α}
    {next : α → Except Fault (List Diagnostic)} (h : ∀ a, FindingsUnlessFault id ctx (next a)) :
    FindingsUnlessFault id ctx (part >>= next) := by
  cases part with
  | error fault => exact nofun
  | ok a => exact h a

theorem FindingsUnlessFault.verdict {result : Except Fault (List Diagnostic)}
    (h : FindingsUnlessFault id ctx result) (fields : Path → List String) :
    FindingsUnlessFault id ctx ((Rule.verdict result).answer fields) := h

theorem Findings.verdict {found : List Diagnostic} (h : Findings id ctx found)
    (fields : Path → List String) :
    FindingsUnlessFault id ctx ((Rule.verdict (.ok found)).answer fields) :=
  (FindingsUnlessFault.ok h).verdict fields

end

/-- Whatever hooks read, the rule gives findings under the identifier that it is given. -/
def Rule.Signs (rule : Rule) : Prop :=
  ∀ id ctx site fields, FindingsUnlessFault id ctx ((rule.judge id ctx site).answer fields)

theorem Rule.Signs.ruleId_eq {rule : Rule} (h : rule.Signs) {ctx : Context} {site : Site}
    {fields : Path → List String} {found : List Diagnostic}
    (hfound : (rule.judge rule.id ctx site).answer fields = .ok found) {d : Diagnostic}
    (hd : d ∈ found) : d.ruleId = rule.id := by
  obtain ⟨n, message, rfl⟩ := h rule.id ctx site fields found hfound d hd
  rfl

theorem Rule.signs_declare {place name : String} {subject : Subject} {description : String}
    {judge : String → Context → Site → Judgement}
    (h : ∀ id ctx site fields, FindingsUnlessFault id ctx ((judge id ctx site).answer fields)) :
    (Rule.declare place name subject description judge).Signs := h

namespace Convention

variable (id : String) (ctx : Context) (site : Site)

theorem Controller.findings : FindingsUnlessFault id ctx (Controller.judge id ctx site) := by
  unfold Controller.judge
  split
  · exact .ok (findings_nil id ctx)
  split
  · exact .ok (findings_nil id ctx)
  · refine .bind fun name => ?_
    dsimp only
    split <;> exact .ok (by simp)

theorem ReactiveSave.findings : FindingsUnlessFault id ctx (ReactiveSave.judge id ctx site) := by
  unfold ReactiveSave.judge
  split
  · exact .ok (findings_nil id ctx)
  refine .bind fun name => ?_
  dsimp only
  split
  · exact .ok (findings_nil id ctx)
  · split <;> exact .ok (by simp)

theorem Service.findings_constructor :
    FindingsUnlessFault id ctx (Service.judgeConstructor id ctx site) := by
  unfold Service.judgeConstructor
  split
  · exact .ok (findings_nil id ctx)
  refine .bind fun name => ?_
  dsimp only
  split
  · exact .ok (findings_nil id ctx)
  split
  · exact .ok (findings_nil id ctx)
  · split <;> exact .ok (by simp)

theorem Service.findings_dependencies : Findings id ctx (Service.judgeDependencies id ctx site) := by
  unfold Service.judgeDependencies
  split
  · simp
  split
  · split <;> simp
  · simp

theorem Service.findings_record : Findings id ctx (Service.judgeRecord id ctx site) := by
  unfold Service.judgeRecord
  split
  · simp
  · simp only
    split <;> simp

theorem HookOrder.findings : Findings id ctx (HookOrder.judge id ctx site) := by
  unfold HookOrder.judge
  split
  · simp
  · split <;> simp

theorem Entity.findings_entityType : Findings id ctx (Entity.judgeEntityType id ctx site) := by
  unfold Entity.judgeEntityType
  split
  · simp
  split
  · simp
  split
  · simp
  · simp only
    split <;> simp

theorem Entity.findings_templateType : Findings id ctx (Entity.judgeTemplateType id ctx site) := by
  unfold Entity.judgeTemplateType
  split
  · simp
  split
  · simp
  · simp only
    split <;> simp

theorem Entity.findings_entityManager : Findings id ctx (Entity.judgeEntityManager id ctx site) := by
  unfold Entity.judgeEntityManager
  split
  · simp
  · split <;> simp

namespace PartialLoad

theorem findings_judgeSave (fields : Path → List String) (save : PartialSave) :
    Findings id ctx ((judgeSave id ctx save).answer fields) := by
  unfold judgeSave
  rw [HookInquiry.answer_bind]
  split <;> simp

theorem findings_judgeSaves (fields : Path → List String) : ∀ saves : List PartialSave,
    Findings id ctx ((judgeSaves id ctx saves).answer fields)
  | [] => by simp [judgeSaves]
  | save :: rest => by
    simp only [judgeSaves, HookInquiry.answer_bind, HookInquiry.answer_pure]
    exact (findings_judgeSave id ctx fields save).append (findings_judgeSaves fields rest)

theorem findings (fields : Path → List String) :
    FindingsUnlessFault id ctx ((judge id ctx site).answer fields) := by
  unfold judge
  split
  · exact .ok (findings_nil id ctx)
  · simp only [HookInquiry.answer_bind, HookInquiry.answer_pure]
    exact .ok (findings_judgeSaves id ctx fields _)

end PartialLoad

end Convention

/-- **Every rule reports under its own identifier only.** -/
theorem signs_of_mem : ∀ rule ∈ defaultRules, rule.Signs := by
  simp only [defaultRules, List.forall_mem_cons]
  refine ⟨?_, ?_, ?_, ?_, ?_, ?_, ?_, ?_, ?_, ?_, nofun⟩ <;>
    refine Rule.signs_declare fun id ctx site fields => ?_
  · exact (Convention.Controller.findings id ctx site).verdict fields
  · exact (Convention.Entity.findings_entityType id ctx site).verdict fields
  · exact (Convention.Entity.findings_templateType id ctx site).verdict fields
  · exact (Convention.Entity.findings_entityManager id ctx site).verdict fields
  · exact (Convention.HookOrder.findings id ctx site).verdict fields
  · exact (Convention.ReactiveSave.findings id ctx site).verdict fields
  · exact Convention.PartialLoad.findings id ctx site fields
  · exact (Convention.Service.findings_constructor id ctx site).verdict fields
  · exact (Convention.Service.findings_dependencies id ctx site).verdict fields
  · exact (Convention.Service.findings_record id ctx site).verdict fields

/-! ## Identifiers -/

theorem nodup_ids : (defaultRules.map Rule.id).Nodup := by decide +kernel

theorem faultId_not_mem_ids : Engine.faultId ∉ defaultRules.map Rule.id := by decide +kernel

/-! ## What one rule reports -/

namespace Engine

/-- What a rule reports at a node, nothing if it does not look at such nodes or fails. -/
def reports (fields : Path → List String) (rule : Rule) (ctx : Context) (site : Site) :
    List Diagnostic :=
  if rule.looksAt site.node then ((rule.judge rule.id ctx site).answer fields).toOption.getD []
  else []

theorem filter_contribution_self {rule : Rule} (hsigns : rule.Signs) (hfault : rule.id ≠ faultId)
    (fields : Path → List String) (ctx : Context) (site : Site) :
    (contribution fields rule ctx site).filter (fun d => d.ruleId == rule.id) =
      ((rule.judge rule.id ctx site).answer fields).toOption.getD [] := by
  unfold contribution
  cases hresult : (rule.judge rule.id ctx site).answer fields with
  | ok found =>
    refine List.filter_eq_self.2 fun d hd => ?_
    rw [beq_iff_eq]
    exact hsigns.ruleId_eq hresult hd
  | error fault =>
    refine List.filter_eq_nil_iff.2 fun d hd => ?_
    rw [List.mem_singleton.1 hd, beq_iff_eq]
    exact Ne.symm hfault

theorem filter_contribution_other {rule : Rule} (hsigns : rule.Signs) {id : String}
    (hne : rule.id ≠ id) (hfault : id ≠ faultId) (fields : Path → List String) (ctx : Context)
    (site : Site) : (contribution fields rule ctx site).filter (fun d => d.ruleId == id) = [] := by
  rw [List.filter_eq_nil_iff]
  unfold contribution
  split
  · rename_i found hfound
    intro d hd
    rw [hsigns.ruleId_eq hfound hd, beq_iff_eq]
    exact hne
  · intro d hd
    rw [List.mem_singleton.1 hd, beq_iff_eq]
    exact Ne.symm hfault

/-- At one node: the rules with other identifiers drop out, one after another. -/
theorem filter_contributionsAt (fields : Path → List String) (ctx : Context) (site : Site)
    {rule : Rule} (hfault : rule.id ≠ faultId) : ∀ {rules : List Rule},
      (∀ r ∈ rules, r.Signs) → (rules.map Rule.id).Nodup → rule ∈ rules →
        (contributionsAt fields rules ctx site).filter (fun d => d.ruleId == rule.id) =
          reports fields rule ctx site
  | [], _, _, hmem => (List.not_mem_nil hmem).elim
  | r :: rules, hsigns, hnodup, hmem => by
    obtain ⟨hr, hnodup⟩ := List.nodup_cons.1 hnodup
    obtain ⟨hfirst, hrest⟩ := List.forall_mem_cons.1 hsigns
    have hcons : contributionsAt fields (r :: rules) ctx site =
        (if r.looksAt site.node then contribution fields r ctx site else []) ++
          contributionsAt fields rules ctx site := by
      unfold contributionsAt
      cases hlooks : r.looksAt site.node <;> simp [hlooks]
    rw [hcons, List.filter_append]
    rcases List.mem_cons.1 hmem with rfl | hmem
    · -- no later rule has the identifier
      have hsilent : (contributionsAt fields rules ctx site).filter
          (fun d => d.ruleId == rule.id) = [] := by
        unfold contributionsAt
        rw [List.filter_flatMap, List.flatMap_eq_nil_iff]
        intro other hother
        have hmem := (List.mem_filter.1 hother).1
        refine filter_contribution_other (hrest other hmem) ?_ hfault fields ctx site
        exact fun heq => hr (heq ▸ List.mem_map_of_mem hmem)
      rw [hsilent, List.append_nil, reports]
      split
      · exact filter_contribution_self hfirst hfault fields ctx site
      · rfl
    · have hne : r.id ≠ rule.id := fun heq => hr (heq ▸ List.mem_map_of_mem hmem)
      have hsilent : (if r.looksAt site.node then contribution fields r ctx site else []).filter
          (fun d => d.ruleId == rule.id) = [] := by
        split
        · exact filter_contribution_other hfirst hne hfault fields ctx site
        · rfl
      rw [hsilent, List.nil_append]
      exact filter_contributionsAt fields ctx site hfault hrest hnodup hmem

/-- Among rules with different identifiers, one reports under its identifier what it reports. -/
theorem filter_contributions_of_mem (fields : Path → List String) (ctx : Context)
    {rules : List Rule} (hsigns : ∀ r ∈ rules, r.Signs) (hnodup : (rules.map Rule.id).Nodup)
    {rule : Rule} (hfault : rule.id ≠ faultId) (hmem : rule ∈ rules) :
    (contributions fields rules ctx).filter (fun d => d.ruleId == rule.id) =
      (ctx.file.root.sites []).flatMap (reports fields rule ctx) := by
  unfold contributions
  rw [List.filter_flatMap]
  refine List.flatMap_congr fun site _ => ?_
  exact filter_contributionsAt fields ctx site hfault hsigns hnodup hmem

/-- Nothing is reported under the identifier of a rule that is not there. -/
theorem filter_contributions_of_not_mem (fields : Path → List String) (ctx : Context)
    {rules : List Rule} (hsigns : ∀ r ∈ rules, r.Signs) {id : String} (hfault : id ≠ faultId)
    (hnot : id ∉ rules.map Rule.id) :
    (contributions fields rules ctx).filter (fun d => d.ruleId == id) = [] := by
  unfold contributions contributionsAt
  simp only [List.filter_flatMap, List.flatMap_eq_nil_iff]
  intro site _ rule hrule
  have hmem := (List.mem_filter.1 hrule).1
  refine filter_contribution_other (hsigns rule hmem) ?_ hfault fields ctx site
  exact fun heq => hnot (heq ▸ List.mem_map_of_mem hmem)

theorem id_ne_faultId {rule : Rule} (hmem : rule ∈ defaultRules) : rule.id ≠ faultId :=
  fun heq => faultId_not_mem_ids (heq ▸ List.mem_map_of_mem hmem)

/-- **What a visit reports under the identifier of a rule is what that rule reports**, if a
    configuration leaves it on. -/
theorem filter_contributions (fields : Path → List String) (ctx : Context) {config : Config}
    {rule : Rule} (hmem : rule ∈ defaultRules) (henabled : config.rules.isEnabled rule.id = true) :
    (contributions fields (defaultRules.filter fun r => config.rules.isEnabled r.id) ctx).filter
        (fun d => d.ruleId == rule.id) =
      (ctx.file.root.sites []).flatMap (reports fields rule ctx) :=
  filter_contributions_of_mem fields ctx
    (fun r hr => signs_of_mem r (List.mem_filter.1 hr).1)
    (nodup_ids.sublist (List.filter_sublist.map Rule.id))
    (id_ne_faultId hmem) (List.mem_filter.2 ⟨hmem, henabled⟩)

/-- The same for any choice of rules of the catalog, each registered once and in any order; under
    the identifier of a rule that was not chosen nothing is reported. -/
theorem filter_contributions_of_subperm (fields : Path → List String) (ctx : Context)
    {rules : List Rule} (hrules : rules.Subperm defaultRules) {rule : Rule}
    (hmem : rule ∈ defaultRules) :
    (rule ∈ rules → (contributions fields rules ctx).filter (fun d => d.ruleId == rule.id) =
      (ctx.file.root.sites []).flatMap (reports fields rule ctx)) ∧
    (rule ∉ rules →
      (contributions fields rules ctx).filter (fun d => d.ruleId == rule.id) = []) := by
  have hsigns : ∀ r ∈ rules, r.Signs := fun r hr => signs_of_mem r (hrules.subset hr)
  refine ⟨fun hchosen => ?_, fun hchosen => ?_⟩
  · obtain ⟨picked, hperm, hsub⟩ := hrules
    have hnodup : (rules.map Rule.id).Nodup :=
      (hperm.map Rule.id).nodup_iff.1 (nodup_ids.sublist (hsub.map Rule.id))
    exact filter_contributions_of_mem fields ctx hsigns hnodup (id_ne_faultId hmem) hchosen
  · -- a rule with the same identifier would be the same rule
    have hnot : rule.id ∉ rules.map Rule.id := by
      intro hid
      obtain ⟨other, hother, heq⟩ := List.mem_map.1 hid
      exact hchosen (List.inj_on_of_nodup_map nodup_ids (hrules.subset hother) hmem heq ▸ hother)
    exact filter_contributions_of_not_mem fields ctx hsigns (id_ne_faultId hmem) hnot

end Engine

end LayerLint
