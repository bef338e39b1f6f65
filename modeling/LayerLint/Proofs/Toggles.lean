import LayerLint.Proofs.Confinement
import LayerLint.Proofs.RuleView
import LayerLint.Proofs.Text
import Mathlib

/-!
# Turning rules off

A configuration turns rules off before the engine is built.  To those who read the diagnostics it
is the same as dropping what the rules say.

* `Rule.shortName_identifier` — the last part of an identifier is the name, up to its first letter;
* `isEnabled_identifier_iff` — so a rule is off when its identifier is listed, or its name in any
  case;
* `Engine.filter_contributions_ruleId` — dropping diagnostics by identifier is dropping rules;
* `visit_toggles` — both runs compared, with the listing of the rules.
-/

set_option autoImplicit false

namespace LayerLint

open Syntax (Site)

/-! ## Names and identifiers -/

/-- A name of ASCII characters without a dot, as rules have. -/
def Rule.PlainName (name : String) : Prop :=
  ∀ c ∈ name.toList, c.toNat < 128 ∧ c ≠ '.'

instance (name : String) : Decidable (Rule.PlainName name) :=
  List.decidableBAll (fun c : Char => c.toNat < 128 ∧ c ≠ '.') name.toList

namespace Rule.PlainName

variable {name : String}

theorem toList_lowerFirst (h : PlainName name) :
    (Text.lowerFirst name).toList = (name.toList.take 1).map Char.toLower ++ name.toList.drop 1 := by
  unfold Text.lowerFirst
  cases hname : name.toList with
  | nil => rfl
  | cons c cs =>
    have hc : c.toNat < 128 := (h c (by simp [hname])).1
    simp [Text.lowerChar, hc]

/-- A small first letter makes no difference up to case. -/
theorem foldAscii_lowerFirst (h : PlainName name) :
    Text.foldAscii (Text.lowerFirst name) = Text.foldAscii name := by
  rw [Text.foldAscii, Text.foldAscii, h.toList_lowerFirst]
  cases name.toList <;> simp

theorem ne_dot_of_mem (h : PlainName name) {c : Char} (hc : c ∈ (Text.lowerFirst name).toList) :
    (c == '.') = false := by
  rw [h.toList_lowerFirst, List.mem_append, List.mem_map] at hc
  obtain ⟨first, hfirst, rfl⟩ | hc := hc
  · obtain heq | ⟨-, hlower⟩ := Text.toLower_cases first
    · rw [heq, beq_eq_false_iff_ne]
      exact (h first (List.mem_of_mem_take hfirst)).2
    · rw [beq_eq_false_iff_ne]
      intro hdot
      rw [hdot] at hlower
      exact absurd hlower (by decide)
  · rw [beq_eq_false_iff_ne]
    exact (h c (List.mem_of_mem_drop hc)).2

end Rule.PlainName

/-- **The last part of an identifier is the name with a small first letter.** -/
theorem Rule.shortName_identifier (place : String) {name : String} (h : PlainName name) :
    shortName (identifier place name) = Text.lowerFirst name := by
  rw [shortName, identifier]
  exact Text.afterLast_append (c := '.') rfl rfl _ fun _ hc => h.ne_dot_of_mem hc

/-- **A rule is off when its identifier is listed, or its name in any case.** -/
theorem RuleToggles.isEnabled_identifier_iff (toggles : RuleToggles) (place : String)
    {name : String} (h : Rule.PlainName name) :
    toggles.isEnabled (Rule.identifier place name) = false ↔
      Rule.identifier place name ∈ toggles.disabled ∨
        ∃ d ∈ toggles.disabled, Text.foldAscii d = Text.foldAscii name := by
  simp only [isEnabled, Rule.shortName_identifier place h, Bool.not_eq_false', List.any_eq_true,
    Bool.or_eq_true, beq_iff_eq, Text.sameFolded_iff, h.foldAscii_lowerFirst]
  constructor
  · rintro ⟨d, hd, rfl | hfold⟩
    · exact .inl hd
    · exact .inr ⟨d, hd, hfold⟩
  · rintro (hd | ⟨d, hd, hfold⟩)
    · exact ⟨_, hd, .inl rfl⟩
    · exact ⟨d, hd, .inr hfold⟩

/-- The rules of the catalog have identifiers made of their names. -/
theorem exists_identifier_of_mem :
    ∀ rule ∈ defaultRules, ∃ place, rule.id = Rule.identifier place rule.name := by
  simp only [defaultRules, List.forall_mem_cons]
  exact ⟨⟨_, rfl⟩, ⟨_, rfl⟩, ⟨_, rfl⟩, ⟨_, rfl⟩, ⟨_, rfl⟩, ⟨_, rfl⟩, ⟨_, rfl⟩, ⟨_, rfl⟩,
    ⟨_, rfl⟩, ⟨_, rfl⟩, List.forall_mem_nil _⟩

theorem plainName_of_mem : ∀ rule ∈ defaultRules, Rule.PlainName rule.name := by
  decide

/-! ## Dropping diagnostics, dropping rules -/

/-- Where what comes from one element is kept or dropped as a whole, dropping results is dropping
    elements. -/
theorem filter_flatMap_of_uniform {α β : Type} {f : α → List β} {keep : β → Bool} {on : α → Bool} :
    ∀ {as : List α}, (∀ a ∈ as, ∀ b ∈ f a, keep b = on a) →
      (as.flatMap f).filter keep = (as.filter on).flatMap f
  | [], _ => rfl
  | a :: as, h => by
    obtain ⟨hfirst, hrest⟩ := List.forall_mem_cons.1 h
    rw [List.flatMap_cons, List.filter_append, filter_flatMap_of_uniform hrest, List.filter_cons]
    cases hon : on a with
    | true =>
      have hkept : (f a).filter keep = f a :=
        List.filter_eq_self.2 fun b hb => (hfirst b hb).trans hon
      rw [hkept, if_pos rfl, List.flatMap_cons]
    | false =>
      have hdropped : (f a).filter keep = [] :=
        List.filter_eq_nil_iff.2 fun b hb => by rw [hfirst b hb, hon]; exact Bool.false_ne_true
      rw [hdropped, if_neg Bool.false_ne_true, List.nil_append]

namespace Engine

/-- **Dropping diagnostics by identifier is dropping rules.** -/
theorem filter_contributions_ruleId {rules : List Rule} {ctx : Context}
    (hrules : ∀ rule ∈ rules, rule ∈ defaultRules) (hnamed : ctx.file.MethodsNamed)
    (fields : Path → List String) (on : String → Bool) :
    (contributions fields rules ctx).filter (fun d => on d.ruleId) =
      contributions fields (rules.filter fun rule => on rule.id) ctx := by
  unfold contributions
  rw [List.filter_flatMap]
  refine List.flatMap_congr fun site hsite => ?_
  unfold contributionsAt
  rw [List.filter_comm]
  refine filter_flatMap_of_uniform fun rule hrule d hd => ?_
  obtain ⟨hmem, hlooks⟩ := List.mem_filter.1 hrule
  have hnode : site.node ∈ ctx.file.root.preorder := by
    rw [← Syntax.Node.map_node_sites [] ctx.file.root]
    exact List.mem_map_of_mem hsite
  obtain ⟨n, message, rfl⟩ :=
    contribution_findings (hrules rule hmem) hnamed hnode hlooks fields d hd
  rfl

theorem mem_rules_ofConfig {config : Config} {rule : Rule} :
    rule ∈ (ofConfig config).rules ↔
      rule ∈ defaultRules ∧ config.rules.isEnabled rule.id = true := by
  rw [ofConfig, rules_ofRules, List.mem_filter]

/-- Where nothing is off, a visit runs the whole catalog. -/
theorem run_visit_all {config : Config} (hall : config.rules.disabled = []) (ctx : Context)
    (memo : HookMemo) :
    (((ofConfig config).visit ctx).run memo).1 =
      contributions (memo.reply ctx.fs) defaultRules ctx := by
  have hrules : defaultRules.filter (fun rule => config.rules.isEnabled rule.id) = defaultRules := by
    refine List.filter_eq_self.2 fun rule _ => ?_
    simp [RuleToggles.isEnabled, hall]
  rw [ofConfig, hrules]
  exact run_visit defaultRules ctx memo

/-- **Turning rules off is filtering.**  If the methods of the file have names, a visit gives what it
    would give with nothing off, less the diagnostics under identifiers that are off, in the same
    order and whatever state it finds the memory in.  The listing has all rules in the order in which
    they run, each marked by whether the engine runs it.  And a rule is off just when its identifier,
    which is made of its name, is listed as it stands, or its name in any case. -/
theorem visit_toggles (ctx : Context) (memo : HookMemo) :
    let toggles := ctx.config.rules
    let all : Config := { ctx.config with rules := { toggles with disabled := [] } }
    let engine := ofConfig ctx.config
    (ctx.file.MethodsNamed →
      ((engine.visit ctx).run memo).1 =
        (((ofConfig all).visit { ctx with config := all }).run memo).1.filter fun d =>
          toggles.isEnabled d.ruleId) ∧
    ((ruleLines ctx.config).map fun line => (line.id, line.description)) =
      (defaultRules.map fun rule => (rule.id, rule.description)) ∧
    (∀ (i : Nat) (rule : Rule) (line : RuleLine),
      defaultRules[i]? = some rule → (ruleLines ctx.config)[i]? = some line →
        (line.enabled = true ↔ rule ∈ engine.rules)) ∧
    engine.rules.Sublist defaultRules ∧
    ∀ rule ∈ defaultRules,
      (∃ place, rule.id = Rule.identifier place rule.name) ∧
      (rule ∉ engine.rules ↔
        rule.id ∈ toggles.disabled ∨
          ∃ d ∈ toggles.disabled, Text.foldAscii d = Text.foldAscii rule.name) := by
  intro toggles all engine
  refine ⟨fun hnamed => ?_, ?_, fun i rule line hrule hline => ?_, ?_, fun rule hrule => ?_⟩
  · -- the rules judge alike in both contexts
    have hcontext : contributions (memo.reply ctx.fs) defaultRules { ctx with config := all } =
        contributions (memo.reply ctx.fs) defaultRules ctx :=
      contributions_among insulated_of_mem _ ctx all fun _ _ => rfl
    rw [run_visit_all (show all.rules.disabled = [] from rfl), hcontext,
      filter_contributions_ruleId (fun _ h => h) hnamed _ toggles.isEnabled]
    exact run_visit _ ctx memo
  · rw [ruleLines, List.map_map]
    rfl
  · rw [ruleLines, List.getElem?_map, hrule, Option.map_some, Option.some_inj] at hline
    rw [← hline, mem_rules_ofConfig]
    exact (and_iff_right (List.mem_of_getElem? hrule)).symm
  · have hrules : engine.rules = _ := rules_ofRules _
    rw [hrules]
    exact List.filter_sublist
  · obtain ⟨place, hid⟩ := exists_identifier_of_mem rule hrule
    refine ⟨⟨place, hid⟩, ?_⟩
    rw [mem_rules_ofConfig, and_iff_right hrule, Bool.not_eq_true, hid]
    exact toggles.isEnabled_identifier_iff place (plainName_of_mem rule hrule)

/-- One of the two rules that report a hook is off, by its name in other letters; unknown names and
    the identifier of another rule in other letters turn nothing off. -/
theorem visit_toggles_mixed_case :
    let text := "<?php class H\x7bfunction beforeSave($e)\x7b$m->save($e);\x7d\x7d"
    let disabled :=
      ["NOSAMEentitySaveRule", "order", "ESPOCRM.hooks.requireOrderPropertyRule", "order"]
    let ctx := Context.ofFile (SourceFile.parse ⟨"src/backend/Hooks/E/H.php"⟩ text) .empty
      { rules := { disabled } } { root := .directory [] }
    ctx.file.MethodsNamed ∧
      (((ofConfig ctx.config).visit ctx).run .empty).1.map Diagnostic.ruleId =
        ["espocrm.hooks.requireOrderPropertyRule"] ∧
      Convention.ReactiveSave.noSameEntitySave ∉ (ofConfig ctx.config).rules := by
  intro text disabled ctx
  have hnamed : ctx.file.MethodsNamed := by decide +kernel
  obtain ⟨hfilter, -, -, -, hoff⟩ := visit_toggles ctx .empty
  refine ⟨hnamed, ?_, ?_⟩
  · rw [hfilter hnamed]
    decide +kernel
  · have hmem : Convention.ReactiveSave.noSameEntitySave ∈ defaultRules := by simp [defaultRules]
    exact (hoff _ hmem).2.2 (.inr ⟨"NOSAMEentitySaveRule", List.mem_cons_self, by decide⟩)

end Engine

end LayerLint
