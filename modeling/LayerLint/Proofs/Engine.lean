import LayerLint.Proofs.HookMemo
import LayerLint.Rule.Engine
import Mathlib.Data.List.Basic

/-!
# What a visit gives

An engine keeps, for each kind of declaration, the positions of the rules that look at it.  A visit
walks the tree with a cursor, looks the positions up at every node and runs the rules there, all of
them asking one memory.

* `positions_ofRules` — the table of positions after any registrations;
* `visit_determines` — a visit gives what the rules say, node by node in pre-order and rule by rule
  in the order of registration, each rule judged as if it were alone;
* `visit_dispatch` — both together with the isolation of failures: another rule in the place of one
  changes nothing of what the others say.
-/

set_option autoImplicit false

namespace LayerLint

open Syntax (Node Site)
open HookMemo (Determines)

/-! ## The table of positions -/

/-- The rule looks at nodes of this kind. -/
def Rule.looksAt (rule : Rule) (n : Node) : Bool :=
  Subject.ofNode? n == some rule.subject

theorem Rule.looksAt_of_methodDecl {rule : Rule} (h : rule.subject = .methodDecl) (n : Node) :
    rule.looksAt n = (n.kind == .methodDeclaration) := by
  rw [looksAt, h, Subject.ofNode?]
  cases n.kind <;> rfl

namespace Engine

/-- The positions of the rules for a kind of declaration, read off the rules. -/
def positionsIn (rules : List Rule) (subject : Subject) : List Nat :=
  (rules.zipIdx.filter fun e => e.1.subject == subject).map Prod.snd

/-- The table of an engine agrees with its rules. -/
def Indexed (engine : Engine) : Prop :=
  ∀ subject, engine.positions subject = positionsIn engine.rules subject

theorem indexed_empty : empty.Indexed := by
  intro subject
  cases subject <;> rfl

/-- Registering a rule keeps the table in agreement. -/
theorem Indexed.register {engine : Engine} (h : engine.Indexed) (rule : Rule) :
    (engine.register rule).Indexed := by
  intro subject
  have hrules : positionsIn (engine.rules ++ [rule]) subject =
      positionsIn engine.rules subject ++
        if rule.subject == subject then [engine.rules.length] else [] := by
    simp only [positionsIn, List.zipIdx_append, List.filter_append, List.map_append]
    by_cases hr : rule.subject == subject <;> simp [hr]
  cases subject
  · have hold : engine.classRules = positionsIn engine.rules .classDecl := h .classDecl
    simp only [Engine.register, positions, hrules, ← hold]
    split <;> simp
  · have hold : engine.methodRules = positionsIn engine.rules .methodDecl := h .methodDecl
    simp only [Engine.register, positions, hrules, ← hold]
    split <;> simp

theorem foldl_register : ∀ (rules : List Rule) (engine : Engine), engine.Indexed →
    (rules.foldl Engine.register engine).Indexed ∧
      (rules.foldl Engine.register engine).rules = engine.rules ++ rules
  | [], engine, h => ⟨h, by simp⟩
  | rule :: rules, engine, h => by
    obtain ⟨hindexed, hrules⟩ := foldl_register rules (engine.register rule) (h.register rule)
    refine ⟨hindexed, ?_⟩
    rw [List.foldl_cons, hrules]
    simp [Engine.register]

theorem rules_ofRules (rules : List Rule) : (ofRules rules).rules = rules := by
  have h := (foldl_register rules empty indexed_empty).2
  simpa [ofRules, empty] using h

/-- **After any registrations the table lists the positions of the rules for each kind.** -/
theorem positions_ofRules (rules : List Rule) (subject : Subject) :
    (ofRules rules).positions subject = positionsIn rules subject := by
  have h : (ofRules rules).Indexed := (foldl_register rules empty indexed_empty).1
  rw [h subject, rules_ofRules]

theorem mem_positionsIn {rules : List Rule} {subject : Subject} {i : Nat} :
    i ∈ positionsIn rules subject ↔ ∃ rule, rules[i]? = some rule ∧ rule.subject = subject := by
  simp [positionsIn, List.mem_zipIdx_iff_getElem?]

theorem pairwise_positionsIn (rules : List Rule) (subject : Subject) :
    (positionsIn rules subject).Pairwise (· < ·) := by
  have hsub : List.Sublist (positionsIn rules subject) (rules.zipIdx.map Prod.snd) :=
    List.filter_sublist.map Prod.snd
  refine List.Pairwise.sublist hsub ?_
  simp [List.pairwise_lt_range']

/-! ## What rules say -/

/-- What a rule says at a site, given what hooks read: its own diagnostics, or one about its
    failure. -/
def contribution (fields : Path → List String) (rule : Rule) (ctx : Context) (site : Site) :
    List Diagnostic :=
  match (rule.judge rule.id ctx site).answer fields with
  | .ok found => found
  | .error fault => [faultDiagnostic rule ctx site.node fault]

theorem faultId_eq : faultId = "espocrm.core.internalRuleFault" := by decide +kernel

theorem run_determines (rule : Rule) (ctx : Context) (site : Site) :
    Determines ctx.fs (run rule ctx site) fun fields => contribution fields rule ctx site := by
  have hresult : ∀ result : Except Fault (List Diagnostic),
      Determines ctx.fs
        (match result with
          | .ok found => return found
          | .error fault => return [faultDiagnostic rule ctx site.node fault])
        fun _ =>
          match result with
          | .ok found => found
          | .error fault => [faultDiagnostic rule ctx site.node fault] := by
    intro result
    cases result <;> exact Determines.pure _
  exact (Determines.inquiry (rule.judge rule.id ctx site)).bind hresult

theorem gather_determines {fs : FileSystem} {α : Type} {act : α → StateM HookMemo (List Diagnostic)}
    {value : α → (Path → List String) → List Diagnostic}
    (h : ∀ a, Determines fs (act a) (value a)) :
    ∀ as : List α, Determines fs (gather act as) fun fields => as.flatMap fun a => value a fields
  | [] => Determines.pure []
  | a :: as =>
    (h a).bind fun first =>
      (gather_determines h as).bind fun rest => Determines.pure (first ++ rest)

/-- What the rules in a list say at a site, one after another. -/
def contributionsAt (fields : Path → List String) (rules : List Rule) (ctx : Context)
    (site : Site) : List Diagnostic :=
  (rules.filter fun rule => rule.looksAt site.node).flatMap fun rule =>
    contribution fields rule ctx site

theorem map_fst_filter_zipIdx (rules : List Rule) (p : Rule → Bool) :
    (rules.zipIdx.filter fun e => p e.1).map Prod.fst = rules.filter p := by
  have h := List.filter_map (f := Prod.fst) (p := p) (l := rules.zipIdx)
  rw [List.zipIdx_map_fst] at h
  exact h.symm

/-- Looking rules up by their positions finds the rules for the kind, in order. -/
theorem flatMap_positionsIn {α : Type} (rules : List Rule) (subject : Subject)
    (f : Option Rule → List α) :
    (positionsIn rules subject).flatMap (fun i => f rules[i]?) =
      (rules.filter fun rule => rule.subject == subject).flatMap fun rule => f (some rule) := by
  have hlookup : ∀ e ∈ rules.zipIdx.filter fun e => e.1.subject == subject,
      f rules[e.2]? = f (some e.1) := by
    intro e he
    have hmem := List.mem_zipIdx_iff_getElem?.1 (List.mem_filter.1 he).1
    rw [hmem]
  rw [positionsIn, List.flatMap_map, List.flatMap_congr hlookup,
    ← map_fst_filter_zipIdx rules fun rule => rule.subject == subject, List.flatMap_map]

theorem runAt_determines (rules : List Rule) (ctx : Context) (site : Site) :
    Determines ctx.fs ((ofRules rules).runAt ctx site) fun fields =>
      contributionsAt fields rules ctx site := by
  unfold runAt
  split
  · rename_i hnone
    have hsilent : (fun fields => contributionsAt fields rules ctx site) = fun _ => [] := by
      funext fields
      simp [contributionsAt, Rule.looksAt, hnone]
    rw [hsilent]
    exact Determines.pure []
  · rename_i subject hsubject
    rw [positions_ofRules, rules_ofRules]
    have hlist : (fun fields => contributionsAt fields rules ctx site) = fun fields =>
        (positionsIn rules subject).flatMap fun i =>
          (rules[i]?.map fun rule => contribution fields rule ctx site).getD [] := by
      funext fields
      have hpositions := flatMap_positionsIn rules subject fun found =>
        (found.map fun rule => contribution fields rule ctx site).getD []
      rw [hpositions, contributionsAt]
      simp only [Rule.looksAt, hsubject]
      congr 2
      funext rule
      exact Bool.eq_iff_iff.2 (by rw [beq_iff_eq, beq_iff_eq, Option.some_inj, eq_comm])
    rw [hlist]
    refine gather_determines (fun i => ?_) _
    cases rules[i]? with
    | some rule => exact run_determines rule ctx site
    | none => exact Determines.pure []

/-- All that rules say about a file: node by node in pre-order, at each node rule by rule in their
    order. -/
def contributions (fields : Path → List String) (rules : List Rule) (ctx : Context) :
    List Diagnostic :=
  (ctx.file.root.sites []).flatMap (contributionsAt fields rules ctx)

theorem flatMap_subjects (fields : Path → List String) (rules : List Rule) (ctx : Context) :
    (subjects ctx.file).flatMap (contributionsAt fields rules ctx) =
      contributions fields rules ctx := by
  rw [subjects, Syntax.Node.visitOrder_eq_sites, contributions]
  induction ctx.file.root.sites [] with
  | nil => rfl
  | cons site sites ih =>
    cases hnode : Subject.ofNode? site.node with
    | some subject => simp [hnode, ih]
    | none =>
      have hsilent : contributionsAt fields rules ctx site = [] := by
        simp [contributionsAt, Rule.looksAt, hnode]
      simp [hnode, ih, hsilent]

/-- **A visit gives what the rules say**, whatever the memory has been asked before. -/
theorem visit_determines (rules : List Rule) (ctx : Context) :
    Determines ctx.fs ((ofRules rules).visit ctx) fun fields => contributions fields rules ctx := by
  have h := gather_determines (runAt_determines rules ctx) (subjects ctx.file)
  simp only [fun fields => flatMap_subjects fields rules ctx] at h
  exact h

theorem run_visit (rules : List Rule) (ctx : Context) (memo : HookMemo) :
    (((ofRules rules).visit ctx).run memo).1 = contributions (memo.reply ctx.fs) rules ctx :=
  (visit_determines rules ctx memo).1

/-! ## Who said what -/

/-- What rules say at a site, each diagnostic with the position of the rule that it comes from. -/
def attributedAt (fields : Path → List String) (rules : List Rule) (ctx : Context) (site : Site) :
    List (Nat × Diagnostic) :=
  (rules.zipIdx.filter fun e => e.1.looksAt site.node).flatMap fun e =>
    (contribution fields e.1 ctx site).map fun d => (e.2, d)

/-- All that rules say about a file, each diagnostic with the position of its rule. -/
def attributed (fields : Path → List String) (rules : List Rule) (ctx : Context) :
    List (Nat × Diagnostic) :=
  (ctx.file.root.sites []).flatMap (attributedAt fields rules ctx)

theorem map_snd_attributed (fields : Path → List String) (rules : List Rule) (ctx : Context) :
    (attributed fields rules ctx).map Prod.snd = contributions fields rules ctx := by
  rw [attributed, contributions, List.map_flatMap]
  refine List.flatMap_congr fun site _ => ?_
  rw [attributedAt, contributionsAt, ← map_fst_filter_zipIdx, List.flatMap_map, List.map_flatMap]
  simp [Function.comp_def]

/-- Another element in one place leaves all others, with their positions, as they are. -/
theorem filter_zipIdx_set (replacement : Rule) : ∀ (rules : List Rule) (position start : Nat),
    ((rules.set position replacement).zipIdx start).filter (fun e => e.2 != start + position) =
      (rules.zipIdx start).filter fun e => e.2 != start + position
  | [], _, _ => rfl
  | rule :: rules, 0, start => by simp
  | rule :: rules, position + 1, start => by
    have ih := filter_zipIdx_set replacement rules position (start + 1)
    have hshift : start + (position + 1) = start + 1 + position := by omega
    have hkeep : (start != start + 1 + position) = true := by simp; omega
    rw [hshift, List.set_cons_succ, List.zipIdx_cons, List.zipIdx_cons, List.filter_cons,
      List.filter_cons, if_pos hkeep, if_pos hkeep, ih]

/-- **A rule in the place of another changes nothing of what the other rules say.** -/
theorem attributed_set (fields : Path → List String) (rules : List Rule) (ctx : Context)
    (position : Nat) (replacement : Rule) :
    (attributed fields (rules.set position replacement) ctx).filter (fun e => e.1 != position) =
      (attributed fields rules ctx).filter fun e => e.1 != position := by
  -- at each site, dropping the diagnostics of a position is dropping its rule
  have hsite : ∀ (rules : List Rule) (site : Site),
      (attributedAt fields rules ctx site).filter (fun e => e.1 != position) =
        ((rules.zipIdx.filter fun e => e.2 != position).filter fun e =>
          e.1.looksAt site.node).flatMap fun e =>
            (contribution fields e.1 ctx site).map fun d => (e.2, d) := by
    intro rules site
    rw [attributedAt, List.filter_flatMap, List.filter_comm]
    induction rules.zipIdx.filter fun e => e.1.looksAt site.node with
    | nil => rfl
    | cons e es ih =>
      rw [List.flatMap_cons, ih, List.filter_cons, List.filter_map]
      by_cases he : e.2 = position
      · simp [he, Function.comp_def]
      · have hkeep : (e.2 != position) = true := by simpa using he
        simp [hkeep, Function.comp_def]
  have hrules := filter_zipIdx_set replacement rules position 0
  simp only [Nat.zero_add] at hrules
  simp only [attributed, List.filter_flatMap, hsite, hrules]

/-- **Dispatch with isolation of failures.**  After any registrations the table of each kind lists
    the positions of its rules in increasing order.  A visit, in whatever state it finds the memory,
    gives for every node in pre-order and every rule for its kind in the order of registration what
    that rule alone gives there: its diagnostics, or one that names the rule and its failure.  And
    whatever rule takes the place of another, each diagnostic of the remaining rules stays, in the
    same order. -/
theorem visit_dispatch (rules : List Rule) :
    (∀ subject : Subject,
      ((ofRules rules).positions subject).Pairwise (· < ·) ∧
      ∀ i, i ∈ (ofRules rules).positions subject ↔
        ∃ rule, (ofRules rules).rules[i]? = some rule ∧ rules[i]? = some rule ∧
          rule.subject = subject) ∧
    (∀ (ctx : Context) (memo : HookMemo),
      (ctx.file.root.sites []).map Site.node = ctx.file.root.preorder ∧
      (((ofRules rules).visit ctx).run memo).1 =
        (ctx.file.root.sites []).flatMap fun site =>
          (rules.filter fun rule =>
            Subject.ofNode? site.node == some rule.subject).flatMap fun rule =>
            match (((rule.judge rule.id ctx site).run ctx.fs).run memo).1 with
            | .ok found => found
            | .error fault =>
              [{ ruleId := "espocrm.core.internalRuleFault"
                 message := "Rule " ++ rule.id ++ " failed on this node: " ++ fault.message
                 location := ctx.location site.node
                 kind := .internalFault }]) ∧
    (∀ (ctx : Context) (memo : HookMemo) (position : Nat) (replacement : Rule),
      (((ofRules rules).visit ctx).run memo).1 =
        (attributed (memo.reply ctx.fs) rules ctx).map Prod.snd ∧
      (((ofRules (rules.set position replacement)).visit ctx).run memo).1 =
        (attributed (memo.reply ctx.fs) (rules.set position replacement) ctx).map Prod.snd ∧
      (attributed (memo.reply ctx.fs) (rules.set position replacement) ctx).filter
          (fun e => e.1 != position) =
        (attributed (memo.reply ctx.fs) rules ctx).filter fun e => e.1 != position) := by
  refine ⟨fun subject => ⟨?_, fun i => ?_⟩, fun ctx memo => ⟨?_, ?_⟩,
    fun ctx memo position replacement => ⟨?_, ?_, attributed_set _ rules ctx position replacement⟩⟩
  · rw [positions_ofRules]
    exact pairwise_positionsIn rules subject
  · rw [positions_ofRules, mem_positionsIn, rules_ofRules]
    simp
  · exact Syntax.Node.map_node_sites [] ctx.file.root
  · rw [run_visit, contributions]
    refine List.flatMap_congr fun site _ => ?_
    rw [contributionsAt]
    refine List.flatMap_congr fun rule _ => ?_
    rw [contribution, ← ((rule.judge rule.id ctx site).run_spec ctx.fs memo).1]
    split
    · rfl
    · rw [faultDiagnostic, faultId_eq]
  · rw [map_snd_attributed, run_visit]
  · rw [map_snd_attributed, run_visit]

end Engine

end LayerLint
