import LayerLint.Convention.Catalog
import LayerLint.Proofs.Engine

/-!
# What a rule sees

A context holds an index of classes and a whole configuration.  A rule sees little of either: of the
classes only the answers about methods, and of the configuration only the backend root and the
settings of services and entities.

* `Context.among` — a context with other classes, and with other settings wherever rules do not look;
* `insulated_of_mem` — every rule of the catalog judges alike in both, as long as the classes give
  the same answers;
* `Engine.contributions_among` — so do all of them together.
-/

set_option autoImplicit false

namespace LayerLint

open Syntax (Node Site MemberCall)

/-- The index answers every question about methods as the other one does. -/
def ClassIndex.AnswersAs (classes other : ClassIndex) : Prop :=
  ∀ name method, classes.ancestorDeclares name method = other.ancestorDeclares name method

/-- The context with other classes, and with other settings wherever rules do not look. -/
def Context.among (ctx : Context) (classes : ClassIndex) (other : Config) : Context :=
  { ctx with
    classes
    config :=
      { other with
        backendRoot := ctx.config.backendRoot
        services := ctx.config.services
        entities := ctx.config.entities } }

/-- The rule says the same among all classes that give the same answers, and whatever the settings
    are at which it does not look. -/
def Rule.Insulated (rule : Rule) : Prop :=
  ∀ id ctx site classes other, ClassIndex.AnswersAs classes ctx.classes →
    rule.judge id (Context.among ctx classes other) site = rule.judge id ctx site

namespace Convention

section

variable (id : String) (ctx : Context) (site : Site) (classes : ClassIndex) (other : Config)

theorem Controller.judge_among (h : classes.AnswersAs ctx.classes) :
    Controller.judge id (ctx.among classes other) site = Controller.judge id ctx site := by
  have hlayer : (ctx.among classes other).inLayer .controllers = ctx.inLayer .controllers := rfl
  have hanswer : ∀ name method, (ctx.among classes other).classes.ancestorDeclares name method =
      ctx.classes.ancestorDeclares name method := h
  unfold Controller.judge
  simp only [hlayer, hanswer]
  rfl

theorem ReactiveSave.judge_among :
    ReactiveSave.judge id (ctx.among classes other) site = ReactiveSave.judge id ctx site := by
  have hlayer : (ctx.among classes other).inLayer .hooks = ctx.inLayer .hooks := rfl
  unfold ReactiveSave.judge
  rw [hlayer]
  cases Rule.part .methodDecl site.node .name <;> rfl

end

theorem Controller.insulated : Controller.onlyOverrideParentMethods.Insulated := by
  unfold Controller.onlyOverrideParentMethods Rule.declare
  exact fun id ctx site classes other h =>
    congrArg Rule.verdict (judge_among id ctx site classes other h)

theorem ReactiveSave.insulated : ReactiveSave.noSameEntitySave.Insulated := by
  unfold ReactiveSave.noSameEntitySave Rule.declare
  exact fun id ctx site classes other _ =>
    congrArg Rule.verdict (judge_among id ctx site classes other)

namespace PartialLoad

variable (ctx : Context) (classes : ClassIndex) (other : Config)

theorem chainUpTo_among : ∀ (fuel : Nat) (call : Option MemberCall),
    chainUpTo (ctx.among classes other) fuel call = chainUpTo ctx fuel call
  | _, none => by simp only [chainUpTo]
  | 0, some _ => rfl
  | fuel + 1, some call => by
    rw [chainUpTo, chainUpTo, chainUpTo_among fuel]
    rfl

theorem projection?_among : projection? (ctx.among classes other) = projection? ctx := by
  funext expression
  unfold projection? chain
  rw [chainUpTo_among]
  rfl

theorem assignments_among (body : Node) :
    assignments (ctx.among classes other) body = assignments ctx body := by
  unfold assignments Assignment.ofNode?
  rw [projection?_among]
  rfl

theorem partialSaves_among (method : Node) :
    partialSaves (ctx.among classes other) method = partialSaves ctx method := by
  unfold partialSaves
  simp only [assignments_among]
  rfl

theorem judgeSaves_among (id : String) : ∀ saves : List PartialSave,
    judgeSaves id (ctx.among classes other) saves = judgeSaves id ctx saves
  | [] => rfl
  | save :: rest => by
    rw [judgeSaves, judgeSaves, judgeSaves_among id rest]
    rfl

theorem judge_among (id : String) (site : Site) :
    judge id (ctx.among classes other) site = judge id ctx site := by
  unfold judge
  rw [partialSaves_among, judgeSaves_among]
  rfl

theorem insulated : saveRestrictedEntityFields.Insulated := by
  unfold saveRestrictedEntityFields Rule.declare
  intro id ctx site classes other _
  dsimp only
  exact judge_among ctx classes other id site

end PartialLoad

end Convention

/-- **No rule sees more of the classes than answers, nor more of the configuration than the backend
    root and the settings of services and entities.** -/
theorem insulated_of_mem : ∀ rule ∈ defaultRules, rule.Insulated := by
  simp only [defaultRules, List.forall_mem_cons]
  -- the other seven read single settings off the configuration and ask nothing about classes
  refine ⟨Convention.Controller.insulated, ?_, ?_, ?_, ?_, Convention.ReactiveSave.insulated,
    Convention.PartialLoad.insulated, ?_, ?_, ?_, List.forall_mem_nil _⟩ <;>
    exact fun _ _ _ _ _ _ => rfl

theorem Engine.contributions_among {rules : List Rule} (hrules : ∀ rule ∈ rules, rule.Insulated)
    (fields : Path → List String) (ctx : Context) {classes : ClassIndex} (other : Config)
    (hclasses : classes.AnswersAs ctx.classes) :
    contributions fields rules (ctx.among classes other) = contributions fields rules ctx := by
  refine List.flatMap_congr fun site _ => ?_
  unfold contributionsAt
  refine List.flatMap_congr fun rule hrule => ?_
  unfold contribution
  rw [hrules rule (List.mem_filter.1 hrule).1 rule.id ctx site classes other hclasses]
  rfl

end LayerLint
