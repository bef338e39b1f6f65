import LayerLint.Proofs.JsonRoundTrip
import LayerLint.Report.Sarif
import Mathlib.Data.List.Basic
import Mathlib.Data.List.Induction
import Mathlib.Data.List.Nodup

/-!
# SARIF reports lose nothing

A reader of reports, which looks up what is said about each finding and which rules are described,
gets everything back that was written.

* `finding?_resultValue` — every finding is read back from its result;
* `firstSeen_namedRules` — the rules are those that findings name, each once, in the order in which
  they first occur;
* `describes_describe` — each with the description of the last rule of that identifier;
* `render_lossless` — all of this from the text of a report, so that different findings have
  different texts.
-/

set_option autoImplicit false

namespace LayerLint.Report.Sarif

open Data (Value)
open Data.Json

/-! ## Reading a report -/

/-- The first run. -/
def run? (report : Value) : Option Value := do
  let runs ← (← report.get? "runs").array?
  runs[0]?

/-- The results of the first run. -/
def results? (report : Value) : Option (List Value) := do
  let run ← run? report
  (← run.get? "results").array?

/-- The rules that the driver of the first run lists. -/
def driverRules? (report : Value) : Option (List Value) := do
  let tool ← (← run? report).get? "tool"
  let driver ← tool.get? "driver"
  (← driver.get? "rules").array?

/-- The kind of finding for a level. -/
def kind? : String → Option DiagnosticKind
  | "error" => some .violation
  | "note" => some .internalFault
  | _ => none

/-- A number that is not negative. -/
def nat? : Value → Option Nat
  | .int n => if 0 ≤ n then some n.toNat else none
  | _ => none

/-- The text of a message. -/
def text? (message : Value) : Option String := do
  (← message.get? "text").string?

/-- What a result says, with its first location. -/
def finding? (result : Value) : Option Finding := do
  let locations ← (← result.get? "locations").array?
  let place ← (← locations[0]?).get? "physicalLocation"
  let artifact ← place.get? "artifactLocation"
  let region ← place.get? "region"
  return {
    file := ← (← artifact.get? "uri").string?
    rule := ← (← result.get? "ruleId").string?
    kind := ← kind? (← (← result.get? "level").string?)
    message := ← text? (← result.get? "message")
    line := ← nat? (← region.get? "startLine")
    column := ← nat? (← region.get? "startColumn") }

/-- The identifier and the description of a rule that the driver lists. -/
def listedRule? (rule : Value) : Option (String × String) := do
  let id ← (← rule.get? "id").string?
  let description ← text? (← rule.get? "shortDescription")
  return (id, description)

/-- The findings that a report is about. -/
def findings? (report : Value) : Option (List Finding) := do
  (← results? report).mapM finding?

/-- The rules that a report describes. -/
def listedRules? (report : Value) : Option (List (String × String)) := do
  (← driverRules? report).mapM listedRule?

theorem kind?_level (kind : DiagnosticKind) : kind? (level kind) = some kind := by
  cases kind <;> rfl

theorem nat?_ofNat (n : Nat) : nat? (.ofNat n) = some n := by
  simp [nat?, Value.ofNat]

theorem text?_message (text : String) : text? (message text) = some text := by
  simp [text?, message, Value.get?, Value.string?]

theorem finding?_resultValue (f : Finding) : finding? (resultValue f) = some f := by
  simp [finding?, resultValue, locationValue, Value.get?, Value.array?, Value.string?,
    List.lookup_cons, kind?_level, nat?_ofNat, text?_message]

theorem listedRule?_ruleValue (rules : List Rule) (id : String) :
    listedRule? (ruleValue rules id) = some (id, describe rules id) := by
  simp [listedRule?, ruleValue, Value.get?, Value.string?, List.lookup_cons, text?_message]

theorem mapM_map_eq_some {α β γ : Type} {write : α → β} {read : β → Option γ} {f : α → γ}
    (h : ∀ a, read (write a) = some (f a)) (items : List α) :
    (items.map write).mapM read = some (items.map f) := by
  have hread : read ∘ write = fun a => pure (f a) := funext h
  rw [List.mapM_map, hread]
  exact List.mapM_pure

section

variable (findings : List Finding) (rules : List Rule)

theorem findings?_document : findings? (document findings rules) = some findings := by
  have hresults : results? (document findings rules) = some (findings.map resultValue) := by
    simp [results?, run?, document, Value.get?, Value.array?, List.lookup_cons]
  rw [findings?, hresults, Option.bind_eq_bind, Option.bind_some,
    mapM_map_eq_some finding?_resultValue, List.map_id']

theorem listedRules?_document :
    listedRules? (document findings rules) =
      some ((namedRules findings).map fun id => (id, describe rules id)) := by
  have hrules : driverRules? (document findings rules) =
      some ((namedRules findings).map (ruleValue rules)) := by
    simp [driverRules?, run?, document, toolValue, Value.get?, Value.array?, List.lookup_cons]
  rw [listedRules?, hrules, Option.bind_eq_bind, Option.bind_some,
    mapM_map_eq_some (listedRule?_ruleValue rules)]

/-- No number of a report keeps its text. -/
theorem exact_document : Exact (document findings rules) := by
  have hresult : ∀ f, Exact (resultValue f) := by
    simp [resultValue, locationValue, message, Value.ofNat]
  have hrule : ∀ id, Exact (ruleValue rules id) := by
    simp [ruleValue, message]
  simp [document, toolValue, hresult, hrule]

end

/-! ## The rules of the driver -/

/-- The names of a list, each once, in the order in which they first occur. -/
structure FirstSeen (names all : List String) : Prop where
  nodup : names.Nodup
  mem_iff : ∀ name, name ∈ names ↔ name ∈ all
  ordered : names.Pairwise fun a b => all.idxOf a < all.idxOf b

namespace FirstSeen

variable {names all : List String} {name : String}

/-- What comes later does not move what occurred before. -/
theorem ordered_append (h : FirstSeen names all) (more : List String) :
    names.Pairwise fun a b => (all ++ more).idxOf a < (all ++ more).idxOf b :=
  h.ordered.imp_of_mem fun ha hb hlt => by
    rwa [List.idxOf_append_of_mem ((h.mem_iff _).1 ha),
      List.idxOf_append_of_mem ((h.mem_iff _).1 hb)]

theorem again (h : FirstSeen names all) (hname : name ∈ names) :
    FirstSeen names (all ++ [name]) where
  nodup := h.nodup
  mem_iff other := by
    rw [List.mem_append, List.mem_singleton, ← h.mem_iff]
    exact ⟨.inl, fun hother => hother.elim id fun heq => heq ▸ hname⟩
  ordered := h.ordered_append _

theorem fresh (h : FirstSeen names all) (hname : name ∉ names) :
    FirstSeen (names ++ [name]) (all ++ [name]) where
  nodup := by
    refine List.nodup_append.2 ⟨h.nodup, List.nodup_singleton _, fun a ha b hb hab => ?_⟩
    rw [List.mem_singleton.1 hb] at hab
    exact hname (hab ▸ ha)
  mem_iff other := by rw [List.mem_append, List.mem_append, h.mem_iff]
  ordered := by
    refine List.pairwise_append.2 ⟨h.ordered_append _, List.pairwise_singleton _ _, ?_⟩
    intro a ha b hb
    have hmem : a ∈ all := (h.mem_iff a).1 ha
    have hnew : name ∉ all := fun hold => hname ((h.mem_iff name).2 hold)
    rw [List.mem_singleton.1 hb, List.idxOf_append_of_mem hmem, List.idxOf_append_of_notMem hnew]
    exact Nat.lt_add_right _ (List.idxOf_lt_length_of_mem hmem)

/-- There is one way to list what has been seen. -/
theorem unique {names' : List String} (h : FirstSeen names all) (h' : FirstSeen names' all) :
    names = names' := by
  have hperm : names.Perm names' := (List.perm_ext_iff_of_nodup h.nodup h'.nodup).2 fun name =>
    (h.mem_iff name).trans (h'.mem_iff name).symm
  refine hperm.eq_of_pairwise (fun a b _ _ hab hba => ?_) h.ordered h'.ordered
  exact absurd hab (Nat.lt_asymm hba)

end FirstSeen

/-- **The rules that findings name.** -/
theorem firstSeen_namedRules (findings : List Finding) :
    FirstSeen (namedRules findings) (findings.map Finding.rule) := by
  induction findings using List.reverseRecOn with
  | nil => exact ⟨List.nodup_nil, fun _ => Iff.rfl, List.Pairwise.nil⟩
  | append_singleton findings f ih =>
    rw [namedRules, List.foldl_append, List.foldl_cons, List.foldl_nil, ← namedRules,
      List.map_append, List.map_singleton]
    split
    · rename_i hknown
      exact ih.again (List.contains_iff_mem.1 hknown)
    · rename_i hnew
      exact ih.fresh fun hmem => hnew (List.contains_iff_mem.2 hmem)

/-- A text describes an identifier: it is the description of the last rule with the identifier, or
    the identifier if no rule has it. -/
def Describes (rules : List Rule) (id text : String) : Prop :=
  (∃ before rule after, rules = before ++ rule :: after ∧ rule.id = id ∧
    (∀ later ∈ after, later.id ≠ id) ∧ text = rule.description) ∨
  ((∀ rule ∈ rules, rule.id ≠ id) ∧ text = id)

theorem describes_describe (rules : List Rule) (id : String) :
    Describes rules id (describe rules id) := by
  unfold describe
  cases hfind : rules.reverse.find? fun rule => rule.id == id with
  | none =>
    refine .inr ⟨fun rule hrule hid => ?_, rfl⟩
    exact List.find?_eq_none.1 hfind rule (List.mem_reverse.2 hrule) (beq_iff_eq.2 hid)
  | some rule =>
    obtain ⟨hid, after, before, hrules, hafter⟩ := List.find?_eq_some_iff_append.1 hfind
    refine .inl ⟨before.reverse, rule, after.reverse, ?_, beq_iff_eq.1 hid, ?_, rfl⟩
    · rw [← List.reverse_reverse rules, hrules]
      simp
    · intro later hlater
      simpa using hafter later (List.mem_reverse.1 hlater)

/-! ## The whole report -/

/-- **A report loses nothing.**  The text is JSON, and reading it gives the findings, in their order
    and complete; and the rules that they name, each once, in the order in which they first occur,
    and described by the last of the given rules with that identifier, or by the identifier itself.
    So two reports with the same text are about the same findings. -/
theorem render_lossless (findings : List Finding) (rules : List Rule) :
    (∃ report listed,
      parse? (render findings rules) = some report ∧
      findings? report = some findings ∧
      listedRules? report = some listed ∧
      FirstSeen (listed.map Prod.fst) (findings.map Finding.rule) ∧
      ∀ entry ∈ listed, Describes rules entry.1 entry.2) ∧
    ∀ (others : List Finding) (rules' : List Rule),
      render others rules' = render findings rules → others = findings := by
  refine ⟨⟨document findings rules, _, parse?_pretty (exact_document findings rules),
    findings?_document findings rules, listedRules?_document findings rules, ?_, ?_⟩, ?_⟩
  · have hnames : ((namedRules findings).map fun id => (id, describe rules id)).map Prod.fst =
        namedRules findings := by
      rw [List.map_map]
      exact List.map_id _
    rw [hnames]
    exact firstSeen_namedRules findings
  · intro entry hentry
    obtain ⟨id, -, rfl⟩ := List.mem_map.1 hentry
    exact describes_describe rules id
  · intro others rules' hsame
    have hdocument : document others rules' = document findings rules :=
      eq_of_pretty_eq (exact_document _ _) (exact_document _ _) hsame
    have hothers := findings?_document others rules'
    rw [hdocument, findings?_document] at hothers
    exact (Option.some.inj hothers).symm

/-- Quotes, backslashes, controls, a character beyond the first plane and the largest number of 64
    bits; the first rule occurs again, and two of the given rules have its identifier. -/
theorem render_lossless_escapes :
    let finding : Finding :=
      { file := "src/\"a\"\\😀.php", rule := "r", kind := .internalFault,
        message := "\x00\x1f\n\x7f\u2028", line := 18446744073709551615, column := 0 }
    let findings := [finding, { finding with rule := "q", kind := .violation }, finding]
    let described (text : String) : Rule :=
      { id := "r", name := "r", subject := .classDecl, description := text,
        judge := fun _ _ _ => pure (.ok []) }
    let rules := [described "first", described "last"]
    (∃ report, parse? (render findings rules) = some report ∧ findings? report = some findings) ∧
      (namedRules findings).map (describe rules) = ["last", "q"] ∧
      render [finding] rules ≠ render findings rules := by
  intro finding findings described rules
  obtain ⟨⟨report, listed, hparse, hfindings, -⟩, hunique⟩ := render_lossless findings rules
  refine ⟨⟨report, hparse, hfindings⟩, by decide, fun hsame => ?_⟩
  exact absurd (hunique [finding] rules hsame) (by decide)

end LayerLint.Report.Sarif
