import LayerLint.Convention.PartialLoad.HookReads
import LayerLint.Proofs.Path

/-!
# The memory of hook reads is invisible

The fields that the hooks of a directory read are worked out at most once and kept.  On a file system
that stands still nobody can tell: what the memory answers is fixed before the first question.

* `collect_congr` — the fields of a directory depend on the components of its path only, which is
  what the memory keeps them by;
* `required_spec` — a question is answered by `reply`, and changes no answer;
* `run_spec` — the same for any computation that asks questions;
* `Determines` — a computation that is known by what it gives for all possible answers.  Such
  computations compose (`Determines.bind`), so the memory has to be looked at here only.
-/

set_option autoImplicit false

namespace LayerLint

/-! ## Equal components, equal fields -/

namespace HookReads

theorem ofPath_congr {fs : FileSystem} {p q : Path} (h : fs.find p = fs.find q) :
    ofPath fs p = ofPath fs q := by
  simp only [ofPath, SourceFile.read, FileSystem.readText, h]
  split <;> rename_i hp <;> split at hp <;> cases hp <;> rfl

/-- An entry is a hook file by its kind and its extension. -/
def isHookFile (fs : FileSystem) (p : Path) : Bool :=
  fs.isFile p && p.extension? == some "php"

theorem isHookFile_congr {fs : FileSystem} {p q : Path} (hfind : fs.find p = fs.find q)
    (h : p.components = q.components) : isHookFile fs p = isHookFile fs q := by
  simp only [isHookFile, FileSystem.isFile, Path.extension?, Path.fileName?, hfind, h]

theorem le_congr {p q p' q' : Path} (hp : p.components = p'.components)
    (hq : q.components = q'.components) : p.le q = p'.le q' := by
  simp only [Path.le, Path.compare, hp, hq]

/-- The hook files of a directory as entries of it, in the order of their paths. -/
theorem hookFiles_eq (fs : FileSystem) (dir : Path) :
    hookFiles fs dir =
      (((fs.list dir).filter fun e => isHookFile fs (dir.join ⟨e.1⟩)).mergeSort fun a b =>
        (dir.join ⟨a.1⟩).le (dir.join ⟨b.1⟩)).map fun e => dir.join ⟨e.1⟩ := by
  rw [hookFiles, List.filter_map]
  refine (List.map_mergeSort ?_).symm
  intro a _ b _
  rfl

/-- **The fields of a directory depend on the components of its path only.** -/
theorem collect_congr (fs : FileSystem) {p q : Path} (h : p.components = q.components) :
    collect fs p = collect fs q := by
  by_cases hp : p.text = ""
  · have hq : q.text = "" := by
      rw [← Path.components_eq_nil_iff, ← h, Path.components_eq_nil_iff]
      exact hp
    have hpq : p = q := by cases p; cases q; simp_all
    rw [hpq]
  · have hfind := fun name => fs.find_join_congr h hp name
    have hcomponents := fun name => Path.components_join_congr h hp name
    have hfiles : (fun e : String × Entry => isHookFile fs (p.join ⟨e.1⟩)) =
        fun e => isHookFile fs (q.join ⟨e.1⟩) :=
      funext fun e => isHookFile_congr (hfind _) (hcomponents _)
    have horder : (fun a b : String × Entry => (p.join ⟨a.1⟩).le (p.join ⟨b.1⟩)) =
        fun a b => (q.join ⟨a.1⟩).le (q.join ⟨b.1⟩) :=
      funext fun a => funext fun b => le_congr (hcomponents _) (hcomponents _)
    have hreads : (fun e : String × Entry => ofPath fs (p.join ⟨e.1⟩)) =
        fun e => ofPath fs (q.join ⟨e.1⟩) :=
      funext fun e => ofPath_congr (hfind _)
    simp only [collect, hookFiles_eq, List.foldl_map, fs.list_congr h, hfiles, horder]
    simp only [fun e : String × Entry => congrFun hreads e]

end HookReads

/-! ## Answers -/

namespace HookMemo

theorem cell?_congr (memo : HookMemo) {p q : Path} (h : p.components = q.components) :
    memo.cell? p = memo.cell? q := by
  simp only [cell?, h]

theorem cell?_ensure (memo : HookMemo) (dir other : Path) :
    (memo.ensure dir).cell? other =
      if other.components = dir.components then some ((memo.cell? dir).getD none)
      else memo.cell? other := by
  unfold ensure
  split
  · rename_i cell hcell
    split
    · rename_i hsame
      rw [cell?_congr memo hsame, hcell]
      rfl
    · rfl
  · rename_i hnone
    rw [hnone]
    by_cases hsame : other.components = dir.components
    · simp [cell?, hsame]
    · simp [cell?, hsame, List.lookup_cons, beq_eq_false_iff_ne.2 hsame]

theorem cell?_fill (memo : HookMemo) (dir : Path) (fields : List String) (other : Path) :
    (memo.fill dir fields).cell? other =
      if other.components = dir.components then
        (memo.cell? other).map fun cell => some (cell.getD fields)
      else memo.cell? other := by
  obtain ⟨cells⟩ := memo
  induction cells with
  | nil => simp [fill, cell?]
  | cons c cells ih =>
    simp only [fill, cell?] at ih ⊢
    rw [List.map_cons, List.lookup_cons, List.lookup_cons]
    by_cases hc : c.1 = dir.components
    · rw [if_pos (by simp [hc])]
      by_cases hother : other.components = dir.components
      · simp [hc, hother]
      · rw [ih]
        simp [hc, hother, beq_eq_false_iff_ne.2 hother]
    · rw [if_neg (by simpa using hc)]
      by_cases hsame : other.components = c.1
      · simp [hsame, hc]
      · rw [ih]
        simp [beq_eq_false_iff_ne.2 hsame]

/-- What a memory answers about a directory: what it holds, or else what would be collected. -/
def reply (fs : FileSystem) (memo : HookMemo) (dir : Path) : List String :=
  match memo.cell? dir with
  | some (some fields) => fields
  | _ => HookReads.collect fs dir

@[simp] theorem reply_empty (fs : FileSystem) : reply fs empty = HookReads.collect fs := rfl

/-- Making an empty cell changes no answer. -/
theorem reply_ensure (fs : FileSystem) (memo : HookMemo) (dir : Path) :
    reply fs (memo.ensure dir) = reply fs memo := by
  funext other
  simp only [reply, cell?_ensure]
  by_cases hsame : other.components = dir.components
  · rw [if_pos hsame, cell?_congr memo hsame]
    cases memo.cell? dir <;> rfl
  · rw [if_neg hsame]

/-- Filling a cell with what would be collected changes no answer. -/
theorem reply_fill (fs : FileSystem) (memo : HookMemo) (dir : Path) :
    reply fs (memo.fill dir (HookReads.collect fs dir)) = reply fs memo := by
  funext other
  simp only [reply, cell?_fill]
  by_cases hsame : other.components = dir.components
  · rw [if_pos hsame, HookReads.collect_congr fs hsame]
    cases memo.cell? other with
    | none => rfl
    | some cell => cases cell <;> rfl
  · rw [if_neg hsame]

theorem run_required (fs : FileSystem) (dir : Path) (memo : HookMemo) :
    (required fs dir).run memo =
      match (memo.ensure dir).cell? dir with
      | some (some fields) => (fields, memo.ensure dir)
      | _ => (HookReads.collect fs dir, (memo.ensure dir).fill dir (HookReads.collect fs dir)) := by
  have hensured : (required fs dir).run memo =
      StateT.run
        (match (memo.ensure dir).cell? dir with
          | some (some fields) => (return fields : StateM HookMemo (List String))
          | _ => do
            modify fun memo => memo.fill dir (HookReads.collect fs dir)
            return HookReads.collect fs dir)
        (memo.ensure dir) := rfl
  rw [hensured]
  rcases (memo.ensure dir).cell? dir with _ | _ | fields <;> rfl

/-- **A question is answered by `reply`, and changes no answer.** -/
theorem required_spec (fs : FileSystem) (dir : Path) (memo : HookMemo) :
    ((required fs dir).run memo).1 = memo.reply fs dir ∧
      reply fs ((required fs dir).run memo).2 = reply fs memo := by
  have hreply := reply_ensure fs memo dir
  rw [run_required, ← hreply]
  split
  · rename_i fields hcell
    exact ⟨by simp only [reply, hcell], rfl⟩
  · rename_i hcell
    refine ⟨?_, reply_fill fs _ dir⟩
    simp only [reply]

end HookMemo

/-! ## Computations that ask -/

namespace HookInquiry

variable {α β : Type}

/-- The value of a computation for given answers. -/
def answer (fields : Path → List String) : HookInquiry α → α
  | done value => value
  | ask dir next => answer fields (next (fields dir))

@[simp] theorem answer_pure (fields : Path → List String) (value : α) :
    (pure value : HookInquiry α).answer fields = value := rfl

@[simp] theorem answer_bind (fields : Path → List String) (next : α → HookInquiry β) :
    ∀ inquiry : HookInquiry α,
      (inquiry >>= next).answer fields = (next (inquiry.answer fields)).answer fields
  | done _ => rfl
  | ask dir rest => answer_bind fields next (rest (fields dir))

/-- **Carrying out a computation gives its value for the answers of the memory, and changes none
    of them.** -/
theorem run_spec (fs : FileSystem) : ∀ (inquiry : HookInquiry α) (memo : HookMemo),
    ((inquiry.run fs).run memo).1 = inquiry.answer (memo.reply fs) ∧
      HookMemo.reply fs ((inquiry.run fs).run memo).2 = memo.reply fs
  | done value, memo => ⟨rfl, rfl⟩
  | ask dir next, memo => by
    obtain ⟨hfields, hmemo⟩ := HookMemo.required_spec fs dir memo
    have hrun : ((ask dir next).run fs).run memo =
        ((next (memo.reply fs dir)).run fs).run ((HookMemo.required fs dir).run memo).2 := by
      rw [← hfields]
      rfl
    obtain ⟨hvalue, hkept⟩ := run_spec fs (next (memo.reply fs dir))
      ((HookMemo.required fs dir).run memo).2
    rw [hrun, hvalue, hkept, hmemo]
    exact ⟨rfl, rfl⟩

end HookInquiry

namespace HookMemo

variable {α β : Type}

/-- The computation gives what `value` says for the answers of the memory, and changes none of
    them. -/
def Determines (fs : FileSystem) (act : StateM HookMemo α)
    (value : (Path → List String) → α) : Prop :=
  ∀ memo : HookMemo, (act.run memo).1 = value (memo.reply fs) ∧
    reply fs (act.run memo).2 = reply fs memo

namespace Determines

variable {fs : FileSystem}

theorem pure (a : α) : Determines fs (Pure.pure a) fun _ => a :=
  fun _ => ⟨rfl, rfl⟩

theorem bind {act : StateM HookMemo α} {value : (Path → List String) → α}
    {next : α → StateM HookMemo β} {nextValue : α → (Path → List String) → β}
    (h : Determines fs act value) (hnext : ∀ a, Determines fs (next a) (nextValue a)) :
    Determines fs (act >>= next) fun fields => nextValue (value fields) fields := by
  intro memo
  obtain ⟨hvalue, hkept⟩ := h memo
  obtain ⟨hvalue', hkept'⟩ := hnext (act.run memo).1 (act.run memo).2
  have hrun : (act >>= next).run memo = (next (act.run memo).1).run (act.run memo).2 := rfl
  rw [hrun, hvalue', hkept', hkept, hvalue]
  exact ⟨rfl, rfl⟩

theorem inquiry (inquiry : HookInquiry α) :
    Determines fs (inquiry.run fs) fun fields => inquiry.answer fields :=
  inquiry.run_spec fs

end Determines

end HookMemo

end LayerLint
