import LayerLint.Syntax.Cursor

/-!
# The walks go through a tree in pre-order

Two nodes of a tree may look the same, so a node is known here by the way to it: the number of the
child at each level.  The ways are compared as words are, and a way comes before those that it is the
beginning of.  This order is pre-order.

* `Node.ways` — the ways to all nodes of a tree, each once (`mem_ways`) and in order
  (`pairwise_ways`);
* `leads_ways` — a search goes from way to way, with the length of the way in its counter, and ends
  after the last one, whatever stands around the node it started on;
* `after_round_eq` — so the state of a search is known after any number of rounds;
* `stepWithin_length` — the walk without a counter makes the same steps from the root;
* `walks_in_preorder` — the three walks meet the nodes of a tree once each, in pre-order.
-/

set_option autoImplicit false

namespace LayerLint.Syntax

/-! ## Walks step by step -/

section

variable {α : Type} {step : α → Option α}

/-- The state after some rounds, none if the walk is over by then. -/
def after (step : α → Option α) : Nat → α → Option α
  | 0, a => some a
  | k + 1, a => (step a).bind (after step k)

/-- From the first state the steps lead through the states of the list to the last one. -/
def Leads (step : α → Option α) : Option α → List α → Option α → Prop
  | first, [], last => first = last
  | first, a :: as, last => first = some a ∧ Leads step (step a) as last

theorem getElem?_filterMap {β : Type} {f : α → Option β} {as : List α}
    (h : ∀ a ∈ as, (f a).isSome = true) (k : Nat) : (as.filterMap f)[k]? = as[k]?.bind f := by
  induction as generalizing k with
  | nil => rfl
  | cons a as ih =>
    obtain ⟨ha, has⟩ := List.forall_mem_cons.1 h
    obtain ⟨b, hb⟩ := Option.isSome_iff_exists.1 ha
    rw [List.filterMap_cons_some hb]
    cases k with
    | zero => exact hb.symm
    | succ k => exact ih has k

theorem Leads.append {first middle last : Option α} {as bs : List α}
    (ha : Leads step first as middle) (hb : Leads step middle bs last) :
    Leads step first (as ++ bs) last := by
  induction as generalizing first with
  | nil =>
    cases ha
    exact hb
  | cons a as ih => exact ⟨ha.1, ih ha.2⟩

/-- A walk that ends after the states of a list is at one of them after each number of rounds. -/
theorem Leads.after_eq {first : Option α} {as : List α} (h : Leads step first as none) (k : Nat) :
    first.bind (after step k) = as[k]? := by
  induction as generalizing first k with
  | nil =>
    cases h
    rfl
  | cons a as ih =>
    rw [h.1, Option.bind_some]
    cases k with
    | zero => rfl
    | succ k => exact ih h.2 k

end

/-! ## Ways -/

namespace Node

/-- The node at the end of a way. -/
def at? (n : Node) : List Nat → Option Node
  | [] => some n
  | i :: way => n.children[i]?.bind fun c => c.at? way

mutual

/-- The ways to the nodes of a tree, each before what is below it. -/
def ways : Node → List (List Nat)
  | mk _ _ _ _ cs => [] :: waysAll 0 cs

/-- The ways to the nodes of several children one after another, the first of which has a number. -/
def waysAll (i : Nat) : List Node → List (List Nat)
  | [] => []
  | n :: ns => n.ways.map (i :: ·) ++ waysAll (i + 1) ns

end

mutual

theorem mem_ways : ∀ (n : Node) {way : List Nat}, way ∈ n.ways ↔ (n.at? way).isSome = true
  | mk k r s e cs, way => by
    rw [ways, List.mem_cons, mem_waysAll cs]
    cases way with
    | nil => simp [at?]
    | cons i way =>
      simp only [Nat.zero_add, List.cons.injEq, at?, children, Option.isSome_bind, false_or,
        List.cons_ne_nil]
      constructor
      · rintro ⟨_, _, ⟨rfl, rfl⟩, hsome⟩
        exact hsome
      · exact fun hsome => ⟨i, way, ⟨rfl, rfl⟩, hsome⟩

theorem mem_waysAll : ∀ (ns : List Node) {i : Nat} {way : List Nat}, way ∈ waysAll i ns ↔
    ∃ j below, way = (i + j) :: below ∧ (ns[j]?.any fun n => (n.at? below).isSome) = true
  | [], i, way => by simp [waysAll]
  | n :: ns, i, way => by
    rw [waysAll, List.mem_append, List.mem_map, mem_waysAll ns]
    constructor
    · rintro (⟨below, hbelow, rfl⟩ | ⟨j, below, rfl, hbelow⟩)
      · exact ⟨0, below, rfl, by simpa using (mem_ways n).1 hbelow⟩
      · exact ⟨j + 1, below, by rw [Nat.add_assoc, Nat.add_comm 1], by simpa using hbelow⟩
    · rintro ⟨j, below, rfl, hbelow⟩
      cases j with
      | zero => exact .inl ⟨below, (mem_ways n).2 (by simpa using hbelow), rfl⟩
      | succ j =>
        exact .inr ⟨j, below, by rw [Nat.add_assoc, Nat.add_comm 1], by simpa using hbelow⟩

end

mutual

theorem pairwise_ways : ∀ n : Node, n.ways.Pairwise (List.Lex (· < ·))
  | mk k r s e cs => by
    rw [ways, List.pairwise_cons]
    refine ⟨fun way hway => ?_, pairwise_waysAll cs 0⟩
    obtain ⟨j, below, rfl, -⟩ := (mem_waysAll cs).1 hway
    exact List.Lex.nil

theorem pairwise_waysAll : ∀ (ns : List Node) (i : Nat), (waysAll i ns).Pairwise (List.Lex (· < ·))
  | [], _ => List.Pairwise.nil
  | n :: ns, i => by
    rw [waysAll, List.pairwise_append]
    refine ⟨?_, pairwise_waysAll ns (i + 1), fun way hway way' hway' => ?_⟩
    · exact List.pairwise_map.2 ((pairwise_ways n).imp List.Lex.cons)
    · obtain ⟨below, -, rfl⟩ := List.mem_map.1 hway
      obtain ⟨j, below', rfl, -⟩ := (mem_waysAll ns).1 hway'
      exact List.Lex.rel (by omega)

end

theorem filterMap_at?_map_cons {parent n : Node} {i : Nat} (h : parent.children[i]? = some n)
    (ways : List (List Nat)) : (ways.map (i :: ·)).filterMap parent.at? = ways.filterMap n.at? := by
  simp only [List.filterMap_map, Function.comp_def, at?, h, Option.bind_some]

mutual

theorem filterMap_at?_ways : ∀ n : Node, n.ways.filterMap n.at? = n.preorder
  | mk k r s e cs => by
    have hnode : (mk k r s e cs).children = [] ++ cs := rfl
    have hbelow := filterMap_at?_waysAll cs hnode
    rw [List.length_nil] at hbelow
    rw [ways, preorder, List.filterMap_cons, at?, hbelow]

theorem filterMap_at?_waysAll : ∀ (ns : List Node) {parent : Node} {before : List Node},
    parent.children = before ++ ns →
      (waysAll before.length ns).filterMap parent.at? = preorderAll ns
  | [], _, _, _ => rfl
  | n :: ns, parent, before, h => by
    have hchild : parent.children[before.length]? = some n := by simp [h]
    have hlater := filterMap_at?_waysAll ns (h.trans (List.append_cons before n ns))
    rw [List.length_append, List.length_singleton] at hlater
    rw [waysAll, preorderAll, List.filterMap_append, filterMap_at?_map_cons hchild, hlater,
      filterMap_at?_ways n]

end

end Node

/-! ## The search -/

namespace Cursor

/-- Goes to the child with a number. -/
def child? (c : Cursor) (i : Nat) : Option Cursor :=
  c.node.children[i]?.map fun n => ⟨n, ⟨c.node, c.node.children.drop (i + 1)⟩ :: c.frames⟩

/-- Goes down a way. -/
def go? (c : Cursor) : List Nat → Option Cursor
  | [] => some c
  | i :: way => (c.child? i).bind fun d => d.go? way

/-- All that is above the start stays above whatever is reached from it. -/
theorem frames_go? {c d : Cursor} {way : List Nat} (h : c.go? way = some d) :
    ∃ inner, d.frames = inner ++ c.frames ∧ inner.length = way.length := by
  induction way generalizing c with
  | nil =>
    cases h
    exact ⟨[], rfl, rfl⟩
  | cons i way ih =>
    obtain ⟨e, he, hd⟩ := Option.bind_eq_some_iff.1 h
    obtain ⟨n, -, rfl⟩ := Option.map_eq_some_iff.1 he
    obtain ⟨inner, hframes, hlength⟩ := ih hd
    exact ⟨inner ++ [_], by rw [hframes, List.append_assoc]; rfl, by simp [hlength]⟩

theorem node_go? (c : Cursor) (way : List Nat) : (c.go? way).map node = c.node.at? way := by
  induction way generalizing c with
  | nil => rfl
  | cons i way ih =>
    rw [go?, Node.at?, child?]
    cases c.node.children[i]? with
    | none => rfl
    | some n => exact ih _

/-- One round of a search: from a node and the counter to the next ones. -/
def round (p : Cursor × Nat) : Option (Cursor × Nat) :=
  p.1.stepWithin p.2

/-- Where a search stands that has gone down a way, with the length of the way in its counter. -/
def stop? (c : Cursor) (depth : Nat) (way : List Nat) : Option (Cursor × Nat) :=
  (c.go? way).map fun d => (d, depth + way.length)

theorem stop?_cons {c d : Cursor} {i : Nat} (h : c.child? i = some d) (depth : Nat)
    (way : List Nat) : c.stop? depth (i :: way) = d.stop? (depth + 1) way := by
  rw [stop?, stop?, go?, h, Option.bind_some, List.length_cons, Nat.add_right_comm, Nat.add_assoc]

/-- A step down is a step to the first of the siblings that are to come one level further down. -/
theorem stepWithin_eq (n : Node) (frames : List Frame) (depth : Nat) :
    stepWithin ⟨n, frames⟩ depth = climbWithin (depth + 1) ⟨n, ⟨n, n.children⟩ :: frames⟩ := by
  cases hchildren : n.children with
  | nil => simp [stepWithin, firstChild?, climbWithin, nextSibling?, parent?, hchildren]
  | cons m later => simp [stepWithin, firstChild?, climbWithin, nextSibling?, hchildren]

mutual

/-- **From a node, a search goes down the ways to all that is below it, and then climbs.** -/
theorem leads_ways : ∀ (n : Node) (frames : List Frame) (depth : Nat),
    Leads round (some (⟨n, frames⟩, depth)) (n.ways.filterMap (stop? ⟨n, frames⟩ depth))
      (climbWithin depth ⟨n, frames⟩)
  | .mk k r s e cs, frames, depth => by
    have hnode : (Node.mk k r s e cs).children = [] ++ cs := rfl
    have hbelow := leads_waysAll cs hnode frames depth
    rw [Node.ways]
    refine ⟨rfl, ?_⟩
    rw [round, stepWithin_eq]
    exact hbelow

/-- After some of the children of a node, a search goes down the ways to the other ones. -/
theorem leads_waysAll : ∀ (ns : List Node) {parent : Node} {before : List Node},
    parent.children = before ++ ns → ∀ (frames : List Frame) (depth : Nat),
      Leads round (climbWithin (depth + 1) ⟨parent, ⟨parent, ns⟩ :: frames⟩)
        ((Node.waysAll before.length ns).filterMap (stop? ⟨parent, frames⟩ depth))
        (climbWithin depth ⟨parent, frames⟩)
  | [], _, _, _, _, _ => rfl
  | n :: ns, parent, before, h, frames, depth => by
    have hchild : child? ⟨parent, frames⟩ before.length = some ⟨n, ⟨parent, ns⟩ :: frames⟩ := by
      simp [child?, h]
    have hlater := leads_waysAll ns (h.trans (List.append_cons before n ns)) frames depth
    rw [List.length_append, List.length_singleton] at hlater
    rw [Node.waysAll, List.filterMap_append]
    -- the ways through the first child are its own ways, with the counter one higher
    simp only [List.filterMap_map, Function.comp_def, stop?_cons hchild]
    exact (leads_ways n (⟨parent, ns⟩ :: frames) (depth + 1)).append hlater

end

/-- **The rounds of a search are the ways below its start.**  Its counter is the length of the way. -/
theorem after_round_eq (start : Cursor) (k : Nat) :
    after round k (start, 0) =
      start.node.ways[k]?.bind fun way => (start.go? way).map fun d => (d, way.length) := by
  have hleads := leads_ways start.node start.frames 0
  have hstop : start.stop? 0 = fun way => (start.go? way).map fun d => (d, way.length) := by
    funext way
    rw [stop?, Nat.zero_add]
  have hstops : ∀ way ∈ start.node.ways, (start.stop? 0 way).isSome = true := by
    intro way hway
    rw [stop?, Option.isSome_map, ← Option.isSome_map (f := node), node_go?]
    exact (Node.mem_ways _).1 hway
  rw [← hstop, ← getElem?_filterMap hstops]
  exact hleads.after_eq k

/-! ## Without a counter -/

theorem climbWithin_length (n : Node) (frames : List Frame) :
    climbWithin frames.length ⟨n, frames⟩ = (climb frames).map fun d => (d, d.frames.length) := by
  induction frames generalizing n with
  | nil => rfl
  | cons f frames ih =>
    obtain ⟨parent, later⟩ := f
    cases later with
    | nil => simpa [climbWithin, nextSibling?, parent?, climb] using ih parent
    | cons m later => simp [climbWithin, nextSibling?, climb]

/-- **The walk without a counter makes the steps of a search whose counter says how far the way up
    is.** -/
theorem stepWithin_length (c : Cursor) :
    c.stepWithin c.frames.length = c.next?.map fun d => (d, d.frames.length) := by
  obtain ⟨n, frames⟩ := c
  rw [stepWithin, next?]
  cases hchildren : n.children with
  | nil => simpa [firstChild?, hchildren] using climbWithin_length n frames
  | cons m later => simp [firstChild?, hchildren]

theorem after_round (k : Nat) (c : Cursor) :
    after round k (c, c.frames.length) = (after next? k c).map fun d => (d, d.frames.length) := by
  induction k generalizing c with
  | zero => rfl
  | succ k ih =>
    rw [after, after, round, stepWithin_length]
    cases c.next? with
    | none => rfl
    | some d => exact ih d

theorem after_next?_eq (n : Node) (k : Nat) :
    after next? k (ofNode n) = n.ways[k]?.bind (ofNode n).go? := by
  -- on the root the counter of a search is zero, so both walks start alike
  have hround := after_round k (ofNode n)
  rw [show (ofNode n).frames.length = 0 from rfl, after_round_eq] at hround
  have hcursors := congrArg (Option.map Prod.fst) hround
  simpa [Option.map_bind, Function.comp_def, ofNode] using hcursors.symm

/-- **The walks go through a tree in pre-order.**  Let the search start on a node, whatever stands
    around it.  The ways to all that is below, in order, are the rounds of the search, with the length
    of the way in its counter; so the search is over after the last way, and it leaves what is around
    its start alone.  What is found are the accepted nodes at the ends of the ways, or the first of
    them, and the walk without a counter makes the same rounds. -/
theorem walks_in_preorder (start : Cursor) :
    ∃ ways : List (List Nat),
      ways.Pairwise (List.Lex (· < ·)) ∧
      (∀ way, way ∈ ways ↔ (start.node.at? way).isSome = true) ∧
      (∀ k, after round k (start, 0) =
        ways[k]?.bind fun way => (start.go? way).map fun d => (d, way.length)) ∧
      after round ways.length (start, 0) = none ∧
      (∀ k d depth, after round k (start, 0) = some (d, depth) →
        ∃ inner, d.frames = inner ++ start.frames ∧ inner.length = depth) ∧
      (∀ accept,
        start.node.findAll accept = (ways.filterMap start.node.at?).filter accept ∧
        start.node.findFirst accept = (start.node.findAll accept).head? ∧
        (start.node.findFirst accept = none ↔ start.node.findAll accept = [])) ∧
      (∀ k, after next? k (ofNode start.node) = ways[k]?.bind (ofNode start.node).go?) ∧
      start.node.visitOrder.map Site.node = start.node.findAll fun _ => true := by
  have hfirst : ∀ accept, start.node.findFirst accept = (start.node.findAll accept).head? := by
    intro accept
    rw [Node.findFirst_eq_find_preorder, Node.findAll_eq_filter_preorder, List.head?_filter]
  refine ⟨start.node.ways, Node.pairwise_ways _, fun way => Node.mem_ways _, after_round_eq start, ?_,
    ?_, ?_, after_next?_eq start.node, ?_⟩
  · rw [after_round_eq, List.getElem?_eq_none (Nat.le_refl _), Option.bind_none]
  · intro k d depth hround
    rw [after_round_eq] at hround
    obtain ⟨way, -, hstop⟩ := Option.bind_eq_some_iff.1 hround
    obtain ⟨_, hgo, hd⟩ := Option.map_eq_some_iff.1 hstop
    cases hd
    exact frames_go? hgo
  · intro accept
    refine ⟨?_, hfirst accept, by rw [hfirst, List.head?_eq_none_iff]⟩
    rw [Node.findAll_eq_filter_preorder, Node.filterMap_at?_ways]
  · rw [Node.visitOrder_eq_sites, Node.map_node_sites, Node.findAll_eq_filter_preorder]
    exact (List.filter_eq_self.2 fun _ _ => rfl).symm

end Cursor

end LayerLint.Syntax
