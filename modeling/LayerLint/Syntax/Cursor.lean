import LayerLint.Syntax.Node

/-!
# Walking a tree

A cursor stands on one node of a tree and remembers the way back to the node it started from. Two
walks use it: a search below a node, which counts how deep it is and so never leaves its start, and
the visit of a whole file, which ends when there is no way up. Neither grows the call stack with the
depth of the tree.

* `findAll_eq_filter_preorder`: a search finds the accepted nodes of the subtree in pre-order.
* `findFirst_eq_find_preorder`: a search for one node finds the first of them.
* `visitOrder_eq_sites`: the visit meets every node once, in the same order.
-/

set_option autoImplicit false

namespace LayerLint.Syntax

/-- A node together with the nodes that enclose it, innermost first. -/
structure Site where
  node : Node
  ancestors : List Node
deriving Inhabited

namespace Node

mutual

/-- The node and what is below it in pre-order, each with the nodes that enclose it. -/
def sites (outer : List Node) : Node → List Site
  | mk k r s e cs => ⟨mk k r s e cs, outer⟩ :: sitesAll (mk k r s e cs :: outer) cs

/-- The sites of several trees with the same enclosing nodes. -/
def sitesAll (outer : List Node) : List Node → List Site
  | [] => []
  | n :: ns => sites outer n ++ sitesAll outer ns

end

theorem sites_eq (outer : List Node) (n : Node) :
    n.sites outer = ⟨n, outer⟩ :: sitesAll (n :: outer) n.children := by
  cases n
  simp [sites, children]

mutual

theorem map_node_sites (outer : List Node) : ∀ n : Node, (n.sites outer).map Site.node = n.preorder
  | mk k r s e cs => by simp [sites, preorder, map_node_sitesAll _ cs]

theorem map_node_sitesAll (outer : List Node) :
    ∀ ns : List Node, (sitesAll outer ns).map Site.node = preorderAll ns
  | [] => rfl
  | n :: ns => by
    simp [sitesAll, preorderAll, map_node_sites outer n, map_node_sitesAll outer ns]

end

end Node

/-! ## Cursors -/

/-- A node on the way back, with the siblings that follow the child the cursor went through. -/
structure Frame where
  parent : Node
  later : List Node

/-- A position in a tree. -/
structure Cursor where
  node : Node
  frames : List Frame

namespace Cursor

/-- A cursor that cannot leave the node it starts on. -/
def ofNode (n : Node) : Cursor :=
  ⟨n, []⟩

/-- The node with the nodes that enclose it. -/
def site (c : Cursor) : Site :=
  ⟨c.node, c.frames.map Frame.parent⟩

/-- Goes to the first child. -/
def firstChild? (c : Cursor) : Option Cursor :=
  match c.node.children with
  | [] => none
  | n :: later => some ⟨n, ⟨c.node, later⟩ :: c.frames⟩

/-- Goes to the next sibling. -/
def nextSibling? (c : Cursor) : Option Cursor :=
  match c.frames with
  | ⟨parent, n :: later⟩ :: frames => some ⟨n, ⟨parent, later⟩ :: frames⟩
  | _ => none

/-- Goes back to the parent. -/
def parent? (c : Cursor) : Option Cursor :=
  match c.frames with
  | ⟨parent, _⟩ :: frames => some ⟨parent, frames⟩
  | [] => none

/-- The sites that lie ahead on the way back. -/
def pending : List Frame → List Site
  | [] => []
  | f :: fs => Node.sitesAll (f.parent :: fs.map Frame.parent) f.later ++ pending fs

/-- The sites that lie ahead, the present one first. -/
def remaining (c : Cursor) : List Site :=
  c.node.sites (c.frames.map Frame.parent) ++ pending c.frames

theorem remaining_ofNode (n : Node) : (ofNode n).remaining = n.sites [] := by
  simp [ofNode, remaining, pending]

theorem remaining_firstChild {c d : Cursor} (h : c.firstChild? = some d) :
    c.remaining = c.site :: d.remaining := by
  unfold firstChild? at h
  split at h
  · simp at h
  · rename_i n later hc
    cases h
    simp [remaining, pending, site, Node.sites_eq _ c.node, hc, Node.sitesAll]

theorem remaining_leaf {c : Cursor} (h : c.firstChild? = none) :
    c.remaining = c.site :: pending c.frames := by
  unfold firstChild? at h
  split at h
  · rename_i hc
    simp [remaining, site, Node.sites_eq _ c.node, hc, Node.sitesAll]
  · simp at h

/-! ## Going on, counting the depth -/

/-- The next sibling of the nearest node that has one, at most `depth` levels up. -/
def climbWithin : Nat → Cursor → Option (Cursor × Nat)
  | 0, _ => none
  | depth + 1, c =>
    match c.nextSibling? with
    | some d => some (d, depth + 1)
    | none =>
      match c.parent? with
      | some p => climbWithin depth p
      | none => none

/-- The next node in pre-order that is still below the start, with its depth. -/
def stepWithin (c : Cursor) (depth : Nat) : Option (Cursor × Nat) :=
  match c.firstChild? with
  | some d => some (d, depth + 1)
  | none => climbWithin depth c

theorem climbWithin_spec (depth : Nat) (c : Cursor) (h : c.frames.length = depth) :
    match climbWithin depth c with
    | some (d, k) => d.frames.length = k ∧ pending c.frames = d.remaining
    | none => pending c.frames = [] := by
  induction depth generalizing c with
  | zero =>
    have : c.frames = [] := List.length_eq_zero_iff.1 h
    simp [climbWithin, this, pending]
  | succ depth ih =>
    match hf : c.frames, h with
    | ⟨parent, []⟩ :: frames, h =>
      have hlen : frames.length = depth := by simpa using h
      have := ih ⟨parent, frames⟩ hlen
      simpa [climbWithin, nextSibling?, parent?, hf, pending, Node.sitesAll] using this
    | ⟨parent, n :: later⟩ :: frames, h =>
      have hlen : frames.length = depth := by simpa using h
      simp [climbWithin, nextSibling?, hf, hlen, pending, remaining, Node.sitesAll]

theorem stepWithin_spec (c : Cursor) (depth : Nat) (h : c.frames.length = depth) :
    match c.stepWithin depth with
    | some (d, k) => d.frames.length = k ∧ c.remaining = c.site :: d.remaining
    | none => c.remaining = [c.site] := by
  unfold stepWithin
  cases hc : c.firstChild? with
  | some d =>
    refine ⟨?_, remaining_firstChild hc⟩
    unfold firstChild? at hc
    split at hc
    · simp at hc
    · cases hc
      simp [h]
  | none =>
    have := climbWithin_spec depth c h
    rw [remaining_leaf hc]
    cases hd : climbWithin depth c with
    | none => simpa [hd] using this
    | some p => simpa [hd] using this

/-- A cursor with its depth below the node it started on. -/
structure Tracked where
  cursor : Cursor
  depth : Nat
  depth_eq : cursor.frames.length = depth

/-- The next position below the start. -/
def Tracked.next? (t : Tracked) : Option Tracked :=
  match h : t.cursor.stepWithin t.depth with
  | some (d, k) =>
    some ⟨d, k, by have := stepWithin_spec t.cursor t.depth t.depth_eq; rw [h] at this; exact this.1⟩
  | none => none

theorem Tracked.remaining_next {t u : Tracked} (h : t.next? = some u) :
    t.cursor.remaining = t.cursor.site :: u.cursor.remaining := by
  unfold Tracked.next? at h
  split at h
  · rename_i d k hs
    cases h
    have := stepWithin_spec t.cursor t.depth t.depth_eq
    rw [hs] at this
    exact this.2
  · simp at h

theorem Tracked.remaining_last {t : Tracked} (h : t.next? = none) :
    t.cursor.remaining = [t.cursor.site] := by
  unfold Tracked.next? at h
  split at h
  · simp at h
  · rename_i hs
    have := stepWithin_spec t.cursor t.depth t.depth_eq
    rwa [hs] at this

/-- Collects the accepted sites from a position on; `found` holds the earlier ones, last first. -/
def collect (accept : Node → Bool) (t : Tracked) (found : List Site) : List Site :=
  let found := if accept t.cursor.node then t.cursor.site :: found else found
  match _h : t.next? with
  | some u => collect accept u found
  | none => found.reverse
termination_by t.cursor.remaining.length
decreasing_by
  rw [Tracked.remaining_next _h]
  simp

/-- The first accepted site from a position on. -/
def seek (accept : Node → Bool) (t : Tracked) : Option Site :=
  if accept t.cursor.node then some t.cursor.site
  else
    match _h : t.next? with
    | some u => seek accept u
    | none => none
termination_by t.cursor.remaining.length
decreasing_by
  rw [Tracked.remaining_next _h]
  simp

theorem collect_eq (accept : Node → Bool) (t : Tracked) (found : List Site) :
    collect accept t found
      = found.reverse ++ t.cursor.remaining.filter fun s => accept s.node := by
  fun_induction collect accept t found with
  | case1 t found found' u h ih =>
    rw [ih, Tracked.remaining_next h]
    by_cases ha : accept t.cursor.node <;> simp [found', ha, site]
  | case2 t found found' h =>
    rw [Tracked.remaining_last h]
    by_cases ha : accept t.cursor.node <;> simp [found', ha, site]

theorem seek_eq (accept : Node → Bool) (t : Tracked) :
    seek accept t = t.cursor.remaining.find? fun s => accept s.node := by
  fun_induction seek accept t with
  | case1 t ha =>
    cases hn : t.next? with
    | some u => simp [Tracked.remaining_next hn, site, ha]
    | none => simp [Tracked.remaining_last hn, site, ha]
  | case2 t ha u h ih =>
    rw [ih, Tracked.remaining_next h]
    simp [site, ha]
  | case3 t ha h =>
    rw [Tracked.remaining_last h]
    simp [site, ha]

/-- The position at which a search below a node starts. -/
def Tracked.start (n : Node) : Tracked :=
  ⟨ofNode n, 0, rfl⟩

/-! ## Going on without counting -/

/-- The next sibling of the nearest node that has one. -/
def climb : List Frame → Option Cursor
  | [] => none
  | ⟨_, []⟩ :: frames => climb frames
  | ⟨parent, n :: later⟩ :: frames => some ⟨n, ⟨parent, later⟩ :: frames⟩

/-- The next node in pre-order. -/
def next? (c : Cursor) : Option Cursor :=
  match c.firstChild? with
  | some d => some d
  | none => climb c.frames

theorem pending_climb (fs : List Frame) :
    pending fs = ((climb fs).map remaining).getD [] := by
  induction fs with
  | nil => rfl
  | cons f fs ih =>
    match f with
    | ⟨parent, []⟩ => simp [pending, climb, Node.sitesAll, ih]
    | ⟨parent, n :: later⟩ => simp [pending, climb, remaining, Node.sitesAll]

theorem remaining_next {c d : Cursor} (h : c.next? = some d) :
    c.remaining = c.site :: d.remaining := by
  unfold next? at h
  cases hc : c.firstChild? with
  | some e =>
    rw [hc] at h
    cases h
    exact remaining_firstChild hc
  | none =>
    rw [hc] at h
    rw [remaining_leaf hc, pending_climb, show climb c.frames = some d from h]
    rfl

theorem remaining_last {c : Cursor} (h : c.next? = none) : c.remaining = [c.site] := by
  unfold next? at h
  cases hc : c.firstChild? with
  | some e => simp [hc] at h
  | none =>
    rw [hc] at h
    rw [remaining_leaf hc, pending_climb, show climb c.frames = none from h]
    rfl

/-- The sites from a position on; `seen` holds the earlier ones, last first. -/
def walk (c : Cursor) (seen : List Site) : List Site :=
  match _h : c.next? with
  | some d => walk d (c.site :: seen)
  | none => (c.site :: seen).reverse
termination_by c.remaining.length
decreasing_by
  rw [remaining_next _h]
  simp

theorem walk_eq (c : Cursor) (seen : List Site) : c.walk seen = seen.reverse ++ c.remaining := by
  fun_induction walk c seen with
  | case1 c seen d h ih => rw [ih, remaining_next h]; simp
  | case2 c seen h => rw [remaining_last h]; simp

end Cursor

namespace Node

/-- The nodes of the subtree that are accepted, in the order in which a search meets them. -/
def findAll (n : Node) (accept : Node → Bool) : List Node :=
  (Cursor.collect accept (.start n) []).map Site.node

/-- The first node of the subtree that is accepted. -/
def findFirst (n : Node) (accept : Node → Bool) : Option Node :=
  (Cursor.seek accept (.start n)).map Site.node

/-- The sites of a whole tree in the order in which a visit meets them. -/
def visitOrder (n : Node) : List Site :=
  (Cursor.ofNode n).walk []

theorem findAll_eq_filter_preorder (n : Node) (accept : Node → Bool) :
    n.findAll accept = n.preorder.filter accept := by
  rw [findAll, Cursor.collect_eq, ← map_node_sites []]
  simp [Cursor.Tracked.start, Cursor.remaining_ofNode, List.filter_map, Function.comp_def]

theorem findFirst_eq_find_preorder (n : Node) (accept : Node → Bool) :
    n.findFirst accept = n.preorder.find? accept := by
  rw [findFirst, Cursor.seek_eq, ← map_node_sites []]
  rw [Cursor.Tracked.start, Cursor.remaining_ofNode, List.find?_map]
  rfl

theorem visitOrder_eq_sites (n : Node) : n.visitOrder = n.sites [] := by
  rw [visitOrder, Cursor.walk_eq, Cursor.remaining_ofNode]
  simp

end Node

end LayerLint.Syntax
