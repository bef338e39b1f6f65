import LayerLint.Syntax.Expression

/-!
# Calls of named methods

What the rules read off the tree about a call: that it is one, on an object that may be missing, and
the plain name of the method.

* `Calls` — the node calls a method of one of some names;
* `MemberCall.calls_iff` — this is what the reading of a node as a call and of its name come to;
* `memberCalls_eq` — the calls below a node are read off its nodes one by one;
* `stringLiteral?_of_classConstant?`, `stringLiteral?_of_arrayItems?` — class constants and arrays
  are not taken for texts.
-/

set_option autoImplicit false

namespace LayerLint.Syntax

/-- The node calls a method of an object, by `->` or by `?->`, and the method has one of the names. -/
structure Node.Calls (source : Source) (names : List String) (n : Node) : Prop where
  isCall : n.kind = .memberCall ∨ n.kind = .nullsafeMemberCall
  named : ∃ name, n.child? .name = some name ∧ name.kind = .name ∧ name.text source ∈ names

theorem Node.isMemberCall_iff {n : Node} :
    n.isMemberCall = true ↔ n.kind = .memberCall ∨ n.kind = .nullsafeMemberCall := by
  simp [isMemberCall]

theorem Node.memberCalls_eq (n : Node) (source : Source) :
    n.memberCalls source = n.preorder.filterMap (MemberCall.ofNode? source) := by
  rw [memberCalls, findAll_eq_filter_preorder, List.filterMap_filter]
  refine congrArg (fun read => n.preorder.filterMap read) (funext fun m => ?_)
  -- a node that is no call is not read as one
  unfold MemberCall.ofNode?
  cases m.isMemberCall <;> rfl

namespace MemberCall

variable {source : Source} {n : Node} {call : MemberCall}

theorem exists_ofNode? (h : n.isMemberCall = true) : ∃ call, ofNode? source n = some call := by
  rw [ofNode?, if_pos h]
  exact ⟨_, rfl⟩

theorem isMemberCall_of_ofNode? (h : ofNode? source n = some call) : n.isMemberCall = true := by
  unfold ofNode? at h
  split at h
  · assumption
  · cases h

theorem node_of_ofNode? (h : ofNode? source n = some call) : call.node = n := by
  rw [ofNode?, if_pos (isMemberCall_of_ofNode? h)] at h
  cases h
  rfl

theorem object_of_ofNode? (h : ofNode? source n = some call) :
    call.object = n.child? .object := by
  rw [ofNode?, if_pos (isMemberCall_of_ofNode? h)] at h
  cases h
  rfl

theorem arguments_of_ofNode? (h : ofNode? source n = some call) :
    call.arguments = n.callArguments := by
  rw [ofNode?, if_pos (isMemberCall_of_ofNode? h)] at h
  cases h
  rfl

theorem name_of_ofNode? (h : ofNode? source n = some call) :
    call.name =
      ((n.child? .name).filter fun m => m.kind == .name).map fun m => m.text source := by
  rw [ofNode?, if_pos (isMemberCall_of_ofNode? h)] at h
  cases h
  rfl

theorem isNamed_iff {names : List String} (h : ofNode? source n = some call) :
    call.isNamed names = true ↔ n.Calls source names := by
  have hcall := Node.isMemberCall_iff.1 (isMemberCall_of_ofNode? h)
  rw [isNamed, name_of_ofNode? h]
  constructor
  · intro hnamed
    refine ⟨hcall, ?_⟩
    cases hname : n.child? .name with
    | none =>
      rw [hname] at hnamed
      cases hnamed
    | some name =>
      refine ⟨name, rfl, ?_⟩
      by_cases hkind : name.kind = .name
      · exact ⟨hkind, by simpa [hname, Option.filter_some, hkind] using hnamed⟩
      · simp [hname, Option.filter_some, hkind] at hnamed
  · rintro ⟨-, name, hname, hkind, hmem⟩
    simpa [hname, Option.filter_some, hkind] using hmem

/-- **The node calls a method of one of the names** just if it is read as a call that has one. -/
theorem calls_iff {names : List String} :
    n.Calls source names ↔ ∃ call, ofNode? source n = some call ∧ call.isNamed names = true := by
  constructor
  · intro h
    obtain ⟨call, hcall⟩ := exists_ofNode? (Node.isMemberCall_iff.2 h.isCall)
    exact ⟨call, hcall, (isNamed_iff hcall).2 h⟩
  · rintro ⟨call, hcall, hnamed⟩
    exact (isNamed_iff hcall).1 hnamed

end MemberCall

/-! ## What is no text -/

namespace Node

variable {source : Source} {n : Node}

/-- A constant of a class is no text. -/
theorem stringLiteral?_of_classConstant? {access : String × String}
    (h : n.classConstant? source = some access) : n.stringLiteral? source = none := by
  have hkind : n.kind = .classConstantAccess := by
    unfold classConstant? at h
    split at h
    · rename_i hkind
      exact beq_iff_eq.1 hkind
    · cases h
  unfold stringLiteral?
  rw [hkind]
  rfl

/-- An array is no text. -/
theorem stringLiteral?_of_arrayItems? {items : List ArrayItem} (h : n.arrayItems? = some items) :
    n.stringLiteral? source = none := by
  have hkind : n.kind = .arrayCreation := by
    unfold arrayItems? at h
    split at h
    · rename_i hkind
      exact beq_iff_eq.1 hkind
    · cases h
  unfold stringLiteral?
  rw [hkind]
  rfl

end Node

end LayerLint.Syntax
