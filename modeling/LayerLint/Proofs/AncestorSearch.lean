import LayerLint.Proofs.ClassIndex

/-!
# What the search among ancestors is about, and that it ends

A class may be its own ancestor, and a trait may use itself: the edges between classes form any
graph.  The search follows them without bounds and keeps from going in circles by the keys it has
met.  The functions of the index bound it by the number of classes.

* `ChainClass`, `UsedTrait` — the classes on the chain above a class and the traits used on it, by
  their keys; together they are what a class inherits from (`chainClass_or_usedTrait_iff`);
* `AsksTraits`, `AsksEach`, `Walks` — the search as a relation between where it starts and what it
  answers.  It has no bounds, so a search that went on for ever would have no answer;
* `walks_iff` — every search ends, with the answer that the function gives under its bounds;
* `ancestor_search_exact` — so the search is exact, answer by answer.
-/

set_option autoImplicit false

namespace LayerLint.ClassIndex

/-! ## The chain and the traits used on it -/

section

variable (index : ClassIndex)

/-- The class itself, or the parent of a known class on the chain. -/
inductive ChainClass (start : String) : String → Prop
  | self {name : String} (hkey : classKey name = classKey start) : ChainClass start name
  | parent {child parent name : String} {info : ClassInfo} (h : ChainClass start child)
    (hinfo : index.get? child = some info) (hparent : info.parent = some parent)
    (hkey : classKey name = classKey parent) : ChainClass start name

/-- A trait among those that a known class on the chain lists, or that a known one of these traits
    lists. -/
inductive UsedTrait (start : String) : String → Prop
  | byClass {user used name : String} {info : ClassInfo} (h : ChainClass index start user)
    (hinfo : index.get? user = some info) (hused : used ∈ info.traits)
    (hkey : classKey name = classKey used) : UsedTrait start name
  | byTrait {user used name : String} {info : ClassInfo} (h : UsedTrait start user)
    (hinfo : index.get? user = some info) (hused : used ∈ info.traits)
    (hkey : classKey name = classKey used) : UsedTrait start name

variable {index} {start : String}

theorem ChainClass.exists_onChain {name : String} (h : ChainClass index start name) :
    ∃ other, OnChain index start other ∧ classKey name = classKey other := by
  induction h with
  | self hkey => exact ⟨start, .self, hkey⟩
  | parent _ hinfo hparent hkey ih =>
    obtain ⟨other, hother, hsame⟩ := ih
    exact ⟨_, .parent hother (get?_congr index hsame ▸ hinfo) hparent, hkey⟩

theorem OnChain.chainClass {name : String} (h : OnChain index start name) :
    ChainClass index start name := by
  induction h with
  | self => exact .self rfl
  | parent _ hinfo hparent ih => exact .parent ih hinfo hparent rfl

theorem ChainClass.congr {name other : String} (h : ChainClass index start name)
    (hkey : classKey other = classKey name) : ChainClass index start other := by
  cases h with
  | self hself => exact .self (hkey.trans hself)
  | parent hchild hinfo hparent hsame => exact .parent hchild hinfo hparent (hkey.trans hsame)

theorem UsedTrait.congr {name other : String} (h : UsedTrait index start name)
    (hkey : classKey other = classKey name) : UsedTrait index start other := by
  cases h with
  | byClass huser hinfo hused hsame => exact .byClass huser hinfo hused (hkey.trans hsame)
  | byTrait huser hinfo hused hsame => exact .byTrait huser hinfo hused (hkey.trans hsame)

/-- A used trait is reached from one that a class on the chain lists. -/
theorem UsedTrait.exists_reach {name : String} (h : UsedTrait index start name) :
    ∃ user info used other, OnChain index start user ∧ index.get? user = some info ∧
      used ∈ info.traits ∧ TraitReach index used other ∧ classKey name = classKey other := by
  induction h with
  | byClass huser hinfo hused hkey =>
    obtain ⟨user, hchain, hsame⟩ := huser.exists_onChain
    exact ⟨user, _, _, _, hchain, get?_congr index hsame ▸ hinfo, hused, .self, hkey⟩
  | byTrait _ hinfo hused hkey ih =>
    obtain ⟨user, info, first, other, hchain, huser, hfirst, hreach, hsame⟩ := ih
    exact ⟨user, info, first, _, hchain, huser, hfirst,
      .use hreach (get?_congr index hsame ▸ hinfo) hused, hkey⟩

theorem UsedTrait.of_reach {used reached : String} (h : UsedTrait index start used)
    (hreach : TraitReach index used reached) : UsedTrait index start reached := by
  induction hreach with
  | self => exact h
  | use _ hinfo hused ih => exact .byTrait ih hinfo hused rfl

/-- **The chain and the traits used on it are what a class inherits from**, up to keys. -/
theorem chainClass_or_usedTrait_iff {name : String} :
    ChainClass index start name ∨ UsedTrait index start name ↔
      ∃ other, Consulted index start other ∧ classKey name = classKey other := by
  constructor
  · rintro (hchain | hused)
    · obtain ⟨other, hother, hkey⟩ := hchain.exists_onChain
      exact ⟨other, .chain hother, hkey⟩
    · obtain ⟨user, info, used, other, hchain, hinfo, hmem, hreach, hkey⟩ := hused.exists_reach
      exact ⟨other, .trait hchain hinfo hmem hreach, hkey⟩
  · rintro ⟨other, hother, hkey⟩
    cases hother with
    | chain hchain => exact .inl (hchain.chainClass.congr hkey)
    | trait hchain hinfo hused hreach =>
      have hfirst := UsedTrait.byClass hchain.chainClass hinfo hused rfl
      exact .inr ((hfirst.of_reach hreach).congr hkey)

theorem Declares.congr {method name other : String} (h : Declares index method name)
    (hkey : classKey name = classKey other) : Declares index method other := by
  obtain ⟨info, hinfo, hmethod⟩ := h
  exact ⟨info, get?_congr index hkey ▸ hinfo, hmethod⟩

theorem Lacks.congr {method name other : String} (h : Lacks index method name)
    (hkey : classKey name = classKey other) : Lacks index method other := by
  obtain ⟨info, hinfo, hmethod⟩ := h
  exact ⟨info, get?_congr index hkey ▸ hinfo, hmethod⟩

/-- An answer about names is one about all names with their keys. -/
theorem Answers.keys {method : String} {about about' : String → Prop} {answer : Option Bool}
    (h : Answers index method about answer)
    (hkeys : ∀ name, about' name ↔ ∃ other, about other ∧ classKey name = classKey other) :
    Answers index method about' answer := by
  have hsub : ∀ {name}, about name → about' name := fun {name} hname =>
    (hkeys name).2 ⟨name, hname, rfl⟩
  match answer, h with
  | some true, ⟨name, hname, hdeclares⟩ => exact ⟨name, hsub hname, hdeclares⟩
  | some false, hlacks =>
    intro name hname
    obtain ⟨other, hother, hkey⟩ := (hkeys name).1 hname
    exact (hlacks other hother).congr hkey.symm
  | none, ⟨⟨name, hname, hnone⟩, hnot⟩ =>
    refine ⟨⟨name, hsub hname, hnone⟩, fun other hother hdeclares => ?_⟩
    obtain ⟨same, hsame, hkey⟩ := (hkeys other).1 hother
    exact hnot same hsame (hdeclares.congr hkey)

end

/-! ## The search without bounds -/

section

variable (index : ClassIndex) (method : String)

/-- Asking traits one after another, with the keys that have been visited: the answer, and the keys
    that have been visited by then.  A trait that has been visited adds nothing, and the search ends
    at the first declaration. -/
inductive AsksTraits : List String → List String → Option Bool → List String → Prop
  | done {visited : List String} : AsksTraits visited [] (some false) visited
  | seen {visited visited' : List String} {name : String} {rest : List String}
    {answer : Option Bool} (hseen : classKey name ∈ visited)
    (hrest : AsksTraits visited rest answer visited') :
    AsksTraits visited (name :: rest) answer visited'
  | unknown {visited visited' : List String} {name : String} {rest : List String}
    {answer : Option Bool} (hnew : classKey name ∉ visited) (hnone : index.get? name = none)
    (hrest : AsksTraits (classKey name :: visited) rest answer visited') :
    AsksTraits visited (name :: rest) (either none answer) visited'
  | declared {visited : List String} {name : String} {rest : List String} {info : ClassInfo}
    (hnew : classKey name ∉ visited) (hinfo : index.get? name = some info)
    (hmethod : method ∈ info.methods) :
    AsksTraits visited (name :: rest) (some true) (classKey name :: visited)
  | inside {visited visited' : List String} {name : String} {rest : List String}
    {info : ClassInfo} (hnew : classKey name ∉ visited) (hinfo : index.get? name = some info)
    (hmethod : method ∉ info.methods)
    (hinner : AsksTraits (classKey name :: visited) info.traits (some true) visited') :
    AsksTraits visited (name :: rest) (some true) visited'
  | further {visited visited₁ visited₂ : List String} {name : String} {rest : List String}
    {info : ClassInfo} {first second : Option Bool} (hnew : classKey name ∉ visited)
    (hinfo : index.get? name = some info) (hmethod : method ∉ info.methods)
    (hinner : AsksTraits (classKey name :: visited) info.traits first visited₁)
    (hne : first ≠ some true) (hrest : AsksTraits visited₁ rest second visited₂) :
    AsksTraits visited (name :: rest) (either first second) visited₂

/-- Asking the traits of a class, each with nothing visited. -/
inductive AsksEach : List String → Option Bool → Prop
  | done : AsksEach [] (some false)
  | found {name : String} {rest visited : List String}
    (hfirst : AsksTraits index method [] [name] (some true) visited) :
    AsksEach (name :: rest) (some true)
  | further {name : String} {rest visited : List String} {first second : Option Bool}
    (hfirst : AsksTraits index method [] [name] first visited) (hne : first ≠ some true)
    (hrest : AsksEach rest second) : AsksEach (name :: rest) (either first second)

/-- Walking along the parents, with the keys that have been visited and whether nothing unknown was
    met: the answer.  A class that has been visited ends the walk, as does an unknown one. -/
inductive Walks : List String → Bool → String → Option Bool → Prop
  | circle {visited : List String} {complete : Bool} {name : String}
    (hseen : classKey name ∈ visited) :
    Walks visited complete name (if complete then some false else none)
  | unknown {visited : List String} {complete : Bool} {name : String}
    (hnew : classKey name ∉ visited) (hnone : index.get? name = none) :
    Walks visited complete name none
  | declared {visited : List String} {complete : Bool} {name : String} {info : ClassInfo}
    (hnew : classKey name ∉ visited) (hinfo : index.get? name = some info)
    (hmethod : method ∈ info.methods) : Walks visited complete name (some true)
  | inside {visited : List String} {complete : Bool} {name : String} {info : ClassInfo}
    (hnew : classKey name ∉ visited) (hinfo : index.get? name = some info)
    (hmethod : method ∉ info.methods) (htraits : AsksEach index method info.traits (some true)) :
    Walks visited complete name (some true)
  | top {visited : List String} {complete : Bool} {name : String} {info : ClassInfo}
    {found : Option Bool} (hnew : classKey name ∉ visited) (hinfo : index.get? name = some info)
    (hmethod : method ∉ info.methods) (htraits : AsksEach index method info.traits found)
    (hne : found ≠ some true) (hparent : info.parent = none) :
    Walks visited complete name (if complete && found == some false then some false else none)
  | parent {visited : List String} {complete : Bool} {name parent : String} {info : ClassInfo}
    {found answer : Option Bool} (hnew : classKey name ∉ visited)
    (hinfo : index.get? name = some info) (hmethod : method ∉ info.methods)
    (htraits : AsksEach index method info.traits found) (hne : found ≠ some true)
    (hparent : info.parent = some parent)
    (hnext : Walks (classKey name :: visited) (complete && found == some false) parent answer) :
    Walks visited complete name answer

end

section

variable {index : ClassIndex} {method : String}

/-! ## Through traits -/

section

variable {visited : List String} {name : String} {info : ClassInfo} (fuel : Nat)

theorem traitDeclares_of_seen (h : classKey name ∈ visited) :
    traitDeclares index method (fuel + 1) visited name = (some false, visited) := by
  simp [traitDeclares, h]

theorem traitDeclares_of_unknown (hnew : classKey name ∉ visited)
    (hnone : index.get? name = none) :
    traitDeclares index method (fuel + 1) visited name = (none, classKey name :: visited) := by
  simp [traitDeclares, hnew, hnone]

theorem traitDeclares_of_declared (hnew : classKey name ∉ visited)
    (hinfo : index.get? name = some info) (hmethod : method ∈ info.methods) :
    traitDeclares index method (fuel + 1) visited name =
      (some true, classKey name :: visited) := by
  simp [traitDeclares, hnew, hinfo, hmethod]

theorem traitDeclares_of_lacking (hnew : classKey name ∉ visited)
    (hinfo : index.get? name = some info) (hmethod : method ∉ info.methods) :
    traitDeclares index method (fuel + 1) visited name =
      askTraits (traitDeclares index method fuel) (classKey name :: visited) info.traits := by
  simp [traitDeclares, hnew, hinfo, hmethod]

end

/-- Under a bound that is large enough, the function goes the way of the search. -/
theorem asksTraits_askTraits : ∀ (fuel : Nat) (names visited : List String),
    index.unvisited visited < fuel →
      AsksTraits index method visited names
        (askTraits (traitDeclares index method fuel) visited names).1
        (askTraits (traitDeclares index method fuel) visited names).2
  | 0, _, _, hfuel => absurd hfuel (Nat.not_lt_zero _)
  | fuel + 1, [], visited, _ => .done
  | fuel + 1, name :: rest, visited, hfuel => by
    have hgrows : ∀ key ∈ visited, key ∈ (traitDeclares index method (fuel + 1) visited name).2 :=
      (traitDeclares_spec (fuel + 1) visited name hfuel).grows
    have hrest := asksTraits_askTraits (fuel + 1) rest _
      (Nat.lt_of_le_of_lt (unvisited_le hgrows) hfuel)
    rw [askTraits_cons]
    by_cases hseen : classKey name ∈ visited
    · rw [traitDeclares_of_seen fuel hseen] at hrest ⊢
      exact .seen hseen hrest
    cases hinfo : index.get? name with
    | none =>
      rw [traitDeclares_of_unknown fuel hseen hinfo] at hrest ⊢
      exact .unknown hseen hinfo hrest
    | some info =>
      by_cases hmethod : method ∈ info.methods
      · rw [traitDeclares_of_declared fuel hseen hinfo hmethod]
        exact .declared hseen hinfo hmethod
      · have hless := unvisited_cons_lt hinfo hseen
        have hinner := asksTraits_askTraits fuel info.traits (classKey name :: visited) (by omega)
        rw [traitDeclares_of_lacking fuel hseen hinfo hmethod] at hrest ⊢
        split
        · rename_i hfound
          rw [hfound] at hinner ⊢
          exact .inside hseen hinfo hmethod hinner
        · rename_i hne
          exact .further hseen hinfo hmethod hinner hne hrest
termination_by fuel names => (fuel, names.length)

theorem AsksTraits.grows {visited visited' names : List String} {answer : Option Bool}
    (h : AsksTraits index method visited names answer visited') :
    ∀ key ∈ visited, key ∈ visited' := by
  induction h with
  | done => exact fun _ hkey => hkey
  | seen _ _ ih => exact ih
  | unknown _ _ _ ih => exact fun key hkey => ih key (List.mem_cons_of_mem _ hkey)
  | declared => exact fun _ hkey => List.mem_cons_of_mem _ hkey
  | inside _ _ _ _ ih => exact fun key hkey => ih key (List.mem_cons_of_mem _ hkey)
  | further _ _ _ _ _ _ ihinner ihrest =>
    exact fun key hkey => ihrest key (ihinner key (List.mem_cons_of_mem _ hkey))

theorem unvisited_cons_le (index : ClassIndex) (visited : List String) (name : String) :
    index.unvisited (classKey name :: visited) ≤ index.unvisited visited :=
  unvisited_le fun _ hkey => List.mem_cons_of_mem _ hkey

/-- Whatever the search answers, the function answers under every bound that is large enough. -/
theorem AsksTraits.askTraits_eq {visited visited' names : List String} {answer : Option Bool}
    (h : AsksTraits index method visited names answer visited') :
    ∀ fuel, index.unvisited visited < fuel + 1 →
      askTraits (traitDeclares index method (fuel + 1)) visited names = (answer, visited') := by
  induction h with
  | done => exact fun _ _ => rfl
  | seen hseen _ ih =>
    intro fuel hfuel
    rw [askTraits_cons, traitDeclares_of_seen fuel hseen, if_neg (by simp), ih fuel hfuel]
    rfl
  | @unknown visited _ name _ _ hnew hnone _ ih =>
    intro fuel hfuel
    have hle := unvisited_cons_le index visited name
    rw [askTraits_cons, traitDeclares_of_unknown fuel hnew hnone, if_neg (by simp),
      ih fuel (by omega)]
  | declared hnew hinfo hmethod =>
    intro fuel _
    rw [askTraits_cons, traitDeclares_of_declared fuel hnew hinfo hmethod, if_pos rfl]
  | inside hnew hinfo hmethod hinner ih =>
    intro fuel hfuel
    have hless := unvisited_cons_lt hinfo hnew
    obtain ⟨less, rfl⟩ := Nat.exists_eq_succ_of_ne_zero (n := fuel) (by omega)
    rw [askTraits_cons, traitDeclares_of_lacking _ hnew hinfo hmethod, ih less (by omega),
      if_pos rfl]
  | further hnew hinfo hmethod hinner hne _ ihinner ihrest =>
    intro fuel hfuel
    have hless := unvisited_cons_lt hinfo hnew
    have hle : index.unvisited _ ≤ index.unvisited _ := unvisited_le hinner.grows
    obtain ⟨less, rfl⟩ := Nat.exists_eq_succ_of_ne_zero (n := fuel) (by omega)
    rw [askTraits_cons, traitDeclares_of_lacking _ hnew hinfo hmethod, ihinner less (by omega),
      if_neg hne, ihrest (less + 1) (by omega)]

theorem either_some_false (answer : Option Bool) : either answer (some false) = answer := by
  rcases answer with _ | _ | _ <;> rfl

/-- One trait, with nothing visited. -/
theorem asksTraits_singleton_iff {name : String} {answer : Option Bool} {visited : List String} :
    AsksTraits index method [] [name] answer visited ↔
      traitDeclares index method (index.size + 1) [] name = (answer, visited) := by
  have hfuel : index.unvisited [] < index.size + 1 := by rw [unvisited_nil]; omega
  have hsingle : askTraits (traitDeclares index method (index.size + 1)) [] [name] =
      traitDeclares index method (index.size + 1) [] name := by
    rw [askTraits_cons, askTraits, either_some_false]
    split <;> rfl
  constructor
  · intro h
    rw [← hsingle]
    exact h.askTraits_eq _ hfuel
  · intro h
    have hasks : AsksTraits index method [] [name] _ _ :=
      asksTraits_askTraits (index.size + 1) [name] [] hfuel
    rwa [hsingle, h] at hasks

theorem asksEach_iff {names : List String} {answer : Option Bool} :
    AsksEach index method names answer ↔ anyTraitDeclares index method names = answer := by
  constructor
  · intro h
    induction h with
    | done => rfl
    | found hfirst =>
      rw [anyTraitDeclares_cons, asksTraits_singleton_iff.1 hfirst]
      rfl
    | further hfirst _ _ ih => rw [anyTraitDeclares_cons, asksTraits_singleton_iff.1 hfirst, ih]
  · intro h
    subst h
    induction names with
    | nil => exact .done
    | cons name rest ih =>
      have hfirst := asksTraits_singleton_iff.2
        (Prod.eta (traitDeclares index method (index.size + 1) [] name)).symm
      rw [anyTraitDeclares_cons]
      by_cases hfound : (traitDeclares index method (index.size + 1) [] name).1 = some true
      · rw [hfound] at hfirst ⊢
        exact .found hfirst
      · exact .further hfirst hfound ih

/-! ## Along the parents -/

section

variable {visited : List String} {complete : Bool} {name : String} {info : ClassInfo} (fuel : Nat)

theorem chainDeclares_of_seen (h : classKey name ∈ visited) :
    chainDeclares index method (fuel + 1) visited complete name =
      if complete then some false else none := by
  simp [chainDeclares, h]

theorem chainDeclares_of_unknown (hnew : classKey name ∉ visited)
    (hnone : index.get? name = none) :
    chainDeclares index method (fuel + 1) visited complete name = none := by
  simp [chainDeclares, hnew, hnone]

theorem chainDeclares_of_declared (hnew : classKey name ∉ visited)
    (hinfo : index.get? name = some info) (hmethod : method ∈ info.methods) :
    chainDeclares index method (fuel + 1) visited complete name = some true := by
  simp [chainDeclares, hnew, hinfo, hmethod]

theorem chainDeclares_of_inside (hnew : classKey name ∉ visited)
    (hinfo : index.get? name = some info) (hmethod : method ∉ info.methods)
    (hfound : anyTraitDeclares index method info.traits = some true) :
    chainDeclares index method (fuel + 1) visited complete name = some true := by
  simp [chainDeclares, hnew, hinfo, hmethod, hfound]

theorem chainDeclares_of_top (hnew : classKey name ∉ visited)
    (hinfo : index.get? name = some info) (hmethod : method ∉ info.methods)
    (hne : anyTraitDeclares index method info.traits ≠ some true) (hparent : info.parent = none) :
    chainDeclares index method (fuel + 1) visited complete name =
      if complete && anyTraitDeclares index method info.traits == some false then some false
      else none := by
  simp [chainDeclares, hnew, hinfo, hmethod, hparent]

theorem chainDeclares_of_parent {parent : String} (hnew : classKey name ∉ visited)
    (hinfo : index.get? name = some info) (hmethod : method ∉ info.methods)
    (hne : anyTraitDeclares index method info.traits ≠ some true)
    (hparent : info.parent = some parent) :
    chainDeclares index method (fuel + 1) visited complete name =
      chainDeclares index method fuel (classKey name :: visited)
        (complete && anyTraitDeclares index method info.traits == some false) parent := by
  simp [chainDeclares, hnew, hinfo, hmethod, hparent]

end

/-- Under a bound that is large enough, the function goes the way of the walk. -/
theorem walks_chainDeclares : ∀ (fuel : Nat) (visited : List String) (complete : Bool)
    (name : String), index.unvisited visited < fuel →
      Walks index method visited complete name
        (chainDeclares index method fuel visited complete name)
  | 0, _, _, _, hfuel => absurd hfuel (Nat.not_lt_zero _)
  | fuel + 1, visited, complete, name, hfuel => by
    by_cases hseen : classKey name ∈ visited
    · rw [chainDeclares_of_seen fuel hseen]
      exact .circle hseen
    cases hinfo : index.get? name with
    | none =>
      rw [chainDeclares_of_unknown fuel hseen hinfo]
      exact .unknown hseen hinfo
    | some info =>
      by_cases hmethod : method ∈ info.methods
      · rw [chainDeclares_of_declared fuel hseen hinfo hmethod]
        exact .declared hseen hinfo hmethod
      have htraits : AsksEach index method info.traits
          (anyTraitDeclares index method info.traits) := asksEach_iff.2 rfl
      by_cases hfound : anyTraitDeclares index method info.traits = some true
      · rw [chainDeclares_of_inside fuel hseen hinfo hmethod hfound]
        exact .inside hseen hinfo hmethod (hfound ▸ htraits)
      cases hparent : info.parent with
      | none =>
        rw [chainDeclares_of_top fuel hseen hinfo hmethod hfound hparent]
        exact .top hseen hinfo hmethod htraits hfound hparent
      | some parent =>
        have hless := unvisited_cons_lt hinfo hseen
        rw [chainDeclares_of_parent fuel hseen hinfo hmethod hfound hparent]
        exact .parent hseen hinfo hmethod htraits hfound hparent
          (walks_chainDeclares fuel _ _ parent (by omega))

/-- Whatever the walk answers, the function answers under every bound that is large enough. -/
theorem Walks.chainDeclares_eq {visited : List String} {complete : Bool} {name : String}
    {answer : Option Bool} (h : Walks index method visited complete name answer) :
    ∀ fuel, index.unvisited visited < fuel + 1 →
      chainDeclares index method (fuel + 1) visited complete name = answer := by
  induction h with
  | circle hseen => exact fun fuel _ => chainDeclares_of_seen fuel hseen
  | unknown hnew hnone => exact fun fuel _ => chainDeclares_of_unknown fuel hnew hnone
  | declared hnew hinfo hmethod =>
    exact fun fuel _ => chainDeclares_of_declared fuel hnew hinfo hmethod
  | inside hnew hinfo hmethod htraits =>
    exact fun fuel _ => chainDeclares_of_inside fuel hnew hinfo hmethod (asksEach_iff.1 htraits)
  | top hnew hinfo hmethod htraits hne hparent =>
    intro fuel _
    have hfound := asksEach_iff.1 htraits
    rw [chainDeclares_of_top fuel hnew hinfo hmethod (hfound ▸ hne) hparent, hfound]
  | parent hnew hinfo hmethod htraits hne hparent _ ih =>
    intro fuel hfuel
    have hless := unvisited_cons_lt hinfo hnew
    have hfound := asksEach_iff.1 htraits
    obtain ⟨less, rfl⟩ := Nat.exists_eq_succ_of_ne_zero (n := fuel) (by omega)
    rw [chainDeclares_of_parent _ hnew hinfo hmethod (hfound ▸ hne) hparent, hfound]
    exact ih less (by omega)

end

/-- **Every search ends**, and with the answer of the function. -/
theorem walks_iff (index : ClassIndex) (start method : String) (answer : Option Bool) :
    Walks index (Text.foldAscii method) [] true start answer ↔
      index.ancestorDeclares start method = answer := by
  have hfuel : index.unvisited [] < index.size + 2 := by rw [unvisited_nil]; omega
  constructor
  · exact fun h => h.chainDeclares_eq _ hfuel
  · rintro rfl
    exact walks_chainDeclares _ _ _ _ hfuel

/-! ## The three answers -/

/-- **The search among ancestors is exact.**  Whatever edges there are between classes, the search
    for a method from a class ends, and it answers in one way.  It finds the method just if a known
    class on the chain or a known trait used there declares it, in any case.  It denies it just if
    none does and all of them are known.  It has no opinion just if none does and one is unknown. -/
theorem ancestor_search_exact (index : ClassIndex) (start method : String) :
    let inherited (name : String) : Prop :=
      ChainClass index start name ∨ UsedTrait index start name
    let declared : Prop := ∃ name info, inherited name ∧ index.get? name = some info ∧
      Text.foldAscii method ∈ info.methods
    let known : Prop := ∀ name, inherited name → ∃ info, index.get? name = some info
    (∀ answer, Walks index (Text.foldAscii method) [] true start answer ↔
      index.ancestorDeclares start method = answer) ∧
    (index.ancestorDeclares start method = some true ↔ declared) ∧
    (index.ancestorDeclares start method = some false ↔ ¬ declared ∧ known) ∧
    (index.ancestorDeclares start method = none ↔ ¬ declared ∧ ¬ known) := by
  intro inherited declared known
  have hanswers : Answers index (Text.foldAscii method) inherited
      (index.ancestorDeclares start method) :=
    (ancestorDeclares_answers index start method).keys fun _ => chainClass_or_usedTrait_iff
  have htrue : index.ancestorDeclares start method = some true ↔ declared := by
    rw [hanswers.eq_some_true_iff]
    exact ⟨fun ⟨name, hname, info, hinfo, hmethod⟩ => ⟨name, info, hname, hinfo, hmethod⟩,
      fun ⟨name, info, hname, hinfo, hmethod⟩ => ⟨name, hname, info, hinfo, hmethod⟩⟩
  have hfalse : index.ancestorDeclares start method = some false ↔ ¬ declared ∧ known := by
    rw [hanswers.eq_some_false_iff]
    constructor
    · intro hlacks
      refine ⟨fun ⟨name, info, hname, hinfo, hmethod⟩ => ?_, fun name hname => ?_⟩
      · exact (hlacks name hname).not_declares ⟨info, hinfo, hmethod⟩
      · obtain ⟨info, hinfo, -⟩ := hlacks name hname
        exact ⟨info, hinfo⟩
    · rintro ⟨hnot, hknown⟩ name hname
      obtain ⟨info, hinfo⟩ := hknown name hname
      exact ⟨info, hinfo, fun hmethod => hnot ⟨name, info, hname, hinfo, hmethod⟩⟩
  refine ⟨walks_iff index start method, htrue, hfalse, ?_⟩
  constructor
  · intro hanswer
    have hnot : ¬ declared := by
      intro hdeclared
      have hsome := htrue.2 hdeclared
      rw [hanswer] at hsome
      cases hsome
    refine ⟨hnot, fun hknown => ?_⟩
    have hsome := hfalse.2 ⟨hnot, hknown⟩
    rw [hanswer] at hsome
    cases hsome
  · -- the other two answers are spoken for
    rintro ⟨hnot, hunknown⟩
    rcases hanswer : index.ancestorDeclares start method with _ | _ | _
    · rfl
    · exact absurd (hfalse.1 hanswer).2 hunknown
    · exact absurd (htrue.1 hanswer) hnot

/-- Two classes that extend each other, in different letters.  The first one uses an unknown trait,
    the second a trait that uses itself and declares a method. -/
example :
    let index : ClassIndex := empty.insertAll
      [("A", { parent := some "\\b", traits := ["U"] }), ("B", { parent := some "a", traits := ["T"] }),
       ("T", { methods := ["run"], traits := ["t"] })]
    index.ancestorDeclares "A" "Run" = some true ∧ index.ancestorDeclares "A" "stop" = none := by
  decide +kernel

end LayerLint.ClassIndex
