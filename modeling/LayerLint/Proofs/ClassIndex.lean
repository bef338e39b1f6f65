import LayerLint.ClassIndex
import LayerLint.Proofs.Text

/-!
# What the index knows, and what its search finds

* `get?_insertAll` — of several declarations of one class the last one counts;
* `OnChain`, `TraitReach`, `Consulted` — the class, its ancestors and the traits that they use, as
  relations between names;
* `Answers` — what the three answers of a search mean for the names that it is about;
* `traitDeclares_spec` — the search through nested traits, by what it has visited;
* `ancestorDeclares_answers` — the whole search gives the right one of the three answers.

The searches carry fuel and a list of visited keys.  Fuel is never used up, because every key that is
followed is a new key of the index.
-/

set_option autoImplicit false

namespace LayerLint

/-- Names that are equal up to case have one key. -/
theorem classKey_congr {a b : String} (h : Text.foldAscii a = Text.foldAscii b) :
    classKey a = classKey b := by
  rw [classKey, classKey, Text.foldAscii_trimStart, h, Text.foldAscii_trimStart]

namespace ClassIndex

/-! ## Insertion -/

theorem lookup_filter_ne (key : String) {other : String} (h : other ≠ key) :
    ∀ entries : List (String × ClassInfo),
      (entries.filter fun e => e.1 != key).lookup other = entries.lookup other
  | [] => rfl
  | (k, info) :: entries => by
    have ih := lookup_filter_ne key h entries
    by_cases hk : k = key
    · subst hk
      have hother : (other == k) = false := by simpa using h
      rw [List.lookup_cons, hother]
      simpa using ih
    · have hkeep : (k != key) = true := by simpa using hk
      rw [List.filter_cons, if_pos hkeep, List.lookup_cons, List.lookup_cons, ih]

theorem get?_insert (index : ClassIndex) (name other : String) (info : ClassInfo) :
    (index.insert name info).get? other =
      if classKey name = classKey other then some info else index.get? other := by
  unfold get? insert
  rw [List.lookup_cons]
  by_cases h : classKey name = classKey other
  · simp [h]
  · have hother : (classKey other == classKey name) = false := by simpa using Ne.symm h
    rw [hother, if_neg h]
    exact lookup_filter_ne _ (Ne.symm h) index.entries

/-- The last of several declarations that goes by a name. -/
def lastNamed (classes : List (String × ClassInfo)) (name : String) : Option ClassInfo :=
  (classes.reverse.find? fun c => classKey c.1 == classKey name).map Prod.snd

theorem lastNamed_cons (c : String × ClassInfo) (classes : List (String × ClassInfo))
    (name : String) :
    lastNamed (c :: classes) name =
      (lastNamed classes name).or (if classKey c.1 = classKey name then some c.2 else none) := by
  unfold lastNamed
  rw [List.reverse_cons, List.find?_append]
  by_cases h : classKey c.1 = classKey name
  · cases classes.reverse.find? fun c => classKey c.1 == classKey name <;> simp [h]
  · cases classes.reverse.find? fun c => classKey c.1 == classKey name <;> simp [h]

/-- **Of several declarations of one class the last one counts.** -/
theorem get?_insertAll : ∀ (classes : List (String × ClassInfo)) (index : ClassIndex)
    (name : String),
    (index.insertAll classes).get? name = (lastNamed classes name).or (index.get? name)
  | [], _, _ => by simp [insertAll, lastNamed]
  | c :: classes, index, name => by
    have hstep : index.insertAll (c :: classes) = (index.insert c.1 c.2).insertAll classes :=
      List.foldl_cons ..
    rw [hstep, get?_insertAll classes, get?_insert, lastNamed_cons, Option.or_assoc]
    by_cases h : classKey c.1 = classKey name
    · simp only [if_pos h, Option.some_or]
    · simp only [if_neg h, Option.none_or]

theorem get?_congr (index : ClassIndex) {a b : String} (h : classKey a = classKey b) :
    index.get? a = index.get? b := by
  rw [get?, get?, h]

/-! ## Ancestors and traits -/

variable (index : ClassIndex)

/-- The class and its ancestors, as far as parents are known. -/
inductive OnChain (start : String) : String → Prop
  | self : OnChain start start
  | parent {name parent : String} {info : ClassInfo} (h : OnChain start name)
    (hinfo : index.get? name = some info) (hparent : info.parent = some parent) :
    OnChain start parent

/-- The trait and those that it uses, directly or through other traits. -/
inductive TraitReach (start : String) : String → Prop
  | self : TraitReach start start
  | use {name used : String} {info : ClassInfo} (h : TraitReach start name)
    (hinfo : index.get? name = some info) (hused : used ∈ info.traits) : TraitReach start used

/-- What a class inherits from: itself, its ancestors, and the traits that one of them uses. -/
inductive Consulted (start : String) : String → Prop
  | chain {name : String} (h : OnChain index start name) : Consulted start name
  | trait {name used reached : String} {info : ClassInfo} (h : OnChain index start name)
    (hinfo : index.get? name = some info) (hused : used ∈ info.traits)
    (hreached : TraitReach index used reached) : Consulted start reached

variable (method : String)

/-- The index knows the class, and it declares the folded method itself. -/
def Declares (name : String) : Prop :=
  ∃ info, index.get? name = some info ∧ method ∈ info.methods

/-- The index knows the class, and it does not declare the folded method itself. -/
def Lacks (name : String) : Prop :=
  ∃ info, index.get? name = some info ∧ method ∉ info.methods

/-- What an answer means for the names that a search is about. -/
def Answers (about : String → Prop) : Option Bool → Prop
  | some true => ∃ name, about name ∧ Declares index method name
  | some false => ∀ name, about name → Lacks index method name
  | none =>
    (∃ name, about name ∧ index.get? name = none) ∧
      ∀ name, about name → ¬ Declares index method name

variable {index method}

theorem Lacks.not_declares {name : String} (h : Lacks index method name) :
    ¬ Declares index method name := by
  rintro ⟨info, hinfo, hmem⟩
  obtain ⟨info', hinfo', hnot⟩ := h
  rw [hinfo] at hinfo'
  cases hinfo'
  exact hnot hmem

theorem Lacks.get?_ne {name : String} (h : Lacks index method name) : index.get? name ≠ none := by
  obtain ⟨info, hinfo, -⟩ := h
  rw [hinfo]
  exact nofun

/-- Whatever the answer, only "declared" leaves room for a declaration. -/
theorem Answers.not_declares {about : String → Prop} {answer : Option Bool}
    (h : Answers index method about answer) (hanswer : answer ≠ some true) {name : String}
    (hname : about name) : ¬ Declares index method name := by
  match answer, h with
  | none, h => exact h.2 name hname
  | some false, h => exact (h name hname).not_declares
  | some true, _ => exact absurd rfl hanswer

theorem Answers.eq_some_true_iff {about : String → Prop} {answer : Option Bool}
    (h : Answers index method about answer) :
    answer = some true ↔ ∃ name, about name ∧ Declares index method name := by
  refine ⟨fun heq => ?_, fun ⟨name, hname, hdeclares⟩ => ?_⟩
  · subst heq
    exact h
  · exact Classical.byContradiction fun hne => h.not_declares hne hname hdeclares

theorem Answers.eq_some_false_iff {about : String → Prop} {answer : Option Bool}
    (h : Answers index method about answer) :
    answer = some false ↔ ∀ name, about name → Lacks index method name := by
  refine ⟨fun heq => ?_, fun hlacks => ?_⟩
  · subst heq
    exact h
  · match answer, h with
    | none, ⟨⟨name, hname, hnone⟩, _⟩ => exact absurd hnone (hlacks name hname).get?_ne
    | some false, _ => rfl
    | some true, ⟨name, hname, hdeclares⟩ =>
      exact absurd hdeclares (hlacks name hname).not_declares

/-- The answers of two searches together: one that declares settles it, otherwise one unknown part
    makes the whole unknown. -/
def either : Option Bool → Option Bool → Option Bool
  | some true, _ => some true
  | some false, second => second
  | none, some true => some true
  | none, _ => none

theorem Answers.or {about more : String → Prop} {first second : Option Bool}
    (hfirst : Answers index method about first) (hsecond : Answers index method more second) :
    Answers index method (fun name => about name ∨ more name) (either first second) := by
  match first, hfirst with
  | some true, ⟨name, hname, hdeclares⟩ => exact ⟨name, .inl hname, hdeclares⟩
  | some false, hlacks =>
    match second, hsecond with
    | some true, ⟨name, hname, hdeclares⟩ => exact ⟨name, .inr hname, hdeclares⟩
    | some false, hlacks' => exact fun name hname => hname.elim (hlacks name) (hlacks' name)
    | none, ⟨⟨name, hname, hnone⟩, hnot⟩ =>
      exact ⟨⟨name, .inr hname, hnone⟩, fun name hname =>
        hname.elim (fun h => (hlacks name h).not_declares) (hnot name)⟩
  | none, ⟨⟨name, hname, hnone⟩, hnot⟩ =>
    have hall : second ≠ some true → ∀ name, about name ∨ more name →
        ¬ Declares index method name :=
      fun hne name hname => hname.elim (hnot name) (hsecond.not_declares hne)
    match second, hsecond with
    | some true, ⟨found, hmore, hdeclares⟩ => exact ⟨found, .inr hmore, hdeclares⟩
    | some false, _ => exact ⟨⟨name, .inl hname, hnone⟩, hall nofun⟩
    | none, _ => exact ⟨⟨name, .inl hname, hnone⟩, hall nofun⟩

theorem Answers.congr {about about' : String → Prop} {answer : Option Bool}
    (h : Answers index method about answer) (hiff : ∀ name, about name ↔ about' name) :
    Answers index method about' answer := by
  rwa [show about' = about from funext fun name => propext (hiff name).symm]

/-! ## The search through traits -/

variable (index method) in
/-- How many entries have keys that have not been visited. -/
def unvisited (visited : List String) : Nat :=
  index.entries.countP fun e => !visited.contains e.1

theorem unvisited_nil : index.unvisited [] = index.size := by
  simp [unvisited, size]

theorem unvisited_le {visited visited' : List String} (h : ∀ key ∈ visited, key ∈ visited') :
    index.unvisited visited' ≤ index.unvisited visited := by
  refine List.countP_mono_left fun e _ he => ?_
  simp only [Bool.not_eq_true', List.contains_eq_mem, decide_eq_false_iff_not] at he ⊢
  exact fun hmem => he (h _ hmem)

/-- Visiting a new key of the index leaves fewer. -/
theorem unvisited_cons_lt {visited : List String} {name : String} {info : ClassInfo}
    (hinfo : index.get? name = some info) (hnew : classKey name ∉ visited) :
    index.unvisited (classKey name :: visited) < index.unvisited visited := by
  obtain ⟨before, after, hentries, -⟩ := List.lookup_eq_some_iff.1 hinfo
  have hle : ∀ entries : List (String × ClassInfo),
      entries.countP (fun e => !(classKey name :: visited).contains e.1) ≤
        entries.countP fun e => !visited.contains e.1 := by
    intro entries
    refine List.countP_mono_left fun e _ he => ?_
    simp only [Bool.not_eq_true', List.contains_eq_mem, decide_eq_false_iff_not] at he ⊢
    exact fun hmem => he (List.mem_cons_of_mem _ hmem)
  have hbefore := hle before
  have hafter := hle after
  simp only [unvisited, hentries, List.countP_append, List.countP_cons]
  simp only [List.contains_cons, BEq.rfl, Bool.true_or, Bool.not_true, Bool.false_eq_true, if_false]
  have hcontains : visited.contains (classKey name) = false := by simpa using hnew
  simp only [hcontains, Bool.not_false, if_true]
  simp only [List.contains_cons] at hbefore hafter
  omega

variable (index method) in
/-- What a search through traits leaves behind.  Unless it has found the method, it has visited the
    names it was asked about, and with every new key that it has visited also the traits used
    there. -/
structure Explored (visited names : List String) (outcome : Option Bool × List String) : Prop where
  grows : ∀ key ∈ visited, key ∈ outcome.2
  found : outcome.1 = some true →
    ∃ name ∈ names, ∃ reached, TraitReach index name reached ∧ Declares index method reached
  gap : outcome.1 = none →
    ∃ name ∈ names, ∃ reached, TraitReach index name reached ∧ index.get? reached = none
  covers : outcome.1 ≠ some true → ∀ name ∈ names, classKey name ∈ outcome.2
  closed : outcome.1 ≠ some true → ∀ key ∈ outcome.2, key ∉ visited →
    ∀ info, index.entries.lookup key = some info →
      method ∉ info.methods ∧ ∀ used ∈ info.traits, classKey used ∈ outcome.2
  known : outcome.1 = some false → ∀ key ∈ outcome.2, key ∉ visited →
    index.entries.lookup key ≠ none

theorem askTraits_cons (ask : List String → String → Option Bool × List String)
    (visited : List String) (name : String) (rest : List String) :
    askTraits ask visited (name :: rest) =
      if (ask visited name).1 = some true then ask visited name
      else
        (either (ask visited name).1 (askTraits ask (ask visited name).2 rest).1,
          (askTraits ask (ask visited name).2 rest).2) := by
  rw [askTraits]
  obtain ⟨answer, visited'⟩ := ask visited name
  cases answer with
  | none =>
    simp only [reduceCtorEq, if_false]
    obtain ⟨answer', visited''⟩ := askTraits ask visited' rest
    rcases answer' with _ | _ | _ <;> rfl
  | some found => cases found <;> rfl

theorem either_eq_some_true {first second : Option Bool} (hfirst : first ≠ some true)
    (h : either first second = some true) : second = some true := by
  rcases first with _ | _ | _ <;> rcases second with _ | _ | _ <;> simp_all [either]

theorem either_eq_none {first second : Option Bool} (h : either first second = none) :
    first = none ∨ second = none := by
  rcases first with _ | _ | _ <;> rcases second with _ | _ | _ <;> simp_all [either]

theorem either_eq_some_false {first second : Option Bool} (h : either first second = some false) :
    first = some false ∧ second = some false := by
  rcases first with _ | _ | _ <;> rcases second with _ | _ | _ <;> simp_all [either]

theorem either_ne_some_true {first second : Option Bool} (h : either first second ≠ some true) :
    second ≠ some true := by
  rcases first with _ | _ | _ <;> rcases second with _ | _ | _ <;> simp_all [either]

/-- Exploring one name and then others. -/
theorem Explored.cons {visited visited₁ visited₂ rest : List String} {name : String}
    {first second : Option Bool} (hne : first ≠ some true)
    (hfirst : Explored index method visited [name] (first, visited₁))
    (hrest : Explored index method visited₁ rest (second, visited₂)) :
    Explored index method visited (name :: rest) (either first second, visited₂) where
  grows key hkey := hrest.grows key (hfirst.grows key hkey)
  found h := by
    obtain ⟨other, hother, hreached⟩ := hrest.found (either_eq_some_true hne h)
    exact ⟨other, List.mem_cons_of_mem _ hother, hreached⟩
  gap h := by
    rcases either_eq_none h with h | h
    · obtain ⟨other, hother, hreached⟩ := hfirst.gap h
      rw [List.mem_singleton] at hother
      exact ⟨name, List.mem_cons_self, hother ▸ hreached⟩
    · obtain ⟨other, hother, hreached⟩ := hrest.gap h
      exact ⟨other, List.mem_cons_of_mem _ hother, hreached⟩
  covers h other hother := by
    rcases List.mem_cons.1 hother with rfl | hother
    · exact hrest.grows _ (hfirst.covers hne other List.mem_cons_self)
    · exact hrest.covers (either_ne_some_true h) other hother
  closed h key hkey hnew info hinfo := by
    by_cases hkey₁ : key ∈ visited₁
    · obtain ⟨hmethod, hused⟩ := hfirst.closed hne key hkey₁ hnew info hinfo
      exact ⟨hmethod, fun used hmem => hrest.grows _ (hused used hmem)⟩
    · exact hrest.closed (either_ne_some_true h) key hkey hkey₁ info hinfo
  known h key hkey hnew := by
    obtain ⟨h₁, h₂⟩ := either_eq_some_false h
    by_cases hkey₁ : key ∈ visited₁
    · exact hfirst.known h₁ key hkey₁ hnew
    · exact hrest.known h₂ key hkey hkey₁

/-- Asking one after another explores all, if each question explores one. -/
theorem askTraits_spec {fuel : Nat} {ask : List String → String → Option Bool × List String}
    (hask : ∀ visited name, index.unvisited visited < fuel →
      Explored index method visited [name] (ask visited name)) :
    ∀ (names visited : List String), index.unvisited visited < fuel →
      Explored index method visited names (askTraits ask visited names)
  | [], visited, _ => by
    refine ⟨fun _ h => h, nofun, nofun, fun _ _ h => (List.not_mem_nil h).elim, ?_, ?_⟩
    · exact fun _ key hkey hnew => absurd hkey hnew
    · exact fun _ key hkey hnew => absurd hkey hnew
  | name :: rest, visited, hfuel => by
    have hfirst := hask visited name hfuel
    rw [askTraits_cons]
    split
    · rename_i hfound
      refine ⟨hfirst.grows, fun h => ?_, fun h => ?_, fun h => absurd hfound h,
        fun h => absurd hfound h, fun h => ?_⟩
      · obtain ⟨other, hother, hreached⟩ := hfirst.found h
        rw [List.mem_singleton] at hother
        exact ⟨name, List.mem_cons_self, hother ▸ hreached⟩
      · exact nomatch hfound.symm.trans h
      · exact nomatch hfound.symm.trans h
    · rename_i hne
      refine Explored.cons hne hfirst ?_
      exact askTraits_spec hask rest _ (Nat.lt_of_le_of_lt (unvisited_le hfirst.grows) hfuel)

theorem TraitReach.head {start used reached : String} {info : ClassInfo}
    (hinfo : index.get? start = some info) (hused : used ∈ info.traits)
    (h : TraitReach index used reached) : TraitReach index start reached := by
  induction h with
  | self => exact .use .self hinfo hused
  | use _ hinfo' hused' ih => exact .use ih hinfo' hused'

/-- **A search through traits explores what it is asked about.** -/
theorem traitDeclares_spec : ∀ (fuel : Nat) (visited : List String) (name : String),
    index.unvisited visited < fuel →
      Explored index method visited [name] (traitDeclares index method fuel visited name)
  | 0, _, _, hfuel => absurd hfuel (Nat.not_lt_zero _)
  | fuel + 1, visited, name, hfuel => by
    rw [traitDeclares]
    split
    · rename_i hseen
      have hmem : classKey name ∈ visited := by simpa using hseen
      refine ⟨fun _ h => h, nofun, nofun, fun _ other hother => ?_, ?_, ?_⟩
      · rw [List.mem_singleton.1 hother]
        exact hmem
      · exact fun _ key hkey hnew => absurd hkey hnew
      · exact fun _ key hkey hnew => absurd hkey hnew
    rename_i hseen
    have hnew : classKey name ∉ visited := by simpa using hseen
    split
    · rename_i hnone
      refine ⟨fun key h => List.mem_cons_of_mem _ h, nofun,
        fun _ => ⟨name, List.mem_cons_self, name, .self, hnone⟩, fun _ other hother => ?_,
        fun _ key hkey hkey' info hinfo => ?_, nofun⟩
      · rw [List.mem_singleton.1 hother]
        exact List.mem_cons_self
      · have hsame := (List.mem_cons.1 hkey).resolve_right hkey'
        rw [hsame] at hinfo
        exact nomatch hinfo.symm.trans hnone
    rename_i info hinfo
    split
    · rename_i hdeclares
      have hmethod : method ∈ info.methods := by simpa using hdeclares
      refine ⟨fun key h => List.mem_cons_of_mem _ h,
        fun _ => ⟨name, List.mem_cons_self, name, .self, info, hinfo, hmethod⟩, nofun,
        fun h => absurd rfl h, fun h => absurd rfl h, nofun⟩
    · rename_i hdeclares
      have hmethod : method ∉ info.methods := by simpa using hdeclares
      have hless := unvisited_cons_lt hinfo hnew
      have hinner := askTraits_spec (traitDeclares_spec fuel) info.traits
        (classKey name :: visited) (by omega)
      have hself := hinner.grows _ List.mem_cons_self
      -- the trait itself is new and settled; all other new keys were new to the inner search
      refine ⟨fun key h => hinner.grows key (List.mem_cons_of_mem _ h), fun h => ?_, fun h => ?_,
        fun h other hother => ?_, fun h key hkey hkey' info' hinfo' => ?_,
        fun h key hkey hkey' => ?_⟩
      · obtain ⟨used, hused, reached, hreach, hfound⟩ := hinner.found h
        exact ⟨name, List.mem_cons_self, reached, hreach.head hinfo hused, hfound⟩
      · obtain ⟨used, hused, reached, hreach, hgap⟩ := hinner.gap h
        exact ⟨name, List.mem_cons_self, reached, hreach.head hinfo hused, hgap⟩
      · rw [List.mem_singleton.1 hother]
        exact hself
      · by_cases hsame : key = classKey name
        · subst hsame
          rw [show index.entries.lookup (classKey name) = some info from hinfo] at hinfo'
          cases hinfo'
          exact ⟨hmethod, hinner.covers h⟩
        · exact hinner.closed h key hkey (by simp [hsame, hkey']) info' hinfo'
      · by_cases hsame : key = classKey name
        · subst hsame
          exact fun hnone => nomatch hnone.symm.trans hinfo
        · exact hinner.known h key hkey (by simp [hsame, hkey'])

/-- Whatever a trait reaches has been visited by a search from nothing that did not find. -/
theorem Explored.mem_of_reach {name : String} {outcome : Option Bool × List String}
    (h : Explored index method [] [name] outcome) (hne : outcome.1 ≠ some true) {reached : String}
    (hreach : TraitReach index name reached) : classKey reached ∈ outcome.2 := by
  induction hreach with
  | self => exact h.covers hne name List.mem_cons_self
  | use _ hinfo hused ih => exact (h.closed hne _ ih List.not_mem_nil _ hinfo).2 _ hused

theorem traitDeclares_answers (name : String) :
    Answers index method (TraitReach index name)
      (traitDeclares index method (index.size + 1) [] name).1 := by
  have h : Explored index method [] [name] (traitDeclares index method (index.size + 1) [] name) :=
    traitDeclares_spec _ _ _ (by rw [unvisited_nil]; omega)
  have hnot : (traitDeclares index method (index.size + 1) [] name).1 ≠ some true →
      ∀ reached, TraitReach index name reached → ¬ Declares index method reached := by
    rintro hne reached hreach ⟨info, hinfo, hmethod⟩
    exact (h.closed hne _ (h.mem_of_reach hne hreach) List.not_mem_nil info hinfo).1 hmethod
  match hanswer : (traitDeclares index method (index.size + 1) [] name).1 with
  | some true =>
    obtain ⟨other, hother, reached, hreach, hdeclares⟩ := h.found hanswer
    rw [List.mem_singleton.1 hother] at hreach
    exact ⟨reached, hreach, hdeclares⟩
  | some false =>
    intro reached hreach
    have hne : (traitDeclares index method (index.size + 1) [] name).1 ≠ some true := by
      rw [hanswer]
      exact nofun
    have hmem := h.mem_of_reach hne hreach
    obtain ⟨info, hinfo⟩ := Option.ne_none_iff_exists'.1 (h.known hanswer _ hmem List.not_mem_nil)
    exact ⟨info, hinfo, (h.closed hne _ hmem List.not_mem_nil info hinfo).1⟩
  | none =>
    obtain ⟨other, hother, reached, hreach, hgap⟩ := h.gap hanswer
    rw [List.mem_singleton.1 hother] at hreach
    exact ⟨⟨reached, hreach, hgap⟩, hnot (by rw [hanswer]; exact nofun)⟩

theorem anyTraitDeclares_cons (name : String) (rest : List String) :
    anyTraitDeclares index method (name :: rest) =
      either (traitDeclares index method (index.size + 1) [] name).1
        (anyTraitDeclares index method rest) := by
  rw [anyTraitDeclares]
  rcases (traitDeclares index method (index.size + 1) [] name).1 with _ | _ | _
  · rcases anyTraitDeclares index method rest with _ | _ | _ <;> rfl
  · rfl
  · rfl

/-- The answer about all traits of a class. -/
theorem anyTraitDeclares_answers : ∀ names : List String,
    Answers index method (fun reached => ∃ used ∈ names, TraitReach index used reached)
      (anyTraitDeclares index method names)
  | [] => fun _ ⟨_, hused, _⟩ => (List.not_mem_nil hused).elim
  | name :: rest => by
    rw [anyTraitDeclares_cons]
    refine ((traitDeclares_answers name).or (anyTraitDeclares_answers rest)).congr fun reached => ?_
    simp

/-! ## The walk along the parents -/

variable (index method) in
/-- How far a walk from a class has come: the keys that it has passed, whether nothing unknown was
    met, and the class that is next, if any. -/
structure Walk (start : String) (visited : List String) (complete : Bool) (next : Option String) :
    Prop where
  begins : classKey start ∈ visited ∨ some (classKey start) = next.map classKey
  onChain : ∀ name, next = some name → OnChain index start name
  passed : ∀ key ∈ visited, ∃ info, index.entries.lookup key = some info ∧ method ∉ info.methods ∧
    (∀ parent, info.parent = some parent →
      classKey parent ∈ visited ∨ some (classKey parent) = next.map classKey) ∧
    ∀ used ∈ info.traits, ∀ reached, TraitReach index used reached →
      ¬ Declares index method reached ∧ (complete = true → Lacks index method reached)
  gap : complete = false → ∃ name, Consulted index start name ∧ index.get? name = none

section

variable {start : String} {visited : List String} {complete : Bool} {next : Option String}

/-- A walk that cannot go on has passed all ancestors but the one that stopped it. -/
theorem Walk.mem_of_onChain (h : Walk index method start visited complete next)
    (hend : ∀ name, next = some name → index.get? name = none) {name : String}
    (hname : OnChain index start name) :
    classKey name ∈ visited ∨ some (classKey name) = next.map classKey := by
  induction hname with
  | self => exact h.begins
  | @parent name parent info _ hinfo hparent ih =>
    rcases ih with hmem | hnext
    · obtain ⟨info', hinfo', -, hparents, -⟩ := h.passed _ hmem
      rw [show index.entries.lookup (classKey name) = some info from hinfo] at hinfo'
      cases hinfo'
      exact hparents parent hparent
    · obtain ⟨last, rfl, hlast⟩ := Option.map_eq_some_iff.1 hnext.symm
      rw [get?_congr index hlast.symm, hend last rfl] at hinfo
      cases hinfo

theorem Walk.not_declares (h : Walk index method start visited complete next)
    (hend : ∀ name, next = some name → index.get? name = none) {name : String}
    (hname : Consulted index start name) : ¬ Declares index method name := by
  -- an ancestor that is known has been passed
  have hpassed : ∀ {name info}, OnChain index start name → index.get? name = some info →
      classKey name ∈ visited := by
    intro name info hchain hinfo
    rcases h.mem_of_onChain hend hchain with hmem | hnext
    · exact hmem
    · obtain ⟨last, rfl, hlast⟩ := Option.map_eq_some_iff.1 hnext.symm
      rw [get?_congr index hlast.symm, hend last rfl] at hinfo
      cases hinfo
  rcases hname with ⟨hchain⟩ | ⟨hchain, hinfo, hused, hreached⟩
  · rintro ⟨info, hinfo, hmethod⟩
    obtain ⟨info', hinfo', hnot, -⟩ := h.passed _ (hpassed hchain hinfo)
    exact hnot (Option.some.inj (hinfo'.symm.trans hinfo) ▸ hmethod)
  · obtain ⟨info', hinfo', -, -, htraits⟩ := h.passed _ (hpassed hchain hinfo)
    cases hinfo'.symm.trans hinfo
    exact (htraits _ hused _ hreached).1

/-- The answer at the end of the chain. -/
theorem Walk.ended (h : Walk index method start visited complete none) :
    Answers index method (Consulted index start) (if complete then some false else none) := by
  cases hcomplete : complete with
  | false => exact ⟨h.gap hcomplete, fun _ => h.not_declares nofun⟩
  | true =>
    have hmem : ∀ {name}, OnChain index start name → classKey name ∈ visited := fun hchain =>
      (h.mem_of_onChain nofun hchain).resolve_right nofun
    intro name hname
    rcases hname with ⟨hchain⟩ | ⟨hchain, hinfo, hused, hreached⟩
    · obtain ⟨info, hinfo, hnot, -⟩ := h.passed _ (hmem hchain)
      exact ⟨info, hinfo, hnot⟩
    · obtain ⟨info', hinfo', -, -, htraits⟩ := h.passed _ (hmem hchain)
      cases hinfo'.symm.trans hinfo
      exact (htraits _ hused _ hreached).2 hcomplete

variable {name : String}

theorem mem_of_mem_or_next {key : String} (hseen : classKey name ∈ visited)
    (h : key ∈ visited ∨ some key = (some name).map classKey) : key ∈ visited := by
  rcases h with h | h
  · exact h
  · rw [Option.map_some, Option.some_inj] at h
    rw [h]
    exact hseen

theorem mem_cons_of_mem_or_next {key : String}
    (h : key ∈ visited ∨ some key = (some name).map classKey) : key ∈ classKey name :: visited :=
  mem_of_mem_or_next List.mem_cons_self (h.imp_left (List.mem_cons_of_mem _))

/-- A class that has been passed already closes a circle, which ends the chain. -/
theorem Walk.circle (h : Walk index method start visited complete (some name))
    (hseen : classKey name ∈ visited) : Walk index method start visited complete none where
  begins := .inl (mem_of_mem_or_next hseen h.begins)
  onChain := nofun
  passed key hkey := by
    obtain ⟨info, hinfo, hnot, hparents, htraits⟩ := h.passed key hkey
    refine ⟨info, hinfo, hnot, fun parent hparent => .inl ?_, htraits⟩
    exact mem_of_mem_or_next hseen (hparents parent hparent)
  gap := h.gap

/-- Passing a class that does not declare the method. -/
theorem Walk.step (h : Walk index method start visited complete (some name)) {info : ClassInfo}
    (hinfo : index.get? name = some info) (hnot : method ∉ info.methods)
    (hne : anyTraitDeclares index method info.traits ≠ some true) :
    Walk index method start (classKey name :: visited)
      (complete && anyTraitDeclares index method info.traits == some false) info.parent where
  begins := .inl (mem_cons_of_mem_or_next h.begins)
  onChain parent hparent := .parent (h.onChain name rfl) hinfo hparent
  passed key hkey := by
    have htraits : Answers index method _ (anyTraitDeclares index method info.traits) :=
      anyTraitDeclares_answers info.traits
    rcases List.mem_cons.1 hkey with rfl | hkey
    · refine ⟨info, hinfo, hnot, fun parent hparent => .inr (by rw [hparent]; rfl),
        fun used hused reached hreached => ⟨htraits.not_declares hne ⟨used, hused, hreached⟩, ?_⟩⟩
      intro hcomplete
      have hfalse : anyTraitDeclares index method info.traits = some false := by
        simp only [Bool.and_eq_true, beq_iff_eq] at hcomplete
        exact hcomplete.2
      exact htraits.eq_some_false_iff.1 hfalse reached ⟨used, hused, hreached⟩
    · obtain ⟨info', hinfo', hnot', hparents, htraits'⟩ := h.passed key hkey
      refine ⟨info', hinfo', hnot', fun parent hparent => .inl ?_,
        fun used hused reached hreached => ?_⟩
      · exact mem_cons_of_mem_or_next (hparents parent hparent)
      · obtain ⟨hdeclares, hlacks⟩ := htraits' used hused reached hreached
        refine ⟨hdeclares, fun hcomplete => hlacks ?_⟩
        rw [Bool.and_eq_true] at hcomplete
        exact hcomplete.1
  gap hcomplete := by
    cases hbefore : complete with
    | false => exact h.gap hbefore
    | true =>
      have htraits : Answers index method _ (anyTraitDeclares index method info.traits) :=
      anyTraitDeclares_answers info.traits
      match hanswer : anyTraitDeclares index method info.traits with
      | some true => exact absurd hanswer hne
      | some false => simp [hbefore, hanswer] at hcomplete
      | none =>
        rw [hanswer] at htraits
        obtain ⟨⟨reached, ⟨used, hused, hreached⟩, hgap⟩, -⟩ := htraits
        exact ⟨reached, .trait (h.onChain name rfl) hinfo hused hreached, hgap⟩

end

theorem chainDeclares_answers {start : String} : ∀ (fuel : Nat) (visited : List String)
    (complete : Bool) (name : String), index.unvisited visited < fuel →
      Walk index method start visited complete (some name) →
        Answers index method (Consulted index start)
          (chainDeclares index method fuel visited complete name)
  | 0, _, _, _, hfuel, _ => absurd hfuel (Nat.not_lt_zero _)
  | fuel + 1, visited, complete, name, hfuel, h => by
    rw [chainDeclares]
    split
    · rename_i hseen
      exact (h.circle (by simpa using hseen)).ended
    rename_i hseen
    have hnew : classKey name ∉ visited := by simpa using hseen
    split
    · rename_i hnone
      refine ⟨⟨name, .chain (h.onChain name rfl), hnone⟩, fun _ => h.not_declares ?_⟩
      rintro other heq
      cases heq
      exact hnone
    rename_i info hinfo
    split
    · rename_i hdeclares
      exact ⟨name, .chain (h.onChain name rfl), info, hinfo, by simpa using hdeclares⟩
    rename_i hdeclares
    have hnot : method ∉ info.methods := by simpa using hdeclares
    split
    · rename_i hfound
      obtain ⟨reached, ⟨used, hused, hreached⟩, hdeclares⟩ :=
        (anyTraitDeclares_answers info.traits).eq_some_true_iff.1 hfound
      exact ⟨reached, .trait (h.onChain name rfl) hinfo hused hreached, hdeclares⟩
    · rename_i hne
      have hstep := h.step hinfo hnot hne
      split
      · rename_i hparent
        rw [hparent] at hstep
        exact hstep.ended
      · rename_i parent hparent
        rw [hparent] at hstep
        have hless := unvisited_cons_lt hinfo hnew
        exact chainDeclares_answers fuel _ _ parent (by omega) hstep

/-- **The search among ancestors gives the right answer:** declared, not declared, or unknown. -/
theorem ancestorDeclares_answers (index : ClassIndex) (name method : String) :
    Answers index (Text.foldAscii method) (Consulted index name)
      (index.ancestorDeclares name method) := by
  refine chainDeclares_answers _ _ _ _ (by rw [unvisited_nil]; omega) ⟨.inr rfl, ?_, nofun, nofun⟩
  intro other heq
  cases heq
  exact .self

end ClassIndex

end LayerLint
