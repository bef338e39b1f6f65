import LayerLint.Text.Cut

/-!
# Paths

A path is kept as it is written, because reports show it that way. Order and equality of places look
at its components instead: repeated slashes, a trailing slash and inner single dots do not count.
-/

set_option autoImplicit false

namespace LayerLint

/-- A path as it is written. -/
structure Path where
  text : String
deriving DecidableEq, Inhabited

namespace Path

/-! ## Components -/

/-- One step of a path. A single dot is a step only at the very start of a relative path. -/
inductive Component where
  | root
  | here
  | up
  | name (s : String)
deriving DecidableEq, Inhabited

/-- The rank of a component among the four kinds. -/
def Component.rank : Component → Nat
  | root => 0
  | here => 1
  | up => 2
  | name _ => 3

/-- The text of a named component, empty for the others. -/
def Component.text : Component → String
  | name s => s
  | _ => ""

/-- Components are ordered by kind, names among themselves by their bytes. -/
def Component.compare (a b : Component) : Ordering :=
  (Ord.compare a.rank b.rank).then (Ord.compare a.text b.text)

/-- The written segments between slashes. -/
def segments (p : Path) : List String :=
  Text.split (· == '/') p.text

/-- The path starts at the root. -/
def isAbsolute (p : Path) : Bool :=
  Text.startsWith "/" p.text

/-- The component that a written segment stands for, if any. -/
def Component.ofSegment? (s : String) : Option Component :=
  if s == "" || s == "." then none
  else if s == ".." then some .up
  else some (.name s)

/-- The components of a path, outermost first. -/
def components (p : Path) : List Component :=
  let lead :=
    if p.isAbsolute then [.root]
    else if p.segments.head? == some "." then [.here]
    else []
  lead ++ p.segments.filterMap Component.ofSegment?

/-- Lexicographic order of component lists; a proper beginning comes first. -/
def compareComponents : List Component → List Component → Ordering
  | [], [] => .eq
  | [], _ :: _ => .lt
  | _ :: _, [] => .gt
  | a :: as, b :: bs => (a.compare b).then (compareComponents as bs)

/-- Order of paths by their components. -/
def compare (p q : Path) : Ordering :=
  compareComponents p.components q.components

/-- `p` does not come after `q`. -/
def le (p q : Path) : Bool :=
  compare p q != .gt

/-! ## Building and taking apart -/

/-- `q` below `p`; an absolute `q` stands for itself. -/
def join (p q : Path) : Path :=
  if q.isAbsolute then q
  else if p.text == "" || p.text.toList.getLast? == some '/' then ⟨p.text ++ q.text⟩
  else ⟨p.text ++ "/" ++ q.text⟩

/-- The last component, if it is a name. -/
def fileName? (p : Path) : Option String :=
  match p.components.getLast? with
  | some (.name s) => some s
  | _ => none

/-- What follows the last dot of the file name, unless that dot is its first character. -/
def extension? (p : Path) : Option String := do
  let file ← p.fileName?
  let (stem, ext) ← Text.cutLastChar? '.' file
  if stem == "" then none else some ext

/-- A written segment that stands for no step inside a path. -/
def isVoid (segment : String) : Bool :=
  segment == "" || segment == "."

/-- The path one component shorter, as it is written. The root, and the empty path, have none. -/
def parent? (p : Path) : Option Path :=
  if p.isAbsolute then
    match p.segments.reverse.dropWhile isVoid with
    | [] => none
    | _ :: outer =>
      match (outer.dropWhile isVoid).reverse with
      | [] => some ⟨"/"⟩
      | kept => some ⟨"/".intercalate kept⟩
  else
    match p.segments with
    | [] => none
    | first :: inner =>
      match inner.reverse.dropWhile isVoid with
      | [] => if first == "" then none else some ⟨""⟩
      | _ :: outer => some ⟨"/".intercalate (first :: (outer.dropWhile isVoid).reverse)⟩

/-- The path and its parents, at most `fuel` of the latter. -/
def ancestorsUpTo : Nat → Path → List Path
  | 0, p => [p]
  | fuel + 1, p =>
    match p.parent? with
    | none => [p]
    | some q => p :: ancestorsUpTo fuel q

/-- The path and all its parents, innermost first. -/
def ancestors (p : Path) : List Path :=
  ancestorsUpTo (p.segments.length + 1) p

/-- The components below `base`, if `base` is a beginning of the path. -/
def below? (base p : Path) : Option (List Component) :=
  base.components.isPrefixOf? p.components

/-- The written form of components that lie below something. -/
def ofComponents (cs : List Component) : Path :=
  ⟨"/".intercalate (cs.map fun
    | .root => ""
    | .here => "."
    | .up => ".."
    | .name s => s)⟩

/-- The path relative to `base`, or the path itself if it does not lie below it. -/
def relativeTo (p base : Path) : Path :=
  ((below? base p).map ofComponents).getD p

/-- The path with forward slashes only, as reports show it. -/
def display (p : Path) : String :=
  Text.replaceChar '\\' '/' p.text

end Path

end LayerLint
