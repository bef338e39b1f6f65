import LayerLint.Data.Value

/-!
# TOML documents

A document is a table that grows line by line. A table may be opened once by a header; one that
only came into being on the way to another may still be opened later. Tables made by dotted keys
grow by dotted keys alone.
-/

set_option autoImplicit false

namespace LayerLint.Data.Toml

mutual

/-- A table under construction. -/
inductive Table where
  | mk (implicit dotted : Bool) (members : List (String × Item))

/-- What a key of a table stands for. -/
inductive Item where
  | value (v : Value)
  | table (t : Table)
  | tables (ts : List Table)

end

namespace Table

/-- A new table without members. -/
def empty (implicit dotted : Bool) : Table :=
  mk implicit dotted []

/-- The table only came into being on the way to another. -/
def implicit : Table → Bool
  | mk i _ _ => i

/-- The table was made by a dotted key. -/
def dotted : Table → Bool
  | mk _ d _ => d

/-- The members in the order in which they came. -/
def members : Table → List (String × Item)
  | mk _ _ ms => ms

/-- The table with an item put in place of the one at the key, or at the end. -/
def put (t : Table) (key : String) (item : Item) : Table :=
  let replace := t.members.any (·.1 == key)
  mk t.implicit t.dotted
    (if replace then t.members.map fun m => if m.1 == key then (key, item) else m
    else t.members ++ [(key, item)])

/-- Applies `f` to the table at the end of a path. Missing tables on the way are made; a list of
tables stands for its last one. Dotted keys may not enter a table that has been opened. -/
def descend (byDottedKey : Bool) (f : Table → Option Table) : List String → Table → Option Table
  | [], t => f t
  | key :: path, t =>
    match t.members.lookup key with
    | none => do
      let inner ← descend byDottedKey f path (empty true byDottedKey)
      return t.put key (.table inner)
    | some (.value _) => none
    | some (.table inner) =>
      if byDottedKey && !inner.implicit then none
      else do
        let inner ← descend byDottedKey f path inner
        return t.put key (.table inner)
    | some (.tables ts) =>
      match ts.getLast? with
      | none => none
      | some last => do
        let last ← descend byDottedKey f path last
        return t.put key (.tables (ts.dropLast ++ [last]))

/-- Adds a value at a key that may be dotted. The key has to be new. -/
def define (path : List String) (key : String) (v : Value) : Table → Option Table :=
  descend true
    (fun t =>
      if t.dotted == path.isEmpty || (t.members.lookup key).isSome then none
      else some (t.put key (.value v)))
    path

/-- Opens the table of a header: a new one, or one that so far was only passed through. -/
def openTable (path : List String) (key : String) : Table → Option Table :=
  descend false
    (fun t =>
      match t.members.lookup key with
      | none => some (t.put key (.table (empty false false)))
      | some (.table inner) =>
        if inner.implicit && !inner.dotted then
          some (t.put key (.table (mk false false inner.members)))
        else none
      | some _ => none)
    path

/-- Opens a further table of a list of tables. -/
def openElement (path : List String) (key : String) : Table → Option Table :=
  descend false
    (fun t =>
      match t.members.lookup key with
      | none => some (t.put key (.tables [empty false false]))
      | some (.tables ts) => some (t.put key (.tables (ts ++ [empty false false])))
      | some _ => none)
    path

end Table

mutual

/-- The value of a finished table. -/
def Table.toValue : Table → Value
  | .mk _ _ members => .record (membersToValues members)

/-- The value of an item. -/
def Item.toValue : Item → Value
  | .value v => v
  | .table t => t.toValue
  | .tables ts => .array (tablesToValues ts)

/-- The values of members. -/
def membersToValues : List (String × Item) → List (String × Value)
  | [] => []
  | (k, item) :: rest => (k, item.toValue) :: membersToValues rest

/-- The values of tables. -/
def tablesToValues : List Table → List Value
  | [] => []
  | t :: rest => t.toValue :: tablesToValues rest

end

end LayerLint.Data.Toml
