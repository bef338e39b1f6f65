/-!
# Data values

The values that configuration files and reports are made of. Integers are exact; a number written
with a fraction or an exponent keeps its text, since nothing computes with it.
-/

set_option autoImplicit false

namespace LayerLint.Data

/-- A structured value. The members of a record keep the order in which they were written. -/
inductive Value where
  | null
  | bool (b : Bool)
  | int (n : Int)
  | decimal (text : String)
  | string (s : String)
  | array (items : List Value)
  | record (members : List (String × Value))
deriving Inhabited

namespace Value

/-- The member of a record, the last one if the key is repeated. -/
def get? (v : Value) (key : String) : Option Value :=
  match v with
  | record members => members.reverse.lookup key
  | _ => none

/-- A string. -/
def string? : Value → Option String
  | string s => some s
  | _ => none

/-- A truth value. -/
def bool? : Value → Option Bool
  | bool b => some b
  | _ => none

/-- The items of an array. -/
def array? : Value → Option (List Value)
  | array items => some items
  | _ => none

/-- The members of a record. -/
def record? : Value → Option (List (String × Value))
  | record members => some members
  | _ => none

/-- The number of values of a machine word of 64 bits. -/
def wordSize : Nat := 18446744073709551616

/-- The fields of a structure by name: the members of a record, or the items of an array in the order
of the names. -/
def fields? (names : List String) : Value → Option (List (String × Value))
  | record members => some members
  | array items => if items.length ≤ names.length then some (names.zip items) else none
  | _ => none

/-- The name of a choice without content: a string, or a record with that one member and nothing in
it. -/
def choice? : Value → Option String
  | string s => some s
  | record [(s, null)] => some s
  | _ => none

/-- A count that fits a machine word of 64 bits. -/
def count? : Value → Option Nat
  | int n => if 0 ≤ n ∧ n < wordSize then some n.toNat else none
  | _ => none

/-- An array of strings. -/
def strings? (v : Value) : Option (List String) :=
  v.array?.bind fun items => items.mapM string?

/-- An array of strings as a value. -/
def ofStrings (ss : List String) : Value :=
  array (ss.map string)

/-- The value, or null for none. -/
def ofOption (v : Option Value) : Value :=
  v.getD null

/-- A count as a value. -/
def ofNat (n : Nat) : Value :=
  int n

end Value

end LayerLint.Data
