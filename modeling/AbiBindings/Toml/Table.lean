import AbiBindings.Toml.Value

/-!
# Tables under construction

The lines of a document put a table together. A table can be defined by a header, by a dotted key,
or in passing as the parent of another; which of these it was decides how it may be extended:

* a header may define a table that was only passed through, and nothing else twice;
* a dotted key goes on only into tables that no header has defined, and adds keys only to tables
  that dotted keys have defined;
* in a list of tables, the last one is meant;
* values, tables in braces among them, are never extended.
-/

namespace AbiBindings.Toml

/-- How a table under construction came to be. -/
inductive Origin where
  /-- As a parent in the path of a header. -/
  | passed
  /-- By a dotted key. -/
  | dotted
  /-- By a header. -/
  | defined
  deriving DecidableEq

/-- A member of a table under construction. -/
inductive Node where
  | value (v : Toml)
  | table (origin : Origin) (members : List (String × Node))
  /-- A list of tables, the last one first. -/
  | tables (members : List (List (String × Node)))

/-- The members of a table under construction, in order. -/
abbrev Members := List (String × Node)

namespace Members

/-- Replace the member with a key, or add one at the end. -/
def set (key : String) (n : Node) : Members → Members
  | [] => [(key, n)]
  | (k, m) :: rest => if k = key then (k, n) :: rest else (k, m) :: set key n rest

/-- Change the table at the end of a header's path, of which missing parts are passed through. -/
def within (change : Members → Except Fault Members) : List String → Members → Except Fault Members
  | [], members => change members
  | key :: path, members => do
    let node ← match members.lookup key with
      | none => Node.table .passed <$> within change path []
      | some (.table origin inner) => Node.table origin <$> within change path inner
      | some (.tables (last :: others)) =>
        (fun changed => Node.tables (changed :: others)) <$> within change path last
      | some _ => .error (.duplicateKey key)
    return members.set key node

/-- Add a member that must not exist yet. -/
def add (key : String) (n : Node) (members : Members) : Except Fault Members :=
  if (members.lookup key).isSome then .error (.duplicateKey key)
  else .ok (members ++ [(key, n)])

/-- Add a value under a dotted key: the path before the last part, and the last part. -/
def insert (key : String) (v : Toml) : List String → Members → Except Fault Members
  | [], members => members.add key (.value v)
  | part :: path, members => do
    let node ← match members.lookup part with
      | none => Node.table .dotted <$> insert key v path []
      | some (.table origin inner) =>
        if origin = .defined ∨ (path.isEmpty ∧ origin ≠ .dotted) then .error (.duplicateKey part)
        else Node.table origin <$> insert key v path inner
      | some (.tables (last :: others)) =>
        if path.isEmpty then .error (.duplicateKey part)
        else (fun changed => Node.tables (changed :: others)) <$> insert key v path last
      | some _ => .error (.duplicateKey part)
    return members.set part node

/-- Define the table of a header. -/
def define (key : String) (members : Members) : Except Fault Members :=
  match members.lookup key with
  | none => .ok (members ++ [(key, .table .defined [])])
  | some (.table .passed inner) => .ok (members.set key (.table .defined inner))
  | some _ => .error (.duplicateKey key)

/-- Begin a further table in the list of tables of a header. -/
def append (key : String) (members : Members) : Except Fault Members :=
  match members.lookup key with
  | none => .ok (members ++ [(key, .tables [[]])])
  | some (.tables tables) => .ok (members.set key (.tables ([] :: tables)))
  | some _ => .error (.duplicateKey key)

end Members

/-! ## The finished table -/

mutual

/-- The value of a member. -/
def Node.finish : Node → Toml
  | .value v => v
  | .table _ members => .table (finishMembers members)
  | .tables tables => .array (finishTables tables).reverse

/-- The members of a finished table. -/
def finishMembers : List (String × Node) → List (String × Toml)
  | [] => []
  | (key, n) :: rest => (key, n.finish) :: finishMembers rest

/-- The tables of a finished list, in the order given. -/
def finishTables : List (List (String × Node)) → List Toml
  | [] => []
  | members :: rest => .table (finishMembers members) :: finishTables rest

end

end AbiBindings.Toml
