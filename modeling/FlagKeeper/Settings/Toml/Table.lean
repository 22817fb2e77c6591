import FlagKeeper.Settings.Value

/-!
# Tables of a settings file in TOML

The fields of a table may be given one by one: by keys with several names, and under headers. So a table is built up, and how it
came to be says how it may grow. A header stands once for its table. What a key with several names made is reached by such keys
alone, and by headers only on the way to a table below it. A field is given once.
-/

namespace FlagKeeper

namespace Toml

/-- How a table came to be. -/
inductive TableKind where
  /-- A header of its own, or the file itself. -/
  | headed
  /-- A header of a table below it. -/
  | implied
  /-- A key with several names. -/
  | dotted
  deriving DecidableEq, Repr

/-- What is under a name while a file is read. -/
inductive Entry where
  /-- A finished value. -/
  | value (v : Setting)
  /-- A table that may still grow. -/
  | table (kind : TableKind) (fields : List (String × Entry))
  /-- A list of tables, last one first, which is the one that may grow. -/
  | tables (elements : List (List (String × Entry)))

/-- The fields of a table while a file is read. -/
abbrev Fields : Type := List (String × Entry)

namespace Fields

/-- Changes the fields of the table that is reached by a sequence of names; missing tables on the way are made. By a key with
several names, no table with a header of its own is reached. `change` is told how the table came to be. -/
def alter? (byKey : Bool) (change : TableKind → Fields → Option Fields) :
    List String → TableKind → Fields → Option Fields
  | [], kind, fields => change kind fields
  | name :: names, _, fields =>
    match fields.lookup name with
    | none => do
      let kind := if byKey then TableKind.dotted else .implied
      return putNamed name (.table kind (← alter? byKey change names kind [])) fields
    | some (.table kind inner) =>
      if byKey && kind == .headed then none
      else do return putNamed name (.table kind (← alter? byKey change names kind inner)) fields
    | some (.tables (last :: before)) => do
      return putNamed name (.tables ((← alter? byKey change names .headed last) :: before)) fields
    | some (.tables []) => none
    | some (.value _) => none

/-- Gives a field its value: below the given table, by the names of a key. A key of one name gives a field to the table itself,
a longer one to a table that such keys made. -/
def define? (v : Setting) (key : List String × String) (fields : Fields) : Option Fields :=
  alter? true (fun kind fields =>
    if (kind == .dotted) == key.1.isEmpty || (fields.lookup key.2).isSome then none
    else some (putNamed key.2 (.value v) fields)) key.1 .headed fields

/-- Starts the table under a header. It is new, or was there only on the way to other tables. -/
def open? (header : List String × String) (fields : Fields) : Option Fields :=
  alter? false (fun _ fields =>
    match fields.lookup header.2 with
    | none => some (putNamed header.2 (.table .headed []) fields)
    | some (.table .implied inner) => some (putNamed header.2 (.table .headed inner) fields)
    | some _ => none) header.1 .headed fields

/-- Starts the next table of the list under a header. -/
def append? (header : List String × String) (fields : Fields) : Option Fields :=
  alter? false (fun _ fields =>
    match fields.lookup header.2 with
    | none => some (putNamed header.2 (.tables [[]]) fields)
    | some (.tables elements) => some (putNamed header.2 (.tables ([] :: elements)) fields)
    | some _ => none) header.1 .headed fields

/-- Gives a field its value, below the table under a header. -/
def defineUnder? (header : List String) (v : Setting) (key : List String × String) (fields : Fields) : Option Fields :=
  alter? false (fun _ fields => fields.define? v key) header .headed fields

end Fields

mutual

/-- The value that was built up. -/
def Entry.finish : Entry → Setting
  | .value v => v
  | .table _ fields => .table (some .file) (finishFields fields)
  | .tables elements => .list (some .file) (finishTables elements).reverse

/-- The values of fields. -/
def finishFields : List (String × Entry) → List (String × Setting)
  | [] => []
  | (name, e) :: rest => (name, e.finish) :: finishFields rest

/-- The values of tables. -/
def finishTables : List (List (String × Entry)) → List Setting
  | [] => []
  | fields :: rest => .table (some .file) (finishFields fields) :: finishTables rest

end

end Toml

end FlagKeeper
