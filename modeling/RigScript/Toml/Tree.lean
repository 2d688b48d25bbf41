import RigScript.Toml.Value

/-! ## Tables under construction

The lines of a settings file build a tree of tables. A table comes into being by its header, as
part of the header of another table, or as part of a dotted key, and how it came decides what may
still be added to it: a header may complete a table that was only part of other headers, and a
dotted key may add to a table that was made by dotted keys. Whatever is written as one value, an
inline table too, is complete. -/

namespace RigScript.Toml

inductive Item where
  | value (v : Value)
  /-- A table. It is implicit before its own header, and dotted if a dotted key made it. -/
  | table (implicit dotted : Bool) (fields : List (String × Item))
  /-- An array of tables, each with its own header; the last is the one that grows. -/
  | tables (all : List (List (String × Item)))

/-- The fields of a table under construction. -/
abbrev Fields := List (String × Item)

namespace Fields

def get? (f : Fields) (key : String) : Option Item :=
  (List.find? (·.1 == key) f).map (·.2)

def put (f : Fields) (key : String) (i : Item) : Fields :=
  if f.any (·.1 == key) then f.map fun e => if e.1 == key then (key, i) else e
  else f ++ [(key, i)]

/-- Change the table at the end of a path. Tables that are missing on the way are made, by a
dotted key or by a header; a dotted key does not reach into a table that has its own header. The
change sees whether it works on a dotted table. -/
def change (byKey : Bool) (act : Bool → Fields → Option Fields) :
    List String → Bool → Fields → Option Fields
  | [], dotted, f => act dotted f
  | k :: ks, _, f =>
    match f.get? k with
    | none => do
      let inner ← change byKey act ks byKey []
      return f.put k (.table true byKey inner)
    | some (.value _) => none
    | some (.table implicit dotted g) =>
      if byKey && !implicit then none
      else do
        let inner ← change byKey act ks dotted g
        return f.put k (.table implicit dotted inner)
    | some (.tables all) =>
      match all.getLast? with
      | none => none
      | some g => do
        let inner ← change byKey act ks false g
        return f.put k (.tables (all.dropLast ++ [inner]))

/-- Add a value under a key of one or more parts: the table that it goes to was made by dotted
keys, or the key has one part. -/
def addValue (path : List String) (v : Value) (f : Fields) : Option Fields :=
  match path.reverse with
  | [] => none
  | key :: before =>
    change true (fun dotted g =>
      if (dotted == before.isEmpty) || (g.get? key).isSome then none
      else some (g.put key (.value v))) before.reverse false f

/-- Open a table by its header: it is new, or was only part of other headers. It becomes the last
of its fields. -/
def openTable (path : List String) (f : Fields) : Option Fields :=
  match path.reverse with
  | [] => none
  | key :: before =>
    change false (fun _ g =>
      match g.get? key with
      | none => some (g.put key (.table false false []))
      | some (.table true false h) =>
        some (g.filter (·.1 != key) ++ [(key, .table false false h)])
      | _ => none) before.reverse false f

/-- Open the next table of an array of tables. -/
def openNext (path : List String) (f : Fields) : Option Fields :=
  match path.reverse with
  | [] => none
  | key :: before =>
    change false (fun _ g =>
      match g.get? key with
      | none => some (g.put key (.tables [[]]))
      | some (.tables all) => some (g.put key (.tables (all ++ [[]])))
      | _ => none) before.reverse false f

/-- Add a value to the table that was opened last. -/
def addValueAt (header path : List String) (v : Value) (f : Fields) : Option Fields :=
  change false (fun _ g => g.addValue path v) header false f

end Fields

mutual

def Item.finish : Item → Value
  | .value v => v
  | .table _ _ fields => .table (finishFields fields)
  | .tables all => .arr (finishTables all)

def finishFields : List (String × Item) → List (String × Value)
  | [] => []
  | (k, i) :: r => (k, i.finish) :: finishFields r

def finishTables : List (List (String × Item)) → List Value
  | [] => []
  | f :: r => .table (finishFields f) :: finishTables r

end

end RigScript.Toml
