import RigScript.Toml.Scalar
import RigScript.Toml.Tree

/-! ## Settings files

A file is a row of lines: blank lines and comments, headers, and keys with values. A value may be
an array, which may run over several lines, or an inline table, which may not. -/

namespace RigScript.Toml

/-- Values inside each other, and parts of a key, are counted up to this bound. -/
def maxDepth : Nat := 80

/-! ## Keys -/

def isBareChar (c : Char) : Bool :=
  ('A' ≤ c && c ≤ 'Z') || ('a' ≤ c && c ≤ 'z') || ('0' ≤ c && c ≤ '9') || c == '-' || c == '_'

def keyPart? : Reader String := fun s =>
  let s := skipSpaces s
  let part := match s with
    | '"' :: _ | '\'' :: _ => shortString? s
    | _ =>
      let bare := s.takeWhile isBareChar
      if bare.isEmpty then none else some (String.ofList bare, s.dropWhile isBareChar)
  part.map fun (k, r) => (k, skipSpaces r)

/-- The parts of a key between points; `n` bounds their number. -/
def keyIn : Nat → Reader (List String)
  | 0, _ => none
  | n + 1, s => do
    let (k, r) ← keyPart? s
    match r with
    | '.' :: r =>
      let (ks, r) ← keyIn n r
      return (k :: ks, r)
    | _ => return ([k], r)

def key? : Reader (List String) := keyIn (maxDepth - 1)

/-! ## Values -/

/-- The items of an array, after its bracket or a comma; `n` bounds their number. -/
def itemsIn (item : Reader Value) : Nat → Reader (List Value)
  | 0, _ => none
  | n + 1, s =>
    match skipLines s with
    | ']' :: r => some ([], r)
    | s => do
      let (v, r) ← item s
      match skipLines r with
      | ',' :: r =>
        let (vs, r) ← itemsIn item n r
        return (v :: vs, r)
      | ']' :: r => return ([v], r)
      | _ => failure

def pair? (item : Reader Value) : Reader (List String × Value) := fun s => do
  let (k, r) ← key? s
  let (v, r) ← item (skipSpaces (← mark? '=' r))
  return ((k, v), r)

/-- The fields of an inline table that is not empty; `n` bounds their number. -/
def pairsIn (item : Reader Value) : Nat → Reader (List (List String × Value))
  | 0, _ => none
  | n + 1, s => do
    let (p, r) ← pair? item s
    match skipSpaces r with
    | ',' :: r =>
      let (ps, r) ← pairsIn item n r
      return (p :: ps, r)
    | '\x7d' :: r => return ([p], r)
    | _ => failure

def inlineTable? (pairs : List (List String × Value)) : Option Value := do
  let fields ← pairs.foldlM (fun (f : Fields) p => f.addValue p.1 p.2) []
  return (Item.table false false fields).finish

/-- A value that holds values down to a depth. -/
def valueIn : Nat → Reader Value
  | 0 => scalarValue?
  | n + 1 => fun s =>
    match s with
    | '[' :: r => (itemsIn (valueIn n) (r.length + 1) r).map fun (l, r) => (.arr l, r)
    | '\x7b' :: r =>
      match skipSpaces r with
      | '\x7d' :: r => some (.table [], r)
      | _ => do
        let (ps, r) ← pairsIn (valueIn n) (r.length + 1) r
        return (← inlineTable? ps, r)
    | s => scalarValue? s

def value? : Reader Value := valueIn (maxDepth - 1)

/-! ## Lines -/

inductive Entry where
  | blank
  /-- `[key]` -/
  | header (path : List String)
  /-- `[[key]]` -/
  | next (path : List String)
  /-- `key = value` -/
  | pair (path : List String) (v : Value)

def entry? : Reader Entry := fun s =>
  match s with
  | [] => some (.blank, [])
  | '#' :: _ | '\n' :: _ | '\r' :: _ => some (.blank, s)
  | '[' :: '[' :: r => do
    let (k, r) ← key? r
    return (.next k, ← mark? ']' (← mark? ']' r))
  | '[' :: r => do
    let (k, r) ← key? r
    return (.header k, ← mark? ']' r)
  | s => (pair? value? s).map fun ((k, v), r) => (.pair k v, r)

/-- The tree so far, and the header under which the next pair belongs. -/
structure Draft where
  fields : Fields := []
  header : List String := []

def Draft.add (d : Draft) : Entry → Option Draft
  | .blank => some d
  | .header path => (d.fields.openTable path).map fun f => ⟨f, path⟩
  | .next path => (d.fields.openNext path).map fun f => ⟨f, path⟩
  | .pair path v => (d.fields.addValueAt d.header path v).map fun f => { d with fields := f }

/-- Read lines into a tree; `n` bounds their number. -/
def linesIn : Nat → Draft → List Char → Option Draft
  | 0, _, _ => none
  | n + 1, d, s => do
    let s := skipSpaces s
    if s.isEmpty then return d
    let (e, r) ← entry? s
    let d ← d.add e
    linesIn n d (← restOfLine? r)

/-- The fields of a settings file, as written. A byte order mark in front is left out. -/
def parse? (text : String) : Option (List (String × Value)) := do
  let s := match text.toList with
    | '\uFEFF' :: r => r
    | s => s
  let d ← linesIn (s.length + 1) {} s
  return finishFields d.fields

end RigScript.Toml
