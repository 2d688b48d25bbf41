/-! ## Files

Scripts and settings come from files. The engine sees them through two questions, and a fault of
an answer is a cause. `FileTree` is a tree of files held in memory that answers both. -/

namespace RigScript

/-- Why a file cannot be read or written. -/
inductive FileError where
  | notFound
  | isDirectory
  | notDirectory
  /-- The path, or a name in it, has too many bytes. -/
  | nameTooLong
  | zeroInPath
  | notText
  /-- Any other cause, in the words of the system. -/
  | other (reason : String)
  deriving DecidableEq, Repr

namespace FileError

def words : FileError → String
  | .notFound => "No such file or directory"
  | .isDirectory => "Is a directory"
  | .notDirectory => "Not a directory"
  | .nameTooLong => "File name too long"
  | .zeroInPath => "file name contained an unexpected NUL byte"
  | .notText => "stream did not contain valid UTF-8"
  | .other reason => reason

/-- The number that the system gives to the cause, if the cause comes from it. -/
def number? : FileError → Option Nat
  | .notFound => some 2
  | .isDirectory => some 21
  | .notDirectory => some 20
  | .nameTooLong => some 36
  | _ => none

def message (e : FileError) : String :=
  match e.number? with
  | some n => e.words ++ " (os error " ++ toString n ++ ")"
  | none => e.words

end FileError

/-- What the engine can learn about files. -/
structure Files where
  present : String → Bool
  read : String → Except FileError String

/-! ## Trees in memory -/

/-- What a path of a tree leads to. -/
inductive Node where
  | text (s : String)
  | bytes (b : ByteArray)
  /-- A device without content, which takes any text that is written to it. -/
  | sink
  | directory

/-- Nodes by the names on the way to them. A directory on the way to a node need not be listed. -/
structure FileTree where
  nodes : List (List String × Node) := []

namespace FileTree

/-- The pieces of a path between slashes. -/
def pieces (path : String) : List String := (path.splitOn "/")

/-- The names of a plain path, from the top of the tree. -/
def names (path : String) : List String := (pieces path).filter fun s => s != "" && s != "."

def ofList (l : List (String × Node)) : FileTree := ⟨l.map fun (p, n) => (names p, n)⟩

/-- The row of names that stands for the root of the machine. -/
def root : List String := ["/"]

/-- Is the row a directory that holds the tree: the top, one above it, or the root? -/
def holdsTree (row : List String) : Bool := row == root || row.all (· == "..")

def above (row : List String) : List String :=
  if row == root then root else if holdsTree row then row ++ [".."] else row.dropLast

/-- What every machine has outside the tree. -/
def machine : List (List String × Node) := [(["/", "dev", "null"], .sink)]

def find? (t : FileTree) (row : List String) : Option Node :=
  let nodes := t.nodes ++ machine
  match nodes.find? (·.1 == row) with
  | some (_, n) => some n
  | none =>
    if holdsTree row || nodes.any (fun (k, _) => row.isPrefixOf k) then some .directory else none

def isDirectory (t : FileTree) (row : List String) : Bool :=
  match t.find? row with
  | some .directory => true
  | _ => false

def maxName : Nat := 255

def maxPath : Nat := 4095

/-- Follow the pieces of a path. Every step but the last has to lead to a directory. -/
def walk (t : FileTree) : List String → List String → Except FileError (List String)
  | row, [] => .ok row
  | row, p :: ps =>
    if !t.isDirectory row then .error .notDirectory
    else if p = "" || p = "." then t.walk row ps
    else if p = ".." then t.walk (above row) ps
    else if maxName < p.utf8ByteSize then .error .nameTooLong
    else match t.find? (row ++ [p]) with
      | none => .error .notFound
      | some _ => t.walk (row ++ [p]) ps

/-- The row at which a path begins: the top of the tree, or the root of the machine. -/
def origin (path : String) : Except FileError (List String) :=
  if path.contains '\x00' then .error .zeroInPath
  else if path = "" then .error .notFound
  else if maxPath < path.utf8ByteSize then .error .nameTooLong
  else .ok (if path.startsWith "/" then root else [])

def resolve (t : FileTree) (path : String) : Except FileError (List String) := do
  t.walk (← origin path) (pieces path)

def read (t : FileTree) (path : String) : Except FileError String := do
  match t.find? (← t.resolve path) with
  | some (.text s) => .ok s
  | some .sink => .ok ""
  | some (.bytes b) =>
    match String.fromUTF8? b with
    | some s => .ok s
    | none => .error .notText
  | some .directory => .error .isDirectory
  | none => .error .notFound

def present (t : FileTree) (path : String) : Bool :=
  match t.resolve path with
  | .ok row => (t.find? row).isSome
  | .error _ => false

/-- Write a text, into a new file or over an old one. -/
def write (t : FileTree) (path text : String) : Except FileError FileTree := do
  let start ← origin path
  match (pieces path).reverse.span (· == "") with
  | (_, []) => throw .isDirectory
  | (slashes, last :: before) =>
    let dir ← t.walk start before.reverse
    if !t.isDirectory dir then throw .notDirectory
    if !slashes.isEmpty || last = "." || last = ".." then throw .isDirectory
    if maxName < last.utf8ByteSize then throw .nameTooLong
    let row := dir ++ [last]
    match t.find? row with
    | some .directory => throw .isDirectory
    | some .sink => return t
    | _ => return ⟨(row, .text text) :: t.nodes.filter (·.1 != row)⟩

/-- The first bytes of a library. -/
def libraryMark : List UInt8 := [0x7F, 0x45, 0x4C, 0x46]

def libraryHeader : Nat := 64

/-- A text as the system's loader takes it: it ends with the character with the number zero, which
may stand at the end already and nowhere else. -/
def loaderText (s : String) : Except String String :=
  let cause := "could not create a C string from bytes"
  match s.toList.reverse with
  | '\x00' :: r =>
    if r.contains '\x00' then .error (cause ++ " with trailing null")
    else .ok (String.ofList r.reverse)
  | r => if r.contains '\x00' then .error cause else .ok s

/-- The place of a library, or why there is none. A path without a slash is a name that the system
looks for in directories of its own, none of which is in the tree. -/
def locateLibrary (t : FileTree) (path : String) : Except String (List String) := do
  let path ← loaderText path
  let refuse (cause : String) : Except String (List String) := .error (path ++ ": " ++ cause)
  let missing (e : FileError) := refuse ("cannot open shared object file: " ++ e.words)
  if !path.contains '/' then missing .notFound
  else match t.resolve path with
    | .error e => missing e
    | .ok row =>
      let check (b : ByteArray) :=
        if b.size < libraryHeader then refuse "file too short"
        else if !libraryMark.isPrefixOf b.toList then refuse "invalid ELF header"
        else .ok row
      match t.find? row with
      | some (.text s) => check s.toUTF8
      | some (.bytes b) => check b
      | some .sink => check .empty
      | some .directory => refuse ("cannot read file data: " ++ FileError.isDirectory.words)
      | none => missing .notFound

def files (t : FileTree) : Files := { present := t.present, read := t.read }

end FileTree

end RigScript
