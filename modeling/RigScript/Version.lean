import RigScript.Text.Blank
import RigScript.Text.Decimal

/-! ## Versions and gates

A plugin reports a version of four numbers. A script may put a *gate* on a plugin, a relation to
a version that the reported one has to satisfy. Versions are ordered component by component, from
the left. -/

namespace RigScript

/-- Four components, each a 32-bit number. -/
structure Version where
  major : UInt32
  minor : UInt32
  patch : UInt32
  build : UInt32
  deriving DecidableEq, Repr

inductive VersionError where
  | malformed (text : String)
  | unknownRelation (text : String)
  deriving DecidableEq, Repr

def VersionError.message : VersionError → String
  | .malformed text => "Invalid plugin version: " ++ text
  | .unknownRelation text => "Invalid plugin version: unknown relation " ++ text

namespace Version

def components (v : Version) : List UInt32 := [v.major, v.minor, v.patch, v.build]

/-- The four numbers, with points between them. -/
def render (v : Version) : String :=
  toString v.major ++ "." ++ toString v.minor ++ "." ++ toString v.patch ++ "." ++
    toString v.build

def describe (v : Version) : String :=
  "PluginVersion \x7b major: " ++ toString v.major ++ ", minor: " ++ toString v.minor ++
    ", patch: " ++ toString v.patch ++ ", build: " ++ toString v.build ++ " \x7d"

/-! ## Reading -/

/-- The pieces of a text between points; there is always one. -/
def pieces : List Char → List (List Char)
  | [] => [[]]
  | c :: r =>
    if c = '.' then [] :: pieces r
    else match pieces r with
      | [] => [[c]]
      | p :: ps => (c :: p) :: ps

/-- A text without the one `v` or `V` that may stand in front. -/
def dropMark : List Char → List Char
  | 'v' :: r => r
  | 'V' :: r => r
  | s => s

/-- A component is a decimal number below 2^32. -/
def component? (s : List Char) : Option UInt32 := (Text.decimal? UInt32.size s).map UInt32.ofNat

def ofPieces? : List (List Char) → Option Version
  | [a, b, c, d] => do
    return ⟨← component? a, ← component? b, ← component? c, ← component? d⟩
  | _ => none

/-- Read a version: blanks around it and a mark in front are dropped. -/
def parse? (s : String) : Option Version := ofPieces? (pieces (dropMark (Text.trim s.toList)))

def parse (s : String) : Except VersionError Version :=
  match parse? s with
  | some v => .ok v
  | none => .error (.malformed s)

/-! ## Order -/

/-- Which of two versions is the smaller one: the first component that differs decides. -/
def compare (a b : Version) : Ordering :=
  (Ord.compare a.major.toNat b.major.toNat).then <|
    (Ord.compare a.minor.toNat b.minor.toNat).then <|
      (Ord.compare a.patch.toNat b.patch.toNat).then <|
        Ord.compare a.build.toNat b.build.toNat

end Version

/-! ## Gates -/

inductive Relation where
  | atMost | below | exactly | atLeast | above
  deriving DecidableEq, Repr

namespace Relation

def symbol : Relation → String
  | .atMost => "<="
  | .below => "<"
  | .exactly => "=="
  | .atLeast => ">="
  | .above => ">"

def all : List Relation := [.atMost, .below, .exactly, .atLeast, .above]

def parse? (s : String) : Option Relation := all.find? (·.symbol == s)

def parse (s : String) : Except VersionError Relation :=
  match parse? s with
  | some r => .ok r
  | none => .error (.unknownRelation s)

/-- Does the reported version stand in the relation to the requested one? -/
def accepts (r : Relation) (reported requested : Version) : Bool :=
  match r, reported.compare requested with
  | .atMost, o => o.isLE
  | .below, o => o.isLT
  | .exactly, o => o.isEq
  | .atLeast, o => o.isGE
  | .above, o => o.isGT

end Relation

structure Gate where
  relation : Relation
  version : Version
  deriving DecidableEq, Repr

namespace Gate

def render (g : Gate) : String := g.relation.symbol ++ " v" ++ g.version.render

def admits (g : Gate) (reported : Version) : Bool := g.relation.accepts reported g.version

end Gate

end RigScript
