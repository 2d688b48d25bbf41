/-! ## Ranges of characters

A class of characters is a table of ranges of their numbers. -/

namespace RigScript.Text

def inRanges (ranges : List (Nat × Nat)) (c : Char) : Bool :=
  ranges.any fun (first, last) => first ≤ c.toNat && c.toNat ≤ last

/-- The number of characters in ranges that lie apart. -/
def charCount (ranges : List (Nat × Nat)) : Nat :=
  ranges.foldl (fun n (first, last) => n + (last + 1 - first)) 0

end RigScript.Text
