import RigScript.Toml.Value

/-! ## Strings and numbers of a settings file

A string stands between quotes, with escapes, or between apostrophes, without; three marks
instead of one make it run over several lines. A number is an integer of one of four bases or a
decimal fraction; underscores may stand between its digits. -/

namespace RigScript.Toml

/-! ## Strings -/

/-- A character that may stand in a string on one line, quotes and backslashes aside. -/
def isStringChar (c : Char) : Bool :=
  c == '\t' || (0x20 ≤ c.toNat && c.toNat ≤ 0x7E) || 0x80 ≤ c.toNat

def hexValue? (c : Char) : Option Nat :=
  if Text.isDigit c then some (Text.digitValue c)
  else if 'a' ≤ c && c ≤ 'f' then some (c.toNat - 87)
  else if 'A' ≤ c && c ≤ 'F' then some (c.toNat - 55)
  else none

/-- A character by its number, of exactly `n` hexadecimal digits. -/
def scalar? (n : Nat) : Reader Char := fun s => do
  let digits := s.take n
  if digits.length != n then failure
  let v ← digits.foldlM (fun v c => (hexValue? c).map (16 * v + ·)) 0
  if v < 0xD800 || (0xE000 ≤ v && v < 0x110000) then return (Char.ofNat v, s.drop n)
  else failure

/-- The character that an escape stands for; the backslash is read already. -/
def escape? : Reader Char := fun s =>
  match s with
  | 'b' :: r => some (Char.ofNat 8, r)
  | 't' :: r => some ('\t', r)
  | 'n' :: r => some ('\n', r)
  | 'f' :: r => some (Char.ofNat 12, r)
  | 'r' :: r => some ('\r', r)
  | '"' :: r => some ('"', r)
  | '\\' :: r => some ('\\', r)
  | 'u' :: r => scalar? 4 r
  | 'U' :: r => scalar? 8 r
  | _ => none

def consChar (c : Char) (p : List Char × List Char) : List Char × List Char := (c :: p.1, p.2)

/-- The rest of a string on one line, after its opening quote. `n` bounds its length. -/
def basicIn : Nat → Reader (List Char)
  | 0, _ => none
  | _ + 1, [] => none
  | n + 1, c :: r =>
    if c = '"' then some ([], r)
    else if c = '\\' then do
      let (d, r) ← escape? r
      return consChar d (← basicIn n r)
    else if isStringChar c then (basicIn n r).map (consChar c)
    else none

def literalIn : Reader (List Char)
  | [] => none
  | c :: r =>
    if c = '\'' then some ([], r)
    else if isStringChar c then (literalIn r).map (consChar c)
    else none

/-- The text after the first line end of a string over several lines. -/
def dropLineEnd (s : List Char) : List Char := (lineEnd? s).getD s

/-- What marks in a row mean inside a string over several lines: one or two are content; three
end it, and of up to two more the first are content. -/
def closing (mark : Char) (s : List Char) : List Char × Option (List Char) :=
  let run := s.takeWhile (· == mark)
  if run.length < 3 then (run, none)
  else (run.take (min (run.length - 3) 2), some (s.drop (min run.length 5)))

def skipBlankLines : List Char → List Char
  | '\r' :: '\n' :: r => skipBlankLines r
  | c :: r => if isSpace c || c == '\n' then skipBlankLines r else c :: r
  | [] => []

/-- The text after a backslash at the end of a line: all blanks and line ends are skipped. -/
def continuation? (s : List Char) : Option (List Char) :=
  (lineEnd? (skipSpaces s)).map skipBlankLines

def longBasicIn : Nat → Reader (List Char)
  | 0, _ => none
  | _ + 1, [] => none
  | n + 1, c :: r =>
    if c = '"' then
      match closing '"' (c :: r) with
      | (content, some rest) => some (content, rest)
      | (content, none) =>
        (longBasicIn n ((c :: r).drop content.length)).map fun p => (content ++ p.1, p.2)
    else if c = '\\' then
      match continuation? r with
      | some r => longBasicIn n r
      | none => do
        let (d, r) ← escape? r
        return consChar d (← longBasicIn n r)
    else match lineEnd? (c :: r) with
      | some r => (longBasicIn n r).map (consChar '\n')
      | none => if isStringChar c then (longBasicIn n r).map (consChar c) else none

def longLiteralIn : Nat → Reader (List Char)
  | 0, _ => none
  | _ + 1, [] => none
  | n + 1, c :: r =>
    if c = '\'' then
      match closing '\'' (c :: r) with
      | (content, some rest) => some (content, rest)
      | (content, none) =>
        (longLiteralIn n ((c :: r).drop content.length)).map fun p => (content ++ p.1, p.2)
    else match lineEnd? (c :: r) with
      | some r => (longLiteralIn n r).map (consChar '\n')
      | none => if isStringChar c then (longLiteralIn n r).map (consChar c) else none

def shortString? : Reader String := fun s => do
  let (chars, r) ← match s with
    | '"' :: r => basicIn (r.length + 1) r
    | '\'' :: r => literalIn r
    | _ => none
  return (String.ofList chars, r)

def string? : Reader String := fun s =>
  match s with
  | '"' :: '"' :: '"' :: r =>
    (longBasicIn (r.length + 1) (dropLineEnd r)).map fun p => (String.ofList p.1, p.2)
  | '\'' :: '\'' :: '\'' :: r =>
    (longLiteralIn (r.length + 1) (dropLineEnd r)).map fun p => (String.ofList p.1, p.2)
  | s => shortString? s

/-! ## Numbers -/

/-- Digits of a base, at least one, with single underscores between them. -/
def digitsOf (isDigit : Char → Bool) : Nat → Reader (List Char)
  | 0, _ => none
  | _ + 1, [] => none
  | n + 1, c :: r =>
    if !isDigit c then none
    else match r with
      | '_' :: r => (digitsOf isDigit n r).map (consChar c)
      | d :: _ => if isDigit d then (digitsOf isDigit n r).map (consChar c) else some ([c], r)
      | [] => some ([c], [])

def digits? : Reader (List Char) := fun s => digitsOf Text.isDigit s.length s

/-- A sign, if there is one: is it a minus? -/
def sign : List Char → Bool × List Char
  | '-' :: r => (true, r)
  | '+' :: r => (false, r)
  | s => (false, s)

/-- The digits of a whole number: a zero alone, or digits of which the first is none. -/
def wholeDigits? : Reader (List Char) := fun s =>
  match s with
  | '0' :: r => some (['0'], r)
  | s => digits? s

def ofDigits (base : Nat) (s : List Char) : Nat :=
  s.foldl (fun n c => base * n + (hexValue? c).getD 0) 0

def basedInteger? (base : Nat) : Reader Value := fun s => do
  let isDigit c := match hexValue? c with
    | some v => v < base
    | none => false
  let (digits, r) ← digitsOf isDigit s.length s
  return (← Value.ofInt? (ofDigits base digits), r)

def signed (negative : Bool) (n : Nat) : Int := if negative then -n else n

def integer? : Reader Value := fun s =>
  match s with
  | '0' :: 'x' :: r => basedInteger? 16 r
  | '0' :: 'o' :: r => basedInteger? 8 r
  | '0' :: 'b' :: r => basedInteger? 2 r
  | s => do
    let (negative, r) := sign s
    let (digits, r) ← wholeDigits? r
    return (← Value.ofInt? (signed negative (ofDigits 10 digits)), r)

def exponent? : Reader (Option Int) := fun s =>
  match s with
  | 'e' :: r | 'E' :: r => do
    let (negative, r) := sign r
    let (digits, r) ← digits? r
    return (some (signed negative (ofDigits 10 digits)), r)
  | s => some (none, s)

def fractionDigits? : Reader (Option (List Char)) := fun s =>
  match s with
  | '.' :: r => (digits? r).map fun (d, r) => (some d, r)
  | s => some (none, s)

/-- A decimal fraction: a whole number with a point, an exponent, or both. One that is too large
is refused. -/
def decimal? : Reader Value := fun s => do
  let (negative, r) := sign s
  let (whole, r) ← wholeDigits? r
  let (fraction, r) ← fractionDigits? r
  let (exponent, r) ← exponent? r
  if fraction.isNone && exponent.isNone then failure
  let places := fraction.getD []
  let x := Binary64.ofDecimal negative (ofDigits 10 (whole ++ places))
    (exponent.getD 0 - places.length)
  if x = .infinite false then failure
  return (.float x, r)

def special? : Reader Value := fun s =>
  let (negative, r) := sign s
  match r with
  | 'i' :: 'n' :: 'f' :: r => some (.float (.infinite negative), r)
  | 'n' :: 'a' :: 'n' :: r => some (.float .nan, r)
  | _ => none

def bool? : Reader Value := fun s =>
  match s with
  | 't' :: 'r' :: 'u' :: 'e' :: r => some (.bool true, r)
  | 'f' :: 'a' :: 'l' :: 's' :: 'e' :: r => some (.bool false, r)
  | _ => none

def scalarValue? : Reader Value := fun s =>
  match s with
  | '"' :: _ | '\'' :: _ => (string? s).map fun (t, r) => (.str t, r)
  | _ =>
    bool? s <|> special? s <|> ((DateTime.read? s).map fun (d, r) => (.dateTime d, r)) <|>
      decimal? s <|> integer? s

end RigScript.Toml
