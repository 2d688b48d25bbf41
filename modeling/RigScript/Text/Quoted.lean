import RigScript.Text.Unseen

/-! ## Quoted texts

A text between quotes as it is shown to someone who looks for a fault: every character in it can be
told by its looks. A character that cannot be seen is shown by its number. -/

namespace RigScript.Text

/-- A character by its number. -/
def numbered (c : Char) : List Char :=
  ['\\', 'u', '\x7b'] ++ Nat.toDigits 16 c.toNat ++ ['\x7d']

def visible (c : Char) : List Char :=
  if c = '"' then ['\\', '"']
  else if c = '\\' then ['\\', '\\']
  else if c = '\t' then ['\\', 't']
  else if c = '\n' then ['\\', 'n']
  else if c = '\r' then ['\\', 'r']
  else if c.toNat = 0 then ['\\', '0']
  else if isUnseen c then numbered c
  else [c]

def quoted (s : String) : String := "\"" ++ String.ofList (s.toList.flatMap visible) ++ "\""

/-- Texts between quotes, set in braces. -/
def quotedSet (l : List String) : String :=
  "\x7b" ++ ", ".intercalate (l.map quoted) ++ "\x7d"

example : quotedSet ["A", "it's", "\"b\\\n"] = "\x7b\"A\", \"it's\", \"\\\"b\\\\\\n\"\x7d" := by
  decide +kernel

example : quoted "e\u0301\u200b\x7f" = "\"e\\u\x7b301\x7d\\u\x7b200b\x7d\\u\x7b7f\x7d\"" := by
  decide +kernel

end RigScript.Text
