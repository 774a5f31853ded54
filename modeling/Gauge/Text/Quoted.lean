import Gauge.Text.Printable

/-! # Quoted texts

Ways to write a text between double quotes: for people, where whatever does not print on its own is
written by its code point, the same for paths of files, and as a JSON string.
-/
namespace Gauge.Text

def hex (n : Nat) : List Char := Nat.toDigits 16 n

def hex4 (n : Nat) : List Char := List.replicate (4 - (hex n).length) '0' ++ hex n

/-- One character between quotes: what does not print is written as `\u` and its code point between
braces, apart from the few with a letter of their own. -/
def quotedChar (c : Char) : List Char :=
  if c = '"' then ['\\', '"']
  else if c = '\\' then ['\\', '\\']
  else if c = '\n' then ['\\', 'n']
  else if c = '\r' then ['\\', 'r']
  else if c = '\t' then ['\\', 't']
  else if c.toNat = 0 then ['\\', '0']
  else if isPrintable c then [c]
  else '\\' :: 'u' :: '\x7b' :: hex c.toNat ++ ['\x7d']

def quoted (s : String) : String :=
  String.ofList ('"' :: s.toList.flatMap quotedChar ++ ['"'])

/-- The path of a file between double quotes, where a single quote is written after a backslash too. -/
def quotedPath (s : String) : String :=
  String.ofList ('"' :: (s.toList.flatMap fun c =>
    if c = '\'' then ['\\', '\''] else quotedChar c) ++ ['"'])

def jsonChar (c : Char) : List Char :=
  if c = '"' then ['\\', '"']
  else if c = '\\' then ['\\', '\\']
  else if c = '\n' then ['\\', 'n']
  else if c = '\r' then ['\\', 'r']
  else if c = '\t' then ['\\', 't']
  else if c.toNat = 8 then ['\\', 'b']
  else if c.toNat = 12 then ['\\', 'f']
  else if c.toNat < 32 then '\\' :: 'u' :: hex4 c.toNat
  else [c]

def jsonString (s : String) : String :=
  String.ofList ('"' :: s.toList.flatMap jsonChar ++ ['"'])

end Gauge.Text
