import FileBridge.Text.Shown

/-!
Text between double quotes, for messages. A quote, a backslash and the common control characters
are written with a backslash, every other hidden character by its code point in braces.
-/
namespace FileBridge.Text

def hex (n : Nat) : List Char :=
  Nat.toDigits 16 n

/-- How one character is written between double quotes. -/
def quoteChar (c : Char) : List Char :=
  if c = '"' then ['\\', '"']
  else if c = '\\' then ['\\', '\\']
  else if c = '\n' then ['\\', 'n']
  else if c = '\r' then ['\\', 'r']
  else if c = '\t' then ['\\', 't']
  else if c.toNat = 0 then ['\\', '0']
  else if isHidden c then ['\\', 'u', '\x7b'] ++ hex c.toNat ++ ['\x7d']
  else [c]

def quote (s : List Char) : String :=
  String.ofList ('"' :: s.flatMap quoteChar ++ ['"'])

end FileBridge.Text
