import CertSync.Text.Printable

/-!
# Quoted text

How summaries and logs show a text: in quotes, with the quote, the backslash and the characters
that cannot be shown escaped.
-/

namespace CertSync.Text

def hex (n : Nat) : List Char := Nat.toDigits 16 n

/-- A character as it stands between quotes. What cannot be shown goes by its code. -/
def quoteChar (c : Char) : List Char :=
  if c = '"' then ['\\', '"']
  else if c = '\\' then ['\\', '\\']
  else if c = '\n' then ['\\', 'n']
  else if c = '\r' then ['\\', 'r']
  else if c = '\t' then ['\\', 't']
  else if c = '\x00' then ['\\', '0']
  else if isPrintable c then [c]
  else ['\\', 'u', '{'] ++ hex c.toNat ++ ['}']

def quote (s : String) : String := String.ofList ('"' :: (s.toList.flatMap quoteChar ++ ['"']))

def showOption (render : α → String) : Option α → String
  | none => "None"
  | some a => s!"Some({render a})"

/-- A named group of fields in a summary, written between braces. -/
def showFields (name : String) (fields : List String) : String :=
  name ++ " \x7b " ++ ", ".intercalate fields ++ " \x7d"

end CertSync.Text
