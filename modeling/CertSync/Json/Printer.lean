import CertSync.Json.Basic

/-!
# Printing JSON

Values are written without spaces. In a text, the quote, the backslash and the control characters
are escaped, and everything else stands for itself.
-/

namespace CertSync.Json

def hexDigit (n : Nat) : Char := if n < 10 then Char.ofNat (n + 48) else Char.ofNat (n + 87)

/-- A character as it stands in a text. Controls without a letter of their own go by their code. -/
def printChar (c : Char) : List Char :=
  if c = '"' then ['\\', '"']
  else if c = '\\' then ['\\', '\\']
  else if c = '\n' then ['\\', 'n']
  else if c = '\r' then ['\\', 'r']
  else if c = '\t' then ['\\', 't']
  else if c = '\x08' then ['\\', 'b']
  else if c = '\x0c' then ['\\', 'f']
  else if c.toNat < 0x20 then
    ['\\', 'u', '0', '0', hexDigit (c.toNat / 16), hexDigit (c.toNat % 16)]
  else [c]

def printText (s : String) : List Char := '"' :: (s.toList.flatMap printChar ++ ['"'])

mutual

def print : Json → List Char
  | null => ['n', 'u', 'l', 'l']
  | bool true => ['t', 'r', 'u', 'e']
  | bool false => ['f', 'a', 'l', 's', 'e']
  | number literal => literal.toList
  | text s => printText s
  | brokenText => ['"', '\\', 'u', 'd', '8', '0', '0', '"']
  | list [] => ['[', ']']
  | list (v :: rest) => '[' :: (print v ++ printItems rest)
  | object [] => ['{', '}']
  | object ((name, v) :: rest) => '{' :: (printText name ++ ':' :: (print v ++ printFields rest))

def printItems : List Json → List Char
  | [] => [']']
  | v :: rest => ',' :: (print v ++ printItems rest)

def printFields : List (String × Json) → List Char
  | [] => ['}']
  | (name, v) :: rest => ',' :: (printText name ++ ':' :: (print v ++ printFields rest))

end

def toText (v : Json) : String := String.ofList (print v)

end CertSync.Json
