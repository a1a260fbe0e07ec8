/-!
# JSON tokens

A document is cut into tokens one character at a time. `Lexer` is where the cutting stands between
two characters; a word (a number, `true`, `false` or `null`) ends at the first character that
cannot continue it, and is looked at only then.
-/

namespace CertSync.Json

/-- The least parts of a document that mean something. -/
inductive Token where
  | openBrace
  | closeBrace
  | openBracket
  | closeBracket
  | colon
  | comma
  /-- A text that holds half a character only has no value. -/
  | text (value : Option String)
  | number (literal : String)
  | true
  | false
  | null
deriving DecidableEq

namespace Token

def ofPunctuation? : Char → Option Token
  | '{' => some openBrace
  | '}' => some closeBrace
  | '[' => some openBracket
  | ']' => some closeBracket
  | ':' => some colon
  | ',' => some comma
  | _ => none

def isSpace (c : Char) : Bool := c = ' ' || c = '\t' || c = '\n' || c = '\r'

/-! ## Numbers -/

def dropDigits? : List Char → Option (List Char)
  | c :: rest => if c.isDigit then some (rest.dropWhile Char.isDigit) else none
  | [] => none

/-- What is left after the whole part, which has no needless leading zero. -/
def dropWhole? : List Char → Option (List Char)
  | '0' :: rest => some rest
  | cs => dropDigits? cs

/-- What is left after a point and its digits, if there is a point. -/
def dropFraction? : List Char → Option (List Char)
  | '.' :: rest => dropDigits? rest
  | cs => some cs

/-- What is left after an exponent, if there is one; its sign may be missing. -/
def dropExponent? : List Char → Option (List Char)
  | c :: rest =>
    if c = 'e' ∨ c = 'E' then
      match rest with
      | '+' :: digits => dropDigits? digits
      | '-' :: digits => dropDigits? digits
      | digits => dropDigits? digits
    else some (c :: rest)
  | [] => some []

/-- A whole part with an optional minus, then an optional fraction and an optional exponent. -/
def isNumber (word : List Char) : Bool :=
  let unsigned := match word with
    | '-' :: rest => rest
    | cs => cs
  (dropWhole? unsigned >>= dropFraction? >>= dropExponent?) = some []

/-- What a word means, if anything: one of three names, or a number. -/
def ofWord? (word : List Char) : Option Token :=
  if word = ['t', 'r', 'u', 'e'] then some true
  else if word = ['f', 'a', 'l', 's', 'e'] then some false
  else if word = ['n', 'u', 'l', 'l'] then some null
  else if isNumber word then some (number (String.ofList word))
  else none

end Token

/-! ## Characters inside a text -/

/-- A piece of a text: a character, or one half of a pair that two escapes make together. -/
inductive Piece where
  | char (c : Char)
  | half (code : Nat)
deriving DecidableEq

/-- The character of a pair, if the halves come in their order. -/
def joinHalves? (high low : Nat) : Option Char :=
  if high < 0xDC00 ∧ 0xDC00 ≤ low then
    some (Char.ofNat (0x10000 + (high - 0xD800) * 0x400 + (low - 0xDC00)))
  else none

/-- The characters of a text, if no half stands alone. -/
def joinPieces? : List Piece → Option (List Char)
  | [] => some []
  | .char c :: rest => (joinPieces? rest).map (c :: ·)
  | .half high :: .half low :: rest => do return (← joinHalves? high low) :: (← joinPieces? rest)
  | .half _ :: _ => none

/-- What an escaped code stands for. -/
def pieceOf (code : Nat) : Piece :=
  if 0xD800 ≤ code && code ≤ 0xDFFF then .half code else .char (Char.ofNat code)

def hexValue? (c : Char) : Option Nat :=
  let n := c.toNat
  if c.isDigit then some (n - 48)
  else if 97 ≤ n && n ≤ 102 then some (n - 87)
  else if 65 ≤ n && n ≤ 70 then some (n - 55)
  else none

/-- What a letter after a backslash stands for. -/
def escaped? : Char → Option Char
  | '"' => some '"'
  | '\\' => some '\\'
  | '/' => some '/'
  | 'b' => some '\x08'
  | 'f' => some '\x0c'
  | 'n' => some '\n'
  | 'r' => some '\r'
  | 't' => some '\t'
  | _ => none

/-! ## The lexer -/

/-- Where the lexer stands. What it has read of a word or text is kept last first. -/
inductive Lexer.Mode where
  | gap
  | word (seen : List Char)
  | text (seen : List Piece)
  | escape (seen : List Piece)
  /-- Inside the four digits of an escape. -/
  | code (seen : List Piece) (digits value : Nat)

/-- The lexer between two characters: its mode, and the tokens that are complete, last first. -/
structure Lexer where
  mode : Lexer.Mode := .gap
  tokens : List Token := []

namespace Lexer

/-- A character outside words and texts. What is no space, quote or bracket begins a word. -/
def between (tokens : List Token) (c : Char) : Option Lexer :=
  if Token.isSpace c then some ⟨.gap, tokens⟩
  else if c = '"' then some ⟨.text [], tokens⟩
  else match Token.ofPunctuation? c with
    | some token => some ⟨.gap, token :: tokens⟩
    | none => some ⟨.word [c], tokens⟩

/-- What cannot continue a word. -/
def endsWord (c : Char) : Bool :=
  Token.isSpace c || c = '"' || (Token.ofPunctuation? c).isSome

def ofPieces (seen : List Piece) : Token := .text ((joinPieces? seen.reverse).map String.ofList)

/-- One character. A control character may not stand in a text unless it is escaped. -/
def step (lexer : Lexer) (c : Char) : Option Lexer :=
  match lexer.mode with
  | .gap => between lexer.tokens c
  | .word seen =>
    if endsWord c then do between ((← Token.ofWord? seen.reverse) :: lexer.tokens) c
    else some { lexer with mode := .word (c :: seen) }
  | .text seen =>
    if c = '"' then some ⟨.gap, ofPieces seen :: lexer.tokens⟩
    else if c = '\\' then some { lexer with mode := .escape seen }
    else if c.toNat < 0x20 then none
    else some { lexer with mode := .text (.char c :: seen) }
  | .escape seen =>
    if c = 'u' then some { lexer with mode := .code seen 0 0 }
    else do return { lexer with mode := .text (.char (← escaped? c) :: seen) }
  | .code seen digits value => do
    let value := value * 16 + (← hexValue? c)
    if digits = 3 then return { lexer with mode := .text (pieceOf value :: seen) }
    else return { lexer with mode := .code seen (digits + 1) value }

/-- The tokens of a document that is at its end. A text that is still open is none. -/
def finish (lexer : Lexer) : Option (List Token) :=
  match lexer.mode with
  | .gap => some lexer.tokens.reverse
  | .word seen => do return ((← Token.ofWord? seen.reverse) :: lexer.tokens).reverse
  | _ => none

end Lexer

def tokens? (cs : List Char) : Option (List Token) :=
  cs.foldlM Lexer.step {} >>= Lexer.finish

end CertSync.Json
