/-!
# JSON values

An object keeps its fields in the order they were written, repeated names included, and a number
keeps its literal: what a document says is read off later, by the record that the value stands for.
A text that escapes half a character only is a value of its own, as good as any where nobody reads
it.
-/

namespace CertSync

/-- A value as a document writes it. -/
inductive Json where
  | null
  | bool (value : Bool)
  | number (literal : String)
  | text (value : String)
  | brokenText
  | list (items : List Json)
  | object (fields : List (String × Json))
deriving Inhabited

namespace Json

def text? : Json → Option String
  | text s => some s
  | _ => none

def bool? : Json → Option Bool
  | bool b => some b
  | _ => none

def list? : Json → Option (List Json)
  | list items => some items
  | _ => none

def object? : Json → Option (List (String × Json))
  | object fields => some fields
  | _ => none

def isNull : Json → Bool
  | null => true
  | _ => false

def listOf? (decode : Json → Option α) (j : Json) : Option (List α) := do
  (← j.list?).mapM decode

/-- Digits without a fraction or exponent, with their sign; a negative zero is no integer. -/
def integer? : Json → Option Int
  | number literal =>
    match literal.toList with
    | '-' :: digits => do
      let n ← (String.ofList digits).toNat?
      guard (n ≠ 0)
      return -(n : Int)
    | digits => (String.ofList digits).toNat?.map Int.ofNat
  | _ => none

def ofInt (n : Int) : Json := number (toString n)

def ofNat (n : Nat) : Json := number (toString n)

/-- What is not there is written as null. -/
def ofOption (encode : α → Json) : Option α → Json
  | none => null
  | some a => encode a

def ofList (encode : α → Json) (items : List α) : Json := list (items.map encode)

end Json

end CertSync
