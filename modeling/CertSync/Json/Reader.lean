import CertSync.Json.Basic
import CertSync.Json.Token

/-!
# Reading JSON

Tokens build a value on a stack of the containers that are still open, innermost first. Nothing
may follow the value, and no comma may stand before a closing bracket.
-/

namespace CertSync.Json

/-- A container that is still open, with what it holds so far, last first. -/
inductive Frame where
  | list (items : List Json)
  | object (fields : List (String × Json)) (name : String)

/-- What may come next, with the containers that are open. -/
inductive Reader where
  | value (stack : List Frame)
  | firstItem (stack : List Frame)
  | firstName (stack : List Frame)
  | nextName (fields : List (String × Json)) (stack : List Frame)
  | colon (fields : List (String × Json)) (name : String) (stack : List Frame)
  | afterItem (items : List Json) (stack : List Frame)
  | afterField (fields : List (String × Json)) (stack : List Frame)
  | done (value : Json)

namespace Reader

/-- A value is complete: it goes into the innermost open container. -/
def push (v : Json) : List Frame → Reader
  | [] => done v
  | .list items :: stack => afterItem (v :: items) stack
  | .object fields name :: stack => afterField ((name, v) :: fields) stack

/-- The first token of a value. -/
def begin (stack : List Frame) : Token → Option Reader
  | .null => some (push .null stack)
  | .true => some (push (.bool true) stack)
  | .false => some (push (.bool false) stack)
  | .number literal => some (push (.number literal) stack)
  | .text (some s) => some (push (.text s) stack)
  | .text none => some (push .brokenText stack)
  | .openBracket => some (firstItem stack)
  | .openBrace => some (firstName stack)
  | _ => none

/-- One token. Each place allows only some. -/
def step : Reader → Token → Option Reader
  | value stack, t => begin stack t
  | firstItem stack, .closeBracket => some (push (.list []) stack)
  | firstItem stack, t => begin (.list [] :: stack) t
  | firstName stack, .closeBrace => some (push (.object []) stack)
  | firstName stack, .text (some s) => some (colon [] s stack)
  | nextName fields stack, .text (some s) => some (colon fields s stack)
  | colon fields s stack, .colon => some (value (.object fields s :: stack))
  | afterItem items stack, .comma => some (value (.list items :: stack))
  | afterItem items stack, .closeBracket => some (push (.list items.reverse) stack)
  | afterField fields stack, .comma => some (nextName fields stack)
  | afterField fields stack, .closeBrace => some (push (.object fields.reverse) stack)
  | _, _ => none

def finish : Reader → Option Json
  | done v => some v
  | _ => none

end Reader

def ofTokens? (ts : List Token) : Option Json :=
  ts.foldlM Reader.step (.value []) >>= Reader.finish

def ofText? (s : String) : Option Json := tokens? s.toList >>= ofTokens?

end CertSync.Json
