import CertSync.Bytes.Base64
import CertSync.Text.Blank

/-!
# Armour

Bytes wrapped as text: a labelled first line, base64, and a last line with the same label. Of a
text that holds several blocks only the first is read, and what stands around it does not count.
-/

namespace CertSync

/-- A labelled block. -/
structure Armour where
  label : String
  contents : Bytes
deriving DecidableEq

namespace Armour

/-! ## Reading -/

/-- What stands before and after a marker. `pending` is what is still missing of the marker, and
`seen` what was passed, last first. A byte that breaks a match is passed and does not start the
next one. -/
def seek (marker : Bytes) : Bytes → Bytes → Bytes → Option (Bytes × Bytes)
  | [], seen, rest => some ((seen.drop marker.length).reverse, rest)
  | _, _, [] => none
  | p :: pending, seen, b :: rest =>
    if b = p then seek marker pending (b :: seen) rest else seek marker marker (b :: seen) rest
termination_by _ _ rest => rest.length

/-- What stands before and after the first place where the marker is found. -/
def splitAt? (marker : String) (bytes : Bytes) : Option (Bytes × Bytes) :=
  seek (Bytes.ofText marker) (Bytes.ofText marker) [] bytes

def skipSpace (bytes : Bytes) : Bytes :=
  bytes.dropWhile fun b => b = 0x20 || b = 0x09 || b = 0x0A || b = 0x0D

/-- Headers end with an empty line. Without such a line there are none. -/
def headersAndData (payload : Bytes) : Bytes × Bytes :=
  match splitAt? "\n\n" payload with
  | some parts => parts
  | none => (splitAt? "\r\n\r\n" payload).getD ([], payload)

/-- The lines of the headers. A line break at the end starts no line. -/
def headerLines (headers : String) : List String :=
  let lines := headers.splitOn "\n"
  if lines.getLast? = some "" then lines.dropLast else lines

/-- Every header line has a name and a value, parted by a colon. -/
def areHeaders (headers : String) : Bool :=
  (headerLines headers).all fun line => line.toList.contains ':'

/-- What the data says in base64, with all blank characters left out. -/
def contents? (data : Bytes) : Option Bytes := do
  let text ← data.toText?
  Base64.decode? (text.toList.filter fun c => !Text.isBlank c)

/-- The first block of a text. Its two labels have to be the same, and not empty. -/
def ofText? (bytes : Bytes) : Option Armour := do
  let (_, rest) ← splitAt? "-----BEGIN " bytes
  let (label, rest) ← splitAt? "-----" rest
  let (payload, rest) ← splitAt? "-----END " (skipSpace rest)
  let (endLabel, _) ← splitAt? "-----" rest
  let (headers, data) := headersAndData payload
  let label ← label.toText?
  guard (label ≠ "" ∧ endLabel.toText? = some label)
  let contents ← contents? data
  guard (areHeaders (← headers.toText?))
  return { label, contents }

/-! ## Writing -/

/-- Lines of sixty-four characters, each with its end. -/
def wrap (cs : List Char) : List Char := (chunks 64 cs).flatMap fun line => line ++ ['\n']

/-- The text of a block, which has no headers. -/
def toText (block : Armour) : String :=
  s!"-----BEGIN {block.label}-----\n" ++ String.ofList (wrap (Base64.encode block.contents)) ++
    s!"-----END {block.label}-----\n"

end Armour

end CertSync
