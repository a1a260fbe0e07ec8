import CertSync.Json.Basic

/-!
# Records in JSON

A record has named fields in a fixed order. It is written as an object, whose other fields are
ignored and which must not repeat a field of the record, or as the list of its fields in their
order, which may stop early but not go on. What a missing field means is for the field to say:
a `required` one must be there, an `optional` one may also be null, a `defaulted` one may not.

Some objects are read loosely, by `last?`: a field may stand more than once.
-/

namespace CertSync.Json

/-- The fields that a document gives for a record. -/
abbrev Record := String → Option Json

/-- Read as an object, if it repeats none of the names. -/
def objectRecord? (names : List String) (fields : List (String × Json)) : Option Record :=
  let known := fields.filter fun f => names.contains f.1
  if (known.map Prod.fst).Nodup then some fun name => known.lookup name else none

/-- Read as the list of the fields, in the order of the names. -/
def listRecord? (names : List String) (items : List Json) : Option Record :=
  if items.length ≤ names.length then some fun name => (names.zip items).lookup name else none

/-- The fields of a record, from either form. -/
def record? (names : List String) : Json → Option Record
  | object fields => objectRecord? names fields
  | list items => listRecord? names items
  | _ => none

/-- A field that must be there. Null is not taken for its absence. -/
def required (decode : Json → Option α) (field : Option Json) : Option α := field >>= decode

/-- A field that may be missing or null, which come to the same. -/
def optional (decode : Json → Option α) : Option Json → Option (Option α)
  | none => some none
  | some null => some none
  | some v => (decode v).map some

/-- A field that has a value of its own if it is missing. Null is a value like any other. -/
def defaulted (default : α) (decode : Json → Option α) : Option Json → Option α
  | none => some default
  | some v => decode v

/-- Each value that a field is given must decode, or be null; the last one counts. -/
def last? (decode : Json → Option α) (fields : List (String × Json)) (name : String) :
    Option (Option α) := do
  let values ← (fields.filter fun f => f.1 = name).mapM fun f => optional decode f.2
  return values.getLast?.join

/-- One label of a closed list: a text, or an object with the label alone and nothing in it. -/
def label? : Json → Option String
  | text s => some s
  | object [(s, null)] => some s
  | _ => none

end CertSync.Json
