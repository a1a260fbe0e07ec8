import CertSync.Hook.Session

/-!
# Collaborators in memory

Secrets as a table of entries, and a certificate service with one certificate. Any call can be
disturbed: it can cancel the run, hang, or fail without having had an effect.
-/

namespace CertSync

/-- An entry of a secret: its namespace, its secret and its key there. -/
structure EntryId where
  ns : String
  name : String
  key : String
deriving DecidableEq

namespace EntryId

/-- Entries stand in the order of their namespaces, then names, then keys. -/
instance : Ord EntryId where
  compare := compareLex (compareOn ns) (compareLex (compareOn name) (compareOn key))

instance : Std.TransOrd EntryId :=
  inferInstanceAs (Std.TransCmp (compareLex (compareOn ns) (compareLex (compareOn name)
    (compareOn key))))

instance : Std.LawfulEqOrd EntryId where
  compare_self := Std.ReflCmp.compare_self
  eq_of_compare {a b} h := by
    cases a; cases b
    simp only [compare, compareLex, Ordering.then_eq_eq, compareOn] at h
    simp only [EntryId.mk.injEq]
    exact ⟨Std.LawfulEqOrd.eq_of_compare h.1, Std.LawfulEqOrd.eq_of_compare h.2.1,
      Std.LawfulEqOrd.eq_of_compare h.2.2⟩

end EntryId

/-- All entries of all secrets, with their texts. -/
abbrev SecretTable := Std.ExtTreeMap EntryId String

/-- The entries of the secrets, and of the service one certificate: its tags, what exporting it
brings, and the identifier that an import gives. -/
structure World where
  secrets : SecretTable := ∅
  remoteTags : TagSet := ∅
  exportAnswer : ExportAnswer := .notFound
  importArn : String := ""

/-- What happens to a call besides its being answered. A call that hangs or fails has no effect. -/
structure Disturbance where
  cancels : Bool := false
  hangs : Bool := false
  failure : Option ErrorChain := none

namespace World

/-- A reference is read in its own namespace, or else in the one it is given. -/
def answerSecret (w : World) : (c : SecretCall) → Except ErrorChain c.Answer × World
  | .resolve ns ref =>
    let ns := ref.nsOr ns
    match w.secrets[(⟨ns, ref.name, ref.key⟩ : EntryId)]? with
    | some value => (.ok value, w)
    | none => (.error ⟨s!"secret {ns}/{ref.name} not found", []⟩, w)
  | .write ns name key value =>
    (.ok (), { w with secrets := w.secrets.insert ⟨ns, name, key⟩ value })

/-- An import replaces the tags, and the tag operations change them; nothing else has an effect. -/
def answerService (w : World) : (c : ServiceCall) → c.Answer × World
  | .importCertificate request => (w.importArn, { w with remoteTags := request.tags })
  | .exportCertificate _ _ => (w.exportAnswer, w)
  | .addTags _ tags =>
    let after := tags.toList.foldl (fun all tag => all.insert tag.1 tag.2) w.remoteTags
    ((), { w with remoteTags := after })
  | .removeTags _ tags => ((), { w with remoteTags := tags.keys.foldl TagSet.erase w.remoteTags })
  | .listTags _ => (w.remoteTags, w)

/-- The undisturbed answer of either collaborator. Only a missing entry is an error. -/
def answer (w : World) : (c : Call) → Except ErrorChain c.Answer × World
  | .secret c => w.answerSecret c
  | .service c =>
    let (a, w) := w.answerService c
    (.ok a, w)

/-- The world under a plan of disturbances, which may differ from call to call. -/
def collaborators (disturb : Call → Disturbance) : Collaborators World := fun c w =>
  let d := disturb c
  if d.hangs then (⟨.hangs, true⟩, w)
  else
    match d.failure with
    | some error => (⟨.fails error, d.cancels⟩, w)
    | none =>
      match w.answer c with
      | (.ok a, after) => (⟨.returns a, d.cancels⟩, after)
      | (.error error, after) => (⟨.fails error, d.cancels⟩, after)

end World

end CertSync
