import CertSync.Json.Record
import CertSync.Proofs.Json.Lexer
import CertSync.Proofs.Traversal
import Std.Data.ExtTreeMap.Lemmas

/-!
# Records that are read back

What a field is written as is what it is read from. From there it goes to records, whose fields all
stand in the object that is written, and to their lists, options and maps.
-/

namespace CertSync.Json

variable {α : Type} {decode : Json → Option α} {encode : α → Json}

/-- What is encoded is decoded again. It is never null, which would stand for nothing at all. -/
structure Reads (decode : Json → Option α) (encode : α → Json) : Prop where
  decodes (a : α) : decode (encode a) = some a
  notNull (a : α) : encode a ≠ null
  numeric (a : α) : Numeric (encode a)

theorem reads_text : Reads text? text where
  decodes _ := rfl
  notNull _ := nofun
  numeric := .text

/-! ## Lists and options -/

theorem Reads.listOf (h : Reads decode encode) : Reads (listOf? decode) (ofList encode) where
  decodes items := mapM_map h.decodes items
  notNull _ := nofun
  numeric items := by
    refine .list fun v hv => ?_
    obtain ⟨a, -, rfl⟩ := List.mem_map.mp hv
    exact h.numeric a

theorem Reads.optional (h : Reads decode encode) (field : Option α) :
    Json.optional decode (some (ofOption encode field)) = some field := by
  cases field with
  | none => rfl
  | some a =>
    have hvalue : ofOption encode (some a) = encode a := rfl
    rw [hvalue, Json.optional]
    · rw [h.decodes]
      rfl
    · exact h.notNull a

theorem Reads.numeric_ofOption (h : Reads decode encode) (field : Option α) :
    Numeric (ofOption encode field) := by
  cases field with
  | none => exact .null
  | some a => exact h.numeric a

/-! ## Maps -/

theorem foldl_insert_toList (m : Std.ExtTreeMap String α) :
    m.toList.foldl (fun m entry => m.insert entry.1 entry.2) ∅ = m := by
  rw [← Std.ExtTreeMap.ofList_eq_foldl]
  apply Std.ExtTreeMap.ext_getElem?
  intro name
  cases hname : m[name]? with
  | some a =>
    have hmem : (name, a) ∈ m.toList := Std.ExtTreeMap.mem_toList_iff_getElem?_eq_some.mpr hname
    exact Std.ExtTreeMap.getElem?_ofList_of_mem Std.ReflCmp.compare_self
      Std.ExtTreeMap.distinct_keys_toList hmem
  | none =>
    apply Std.ExtTreeMap.getElem?_ofList_of_contains_eq_false
    rw [Std.ExtTreeMap.map_fst_toList_eq_keys]
    simpa using hname

/-- A map as an object, with a field for each entry. -/
def ofMap (encode : α → Json) (m : Std.ExtTreeMap String α) : Json :=
  object (m.toList.map fun entry => (entry.1, encode entry.2))

theorem Reads.map {field? : String × Json → Option (String × α)} (h : Reads decode encode)
    (hfield : ∀ name a, field? (name, encode a) = some (name, a)) :
    Reads (fun j => do
      let entries ← (← j.object?).mapM field?
      return entries.foldl (fun m entry => m.insert entry.1 entry.2) ∅) (ofMap encode) where
  decodes m := by
    have hentries : (m.toList.map fun entry => (entry.1, encode entry.2)).mapM field? =
        some m.toList := mapM_map (fun entry => hfield entry.1 entry.2) m.toList
    simp only [ofMap, object?, Option.bind_eq_bind, Option.bind_some, hentries,
      foldl_insert_toList]
    rfl
  notNull _ := nofun
  numeric m := by
    refine .object fun f hf => ?_
    obtain ⟨entry, -, rfl⟩ := List.mem_map.mp hf
    exact h.numeric entry.2

/-! ## Records -/

theorem record?_object {names : List String} {fields known : List (String × Json)}
    (hknown : (fields.filter fun f => names.contains f.1) = known)
    (hnodup : (known.map Prod.fst).Nodup) :
    record? names (object fields) = some fun name => known.lookup name := by
  simp only [record?, objectRecord?, hknown, if_pos hnodup]

theorem Reads.record {names : List String} {fields : α → List (String × Json)}
    {build : Record → Option α} (hnodup : names.Nodup)
    (hnames : ∀ a, (fields a).map Prod.fst = names)
    (hnumeric : ∀ a, ∀ f ∈ fields a, Numeric f.2)
    (hbuild : ∀ a, build (fun name => (fields a).lookup name) = some a) :
    Reads (fun j => record? names j >>= build) (fun a => object (fields a)) where
  decodes a := by
    have hknown : ((fields a).filter fun f => names.contains f.1) = fields a := by
      refine List.filter_eq_self.mpr fun f hf => ?_
      rw [List.contains_iff_mem, ← hnames a]
      exact List.mem_map_of_mem hf
    rw [record?_object hknown (hnames a ▸ hnodup)]
    exact hbuild a
  notNull _ := nofun
  numeric a := .object (hnumeric a)

end CertSync.Json
