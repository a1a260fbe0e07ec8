import CertSync.Proofs.Json.Field
import CertSync.Proofs.Traversal

/-!
# Documents that read alike

A shape says which objects of a document stand for records, and what each of their fields is. Two
documents are alike if they differ only in what a record passes over: the order of its fields,
fields that it does not have, and a null where an optional field could be left out as well. A null
does not stand for a default, so a document with one in such a place is refused.
-/

namespace CertSync.Json

/-- What it takes to leave a field out. -/
inductive Presence where
  | required
  | optional
  | defaulted
deriving DecidableEq

inductive Shape where
  /-- Nothing in it stands for a record. -/
  | plain
  | listOf (item : Shape)
  | record (fields : List (String × Presence × Shape))

/-- The documents differ at most in what the records of this shape pass over, at any depth. -/
inductive Alike : Shape → Json → Json → Prop
  | refl (shape : Shape) (j : Json) : Alike shape j j
  | symm {shape : Shape} {j j' : Json} (h : Alike shape j j') : Alike shape j' j
  | trans {shape : Shape} {j j' j'' : Json} (h : Alike shape j j') (h' : Alike shape j' j'') :
      Alike shape j j''
  | reordered {fields : List (String × Presence × Shape)} {l l' : List (String × Json)}
      (h : l.Perm l') : Alike (.record fields) (object l) (object l')
  | inserted {fields : List (String × Presence × Shape)} {l : List (String × Json)} {name : String}
      (value : Json) (h : name ∉ fields.map Prod.fst) :
      Alike (.record fields) (object l) (object ((name, value) :: l))
  | nulled {fields : List (String × Presence × Shape)} {l : List (String × Json)} {name : String}
      {shape : Shape} (hfield : (name, .optional, shape) ∈ fields)
      (habsent : name ∉ l.map Prod.fst) :
      Alike (.record fields) (object l) (object ((name, null) :: l))
  | field {fields : List (String × Presence × Shape)} {l l' : List (String × Json)} {name : String}
      {presence : Presence} {shape : Shape} {v v' : Json}
      (hfield : (name, presence, shape) ∈ fields) (h : Alike shape v v') :
      Alike (.record fields) (object (l ++ (name, v) :: l')) (object (l ++ (name, v') :: l'))
  /-- The record is written as a list, in which its fields have their places. -/
  | place {fields : List (String × Presence × Shape)} {l l' : List Json} {name : String}
      {presence : Presence} {shape : Shape} {v v' : Json}
      (hfield : fields[l.length]? = some (name, presence, shape)) (h : Alike shape v v') :
      Alike (.record fields) (list (l ++ v :: l')) (list (l ++ v' :: l'))
  | item {shape : Shape} {l l' : List Json} {v v' : Json} (h : Alike shape v v') :
      Alike (.listOf shape) (list (l ++ v :: l')) (list (l ++ v' :: l'))

/-- Some object that stands for a record has a null for a field with a default. -/
inductive NullsDefault : Shape → Json → Prop
  | here {fields : List (String × Presence × Shape)} {l : List (String × Json)} {name : String}
      {shape : Shape} (hfield : (name, .defaulted, shape) ∈ fields) (hnull : (name, null) ∈ l) :
      NullsDefault (.record fields) (object l)
  | field {fields : List (String × Presence × Shape)} {l : List (String × Json)} {name : String}
      {presence : Presence} {shape : Shape} {v : Json}
      (hfield : (name, presence, shape) ∈ fields) (hv : (name, v) ∈ l)
      (h : NullsDefault shape v) : NullsDefault (.record fields) (object l)
  | place {fields : List (String × Presence × Shape)} {l l' : List Json} {name : String}
      {presence : Presence} {shape : Shape} {v : Json}
      (hfield : fields[l.length]? = some (name, presence, shape)) (h : NullsDefault shape v) :
      NullsDefault (.record fields) (list (l ++ v :: l'))
  | item {shape : Shape} {items : List Json} {v : Json} (hv : v ∈ items)
      (h : NullsDefault shape v) : NullsDefault (.listOf shape) (list items)

namespace Alike

variable {shape : Shape} {j j' : Json}

theorem eq_of_plain (h : Alike .plain j j') : j' = j := by
  generalize hshape : Shape.plain = shape at h
  induction h with
  | refl => rfl
  | symm _ ih => exact (ih hshape).symm
  | trans _ _ ih ih' => exact (ih' hshape).trans (ih hshape)
  | _ => cases hshape

theorem isNull (h : Alike shape j j') : j'.isNull = j.isNull := by
  induction h with
  | symm _ ih => exact ih.symm
  | trans _ _ ih ih' => exact ih'.trans ih
  | _ => rfl

theorem length_list (h : Alike shape j j') :
    j'.list?.map List.length = j.list?.map List.length := by
  induction h with
  | symm _ ih => exact ih.symm
  | trans _ _ ih ih' => exact ih'.trans ih
  | place => simp [list?]
  | item => simp [list?]
  | _ => rfl

end Alike

/-! ## Decoders -/

variable {α β : Type}

/-- The decoder reads alike documents alike, and refuses a null for a default. -/
structure Follows (shape : Shape) (decode : Json → Option α) : Prop where
  congr {j j' : Json} (h : Alike shape j j') : decode j' = decode j
  refuses {j : Json} (h : NullsDefault shape j) : decode j = none

theorem Follows.plain (decode : Json → Option α) : Follows .plain decode where
  congr h := by rw [h.eq_of_plain]
  refuses h := by cases h

theorem Follows.listOf {shape : Shape} {decode : Json → Option α} (h : Follows shape decode) :
    Follows (.listOf shape) (listOf? decode) where
  congr {j j'} halike := by
    generalize hshape : Shape.listOf shape = shape' at halike
    induction halike with
    | refl => rfl
    | symm _ ih => exact (ih hshape).symm
    | trans _ _ ih ih' => exact (ih' hshape).trans (ih hshape)
    | item hv =>
      cases hshape
      simp only [listOf?, list?, Option.bind_eq_bind, Option.bind_some, List.mapM_append,
        List.mapM_cons, h.congr hv]
    | _ => cases hshape
  refuses {j} hnulls := by
    cases hnulls with
    | item hv hnull => exact mapM_eq_none hv (h.refuses hnull)

/-! ## Fields -/

/-- What two records give for a field comes to the same. -/
inductive FieldAlike (presence : Presence) (shape : Shape) : Option Json → Option Json → Prop
  | same (o : Option Json) : FieldAlike presence shape o o
  | alike {v v' : Json} (h : Alike shape v v') : FieldAlike presence shape (some v) (some v')
  | nulled (h : presence = .optional) : FieldAlike presence shape none (some null)

/-- The value has a null for a default, or is one. -/
inductive FieldNulls (presence : Presence) (shape : Shape) : Option Json → Prop
  | here (h : presence = .defaulted) : FieldNulls presence shape (some null)
  | inside {v : Json} (h : NullsDefault shape v) : FieldNulls presence shape (some v)

structure FieldFollows (presence : Presence) (shape : Shape) (read : Option Json → Option α) :
    Prop where
  congr {o o' : Option Json} (h : FieldAlike presence shape o o') : read o' = read o
  refuses {o : Option Json} (h : FieldNulls presence shape o) : read o = none

theorem optional_some {v : Json} (hv : v.isNull = false) (decode : Json → Option α) :
    optional decode (some v) = (decode v).map some := by
  cases v with
  | null => cases hv
  | _ => rfl

namespace Follows

variable {shape : Shape} {decode : Json → Option α}

theorem required (h : Follows shape decode) :
    FieldFollows .required shape (Json.required decode) where
  congr halike := by
    cases halike with
    | same => rfl
    | alike hv => exact h.congr hv
    | nulled hoptional => cases hoptional
  refuses hnulls := by
    cases hnulls with
    | here hdefaulted => cases hdefaulted
    | inside hv => exact h.refuses hv

theorem not_isNull_of_nullsDefault {v : Json} (h : NullsDefault shape v) : v.isNull = false := by
  cases h <;> rfl

theorem optional (h : Follows shape decode) :
    FieldFollows .optional shape (Json.optional decode) where
  congr halike := by
    cases halike with
    | same => rfl
    | @alike v v' hv =>
      cases hnull : v.isNull with
      | true =>
        have hnull' : v'.isNull = true := hv.isNull.trans hnull
        cases v <;> cases hnull
        cases v' <;> cases hnull'
        rfl
      | false =>
        rw [optional_some hnull, optional_some (hv.isNull.trans hnull), h.congr hv]
    | nulled => rfl
  refuses hnulls := by
    cases hnulls with
    | here hdefaulted => cases hdefaulted
    | inside hv =>
      rw [optional_some (not_isNull_of_nullsDefault hv), h.refuses hv]
      rfl

theorem defaulted (h : Follows shape decode) (hnull : decode null = none) (default : α) :
    FieldFollows .defaulted shape (Json.defaulted default decode) where
  congr halike := by
    cases halike with
    | same => rfl
    | alike hv => exact h.congr hv
    | nulled hoptional => cases hoptional
  refuses hnulls := by
    cases hnulls with
    | here => exact hnull
    | inside hv => exact h.refuses hv

end Follows

/-! ## Records -/

/-- What is built from a record follows the shapes of these fields. -/
structure Assembles (fields : List (String × Presence × Shape)) (build : Record → Option α) :
    Prop where
  congr {r r' : Record}
    (h : ∀ name presence shape, (name, presence, shape) ∈ fields →
      FieldAlike presence shape (r name) (r' name)) :
    build r' = build r
  refuses {r : Record} {name : String} {presence : Presence} {shape : Shape}
    (hfield : (name, presence, shape) ∈ fields) (h : FieldNulls presence shape (r name)) :
    build r = none

namespace Assembles

variable {fields : List (String × Presence × Shape)} {name : String} {presence : Presence}
  {shape : Shape}

theorem pure (a : α) : Assembles [] fun _ => Pure.pure a where
  congr _ := rfl
  refuses hfield := nomatch hfield

theorem field {read : Option Json → Option α} {next : α → Record → Option β}
    (h : FieldFollows presence shape read) (hnext : ∀ a, Assembles fields (next a)) :
    Assembles ((name, presence, shape) :: fields) fun r => read (r name) >>= fun a => next a r where
  congr {r r'} halike := by
    rw [h.congr (halike _ _ _ List.mem_cons_self)]
    cases read (r name) with
    | none => rfl
    | some a =>
      exact (hnext a).congr fun _ _ _ hfield => halike _ _ _ (List.mem_cons_of_mem _ hfield)
  refuses {r _ _ _} hfield hnulls := by
    rcases List.mem_cons.mp hfield with heq | hfield
    · cases heq
      rw [h.refuses hnulls]
      rfl
    · cases read (r name) with
      | none => rfl
      | some a => exact (hnext a).refuses hfield hnulls

variable {build : Record → Option α}

theorem mem_names (h : (name, presence, shape) ∈ fields) : name ∈ fields.map Prod.fst :=
  List.mem_map_of_mem h

theorem getElem?_names {i : Nat} (h : fields[i]? = some (name, presence, shape)) :
    (fields.map Prod.fst)[i]? = some name := by
  rw [List.getElem?_map, h]
  rfl

theorem eq_of_mem (hnodup : (fields.map Prod.fst).Nodup) {presence' : Presence} {shape' : Shape}
    (h : (name, presence, shape) ∈ fields) (h' : (name, presence', shape') ∈ fields) :
    (presence', shape') = (presence, shape) :=
  congrArg Prod.snd (List.inj_on_of_nodup_map hnodup h' h rfl)

theorem congr_field (h : Assembles fields build) (hnodup : (fields.map Prod.fst).Nodup)
    (hfield : (name, presence, shape) ∈ fields) {r r' : Record}
    (hsame : ∀ n, n ≠ name → r' n = r n) (hname : FieldAlike presence shape (r name) (r' name)) :
    build r' = build r := by
  refine h.congr fun n presence' shape' hn => ?_
  by_cases heq : n = name
  · subst heq
    cases eq_of_mem hnodup hfield hn
    exact hname
  · rw [hsame n heq]
    exact .same _

theorem congr_nulled (h : Assembles fields build) (hnodup : (fields.map Prod.fst).Nodup)
    {l : List (String × Json)} (hfield : (name, .optional, shape) ∈ fields)
    (habsent : name ∉ l.map Prod.fst) :
    (objectRecord? (fields.map Prod.fst) ((name, null) :: l) >>= build) =
      (objectRecord? (fields.map Prod.fst) l >>= build) := by
  rw [objectRecord?_cons (mem_names hfield) habsent, objectRecord?_eq]
  split_ifs
  · refine h.congr_field hnodup hfield (fun n hn => if_neg hn) ?_
    beta_reduce
    rw [if_pos rfl, lookup_of_notMem (notMem_known habsent)]
    exact .nulled rfl
  · rfl

theorem congr_varies (h : Assembles fields build) (hnodup : (fields.map Prod.fst).Nodup)
    (hfield : (name, presence, shape) ∈ fields) {read : Json → Option Record}
    (hread : Varies read name) {v v' : Json} (hv : Alike shape v v') :
    (read v' >>= build) = (read v >>= build) := by
  rcases hread with hread | ⟨r, hread⟩
  · rw [hread, hread]
  · rw [hread, hread]
    refine h.congr_field hnodup hfield (fun n hn => ?_) ?_
    · rw [if_neg hn, if_neg hn]
    · rw [if_pos rfl, if_pos rfl]
      exact .alike hv

theorem refuses_varies (h : Assembles fields build) (hfield : (name, presence, shape) ∈ fields)
    {read : Json → Option Record} (hread : Varies read name) {v : Json}
    (hv : FieldNulls presence shape (some v)) : (read v >>= build) = none := by
  rcases hread with hread | ⟨r, hread⟩
  · rw [hread]
    rfl
  · rw [hread]
    refine h.refuses hfield ?_
    rwa [if_pos rfl]

theorem refuses_object (h : Assembles fields build) (hfield : (name, presence, shape) ∈ fields)
    {l : List (String × Json)} {v : Json} (hmem : (name, v) ∈ l)
    (hv : FieldNulls presence shape (some v)) :
    (objectRecord? (fields.map Prod.fst) l >>= build) = none := by
  obtain ⟨before, after, rfl⟩ := List.append_of_mem hmem
  exact h.refuses_varies hfield (objectRecord?_varies (mem_names hfield) before after) hv

theorem follows (h : Assembles fields build) (hnodup : (fields.map Prod.fst).Nodup) :
    Follows (.record fields) fun j => record? (fields.map Prod.fst) j >>= build where
  congr {j j'} halike := by
    generalize hshape : Shape.record fields = shape at halike
    induction halike with
    | refl => rfl
    | symm _ ih => exact (ih hshape).symm
    | trans _ _ ih ih' => exact (ih' hshape).trans (ih hshape)
    | reordered hperm =>
      cases hshape
      simp only [record?, objectRecord?_perm hperm]
    | inserted value hname =>
      cases hshape
      simp only [record?, objectRecord?_eq, known_cons_of_notMem hname]
    | nulled hfield habsent =>
      cases hshape
      exact h.congr_nulled hnodup hfield habsent
    | field hfield hv =>
      cases hshape
      exact h.congr_varies hnodup hfield (objectRecord?_varies (mem_names hfield) _ _) hv
    | place hfield hv =>
      cases hshape
      exact h.congr_varies hnodup (List.mem_of_getElem? hfield)
        (listRecord?_varies hnodup (getElem?_names hfield) _) hv
    | item => cases hshape
  refuses {j} hnulls := by
    cases hnulls with
    | here hfield hnull => exact h.refuses_object hfield hnull (.here rfl)
    | field hfield hv hinside => exact h.refuses_object hfield hv (.inside hinside)
    | place hfield hinside =>
      exact h.refuses_varies (List.mem_of_getElem? hfield)
        (listRecord?_varies hnodup (getElem?_names hfield) _) (.inside hinside)

end Assembles

end CertSync.Json
