import CertSync.Json.Reader
import CertSync.Proofs.Json.Lexer

/-!
# A printed value is read back

The tokens of a value build that value, whatever containers are open around it. So a value whose
numbers are numbers survives printing and reading.
-/

namespace CertSync.Json

namespace Reader

/-- From the tokens of the value the reader builds the value. -/
def Builds (v : Json) : Prop :=
  ∀ (stack : List Frame) (rest : List Token),
    (toTokens v ++ rest).foldlM step (value stack) = rest.foldlM step (push v stack)

/-! ## Lists -/

theorem step_firstItem {t : Token} (ht : t ≠ .closeBracket) (stack : List Frame) :
    step (firstItem stack) t = step (value (.list [] :: stack)) t := by
  cases t with
  | closeBracket => exact absurd rfl ht
  | _ => rfl

theorem exists_toTokens_cons (v : Json) : ∃ t ts, toTokens v = t :: ts ∧ t ≠ .closeBracket := by
  cases v with
  | bool value => cases value <;> exact ⟨_, _, rfl, nofun⟩
  | list items => cases items <;> exact ⟨_, _, rfl, nofun⟩
  | object fields => cases fields <;> exact ⟨_, _, rfl, nofun⟩
  | _ => exact ⟨_, _, rfl, nofun⟩

theorem foldlM_firstItem {v : Json} (hv : Builds v) (stack : List Frame) (rest : List Token) :
    (toTokens v ++ rest).foldlM step (firstItem stack) =
      rest.foldlM step (afterItem [v] stack) := by
  have hbuild := hv (.list [] :: stack) rest
  -- The first item has a state of its own, but only a closing bracket is met differently there.
  obtain ⟨t, ts, htokens, ht⟩ := exists_toTokens_cons v
  rw [htokens, List.cons_append, List.foldlM_cons] at hbuild ⊢
  rw [step_firstItem ht, hbuild]
  rfl

theorem foldlM_itemTokens {items : List Json} (hitems : ∀ v ∈ items, Builds v)
    (seen : List Json) (stack : List Frame) (rest : List Token) :
    (itemTokens items ++ rest).foldlM step (afterItem seen stack) =
      rest.foldlM step (push (.list (seen.reverse ++ items)) stack) := by
  induction items generalizing seen with
  | nil =>
    rw [List.append_nil]
    rfl
  | cons v items ih =>
    have hv := hitems v List.mem_cons_self (.list seen :: stack) (itemTokens items ++ rest)
    have hrest := ih (fun w hw => hitems w (List.mem_cons_of_mem _ hw)) (v :: seen)
    have hcomma : step (afterItem seen stack) .comma = some (value (.list seen :: stack)) := rfl
    rw [itemTokens, List.cons_append, List.foldlM_cons, hcomma, Option.bind_eq_bind,
      Option.bind_some, List.append_assoc, hv, push, hrest]
    simp

theorem builds_list {items : List Json} (hitems : ∀ v ∈ items, Builds v) :
    Builds (.list items) := by
  intro stack rest
  cases items with
  | nil => rfl
  | cons v items =>
    have hv := foldlM_firstItem (hitems v List.mem_cons_self) stack (itemTokens items ++ rest)
    have hrest := foldlM_itemTokens (fun w hw => hitems w (List.mem_cons_of_mem _ hw)) [v] stack rest
    have hopen : step (value stack) .openBracket = some (firstItem stack) := rfl
    rw [toTokens, List.cons_append, List.foldlM_cons, hopen, Option.bind_eq_bind,
      Option.bind_some, List.append_assoc, hv, hrest]
    rfl

/-! ## Objects -/

theorem foldlM_field {v : Json} (hv : Builds v) (name : String) (fields : List (String × Json))
    (stack : List Frame) (rest : List Token) :
    (.colon :: (toTokens v ++ rest)).foldlM step (colon fields name stack) =
      rest.foldlM step (afterField ((name, v) :: fields) stack) := by
  have hcolon : step (colon fields name stack) .colon =
    some (value (.object fields name :: stack)) := rfl
  rw [List.foldlM_cons, hcolon, Option.bind_eq_bind, Option.bind_some, hv]
  rfl

theorem foldlM_fieldTokens {fields : List (String × Json)} (hfields : ∀ f ∈ fields, Builds f.2)
    (seen : List (String × Json)) (stack : List Frame) (rest : List Token) :
    (fieldTokens fields ++ rest).foldlM step (afterField seen stack) =
      rest.foldlM step (push (.object (seen.reverse ++ fields)) stack) := by
  induction fields generalizing seen with
  | nil =>
    rw [List.append_nil]
    rfl
  | cons f fields ih =>
    obtain ⟨name, v⟩ := f
    have hv := foldlM_field (hfields _ List.mem_cons_self) name seen stack
      (fieldTokens fields ++ rest)
    have hrest := ih (fun g hg => hfields g (List.mem_cons_of_mem _ hg)) ((name, v) :: seen)
    have hcomma : step (afterField seen stack) .comma = some (nextName seen stack) := rfl
    have hname : step (nextName seen stack) (.text (some name)) = some (colon seen name stack) := rfl
    rw [fieldTokens, List.cons_append, List.foldlM_cons, hcomma, Option.bind_eq_bind,
      Option.bind_some, List.cons_append, List.foldlM_cons, hname, Option.bind_eq_bind,
      Option.bind_some, List.cons_append, List.append_assoc, hv, hrest]
    simp

theorem builds_object {fields : List (String × Json)} (hfields : ∀ f ∈ fields, Builds f.2) :
    Builds (.object fields) := by
  intro stack rest
  cases fields with
  | nil => rfl
  | cons f fields =>
    obtain ⟨name, v⟩ := f
    have hv := foldlM_field (hfields _ List.mem_cons_self) name [] stack (fieldTokens fields ++ rest)
    have hrest := foldlM_fieldTokens (fun g hg => hfields g (List.mem_cons_of_mem _ hg)) [(name, v)]
      stack rest
    have hopen : step (value stack) .openBrace = some (firstName stack) := rfl
    have hname : step (firstName stack) (.text (some name)) = some (colon [] name stack) := rfl
    rw [toTokens, List.cons_append, List.foldlM_cons, hopen, Option.bind_eq_bind,
      Option.bind_some, List.cons_append, List.foldlM_cons, hname, Option.bind_eq_bind,
      Option.bind_some, List.cons_append, List.append_assoc, hv, hrest]
    rfl

theorem builds_of_numeric {v : Json} (hv : Numeric v) : Builds v := by
  induction hv with
  | bool value => cases value <;> exact fun _ _ => rfl
  | list _ ih => exact builds_list ih
  | object _ ih => exact builds_object ih
  | _ => exact fun _ _ => rfl

end Reader

theorem ofTokens?_toTokens {v : Json} (hv : Numeric v) : ofTokens? (toTokens v) = some v := by
  have hbuild := Reader.builds_of_numeric hv [] []
  rw [List.append_nil] at hbuild
  rw [ofTokens?, hbuild]
  rfl

/-- A printed value is read back. -/
theorem ofText?_toText {v : Json} (hv : Numeric v) : ofText? v.toText = some v := by
  rw [ofText?, toText, String.toList_ofList, tokens?_print hv]
  exact ofTokens?_toTokens hv

end CertSync.Json
