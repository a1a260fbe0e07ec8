import CertSync.Proofs.Json.Word

/-!
# A printed value is cut into its tokens

The lexer is followed through a printed value: whatever it has cut before and whatever comes after,
it adds the tokens of the value. Only a word needs something after it that ends it.
-/

namespace CertSync.Json

/-! ## The tokens of a value -/

mutual

def toTokens : Json → List Token
  | null => [.null]
  | bool true => [.true]
  | bool false => [.false]
  | number literal => [.number literal]
  | text s => [.text (some s)]
  | brokenText => [.text none]
  | list [] => [.openBracket, .closeBracket]
  | list (v :: rest) => .openBracket :: (toTokens v ++ itemTokens rest)
  | object [] => [.openBrace, .closeBrace]
  | object ((name, v) :: rest) =>
    .openBrace :: .text (some name) :: .colon :: (toTokens v ++ fieldTokens rest)

def itemTokens : List Json → List Token
  | [] => [.closeBracket]
  | v :: rest => .comma :: (toTokens v ++ itemTokens rest)

def fieldTokens : List (String × Json) → List Token
  | [] => [.closeBrace]
  | (name, v) :: rest => .comma :: .text (some name) :: .colon :: (toTokens v ++ fieldTokens rest)

end

/-- Every number is one that the lexer takes for a number. -/
inductive Numeric : Json → Prop
  | null : Numeric null
  | bool (value : Bool) : Numeric (bool value)
  | number {literal : String} (h : Token.isNumber literal.toList = true) : Numeric (number literal)
  | text (value : String) : Numeric (text value)
  | brokenText : Numeric brokenText
  | list {items : List Json} (h : ∀ v ∈ items, Numeric v) : Numeric (list items)
  | object {fields : List (String × Json)} (h : ∀ f ∈ fields, Numeric f.2) : Numeric (object fields)

namespace Lexer

/-! ## Values -/

theorem ends_of_endsWord {c : Char} (h : endsWord c = true) (rest : List Char) :
    Ends (c :: rest) := by
  intro d hd
  obtain rfl := Option.some.inj hd
  exact h

theorem ends_printItems (items : List Json) (rest : List Char) :
    Ends (printItems items ++ rest) := by
  cases items with
  | nil => exact ends_of_endsWord rfl _
  | cons v items => exact ends_of_endsWord rfl _

theorem ends_printFields (fields : List (String × Json)) (rest : List Char) :
    Ends (printFields fields ++ rest) := by
  cases fields with
  | nil => exact ends_of_endsWord rfl _
  | cons f fields => exact ends_of_endsWord rfl _

/-- The lexer gets through the printed value, and what it adds are the tokens of the value. -/
def Cuts (v : Json) : Prop :=
  ∀ (ts : List Token) (rest : List Char), Ends rest →
    read ⟨.gap, ts⟩ (print v ++ rest) = read ⟨.gap, (toTokens v).reverse ++ ts⟩ rest

theorem read_printItems {items : List Json} (hitems : ∀ v ∈ items, Cuts v) (ts : List Token)
    (rest : List Char) :
    read ⟨.gap, ts⟩ (printItems items ++ rest) =
      read ⟨.gap, (itemTokens items).reverse ++ ts⟩ rest := by
  induction items generalizing ts with
  | nil => rfl
  | cons v items ih =>
    have hcomma : step ⟨.gap, ts⟩ ',' = some ⟨.gap, .comma :: ts⟩ := rfl
    -- What follows an item ends a word, should the item be one.
    have hv := hitems v List.mem_cons_self (.comma :: ts) _ (ends_printItems items rest)
    have hrest := ih fun w hw => hitems w (List.mem_cons_of_mem _ hw)
    rw [printItems, List.cons_append, read_cons, hcomma, Option.bind_eq_bind, Option.bind_some,
      List.append_assoc, hv, hrest]
    simp [itemTokens]

theorem read_field {v : Json} (hv : Cuts v) (name : String) (ts : List Token) {rest : List Char}
    (hrest : Ends rest) :
    read ⟨.gap, ts⟩ (printText name ++ ':' :: (print v ++ rest)) =
      read ⟨.gap, (toTokens v).reverse ++ .colon :: .text (some name) :: ts⟩ rest := by
  have hcolon : step ⟨.gap, .text (some name) :: ts⟩ ':' =
    some ⟨.gap, .colon :: .text (some name) :: ts⟩ := rfl
  rw [read_printText, read_cons, hcolon, Option.bind_eq_bind, Option.bind_some, hv _ _ hrest]

theorem read_printFields {fields : List (String × Json)} (hfields : ∀ f ∈ fields, Cuts f.2)
    (ts : List Token) (rest : List Char) :
    read ⟨.gap, ts⟩ (printFields fields ++ rest) =
      read ⟨.gap, (fieldTokens fields).reverse ++ ts⟩ rest := by
  induction fields generalizing ts with
  | nil => rfl
  | cons f fields ih =>
    obtain ⟨name, v⟩ := f
    have hcomma : step ⟨.gap, ts⟩ ',' = some ⟨.gap, .comma :: ts⟩ := rfl
    have hv := read_field (hfields _ List.mem_cons_self) name (.comma :: ts)
      (ends_printFields fields rest)
    have hrest := ih fun g hg => hfields g (List.mem_cons_of_mem _ hg)
    rw [printFields, List.cons_append, read_cons, hcomma, Option.bind_eq_bind, Option.bind_some,
      List.append_assoc, List.cons_append, List.append_assoc, hv, hrest]
    simp [fieldTokens]

theorem cuts_list {items : List Json} (hitems : ∀ v ∈ items, Cuts v) : Cuts (list items) := by
  intro ts rest _
  cases items with
  | nil => rfl
  | cons v items =>
    have hopen : step ⟨.gap, ts⟩ '[' = some ⟨.gap, .openBracket :: ts⟩ := rfl
    have hv := hitems v List.mem_cons_self (.openBracket :: ts) _ (ends_printItems items rest)
    have hrest := read_printItems (fun w hw => hitems w (List.mem_cons_of_mem _ hw))
      ((toTokens v).reverse ++ .openBracket :: ts) rest
    rw [print, List.cons_append, read_cons, hopen, Option.bind_eq_bind, Option.bind_some,
      List.append_assoc, hv, hrest]
    simp [toTokens]

theorem cuts_object {fields : List (String × Json)} (hfields : ∀ f ∈ fields, Cuts f.2) :
    Cuts (object fields) := by
  intro ts rest _
  cases fields with
  | nil => rfl
  | cons f fields =>
    obtain ⟨name, v⟩ := f
    have hopen : step ⟨.gap, ts⟩ '{' = some ⟨.gap, .openBrace :: ts⟩ := rfl
    have hv := read_field (hfields _ List.mem_cons_self) name (.openBrace :: ts)
      (ends_printFields fields rest)
    have hrest := read_printFields (fun g hg => hfields g (List.mem_cons_of_mem _ hg))
      ((toTokens v).reverse ++ .colon :: .text (some name) :: .openBrace :: ts) rest
    rw [print, List.cons_append, read_cons, hopen, Option.bind_eq_bind, Option.bind_some,
      List.append_assoc, List.cons_append, List.append_assoc, hv, hrest]
    simp [toTokens]

theorem cuts_word {v : Json} {token : Token} (htokens : toTokens v = [token])
    (hword : (print v).any endsWord = false) (htoken : Token.ofWord? (print v) = some token) :
    Cuts v := by
  intro ts rest hrest
  have hends : ∀ c ∈ print v, endsWord c = false := fun c hc =>
    Bool.eq_false_iff.mpr (List.any_eq_false.mp hword c hc)
  rw [read_word hends htoken hrest, htokens]
  rfl

theorem cuts_number {literal : String} (h : Token.isNumber literal.toList = true) :
    Cuts (number literal) := by
  have htrue : literal.toList ≠ ['t', 'r', 'u', 'e'] := by intro heq; rw [heq] at h; cases h
  have hfalse : literal.toList ≠ ['f', 'a', 'l', 's', 'e'] := by intro heq; rw [heq] at h; cases h
  have hnull : literal.toList ≠ ['n', 'u', 'l', 'l'] := by intro heq; rw [heq] at h; cases h
  have htoken : Token.ofWord? literal.toList = some (.number literal) := by
    simp [Token.ofWord?, htrue, hfalse, hnull, h]
  have hword : literal.toList.any endsWord = false :=
    List.any_eq_false.mpr fun c hc => Bool.eq_false_iff.mp (endsWord_of_isNumber h c hc)
  exact cuts_word rfl hword htoken

theorem cuts_of_numeric {v : Json} (hv : Numeric v) : Cuts v := by
  induction hv with
  | null => exact cuts_word rfl rfl rfl
  | bool value =>
    cases value with
    | true => exact cuts_word rfl rfl rfl
    | false => exact cuts_word rfl rfl rfl
  | number h => exact cuts_number h
  | text s => exact fun ts rest _ => read_printText ts s rest
  | brokenText => exact fun ts rest _ => rfl
  | list _ ih => exact cuts_list ih
  | object _ ih => exact cuts_object ih

end Lexer

theorem tokens?_print {v : Json} (hv : Numeric v) : tokens? (print v) = some (toTokens v) := by
  have hend : Lexer.Ends [] := nofun
  have hread := Lexer.cuts_of_numeric hv [] [] hend
  rw [List.append_nil, List.append_nil] at hread
  calc tokens? (print v) = Lexer.read ⟨.gap, []⟩ (print v) := rfl
    _ = Lexer.read ⟨.gap, (toTokens v).reverse⟩ [] := hread
    _ = some (toTokens v) := congrArg some (List.reverse_reverse _)

end CertSync.Json
