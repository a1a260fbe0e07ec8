import CertSync.Json.Printer
import CertSync.Json.Token
import Mathlib.Data.List.TakeWhile
import Mathlib.Tactic.SplitIfs

/-!
# Texts and words in the lexer

A printed text is cut out as that text, whatever stands before and after it. A word, such as a
number, is cut out as its token if what comes after it ends the word.
-/

namespace CertSync.Json.Lexer

/-- What is cut out of the rest of a document. -/
def read (lexer : Lexer) (cs : List Char) : Option (List Token) :=
  cs.foldlM step lexer >>= finish

@[simp] theorem read_cons (lexer : Lexer) (c : Char) (rest : List Char) :
    read lexer (c :: rest) = lexer.step c >>= fun next => read next rest := by
  simp [read, List.foldlM_cons, Option.bind_assoc]

/-! ## Texts -/

theorem hexValue?_hexDigit : ∀ n < 16, hexValue? (hexDigit n) = some n := by decide

theorem read_controlCode {c : Char} (hc : c.toNat < 0x20) (seen : List Piece) (ts : List Token)
    (rest : List Char) :
    read ⟨.text seen, ts⟩
        ('\\' :: 'u' :: '0' :: '0' :: hexDigit (c.toNat / 16) :: hexDigit (c.toNat % 16) :: rest) =
      read ⟨.text (.char c :: seen), ts⟩ rest := by
  have hhigh := hexValue?_hexDigit (c.toNat / 16) (by omega)
  have hlow := hexValue?_hexDigit (c.toNat % 16) (by omega)
  have hzero : hexValue? '0' = some 0 := rfl
  have hcode : c.toNat / 16 * 16 + c.toNat % 16 = c.toNat := by omega
  have hpiece : pieceOf c.toNat = .char c := by
    rw [pieceOf, Char.ofNat_toNat, if_neg (by simp; omega)]
  simp [step, hhigh, hlow, hzero, hcode, hpiece]

theorem read_printChar (seen : List Piece) (ts : List Token) (c : Char) (rest : List Char) :
    read ⟨.text seen, ts⟩ (printChar c ++ rest) = read ⟨.text (.char c :: seen), ts⟩ rest := by
  unfold printChar
  split_ifs with hquote hslash _ _ _ _ _ hcontrol
  -- Seven characters have an escape of their own, which is read off as it stands.
  all_goals try subst c; rfl
  · exact read_controlCode hcontrol seen ts rest
  · simp [step, hquote, hslash, hcontrol]

theorem joinPieces?_chars (cs : List Char) : joinPieces? (cs.map .char) = some cs := by
  induction cs with
  | nil => rfl
  | cons c cs ih => simp [joinPieces?, ih]

theorem read_chars (seen : List Piece) (ts : List Token) (cs rest : List Char) :
    read ⟨.text seen, ts⟩ (cs.flatMap printChar ++ rest) =
      read ⟨.text ((cs.map Piece.char).reverse ++ seen), ts⟩ rest := by
  induction cs generalizing seen with
  | nil => rfl
  | cons c cs ih =>
    rw [List.flatMap_cons, List.append_assoc, read_printChar, ih]
    simp

theorem read_printText (ts : List Token) (s : String) (rest : List Char) :
    read ⟨.gap, ts⟩ (printText s ++ rest) = read ⟨.gap, .text (some s) :: ts⟩ rest := by
  have hopen : step ⟨.gap, ts⟩ '"' = some ⟨.text [], ts⟩ := rfl
  have hclose : step ⟨.text (s.toList.map Piece.char).reverse, ts⟩ '"' =
      some ⟨.gap, .text (some s) :: ts⟩ := by
    simp [step, ofPieces, joinPieces?_chars]
  rw [printText, List.cons_append, read_cons, hopen, Option.bind_eq_bind, Option.bind_some,
    List.append_assoc, read_chars, List.append_nil, List.cons_append, read_cons, hclose]
  rfl

/-! ## Words -/

/-- The text does not go on with a word. -/
def Ends (rest : List Char) : Prop := ∀ c, rest.head? = some c → endsWord c = true

theorem between_of_endsWord {c : Char} (h : endsWord c = false) (ts : List Token) :
    between ts c = some ⟨.word [c], ts⟩ := by
  simp only [endsWord, Bool.or_eq_false_iff, decide_eq_false_iff_not, Option.isSome_eq_false_iff,
    Option.isNone_iff_eq_none] at h
  obtain ⟨⟨hspace, hquote⟩, hpunctuation⟩ := h
  simp [between, hspace, hquote, hpunctuation]

theorem read_ofWord {seen : List Char} {token : Token} {rest : List Char}
    (htoken : Token.ofWord? seen.reverse = some token) (hrest : Ends rest) (ts : List Token) :
    read ⟨.word seen, ts⟩ rest = read ⟨.gap, token :: ts⟩ rest := by
  cases rest with
  | nil => simp [read, finish, htoken]
  | cons c rest =>
    have hends := hrest c rfl
    simp [step, hends, htoken]

theorem read_seen {seen word rest : List Char} {token : Token}
    (hword : ∀ c ∈ word, endsWord c = false)
    (htoken : Token.ofWord? (seen.reverse ++ word) = some token) (hrest : Ends rest)
    (ts : List Token) :
    read ⟨.word seen, ts⟩ (word ++ rest) = read ⟨.gap, token :: ts⟩ rest := by
  induction word generalizing seen with
  | nil => exact read_ofWord (by simpa using htoken) hrest ts
  | cons c word ih =>
    have hc := hword c List.mem_cons_self
    have hstep : step ⟨.word seen, ts⟩ c = some ⟨.word (c :: seen), ts⟩ := by simp [step, hc]
    rw [List.cons_append, read_cons, hstep]
    exact ih (fun d hd => hword d (List.mem_cons_of_mem _ hd)) (by simpa using htoken)

theorem read_word {word rest : List Char} {token : Token}
    (hword : ∀ c ∈ word, endsWord c = false) (htoken : Token.ofWord? word = some token)
    (hrest : Ends rest) (ts : List Token) :
    read ⟨.gap, ts⟩ (word ++ rest) = read ⟨.gap, token :: ts⟩ rest := by
  cases word with
  | nil => cases htoken
  | cons c word =>
    have hstep : step ⟨.gap, ts⟩ c = some ⟨.word [c], ts⟩ :=
      between_of_endsWord (hword c List.mem_cons_self) ts
    rw [List.cons_append, read_cons, hstep]
    refine read_seen (fun d hd => hword d (List.mem_cons_of_mem _ hd)) ?_ hrest ts
    exact htoken

/-! ## Numbers -/

/-- What stands before the rest holds nothing that ends a word. -/
def Continues (cs rest : List Char) : Prop :=
  ∃ front, cs = front ++ rest ∧ ∀ c ∈ front, endsWord c = false

namespace Continues

variable {c : Char} {cs between rest : List Char}

theorem refl (cs : List Char) : Continues cs cs := ⟨[], rfl, nofun⟩

theorem trans (h : Continues cs between) (h' : Continues between rest) : Continues cs rest := by
  obtain ⟨front, rfl, hfront⟩ := h
  obtain ⟨back, rfl, hback⟩ := h'
  refine ⟨front ++ back, (List.append_assoc _ _ _).symm, fun c hc => ?_⟩
  exact (List.mem_append.mp hc).elim (hfront c) (hback c)

theorem cons (hc : endsWord c = false) (h : Continues cs rest) : Continues (c :: cs) rest := by
  obtain ⟨front, rfl, hfront⟩ := h
  exact ⟨c :: front, rfl, List.forall_mem_cons.mpr ⟨hc, hfront⟩⟩

end Continues

theorem endsWord_of_isDigit {c : Char} (h : c.isDigit = true) : endsWord c = false := by
  rw [Bool.eq_false_iff]
  intro hends
  simp only [endsWord, Token.isSpace, Bool.or_eq_true, decide_eq_true_eq] at hends
  rcases hends with ((((rfl | rfl) | rfl) | rfl) | rfl) | hpunctuation
  all_goals try exact absurd h (by decide)
  unfold Token.ofPunctuation? at hpunctuation
  split at hpunctuation
  all_goals first | exact absurd h (by decide) | cases hpunctuation

section

variable {cs rest : List Char}

theorem continues_digits (h : Token.dropDigits? cs = some rest) : Continues cs rest := by
  cases cs with
  | nil => cases h
  | cons c cs =>
    simp only [Token.dropDigits?, Option.ite_none_right_eq_some] at h
    obtain ⟨hc, hrest⟩ := h
    cases hrest
    refine .cons (endsWord_of_isDigit hc) ⟨cs.takeWhile Char.isDigit, by simp, fun d hd => ?_⟩
    exact endsWord_of_isDigit (List.mem_takeWhile_imp hd)

theorem continues_whole (h : Token.dropWhole? cs = some rest) : Continues cs rest := by
  unfold Token.dropWhole? at h
  split at h
  · cases h
    exact .cons rfl (.refl _)
  · exact continues_digits h

theorem continues_fraction (h : Token.dropFraction? cs = some rest) : Continues cs rest := by
  unfold Token.dropFraction? at h
  split at h
  · exact .cons rfl (continues_digits h)
  · cases h
    exact .refl _

theorem continues_exponent (h : Token.dropExponent? cs = some rest) : Continues cs rest := by
  unfold Token.dropExponent? at h
  split at h
  · split_ifs at h with hmark
    · refine .cons (by rcases hmark with rfl | rfl <;> rfl) ?_
      split at h
      · exact .cons rfl (continues_digits h)
      · exact .cons rfl (continues_digits h)
      · exact continues_digits h
    · cases h
      exact .refl _
  · cases h
    exact .refl _

theorem endsWord_of_isNumber {word : List Char} (h : Token.isNumber word = true) :
    ∀ c ∈ word, endsWord c = false := by
  have hunsigned : ∀ cs, (Token.dropWhole? cs >>= Token.dropFraction? >>= Token.dropExponent?) =
      some [] → Continues cs [] := by
    intro cs hcs
    obtain ⟨between, hbetween, hexponent⟩ := Option.bind_eq_some_iff.mp hcs
    obtain ⟨fraction, hwhole, hfraction⟩ := Option.bind_eq_some_iff.mp hbetween
    exact (continues_whole hwhole).trans
      ((continues_fraction hfraction).trans (continues_exponent hexponent))
  have hword : Continues word [] := by
    unfold Token.isNumber at h
    split at h
    · exact .cons rfl (hunsigned _ (of_decide_eq_true h))
    · exact hunsigned _ (of_decide_eq_true h)
  obtain ⟨front, hfront, hall⟩ := hword
  rw [hfront, List.append_nil]
  exact hall

end

end CertSync.Json.Lexer
