/-!
# Blank text

A character is blank when it has Unicode's White_Space property. Names and settings that hold
nothing else count as unset.
-/

namespace CertSync.Text

/-- The characters with the White_Space property, as closed ranges of code points. -/
def blankRanges : List (Nat × Nat) :=
  [(0x0009, 0x000D), (0x0020, 0x0020), (0x0085, 0x0085), (0x00A0, 0x00A0), (0x1680, 0x1680),
   (0x2000, 0x200A), (0x2028, 0x2029), (0x202F, 0x202F), (0x205F, 0x205F), (0x3000, 0x3000)]

def isBlank (c : Char) : Bool :=
  blankRanges.any fun r => r.1 ≤ c.toNat && c.toNat ≤ r.2

/-- No character but blank ones; the empty text is blank. -/
def allBlank (s : String) : Bool := s.toList.all isBlank

def trimStart (cs : List Char) : List Char := cs.dropWhile isBlank

def trimEnd (cs : List Char) : List Char := (trimStart cs.reverse).reverse

def trim (s : String) : String := String.ofList (trimEnd (trimStart s.toList))

/-- A text is blank exactly when trimming its start leaves nothing. -/
theorem allBlank_iff (s : String) : allBlank s = true ↔ trimStart s.toList = [] := by
  rw [allBlank, trimStart]
  induction s.toList with
  | nil => simp
  | cons c cs ih => by_cases h : isBlank c <;> simp [h, ih]

end CertSync.Text
