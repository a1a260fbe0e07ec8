/-!
# Names in capitals

A name of several words, each with a capital letter in front, written in capitals with underscores
between the words. Names have only the letters of ASCII.
-/

namespace CertSync.Text

/-- A capital starts a new word, unless it is the first letter. -/
def upperSnake (name : String) : String :=
  match name.toList with
  | [] => ""
  | c :: cs => String.ofList <| c.toUpper :: cs.flatMap fun d =>
      if d.isUpper then ['_', d] else [d.toUpper]

end CertSync.Text
