import CertSync.Key.Armour
import CertSync.Proofs.Bytes.Base64
import CertSync.Proofs.Bytes.Basic
import Mathlib.Data.Option.Basic

/-!
# Armour is read as it was written

A block that is written out is found again, whatever its contents are. Its lines hold no dash, so
the first marker after them is the one that ends the block, and no two line ends stand together, so
nothing of it is taken for headers.
-/

namespace CertSync.Armour

/-! ## Markers -/

theorem seek_rest (marker pending seen rest : Bytes) :
    seek marker pending seen (pending ++ rest) =
      some (((pending.reverse ++ seen).drop marker.length).reverse, rest) := by
  induction pending generalizing seen with
  | nil => simp [seek]
  | cons p pending ih =>
    rw [List.cons_append, seek, if_pos rfl, ih]
    simp

theorem seek_pass {m : UInt8} {marker before : Bytes} (h : m ∉ before) (seen rest : Bytes) :
    seek (m :: marker) (m :: marker) seen (before ++ rest) =
      seek (m :: marker) (m :: marker) (before.reverse ++ seen) rest := by
  induction before generalizing seen with
  | nil => rfl
  | cons b before ih =>
    have hb : b ≠ m := fun hb => h (by simp [hb])
    rw [List.cons_append, seek, if_neg hb, ih fun hm => h (List.mem_cons_of_mem _ hm)]
    simp

theorem seek_none {m : UInt8} {marker bytes : Bytes} (h : m ∉ bytes) (seen : Bytes) :
    seek (m :: marker) (m :: marker) seen bytes = none := by
  have hpass : seek (m :: marker) (m :: marker) seen (bytes ++ []) = _ := seek_pass h seen []
  rw [List.append_nil] at hpass
  rw [hpass, seek]
  simp

theorem splitAt?_found {marker : String} {m : UInt8} {rest before : Bytes}
    (hmarker : Bytes.ofText marker = m :: rest) (h : m ∉ before) (after : Bytes) :
    splitAt? marker (before ++ (Bytes.ofText marker ++ after)) = some (before, after) := by
  rw [splitAt?, hmarker, seek_pass h, seek_rest, List.drop_left' (by simp)]
  simp

theorem splitAt?_none {marker : String} {m : UInt8} {rest bytes : Bytes}
    (hmarker : Bytes.ofText marker = m :: rest) (h : m ∉ bytes) :
    splitAt? marker bytes = none := by
  rw [splitAt?, hmarker]
  exact seek_none h []

/-! ## Lines -/

def joined (lines : List Bytes) : Bytes := lines.flatMap fun line => line ++ [0x0A]

theorem seek_joined {lines : List Bytes} (hne : ∀ line ∈ lines, line ≠ [])
    (hend : ∀ line ∈ lines, (0x0A : UInt8) ∉ line) (seen : Bytes) :
    seek [0x0A, 0x0A] [0x0A, 0x0A] seen (joined lines) = none ∧
      seek [0x0A, 0x0A] [0x0A] seen (joined lines) = none := by
  induction lines generalizing seen with
  | nil => exact ⟨by simp [joined, seek], by simp [joined, seek]⟩
  | cons line rest ih =>
    have ih := ih (fun l hl => hne l (List.mem_cons_of_mem _ hl))
      (fun l hl => hend l (List.mem_cons_of_mem _ hl))
    have hline : ∀ seen : Bytes,
        seek [0x0A, 0x0A] [0x0A, 0x0A] seen (joined (line :: rest)) = none := by
      intro seen
      rw [joined, List.flatMap_cons, List.append_assoc, seek_pass (hend line (by simp)),
        List.singleton_append, seek, if_pos rfl]
      exact (ih _).2
    refine ⟨hline seen, ?_⟩
    -- After a line end the next byte is one of a line, and the search begins again.
    obtain ⟨b, bs, rfl⟩ := List.exists_cons_of_ne_nil (hne line (by simp))
    have hb : b ≠ 0x0A := fun hb => hend (b :: bs) (by simp) (by simp [hb])
    have hfirst := hline seen
    rw [joined, List.flatMap_cons, List.cons_append, List.cons_append, seek, if_neg hb] at hfirst ⊢
    exact hfirst

theorem headersAndData_joined {lines : List Bytes} (hne : ∀ line ∈ lines, line ≠ [])
    (hend : ∀ line ∈ lines, (0x0A : UInt8) ∉ line) (hreturn : (0x0D : UInt8) ∉ joined lines) :
    headersAndData (joined lines) = ([], joined lines) := by
  have hnewlines : Bytes.ofText "\n\n" = [0x0A, 0x0A] := by decide +kernel
  have hreturns : Bytes.ofText "\r\n\r\n" = [0x0D, 0x0A, 0x0D, 0x0A] := by decide +kernel
  have hfirst : splitAt? "\n\n" (joined lines) = none := by
    rw [splitAt?, hnewlines]
    exact (seek_joined hne hend []).1
  rw [headersAndData, hfirst, splitAt?_none hreturns hreturn]
  rfl

/-! ## A written block -/

theorem wrap_eq (cs : List Char) :
    Bytes.ofText (String.ofList (wrap cs)) =
      joined ((chunks 64 cs).map fun line => Bytes.ofText (String.ofList line)) := by
  rw [wrap, joined, List.flatMap_map]
  induction chunks 64 cs with
  | nil => rfl
  | cons line rest ih =>
    rw [List.flatMap_cons, List.flatMap_cons, Bytes.ofText_ofList_append,
      Bytes.ofText_ofList_append, ih]
    rfl

theorem written_of {p : Char → Prop} (hdigit : ∀ n < 64, p (Base64.digit n)) (hpadding : p '=')
    {c : Char} (h : Base64.IsWritten c) : p c := by
  rcases h with ⟨n, hn, rfl⟩ | rfl
  · exact hdigit n hn
  · exact hpadding

theorem written_not_blank {c : Char} (h : Base64.IsWritten c) : Text.isBlank c = false :=
  written_of (p := fun c => Text.isBlank c = false) (by decide) (by decide) h

theorem written_ascii {c : Char} (h : Base64.IsWritten c) : c.val ≤ 127 :=
  written_of (p := fun c => c.val ≤ 127) (by decide) (by decide) h

theorem written_byte {c : Char} (h : Base64.IsWritten c) :
    c.val.toUInt8 ∉ ([0x20, 0x09, 0x0A, 0x0D, 0x2D] : Bytes) :=
  written_of (p := fun c => c.val.toUInt8 ∉ ([0x20, 0x09, 0x0A, 0x0D, 0x2D] : Bytes)) (by decide)
    (by decide) h

theorem written_of_mem_chunks {cs : List Char} (h : ∀ c ∈ cs, Base64.IsWritten c) :
    ∀ line ∈ chunks 64 cs, ∀ c ∈ line, Base64.IsWritten c := by
  intro line hline c hc
  refine h c ?_
  rw [← flatten_chunks (show 0 < 64 by decide) cs]
  exact List.mem_flatten.mpr ⟨line, hline, hc⟩

theorem filter_lines {lines : List (List Char)}
    (h : ∀ line ∈ lines, ∀ c ∈ line, Base64.IsWritten c) :
    (lines.flatMap fun line => line ++ ['\n']).filter (fun c => !Text.isBlank c) =
      lines.flatten := by
  induction lines with
  | nil => rfl
  | cons line rest ih =>
    have hline : line.filter (fun c => !Text.isBlank c) = line :=
      List.filter_eq_self.mpr fun c hc => by
        simp [written_not_blank (h line (by simp) c hc)]
    have hend : ['\n'].filter (fun c => !Text.isBlank c) = [] := by decide
    rw [List.flatMap_cons, List.filter_append, List.filter_append, hline, hend, List.append_nil,
      ih fun l hl => h l (List.mem_cons_of_mem _ hl), List.flatten_cons]

theorem contents?_wrap (bytes : Bytes) :
    contents? (Bytes.ofText (String.ofList (wrap (Base64.encode bytes)))) = some bytes := by
  have hwritten := Base64.encode_written bytes
  rw [contents?, Bytes.toText?_ofText, Option.bind_eq_bind, Option.bind_some,
    String.toList_ofList, wrap, filter_lines (written_of_mem_chunks hwritten),
    flatten_chunks (by decide), Base64.decode?_encode]

theorem line_bytes {cs : List Char} (h : ∀ c ∈ cs, Base64.IsWritten c) :
    ∀ line ∈ (chunks 64 cs).map fun line => Bytes.ofText (String.ofList line),
      line ≠ [] ∧ ∀ b ∈ line, b ∉ ([0x20, 0x09, 0x0A, 0x0D, 0x2D] : Bytes) := by
  intro line hline
  obtain ⟨run, hrun, rfl⟩ := List.mem_map.mp hline
  have hwritten := written_of_mem_chunks h run hrun
  rw [Bytes.ofText_ascii fun c hc => written_ascii (hwritten c hc)]
  refine ⟨by simp [chunks_ne_nil run hrun], ?_⟩
  intro b hb
  obtain ⟨c, hc, rfl⟩ := List.mem_map.mp hb
  exact written_byte (hwritten c hc)

theorem skipSpace_joined {lines : List Bytes}
    (h : ∀ line ∈ lines, line ≠ [] ∧ ∀ b ∈ line, b ∉ ([0x20, 0x09, 0x0A, 0x0D, 0x2D] : Bytes))
    (after : Bytes) :
    skipSpace (0x0A :: (joined lines ++ 0x2D :: after)) = joined lines ++ 0x2D :: after := by
  cases lines with
  | nil => simp [skipSpace, joined]
  | cons line rest =>
    obtain ⟨hne, hline⟩ := h line (by simp)
    obtain ⟨b, bs, rfl⟩ := List.exists_cons_of_ne_nil hne
    have hb := hline b (by simp)
    simp only [List.mem_cons, List.not_mem_nil, or_false, not_or] at hb
    simp [skipSpace, joined, hb]

theorem ofText_toText (block : Armour) :
    Bytes.ofText block.toText = Bytes.ofText "-----BEGIN " ++ (Bytes.ofText block.label ++
      (Bytes.ofText "-----" ++ 0x0A ::
        (Bytes.ofText (String.ofList (wrap (Base64.encode block.contents))) ++
          (Bytes.ofText "-----END " ++ (Bytes.ofText block.label ++
            (Bytes.ofText "-----" ++ [0x0A])))))) := by
  have hline : Bytes.ofText "-----\n" = Bytes.ofText "-----" ++ [0x0A] := by decide +kernel
  simp only [toText, Bytes.ofText_append, toString, hline, List.append_assoc, List.singleton_append]
  simp only [List.cons_append]

theorem joined_bytes {lines : List Bytes}
    (h : ∀ line ∈ lines, line ≠ [] ∧ ∀ b ∈ line, b ∉ ([0x20, 0x09, 0x0A, 0x0D, 0x2D] : Bytes)) :
    ∀ b ∈ joined lines, b ≠ 0x0D ∧ b ≠ 0x2D := by
  intro b hb
  obtain ⟨line, hline, hb⟩ := List.mem_flatMap.mp hb
  rcases List.mem_append.mp hb with hb | hb
  · have hbyte := (h line hline).2 b hb
    simp only [List.mem_cons, List.not_mem_nil, or_false, not_or] at hbyte
    exact ⟨hbyte.2.2.2.1, hbyte.2.2.2.2⟩
  · rw [List.mem_singleton] at hb
    subst hb
    decide

theorem areHeaders_empty : areHeaders "" = true := by
  have hend : String.Pos.Raw.atEnd "" 0 = true := rfl
  have hlines : "".splitOn "\n" = [""] := by
    have hsep : ("\n" == "") = false := by decide
    rw [String.splitOn, hsep, String.splitOnAux, if_neg (by decide), if_pos hend]
    rfl
  unfold areHeaders headerLines
  rw [hlines]
  rfl

/-- How a text holds a block and nothing else: its first line, base64 in lines of sixty-four
characters, of which only the last may be shorter, and its last line. A line feed ends each line. -/
structure IsLaidOut (block : Armour) (lines : List (List Char)) (text : String) : Prop where
  text : text = s!"-----BEGIN {block.label}-----\n" ++
    String.ofList (lines.flatMap fun line => line ++ ['\n']) ++ s!"-----END {block.label}-----\n"
  full : ∀ line ∈ lines.dropLast, line.length = 64
  short : ∀ line ∈ lines, line ≠ [] ∧ line.length ≤ 64
  written : ∀ line ∈ lines, ∀ c ∈ line, Base64.IsWritten c
  contents : Base64.decode? lines.flatten = some block.contents

theorem toText_isLaidOut (block : Armour) :
    block.IsLaidOut (chunks 64 (Base64.encode block.contents)) block.toText where
  text := rfl
  full := length_of_mem_dropLast_chunks (by decide) _
  short line hline := ⟨chunks_ne_nil line hline, length_le_of_mem_chunks line hline⟩
  written := written_of_mem_chunks (Base64.encode_written block.contents)
  contents := by rw [flatten_chunks (by decide), Base64.decode?_encode]

theorem ofText?_toText {block : Armour} (hlabel : block.label ≠ "")
    (hdash : (0x2D : UInt8) ∉ Bytes.ofText block.label) :
    ofText? (Bytes.ofText block.toText) = some block := by
  have hbegin : Bytes.ofText "-----BEGIN " = 0x2D :: Bytes.ofText "----BEGIN " := by decide +kernel
  have hend : Bytes.ofText "-----END " = 0x2D :: Bytes.ofText "----END " := by decide +kernel
  have hdashes : Bytes.ofText "-----" = 0x2D :: Bytes.ofText "----" := by decide +kernel
  let lines := (chunks 64 (Base64.encode block.contents)).map fun line =>
    Bytes.ofText (String.ofList line)
  have hlines := line_bytes (Base64.encode_written block.contents)
  have hbytes : ∀ b ∈ joined lines, b ≠ 0x0D ∧ b ≠ 0x2D := joined_bytes hlines
  have hheaders : headersAndData (joined lines) = ([], joined lines) :=
    headersAndData_joined (fun line hl => (hlines line hl).1)
      (fun line hl hmem => by simpa using (hlines line hl).2 _ hmem)
      (fun hmem => (hbytes _ hmem).1 rfl)
  have hcontents : contents? (joined lines) = some block.contents := by
    rw [← wrap_eq]
    exact contents?_wrap block.contents
  -- What stands after the first label, from the end of its line on.
  let tail := Bytes.ofText "-----END " ++ (Bytes.ofText block.label ++
    (Bytes.ofText "-----" ++ [0x0A]))
  have hspace : skipSpace (0x0A :: (joined lines ++ tail)) = joined lines ++ tail := by
    simp only [tail, hend]
    exact skipSpace_joined hlines _
  let rest := Bytes.ofText block.label ++ (Bytes.ofText "-----" ++ 0x0A :: (joined lines ++ tail))
  have hfirst : splitAt? "-----BEGIN " ([] ++ (Bytes.ofText "-----BEGIN " ++ rest)) =
      some ([], rest) := splitAt?_found hbegin (by simp) rest
  have hpayload : splitAt? "-----END " (joined lines ++ tail) =
      some (joined lines, Bytes.ofText block.label ++ (Bytes.ofText "-----" ++ [0x0A])) :=
    splitAt?_found hend (fun hmem => (hbytes _ hmem).2 rfl) _
  have hempty : Bytes.toText? [] = some "" := Bytes.toText?_ofText ""
  rw [ofText_toText, wrap_eq, ofText?]
  change (splitAt? "-----BEGIN " ([] ++ (Bytes.ofText "-----BEGIN " ++ _)) >>= _) = _
  rw [hfirst, Option.bind_eq_bind, Option.bind_some]
  simp only [rest, splitAt?_found hdashes hdash, Option.bind_some, hspace]
  rw [hpayload]
  simp only [splitAt?_found hdashes hdash, Option.bind_some, hheaders, Bytes.toText?_ofText,
    hcontents, hempty]
  simp [areHeaders_empty, hlabel, guard]

end CertSync.Armour
