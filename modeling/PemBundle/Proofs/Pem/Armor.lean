import PemBundle.Pem.Scan
import PemBundle.Proofs.Pem.Body
import PemBundle.Proofs.Pem.Header
import PemBundle.Proofs.Pem.Regions

/-!
# Armor is read back

The armor of a well-formed block is a region of lines that are known one by one: the opening line,
the header lines and an empty line if there are headers, the lines of the body, and the END line.
The reader of one block gives the block back from it.
-/

namespace PemBundle.Pem

open Text

/-- Whether a label may hold the character. -/
def isLabelChar (c : Char) : Bool := ('A' ≤ c && c ≤ 'Z') || ('0' ≤ c && c ≤ '9') || c = ' '

/-- A block whose label can stand on boundary lines and whose headers can be written. -/
structure Block.WellFormed (block : Block) : Prop where
  label_ne_nil : block.label.toList ≠ []
  label_chars : ∀ c ∈ block.label.toList, isLabelChar c = true
  headers : AreHeaders block.headers

instance (block : Block) : Decidable block.WellFormed :=
  decidable_of_iff
    (block.label.toList ≠ [] ∧ block.label.toList.all isLabelChar = true ∧
      AreHeaders block.headers) <| by
    rw [List.all_eq_true]
    constructor
    · exact fun ⟨h₁, h₂, h₃⟩ => ⟨h₁, h₂, h₃⟩
    · exact fun ⟨h₁, h₂, h₃⟩ => ⟨h₁, h₂, h₃⟩

theorem isLabelChar_ofNat :
    ∀ n < 128, isLabelChar (Char.ofNat n) = isLabelByte (UInt8.ofNat n) := by decide

theorem upperChar_label :
    ∀ n < 128, isLabelChar (Char.ofNat n) = true → upperChar (Char.ofNat n) = [Char.ofNat n] := by
  decide

theorem isAscii_of_isLabelChar {c : Char} (h : isLabelChar c = true) : isAscii c = true := by
  simp only [isLabelChar, Bool.or_eq_true, Bool.and_eq_true, decide_eq_true_eq] at h
  rw [isAscii_iff]
  rcases h with (⟨-, h⟩ | ⟨-, h⟩) | rfl
  · have hle : c.toNat ≤ 'Z'.toNat := UInt32.le_iff_toNat_le.mp h
    exact Nat.lt_of_le_of_lt hle (by decide)
  · have hle : c.toNat ≤ '9'.toNat := UInt32.le_iff_toNat_le.mp h
    exact Nat.lt_of_le_of_lt hle (by decide)
  · decide

/-- The bytes of a label. -/
def Block.labelBytes (block : Block) : Label := asciiBytes block.label.toList

theorem Block.WellFormed.label_ascii {block : Block} (h : block.WellFormed) :
    ∀ c ∈ block.label.toList, isAscii c = true :=
  fun c hc => isAscii_of_isLabelChar (h.label_chars c hc)

theorem Block.WellFormed.isLabel {block : Block} (h : block.WellFormed) :
    IsLabel block.labelBytes := by
  constructor
  · intro hnil
    exact h.label_ne_nil (List.map_eq_nil_iff.mp hnil)
  · intro b hb
    obtain ⟨c, hc, rfl⟩ := List.mem_map.mp hb
    have hlt := (isAscii_iff c).mp (h.label_ascii c hc)
    rw [← isLabelChar_ofNat _ hlt, Char.ofNat_toNat]
    exact h.label_chars c hc

/-- Labels of well-formed blocks are in upper case already. -/
theorem Block.WellFormed.upperLabel {block : Block} (h : block.WellFormed) :
    block.upperLabel = block.label.toList := by
  have hchar : ∀ c ∈ block.label.toList, upperChar c = [c] := by
    intro c hc
    have hlt := (isAscii_iff c).mp (h.label_ascii c hc)
    have hupper := upperChar_label c.toNat hlt
    rw [Char.ofNat_toNat] at hupper
    exact hupper (h.label_chars c hc)
  rw [Block.upperLabel, List.flatMap_congr hchar]
  exact List.flatMap_singleton' _

/-! ### The lines of the armor -/

/-- The header lines of a block, with the empty line after them. -/
def headerLines (headers : Headers) : List Line :=
  if headers.isEmpty then [] else headers.map headerLine ++ [[]]

/-- The lines between the boundary lines of a block. -/
def Block.innerLines (block : Block) : List Line :=
  headerLines block.headers ++ bodyLines block.der

/-- The lines of a block's armor. -/
def Block.armorLines (block : Block) : List Line :=
  beginLine block.labelBytes :: block.innerLines ++ [endLine block.labelBytes]

/-- The lines of a block's armor in front of its END line. -/
def Block.openLines (block : Block) : List Line := beginLine block.labelBytes :: block.innerLines

theorem Block.armorLines_eq (block : Block) :
    block.armorLines = block.openLines ++ [endLine block.labelBytes] := rfl

theorem mem_headerLines {headers : Headers} {line : Line} (h : line ∈ headerLines headers) :
    line = [] ∨ ∃ header ∈ headers, headerLine header = line := by
  rw [headerLines] at h
  split at h
  · exact absurd h List.not_mem_nil
  · rw [List.mem_append, List.mem_map, List.mem_singleton] at h
    exact h.symm

theorem asciiBytes_boundaryChars (kind : String) (label : List Char) :
    asciiBytes (boundaryChars kind label) =
      dashes ++ asciiBytes kind.toList ++ 0x20 :: asciiBytes label ++ (dashes ++ [lineFeed]) := by
  have hfirst : asciiBytes "-----".toList = dashes := by decide
  have hlast : asciiBytes "-----\n".toList = dashes ++ [lineFeed] := by decide
  -- Variables stand for the literals, which rewriting would unfold.
  have hparts (first last word : List Char) :
      asciiBytes (first ++ word ++ ' ' :: label ++ last) =
        asciiBytes first ++ asciiBytes word ++ 0x20 :: asciiBytes label ++ asciiBytes last := by
    simp
  exact (hparts "-----".toList "-----\n".toList kind.toList).trans (by rw [hfirst, hlast])

theorem asciiBytes_beginChars (label : List Char) :
    asciiBytes (boundaryChars "BEGIN" label) = beginLine (asciiBytes label) ++ [lineFeed] := by
  have hword : asciiBytes "BEGIN".toList ++ [0x20] = beginWord := by decide
  rw [asciiBytes_boundaryChars, beginLine, ← hword]
  simp

theorem asciiBytes_endChars (label : List Char) :
    asciiBytes (boundaryChars "END" label) = endLine (asciiBytes label) ++ [lineFeed] := by
  have hword : asciiBytes "END".toList ++ [0x20] = endWord := by decide
  rw [asciiBytes_boundaryChars, endLine, ← hword]
  simp

theorem asciiBytes_headerChars (header : String × String) :
    asciiBytes (headerChars header) = headerLine header ++ [lineFeed] := by
  obtain ⟨name, value⟩ := header
  simp only [headerChars, asciiBytes_append, asciiBytes_cons, headerLine, List.append_assoc]
  rfl

/-- The characters of the header lines. -/
def headersChars (headers : Headers) : List Char :=
  if headers.isEmpty then [] else headers.flatMap headerChars ++ ['\n']

theorem asciiBytes_headersChars (headers : Headers) :
    asciiBytes (headersChars headers) = unlines (headerLines headers) := by
  rw [headersChars, headerLines]
  split
  · rfl
  · rw [asciiBytes_append, asciiBytes_flatMap, unlines_append, unlines, List.flatMap_map]
    simp only [asciiBytes_headerChars]
    rfl

/-- The characters of a block's armor in front of its END line. -/
def Block.openChars (block : Block) : List Char :=
  boundaryChars "BEGIN" block.upperLabel ++ headersChars block.headers ++ bodyChars block.der

theorem Block.armorChars_eq (block : Block) :
    block.armorChars = block.openChars ++ boundaryChars "END" block.upperLabel := rfl

theorem Block.WellFormed.asciiBytes_openChars {block : Block} (h : block.WellFormed) :
    asciiBytes block.openChars = unlines block.openLines := by
  rw [openChars, h.upperLabel, asciiBytes_append, asciiBytes_append, asciiBytes_beginChars,
    asciiBytes_headersChars, asciiBytes_bodyChars]
  simp [openLines, innerLines, labelBytes]

/-- The written armor is its lines, each with its line feed. -/
theorem Block.WellFormed.asciiBytes_armorChars {block : Block} (h : block.WellFormed) :
    asciiBytes block.armorChars = unlines block.armorLines := by
  rw [armorChars_eq, asciiBytes_append, h.asciiBytes_openChars, h.upperLabel,
    asciiBytes_endChars, armorLines_eq]
  simp [labelBytes]

theorem ascii_boundaryChars {kind : String} (hkind : ∀ c ∈ kind.toList, isAscii c = true)
    {label : List Char} (hlabel : ∀ c ∈ label, isAscii c = true) :
    ∀ c ∈ boundaryChars kind label, isAscii c = true := by
  have hlast : ∀ c ∈ "-----\n".toList, isAscii c = true := List.all_eq_true.mp (by decide)
  change ∀ c ∈ "-----".toList ++ kind.toList ++ ' ' :: label ++ "-----\n".toList, _
  refine List.forall_mem_append.mpr ⟨List.forall_mem_append.mpr ⟨?_, ?_⟩, hlast⟩
  · exact List.forall_mem_append.mpr ⟨ascii_dashes, hkind⟩
  · exact List.forall_mem_cons.mpr ⟨by decide, hlabel⟩

theorem IsHeader.isAscii_of_mem {header : String × String} (h : IsHeader header) {c : Char}
    (hc : c ∈ headerChars header) : isAscii c = true := by
  obtain ⟨name, value⟩ := header
  simp only [headerChars, List.mem_append, List.mem_cons, List.not_mem_nil, or_false] at hc
  rcases hc with (hc | rfl | rfl | hc) | rfl
  · exact h.name_ascii c hc
  · decide
  · decide
  · exact h.value_ascii c hc
  · decide

theorem AreHeaders.isAscii_of_mem {headers : Headers} (h : AreHeaders headers) {c : Char}
    (hc : c ∈ headersChars headers) : isAscii c = true := by
  rw [headersChars] at hc
  split at hc
  · exact absurd hc List.not_mem_nil
  · rw [List.mem_append, List.mem_flatMap, List.mem_singleton] at hc
    rcases hc with ⟨header, hmem, hc⟩ | rfl
    · exact (h.each header hmem).isAscii_of_mem hc
    · decide

theorem Block.WellFormed.armor_ascii {block : Block} (h : block.WellFormed) {c : Char}
    (hc : c ∈ block.armorChars) : isAscii c = true := by
  rw [Block.armorChars, h.upperLabel, List.mem_append, List.mem_append, List.mem_append] at hc
  rcases hc with ((hc | hc) | hc) | hc
  · exact ascii_boundaryChars (List.all_eq_true.mp (by decide)) h.label_ascii c hc
  · exact h.headers.isAscii_of_mem hc
  · exact isAscii_of_mem_bodyChars hc
  · exact ascii_boundaryChars (List.all_eq_true.mp (by decide)) h.label_ascii c hc

/-- The bytes of the armor of a well-formed block are its lines, each with its line feed. -/
theorem Block.WellFormed.utf8_toPem {block : Block} (h : block.WellFormed) :
    utf8 block.toPem = unlines block.armorLines := by
  rw [Block.toPem, utf8_ofList fun c hc => h.armor_ascii hc, h.asciiBytes_armorChars]

/-- Well-formed blocks can be written. -/
theorem Block.WellFormed.armor_eq {block : Block} (h : block.WellFormed) :
    block.armor = .ok block.toPem := by
  have hlabel : Text.notAscii? block.upperLabel = none := by
    rw [h.upperLabel]
    exact notAscii?_eq_none h.label_ascii
  have hheaders : block.headers.findSome? (fun header =>
      (Text.notAscii? header.1.toList).or (Text.notAscii? header.2.toList)) = none := by
    rw [List.findSome?_eq_none_iff]
    intro header hmem
    have hheader := h.headers.each header hmem
    rw [notAscii?_eq_none hheader.name_ascii, notAscii?_eq_none hheader.value_ascii]
    rfl
  have hnone : block.notAscii? = none := by
    rw [Block.notAscii?, hlabel]
    exact hheaders
  rw [Block.armor, hnone]

/-! ### Reading the lines of the armor -/

theorem isDashed_nil : isDashed [] = false := by decide

/-- None of the lines between the boundary lines starts with five dashes or holds a line end. -/
theorem Block.WellFormed.innerLine {block : Block} (h : block.WellFormed) {line : Line}
    (hline : line ∈ block.innerLines) : isDashed line = false ∧ IsPlain line := by
  rw [Block.innerLines, List.mem_append] at hline
  rcases hline with hline | hline
  · rcases mem_headerLines hline with rfl | ⟨header, hmem, rfl⟩
    · exact ⟨isDashed_nil, isPlain_nil⟩
    · have hheader := h.headers.each header hmem
      exact ⟨hheader.isDashed, hheader.isPlain⟩
  · have hbody := isBodyLine_of_mem hline
    exact ⟨isDashed_of_closesBody hbody.closesBody, hbody.isPlain⟩

theorem IsLabel.isPlain {label : Label} (h : IsLabel label) : IsPlain label := by
  constructor
  · intro hmem
    exact absurd (h.2 _ hmem) (by decide)
  · intro hmem
    exact absurd (h.2 _ hmem) (by decide)

theorem IsLabel.isPlain_beginLine {label : Label} (h : IsLabel label) :
    IsPlain (beginLine label) := by
  have hfirst : IsPlain (dashes ++ beginWord) := by
    simp [IsPlain, dashes, beginWord, lineFeed, carriageReturn]
  have hlast : IsPlain dashes := by simp [IsPlain, dashes, lineFeed, carriageReturn]
  exact (hfirst.append h.isPlain).append hlast

theorem IsLabel.isPlain_endLine {label : Label} (h : IsLabel label) :
    IsPlain (endLine label) := by
  have hfirst : IsPlain (dashes ++ endWord) := by
    simp [IsPlain, dashes, endWord, lineFeed, carriageReturn]
  have hlast : IsPlain dashes := by simp [IsPlain, dashes, lineFeed, carriageReturn]
  exact (hfirst.append h.isPlain).append hlast

theorem IsLabel.beginLabel?_beginLine {label : Label} (h : IsLabel label) :
    beginLabel? (beginLine label) = some label := by
  rw [beginLabel?_eq_some_iff]
  exact ⟨h, [], by simp⟩

theorem IsLabel.endLabel?_endLine {label : Label} (h : IsLabel label) :
    endLabel? (endLine label) = some label := by
  rw [endLabel?_eq_some_iff]
  exact ⟨h, [], by simp⟩

/-- White space behind an END line belongs to it. -/
theorem IsLabel.endLabel?_endLine_append {label : Label} (h : IsLabel label) {after : List UInt8}
    (hafter : ∀ b ∈ after, isBlankByte b = true) :
    endLabel? (endLine label ++ after) = some label := by
  rw [endLabel?_eq_some_iff]
  exact ⟨h, after, rfl, hafter⟩

/-- The armor of a well-formed block is a region. -/
theorem Block.WellFormed.isRegion {block : Block} (h : block.WellFormed) :
    IsRegion ⟨block.labelBytes, block.armorLines⟩ := by
  apply IsRegion.mk h.isLabel.beginLabel?_beginLine _ h.isLabel.endLabel?_endLine
  intro line hline
  exact (h.innerLine hline).1

theorem Block.WellFormed.isPlain_of_mem {block : Block} (h : block.WellFormed) :
    ∀ line ∈ block.armorLines, IsPlain line := by
  intro line hline
  rw [Block.armorLines, List.cons_append, List.mem_cons, List.mem_append,
    List.mem_singleton] at hline
  rcases hline with rfl | hline | rfl
  · exact h.isLabel.isPlain_beginLine
  · exact (h.innerLine hline).2
  · exact h.isLabel.isPlain_endLine

theorem Block.WellFormed.isPlain_of_mem_openLines {block : Block} (h : block.WellFormed) :
    ∀ line ∈ block.openLines, IsPlain line := by
  intro line hline
  apply h.isPlain_of_mem
  rw [Block.armorLines_eq]
  exact List.mem_append_left _ hline

/-- Armor is read back as its lines, whatever follows. -/
theorem Block.WellFormed.lines_armor {block : Block} (h : block.WellFormed) (rest : List UInt8) :
    lines (utf8 block.toPem ++ rest) = block.armorLines ++ lines rest := by
  rw [h.utf8_toPem, lines_unlines_append h.isPlain_of_mem]

/-- The blocks that are read after an opening line: headers, then a body that can be decoded. -/
theorem unarmor_eq_ok_iff {first : Line} {label : Label} (h : openLabel? first = some label)
    (ls : List Line) (block : Block) :
    unarmor (first :: ls) = .ok block ↔
      ∃ rest body, readHeaders [] ls = .ok (block.headers, rest) ∧ bodyLines? rest = some body ∧
        Base64.decode body.flatten = .ok block.der ∧ block.label = ofAscii label := by
  have hdrop : (first :: ls).dropWhile (openLabel? · |>.isNone) = first :: ls :=
    List.dropWhile_cons_of_neg (by simp [h])
  simp only [unarmor, hdrop, h, Option.getD_some, bind, Except.bind]
  constructor
  · intro hok
    split at hok
    · exact nomatch hok
    · rename_i found hread
      split at hok
      · exact nomatch hok
      · rename_i body hbody
        split at hok
        · rename_i der hdecode
          injection hok with hok
          subst hok
          exact ⟨found.2, body, hread, hbody, hdecode, rfl⟩
        · exact nomatch hok
  · rintro ⟨rest, body, hread, hbody, hdecode, hlabel⟩
    simp only [hread, hbody, hdecode]
    rw [← hlabel]

theorem bodyLines?_append {body : List Line} (hbody : ∀ line ∈ body, closesBody line = false)
    {last : Line} (hlast : closesBody last = true) (rest : List Line) :
    bodyLines? (body ++ last :: rest) = some body := by
  have hopen : ∀ line ∈ body, (!closesBody line) = true := by
    intro line hline
    simp [hbody line hline]
  rw [bodyLines?, List.takeWhile_append_of_pos hopen]
  simp [hlast]

/-- The header lines of a block are read up to the first line of its body or the END line. -/
theorem AreHeaders.read {headers : Headers} (h : AreHeaders headers) {line : Line}
    (hne : line ≠ []) (hcolon : colon ∉ line) (rest : List Line) :
    readHeaders [] (headerLines headers ++ line :: rest) = .ok (headers, line :: rest) := by
  rw [headerLines]
  split
  · rename_i hempty
    obtain rfl := List.isEmpty_iff.mp hempty
    exact readHeaders_body [] hne hcolon rest
  · rw [List.append_assoc, readHeaders_headerLines (by simpa using h)]
    rw [List.nil_append, List.singleton_append, readHeaders_blank,
      readHeaders_body headers hne hcolon]

theorem endLine_ne_nil (label : Label) : endLine label ≠ [] := by simp [endLine, dashes]

theorem IsLabel.colon_not_mem_endLine {label : Label} (h : IsLabel label) :
    colon ∉ endLine label := by
  have hlabel : colon ∉ label := fun hmem => absurd (h.2 _ hmem) (by decide)
  have hdashes : colon ∉ dashes := by decide
  have hword : colon ∉ endWord := by decide
  simp [endLine, hlabel, hdashes, hword]

/-- A line that closes a region is no header line. -/
theorem colon_not_mem_of_endLabel? {line : Line} {label : Label}
    (h : endLabel? line = some label) : colon ∉ line := by
  obtain ⟨hlabel, after, rfl, hblank⟩ := (endLabel?_eq_some_iff line label).mp h
  rw [List.mem_append, not_or]
  refine ⟨hlabel.colon_not_mem_endLine, ?_⟩
  intro hmem
  exact absurd (hblank _ hmem) (by decide)

theorem IsLabel.closesBody_endLine {label : Label} (h : IsLabel label) :
    closesBody (endLine label) = true := by
  rw [closesBody, isDashed_of_endLabel? h.endLabel?_endLine, Bool.true_or]

/-- The reader of one block gives a well-formed block back from its armor. -/
theorem Block.WellFormed.unarmor_armorLines {block : Block} (h : block.WellFormed) :
    unarmor block.armorLines = .ok block := by
  have hopen := openLabel?_of_beginLabel? h.isLabel.beginLabel?_beginLine
  have hread : readHeaders [] (block.innerLines ++ [endLine block.labelBytes]) =
      .ok (block.headers, bodyLines block.der ++ [endLine block.labelBytes]) := by
    rw [Block.innerLines, List.append_assoc]
    cases hbody : bodyLines block.der with
    | nil =>
        exact h.headers.read (endLine_ne_nil _) h.isLabel.colon_not_mem_endLine []
    | cons line rest =>
        have hline : IsBodyLine line := isBodyLine_of_mem (hbody ▸ List.mem_cons_self)
        exact h.headers.read hline.ne_nil hline.colon_not_mem _
  rw [Block.armorLines, List.cons_append, unarmor_eq_ok_iff hopen]
  refine ⟨_, bodyLines block.der, hread, ?_, ?_, ?_⟩
  · apply bodyLines?_append _ h.isLabel.closesBody_endLine
    intro line hline
    exact (isBodyLine_of_mem hline).closesBody
  · rw [flatten_bodyLines, Base64.decode_encode]
  · rw [Block.labelBytes, ofAscii_asciiBytes h.label_ascii, String.ofList_toList]

end PemBundle.Pem
