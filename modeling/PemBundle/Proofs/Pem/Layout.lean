import PemBundle.Proofs.Pem.ScannedRegions

/-!
# Other layouts of a block

Armor need not look as it is written here. The digits of a block may be cut into lines anywhere,
with white space in front of them, among them and behind them, blank lines may stand between the
lines of the body, and white space may follow the END line: a scan gives the same block.
-/

namespace PemBundle.Pem

open Text

/-- The lines write the bytes: without white space they are the digits, however these are cut. -/
structure IsLayout (body : List Line) (der : List UInt8) : Prop where
  digits : body.flatten.filter (!isBlankByte ·) = Base64.encode der

instance (body : List Line) (der : List UInt8) : Decidable (IsLayout body der) :=
  decidable_of_iff (body.flatten.filter (!isBlankByte ·) = Base64.encode der)
    ⟨fun h => ⟨h⟩, fun h => h.digits⟩

/-- The lines of a block with this body, and with `after` behind its END line. -/
def Block.laidOutLines (block : Block) (body : List Line) (after : List UInt8) : List Line :=
  beginLine block.labelBytes :: (block.headers.map headerLine ++ body) ++
    [endLine block.labelBytes ++ after]

/-- A line without dashes does not close the body. -/
theorem closesBody_of_no_dash {line : Line} (h : 0x2d ∉ line) : closesBody line = false := by
  cases line with
  | nil => rfl
  | cons b rest =>
      have hb : 0x2d ≠ b := fun heq => h (heq ▸ List.mem_cons_self)
      simp [closesBody, isDashed, dashes, spacedDashes, List.isPrefixOf, hb]

/-! ### Laid out bodies -/

namespace IsLayout

variable {body : List Line} {der : List UInt8} (h : IsLayout body der)
include h

/-- A byte of a laid out body is white space, or a digit or padding sign. -/
theorem blank_or_sign {line : Line} (hline : line ∈ body) {b : UInt8} (hb : b ∈ line) :
    isBlankByte b = true ∨ Base64.isSign b = true := by
  rw [or_iff_not_imp_left]
  intro hblank
  apply Base64.isSign_of_mem_encode
  rw [← h.digits, List.mem_filter]
  exact ⟨List.mem_flatten.mpr ⟨line, hline, hb⟩, by simpa using hblank⟩

theorem colon_not_mem {line : Line} (hline : line ∈ body) : colon ∉ line := by
  intro hmem
  exact absurd (h.blank_or_sign hline hmem) (by decide)

theorem closesBody {line : Line} (hline : line ∈ body) : closesBody line = false := by
  apply closesBody_of_no_dash
  intro hmem
  exact absurd (h.blank_or_sign hline hmem) (by decide)

/-- White space among the digits is passed over. -/
theorem decode : Base64.decode body.flatten = .ok der := by
  have hsigns := signs_without_blanks body.flatten
  rw [h.digits] at hsigns
  rw [← Base64.decode_eq_of_signs hsigns, Base64.decode_encode]

end IsLayout

/-! ### Laid out blocks -/

namespace Block

variable {block : Block} {body : List Line} {after : List UInt8}

section WellFormed

variable (h : block.WellFormed) (hbody : IsLayout body block.der)
include h hbody

/-- Neither the header lines nor the body start with five dashes. -/
theorem WellFormed.isDashed_of_laidOut {line : Line}
    (hline : line ∈ block.headers.map headerLine ++ body) : isDashed line = false := by
  rcases List.mem_append.mp hline with hhead | hline
  · obtain ⟨header, hmem, rfl⟩ := List.mem_map.mp hhead
    exact (h.headers.each header hmem).isDashed
  · exact isDashed_of_closesBody (hbody.closesBody hline)

theorem WellFormed.isRegion_laidOutLines (hafter : ∀ b ∈ after, isBlankByte b = true) :
    IsRegion ⟨block.labelBytes, block.laidOutLines body after⟩ := by
  apply IsRegion.mk h.isLabel.beginLabel?_beginLine _ (h.isLabel.endLabel?_endLine_append hafter)
  intro line hline
  exact h.isDashed_of_laidOut hbody hline

/-- The reader of one block gives a well-formed block back from every layout. -/
theorem WellFormed.unarmor_laidOutLines (hafter : ∀ b ∈ after, isBlankByte b = true) :
    unarmor (block.laidOutLines body after) = .ok block := by
  have hhead : ∀ line ∈ block.headers.map headerLine, isHeadLine line = true := by
    intro line hline
    obtain ⟨header, -, rfl⟩ := List.mem_map.mp hline
    simp [isHeadLine, colon_mem_headerLine]
  have hread : readHeaders [] (block.headers.map headerLine) = .ok (block.headers, []) := by
    have hheaders : AreHeaders ([] ++ block.headers) := h.headers
    have hlines := readHeaders_headerLines hheaders []
    rwa [List.append_nil] at hlines
  have hlabel : ofAscii block.labelBytes = block.label := by
    rw [labelBytes, ofAscii_asciiBytes h.label_ascii, String.ofList_toList]
  have hunarmor := (h.isRegion_laidOutLines hbody hafter).unarmor_of_parts hhead
    (fun _ hline => hbody.colon_not_mem hline) (fun _ hline => hbody.closesBody hline)
  rw [hread, hbody.decode, hlabel] at hunarmor
  exact hunarmor

/-- A layout of a well-formed block, after lines that open no region, gives the block; the scan goes
on after it. -/
theorem WellFormed.scanLines_laidOutLines (hafter : ∀ b ∈ after, isBlankByte b = true)
    {junk : List Line} (hjunk : ∀ line ∈ junk, beginLabel? line = none) (rest : List Line) :
    scanLines (junk ++ block.laidOutLines body after ++ rest) =
      ⟨block :: (scanLines rest).blocks, (scanLines rest).stop⟩ := by
  apply scanLines_of_block
  rw [pull_eq_block_iff]
  refine ⟨⟨block.labelBytes, block.laidOutLines body after⟩, ?_,
    h.unarmor_laidOutLines hbody hafter⟩
  rw [nextRegion_eq_region_iff]
  exact ⟨h.isRegion_laidOutLines hbody hafter, junk, hjunk, rfl⟩

end WellFormed

/-- Lines of a layout hold no line ends if the lines of the body and the white space hold none. -/
theorem WellFormed.isPlain_of_mem_laidOutLines (h : block.WellFormed)
    (hplain : ∀ line ∈ body, IsPlain line) (hafter : IsPlain after) :
    ∀ line ∈ block.laidOutLines body after, IsPlain line := by
  intro line hline
  rw [laidOutLines, List.cons_append, List.mem_cons, List.mem_append, List.mem_append,
    List.mem_singleton] at hline
  rcases hline with rfl | (hhead | hline) | rfl
  · exact h.isLabel.isPlain_beginLine
  · obtain ⟨header, hmem, rfl⟩ := List.mem_map.mp hhead
    exact (h.headers.each header hmem).isPlain
  · exact hplain line hline
  · exact h.isLabel.isPlain_endLine.append hafter

end Block

/-- A scan of a well-formed block gives exactly this block, however its digits are cut into lines
and whatever white space stands among them and behind the END line. It does not matter how the lines
are ended, and with line feeds every layout can be written. -/
theorem scan_of_layout {block : Block} (h : block.WellFormed) {body : List Line}
    (hbody : IsLayout body block.der) {after : List UInt8}
    (hafter : ∀ b ∈ after, isBlankByte b = true) :
    (∀ data, lines data = block.laidOutLines body after → scan data = ⟨[block], none⟩) ∧
      ((∀ line ∈ body, IsPlain line) → IsPlain after →
        scan (unlines (block.laidOutLines body after)) = ⟨[block], none⟩) := by
  have hscan : scanLines (block.laidOutLines body after) = ⟨[block], none⟩ := by
    have hlines := h.scanLines_laidOutLines hbody hafter (List.forall_mem_nil _) []
    rw [scanLines_unopened (List.forall_mem_nil _)] at hlines
    simpa using hlines
  constructor
  · intro data hdata
    rw [scan, hdata, hscan]
  · intro hplain hplainAfter
    have hlines := lines_unlines_append
      (h.isPlain_of_mem_laidOutLines hplain hplainAfter) []
    rw [List.append_nil, lines_nil, List.append_nil] at hlines
    rw [scan, hlines, hscan]

/-- A block with headers, the second of which has no value. -/
def spacedBlock : Block := ⟨"A", [0, 0x07, 0x1d, 0xff], [("Proc-Type", "4,ENCRYPTED"), ("b", "")]⟩

/-- Its digits, with blanks and tabs around and among them and blank lines between them. -/
def spacedBody : List Line :=
  [[], utf8 " \t", utf8 "\tA A", [], utf8 "c d/", utf8 "w= \t=", utf8 " "]

/-- The text of the block with mixed line ends, and white space behind its END line. -/
def spacedText : List UInt8 := utf8 <|
  "-----BEGIN A-----\r\nProc-Type: 4,ENCRYPTED\nb: \r\n\r\n \t\r\tA A\n\nc d/\r\nw= \t=\r\n \r" ++
    "-----END A----- \t\r\n"

theorem scan_of_layout_spaced :
    spacedBlock.WellFormed ∧ IsLayout spacedBody spacedBlock.der ∧
      lines spacedText = spacedBlock.laidOutLines spacedBody (utf8 " \t") ∧
        scan spacedText = ⟨[spacedBlock], none⟩ ∧
          scan (unlines (spacedBlock.laidOutLines spacedBody (utf8 " \t"))) =
            ⟨[spacedBlock], none⟩ := by
  have hblock : spacedBlock.WellFormed := by decide +kernel
  have hbody : IsLayout spacedBody spacedBlock.der := by decide +kernel
  have hafter : ∀ b ∈ utf8 " \t", isBlankByte b = true := by decide +kernel
  have hlines : lines spacedText = spacedBlock.laidOutLines spacedBody (utf8 " \t") := by
    decide +kernel
  have hplain : ∀ line ∈ spacedBody, IsPlain line := by
    unfold IsPlain
    decide +kernel
  have hplainAfter : IsPlain (utf8 " \t") := by
    unfold IsPlain
    decide +kernel
  obtain ⟨hscan, hwritten⟩ := scan_of_layout hblock hbody hafter
  exact ⟨hblock, hbody, hlines, hscan spacedText hlines, hwritten hplain hplainAfter⟩

end PemBundle.Pem
