import PemBundle.Proofs.Bundle
import PemBundle.Proofs.Pem.BundleText

/-!
# Damaged END lines

A block of a bundle whose END line is lost, or carries another label, is not given, and no block
behind it is. The region stays open until the next line that starts with five dashes, which is the
END line of the wrong label or the opening line of the next block, and neither closes it. What is
parsed is what the blocks in front of it make up.
-/

namespace PemBundle

namespace Pem

open Text

/-! ### Regions that stay open -/

/-- The first of the lines that starts with five dashes closes no region of the label. -/
def LeavesOpen (label : Label) (ls : List Line) : Prop :=
  ∀ last ∈ ls.find? isDashed, endLabel? last ≠ some label

/-- Lines in front that do not start with five dashes make no difference. -/
theorem leavesOpen_append_of_undashed {inner : List Line}
    (h : ∀ line ∈ inner, isDashed line = false) (label : Label) (ls : List Line) :
    LeavesOpen label (inner ++ ls) ↔ LeavesOpen label ls := by
  have hinner : inner.find? isDashed = none := by simpa using h
  rw [LeavesOpen, LeavesOpen, List.find?_append, hinner, Option.none_or]

theorem leavesOpen_of_undashed {ls : List Line} (h : ∀ line ∈ ls, isDashed line = false)
    (label : Label) : LeavesOpen label ls := by
  have hls := leavesOpen_append_of_undashed h label []
  rw [List.append_nil] at hls
  exact hls.mpr nofun

theorem leavesOpen_cons_of_dashed {last : Line} (hlast : isDashed last = true) {label : Label}
    (hend : endLabel? last ≠ some label) (ls : List Line) : LeavesOpen label (last :: ls) := by
  rw [LeavesOpen, List.find?_cons_of_pos hlast]
  rintro _ ⟨⟩
  exact hend

/-- A region that stays open hides every block from its opening line on. -/
theorem blocks_of_leavesOpen {first : Line} {label : Label}
    (hfirst : beginLabel? first = some label) {ls : List Line} (h : LeavesOpen label ls) :
    (scanLines (first :: ls)).blocks = [] := by
  have hnext := nextRegion_cons_of_begins hfirst ls
  have hstopped : ∃ stop, pull (first :: ls) = .stopped stop := by
    rw [pull, hnext]
    rcases undashed_or_exists_dashed ls with hls | ⟨inner, last, after, rfl, hinner, hlast⟩
    · rw [closeRegion_of_undashed hls]
      exact ⟨_, rfl⟩
    · have hend : endLabel? last ≠ some label := by
        rw [leavesOpen_append_of_undashed hinner] at h
        exact h last (List.find?_cons_of_pos hlast)
      rw [closeRegion_of_dashed hinner hlast, if_neg hend]
      exact ⟨_, rfl⟩
  obtain ⟨stop, hpull⟩ := hstopped
  rw [scanLines_of_stopped hpull]

/-! ### Blocks with another ending -/

/-- A label that boundary lines can carry, as text. -/
def IsLabelText (label : String) : Prop :=
  label.toList ≠ [] ∧ ∀ c ∈ label.toList, isLabelChar c = true

instance (label : String) : Decidable (IsLabelText label) :=
  decidable_of_iff (label.toList ≠ [] ∧ label.toList.all isLabelChar = true) <| by
    rw [List.all_eq_true, IsLabelText]

/-- A label can be carried if a block without headers can have it. -/
theorem IsLabelText.wellFormed {label : String} (h : IsLabelText label) :
    Block.WellFormed ⟨label, [], []⟩ := ⟨h.1, h.2, areHeaders_nil⟩

/-- The text of a block with the END line of the given label in the place of its own, or without an
END line. -/
def Block.withEnding (block : Block) (ending : Option String) : String :=
  String.ofList (block.openChars ++ ending.elim [] fun label => boundaryChars "END" label.toList)

/-- The END line of a label, or no line. -/
def endingLines (ending : Option String) : List Line :=
  ending.toList.map fun label => endLine (asciiBytes label.toList)

/-- A block has its own ending in its armor. -/
theorem Block.WellFormed.withEnding_label {block : Block} (h : block.WellFormed) :
    block.withEnding (some block.label) = block.toPem := by
  rw [Block.withEnding, Block.toPem, Block.armorChars_eq, h.upperLabel, Option.elim_some]

section Ending

variable {ending : Option String} (hending : ∀ label ∈ ending, IsLabelText label)
include hending

theorem isPlain_of_mem_endingLines : ∀ line ∈ endingLines ending, IsPlain line := by
  intro line hline
  obtain ⟨label, hlabel, rfl⟩ := List.mem_map.mp hline
  exact (hending label (Option.mem_toList.mp hlabel)).wellFormed.isLabel.isPlain_endLine

theorem Block.WellFormed.utf8_withEnding {block : Block} (h : block.WellFormed) :
    utf8 (block.withEnding ending) = unlines (block.openLines ++ endingLines ending) := by
  have hopen : ∀ c ∈ block.openChars, isAscii c = true := by
    intro c hc
    apply h.armor_ascii
    rw [armorChars_eq]
    exact List.mem_append_left _ hc
  cases ending with
  | none =>
      rw [withEnding, Option.elim_none, List.append_nil, utf8_ofList hopen, h.asciiBytes_openChars,
        endingLines, Option.toList_none, List.map_nil, List.append_nil]
  | some label =>
      have hlabel := (hending label rfl).wellFormed.label_ascii
      have hend : ∀ c ∈ boundaryChars "END" label.toList, isAscii c = true :=
        ascii_boundaryChars (List.all_eq_true.mp (by decide)) hlabel
      rw [withEnding, Option.elim_some, utf8_ofList (List.forall_mem_append.mpr ⟨hopen, hend⟩),
        asciiBytes_append, h.asciiBytes_openChars, asciiBytes_endChars, unlines_append]
      simp [endingLines]

/-- The text of a block with its ending is read back as its lines, whatever follows. -/
theorem Block.WellFormed.lines_withEnding {block : Block} (h : block.WellFormed)
    (rest : List UInt8) : lines (utf8 (block.withEnding ending) ++ rest) =
      block.openLines ++ (endingLines ending ++ lines rest) := by
  have hplain : ∀ line ∈ block.openLines ++ endingLines ending, IsPlain line := by
    intro line hline
    rcases List.mem_append.mp hline with hline | hline
    · exact h.isPlain_of_mem_openLines line hline
    · exact isPlain_of_mem_endingLines hending line hline
  rw [h.utf8_withEnding hending, lines_unlines_append hplain, List.append_assoc]

end Ending

/-! ### Bundles with a damaged END line -/

/-- None of the lines of the bytes starts with five dashes. -/
def Undashed (bytes : List UInt8) : Prop := ∀ line ∈ lines bytes, isDashed line = false

/-- Bytes that can stand in front of a block and hold no boundary line. -/
structure IsGap (bytes : List UInt8) : Prop where
  terminated : IsTerminated bytes
  undashed : Undashed bytes

instance (bytes : List UInt8) : Decidable (IsGap bytes) :=
  decidable_of_iff
    ((bytes = [] ∨ bytes.getLast? = some lineFeed ∨ bytes.getLast? = some carriageReturn) ∧
      ∀ line ∈ lines bytes, isDashed line = false)
    ⟨fun ⟨h₁, h₂⟩ => ⟨h₁, h₂⟩, fun ⟨h₁, h₂⟩ => ⟨h₁, h₂⟩⟩

theorem IsGap.isSeparator {bytes : List UInt8} (h : IsGap bytes) : IsSeparator bytes :=
  ⟨h.terminated, fun line hline => beginLabel?_of_undashed (h.undashed line hline)⟩

/-- A bundle in which one block, with text in front of it, has another ending. -/
def damagedBytes (before : List (List UInt8 × Block)) (separator : List UInt8) (block : Block)
    (ending : Option String) (after : List (List UInt8 × Block)) (tail : List UInt8) :
    List UInt8 :=
  bundleBytes before (separator ++ (utf8 (block.withEnding ending) ++ bundleBytes after tail))

/-- No region is closed by a bundle of blocks with gaps. -/
theorem leavesOpen_bundleBytes {pieces : List (List UInt8 × Block)}
    (hblocks : ∀ piece ∈ pieces, piece.2.WellFormed) (hgaps : ∀ piece ∈ pieces, IsGap piece.1)
    {tail : List UInt8} (htail : Undashed tail) (label : Label) :
    LeavesOpen label (lines (bundleBytes pieces tail)) := by
  cases pieces with
  | nil => exact leavesOpen_of_undashed htail label
  | cons piece pieces =>
      obtain ⟨separator, block⟩ := piece
      have hblock : block.WellFormed := hblocks (separator, block) List.mem_cons_self
      have hgap : IsGap separator := hgaps (separator, block) List.mem_cons_self
      rw [bundleBytes_cons, hgap.isSeparator.lines_append hblock, List.append_assoc,
        leavesOpen_append_of_undashed hgap.undashed]
      -- The opening line of the next block is the first line with five dashes.
      apply leavesOpen_cons_of_dashed
      · exact isDashed_of_beginLabel? hblock.isLabel.beginLabel?_beginLine
      · rw [endLabel?_of_prefix_beginLine (List.prefix_refl _)]
        simp

/-- END lines of other labels do not close a region, nor does what follows without an END line. -/
theorem leavesOpen_damaged {block : Block} (hblock : block.WellFormed) {ending : Option String}
    (hending : ∀ label ∈ ending, IsLabelText label ∧ label ≠ block.label) {ls : List Line}
    (hls : LeavesOpen block.labelBytes ls) :
    LeavesOpen block.labelBytes (block.innerLines ++ (endingLines ending ++ ls)) := by
  rw [leavesOpen_append_of_undashed fun line hline => (hblock.innerLine hline).1]
  cases ending with
  | none => exact hls
  | some label =>
      -- The END line of the other label comes first; labels differ where their bytes do.
      obtain ⟨hlabel, hne⟩ := hending label rfl
      have hend := hlabel.wellFormed.isLabel.endLabel?_endLine
      apply leavesOpen_cons_of_dashed (isDashed_of_endLabel? hend)
      intro hsame
      have hbytes := congrArg ofAscii (Option.some.inj (hend.symm.trans hsame))
      apply hne
      simpa [Block.labelBytes, ofAscii_asciiBytes hlabel.wellFormed.label_ascii,
        ofAscii_asciiBytes hblock.label_ascii] using hbytes

/-- A block with a damaged END line is not given, and no block behind it. -/
theorem blocks_scan_withEnding {separator : List UInt8} (hgap : IsGap separator) {block : Block}
    (hblock : block.WellFormed) {ending : Option String}
    (hending : ∀ label ∈ ending, IsLabelText label ∧ label ≠ block.label) {rest : List UInt8}
    (hrest : LeavesOpen block.labelBytes (lines rest)) :
    (scan (separator ++ (utf8 (block.withEnding ending) ++ rest))).blocks = [] := by
  have hlines := hblock.lines_withEnding (fun label h => (hending label h).1) rest
  have hhead : (utf8 (block.withEnding ending) ++ rest).head? ≠ some lineFeed := by
    rw [hblock.utf8_withEnding fun label h => (hending label h).1]
    simp [Block.openLines, beginLine, dashes, lineFeed]
  rw [scan, lines_append hgap.terminated hhead, hlines,
    scanLines_append_of_unopened hgap.isSeparator.opensNone, Block.openLines, List.cons_append]
  exact blocks_of_leavesOpen hblock.isLabel.beginLabel?_beginLine
    (leavesOpen_damaged hblock hending hrest)

/-- A bundle in which the block has its own ending is not damaged. -/
theorem damagedBytes_label {block : Block} (hblock : block.WellFormed) (separator tail : List UInt8)
    (before after : List (List UInt8 × Block)) :
    damagedBytes before separator block (some block.label) after tail =
      bundleBytes (before ++ (separator, block) :: after) tail := by
  rw [damagedBytes, hblock.withEnding_label, ← bundleBytes_cons, bundleBytes_append]

/-- The scan of a damaged bundle gives the blocks in front of the damaged one. -/
theorem blocks_scan_damaged {before after : List (List UInt8 × Block)} {separator : List UInt8}
    {block : Block}
    (hblocks : ∀ piece ∈ before ++ (separator, block) :: after, piece.2.WellFormed)
    (hgaps : ∀ piece ∈ before ++ (separator, block) :: after, IsGap piece.1)
    {tail : List UInt8} (htail : Undashed tail) {ending : Option String}
    (hending : ∀ label ∈ ending, IsLabelText label ∧ label ≠ block.label) :
    (scan (damagedBytes before separator block ending after tail)).blocks =
      before.map Prod.snd := by
  obtain ⟨hbefore, hrest⟩ := List.forall_mem_append.mp hblocks
  obtain ⟨(hblock : block.WellFormed), hafter⟩ := List.forall_mem_cons.mp hrest
  obtain ⟨hgapsBefore, hgapsRest⟩ := List.forall_mem_append.mp hgaps
  obtain ⟨(hgap : IsGap separator), hgapsAfter⟩ := List.forall_mem_cons.mp hgapsRest
  have hopen : LeavesOpen block.labelBytes (lines (bundleBytes after tail)) :=
    leavesOpen_bundleBytes hafter hgapsAfter htail block.labelBytes
  rw [damagedBytes,
    scan_bundleBytes_tail hbefore fun piece hpiece => (hgapsBefore piece hpiece).isSeparator,
    blocks_scan_withEnding hgap hblock hending hopen, List.append_nil]

end Pem

namespace Bundle

open Pem

/-- A block whose END line is lost, or carries another label, hides itself and all that follows: the
scan gives the blocks in front of it, and what is parsed is what they make up alone. -/
theorem parse_damaged_end {before after : List (List UInt8 × Block)} {separator : List UInt8}
    {block : Block}
    (hblocks : ∀ piece ∈ before ++ (separator, block) :: after, piece.2.WellFormed)
    (hgaps : ∀ piece ∈ before ++ (separator, block) :: after, IsGap piece.1)
    {tail : List UInt8} (htail : Undashed tail) {ending : Option String}
    (hending : ∀ label ∈ ending, IsLabelText label ∧ label ≠ block.label) :
    damagedBytes before separator block (some block.label) after tail =
        bundleBytes (before ++ (separator, block) :: after) tail ∧
      (scan (damagedBytes before separator block ending after tail)).blocks =
        before.map Prod.snd ∧
      ∀ order, (parse order (damagedBytes before separator block ending after tail)).value =
        (parse order (bundleBytes before [])).value := by
  have hdamaged := blocks_scan_damaged hblocks hgaps htail hending
  have hbefore : (scan (bundleBytes before [])).blocks = before.map Prod.snd := by
    rw [scan_bundleBytes _ _ isSeparator_nil.opensNone]
    · exact fun piece hpiece => hblocks piece (List.mem_append_left _ hpiece)
    · exact fun piece hpiece => (hgaps piece (List.mem_append_left _ hpiece)).isSeparator
  refine ⟨?_, hdamaged, ?_⟩
  · have hblock : block.WellFormed :=
      hblocks (separator, block) (List.mem_append_right before List.mem_cons_self)
    exact damagedBytes_label hblock separator tail before after
  · intro order
    exact value_parse_of_blocks_eq order (hdamaged.trans hbefore.symm)

/-- A certificate with text in front of it. -/
def keptPieces : List (List UInt8 × Block) := [
  (Text.utf8 "x\r", ⟨certificateLabel, Credentials.smallDer, []⟩)]

/-- The block that is damaged: its label is that of the block behind it. -/
def openBlock : Block := ⟨"A", [1], [("a", "-----")]⟩

/-- The END line that would close the damaged block, and another certificate. -/
def hiddenPieces : List (List UInt8 × Block) := [
  (Text.utf8 "----\n", ⟨"A", [], []⟩), ([], ⟨certificateLabel, Credentials.smallDer, []⟩)]

theorem parse_damaged_end_kept :
    (∀ piece ∈ keptPieces ++ (Text.utf8 "\n", openBlock) :: hiddenPieces, piece.2.WellFormed) ∧
      (∀ piece ∈ keptPieces ++ (Text.utf8 "\n", openBlock) :: hiddenPieces, IsGap piece.1) ∧
      Undashed (Text.utf8 "y") ∧ (∀ label ∈ some "A 1", IsLabelText label ∧ label ≠ "A") ∧
      (scan (damagedBytes keptPieces (Text.utf8 "\n") openBlock none hiddenPieces
        (Text.utf8 "y"))).blocks = [⟨certificateLabel, Credentials.smallDer, []⟩] ∧
      ∀ order, (parse order (damagedBytes keptPieces (Text.utf8 "\n") openBlock (some "A 1")
        hiddenPieces (Text.utf8 "y"))).value = (parse order (bundleBytes keptPieces [])).value := by
  have hblocks : ∀ piece ∈ keptPieces ++ (Text.utf8 "\n", openBlock) :: hiddenPieces,
      piece.2.WellFormed := by decide +kernel
  have hgaps : ∀ piece ∈ keptPieces ++ (Text.utf8 "\n", openBlock) :: hiddenPieces,
      IsGap piece.1 := by decide +kernel
  have htail : Undashed (Text.utf8 "y") := by
    unfold Undashed
    decide +kernel
  have hother : ∀ label ∈ some "A 1", IsLabelText label ∧ label ≠ openBlock.label := by
    intro label hlabel
    rw [Option.mem_some_iff] at hlabel
    subst hlabel
    decide +kernel
  have hlost : ∀ label ∈ (none : Option String),
      IsLabelText label ∧ label ≠ openBlock.label := nofun
  refine ⟨hblocks, hgaps, htail, hother, ?_, ?_⟩
  · exact (parse_damaged_end hblocks hgaps htail hlost).2.1
  · exact (parse_damaged_end hblocks hgaps htail hother).2.2

end Bundle

end PemBundle
