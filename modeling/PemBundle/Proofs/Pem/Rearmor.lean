import PemBundle.Proofs.Pem.BundleText

/-!
# Writing scanned blocks again

Whatever a scan gives, however odd the text it came from, is a well-formed block. So its armor can
be written and is scanned to the block alone, and writing all scanned blocks one after the other
gives a text of the same blocks in which nothing else is left.
-/

namespace PemBundle.Pem

open Text

theorem isLabelChar_of_mem {label : Label} (h : IsLabel label) {c : Char}
    (hc : c ∈ (ofAscii label).toList) : isLabelChar c = true := by
  have hlt : ∀ b ∈ label, b < 0x80 := by
    intro b hb
    rw [UInt8.lt_iff_toNat_lt]
    exact Nat.lt_trans (isLabelByte_bounds (h.2 b hb)).2.1 (by decide)
  obtain ⟨hascii, hmem⟩ := mem_ofAscii hlt hc
  have hchar := isLabelChar_ofNat c.toNat ((isAscii_iff c).mp hascii)
  rw [Char.ofNat_toNat] at hchar
  rw [hchar]
  exact h.2 _ hmem

/-- Blocks that are read from regions are well-formed. -/
theorem wellFormed_of_unarmor {region : Region} (hregion : IsRegion region)
    (hplain : ∀ line ∈ region.lines, IsPlain line) {block : Block}
    (h : unarmor region.lines = .ok block) : block.WellFormed := by
  cases hregion with
  | @mk label first last inner begins undashed ends =>
      rw [List.cons_append, unarmor_eq_ok_iff (openLabel?_of_beginLabel? begins)] at h
      obtain ⟨rest, body, hread, -, -, hlabel⟩ := h
      have hislabel := ((beginLabel?_eq_some_iff first label).mp begins).1
      have hlines : ∀ line ∈ inner ++ [last], colon ∈ line →
          IsPlain line ∧ isDashed line = false := by
        intro line hmem hcolon
        refine ⟨hplain line (List.mem_cons_of_mem _ hmem), ?_⟩
        rcases List.mem_append.mp hmem with hinner | hlast
        · exact undashed line hinner
        · obtain rfl := List.mem_singleton.mp hlast
          exact absurd hcolon (colon_not_mem_of_endLabel? ends)
      refine ⟨?_, ?_, areHeaders_of_readHeaders hlines areHeaders_nil hread⟩
      · rw [hlabel, toList_ofAscii, Ne, List.map_eq_nil_iff]
        exact hislabel.1
      · intro c hc
        exact isLabelChar_of_mem hislabel (hlabel ▸ hc)

/-- Scanned blocks are well-formed. -/
theorem wellFormed_of_mem_scan {data : List UInt8} {block : Block}
    (h : block ∈ (scan data).blocks) : block.WellFormed := by
  obtain ⟨region, hregion, hlines, hread⟩ := exists_region_of_mem_scanLines h
  apply wellFormed_of_unarmor hregion _ hread
  intro line hline
  exact isPlain_of_mem_lines (hlines line hline)

/-- The armor of a well-formed block alone is scanned to the block. -/
theorem Block.WellFormed.scan_toPem {block : Block} (h : block.WellFormed) :
    scan (utf8 block.toPem) = ⟨[block], none⟩ := by
  have hscan := scanLines_armor (List.forall_mem_nil (beginLabel? · = none)) h []
  have hlines := h.lines_armor []
  rw [List.append_nil, lines_nil] at hlines
  rw [scan, hlines, ← List.nil_append block.armorLines, hscan, scanLines_unopened (by simp)]

/-- Armor, one after the other, is a bundle without anything between. -/
theorem utf8_join_toPem (blocks : List Block) :
    utf8 (String.join (blocks.map Block.toPem)) =
      bundleBytes (blocks.map fun block => ([], block)) [] := by
  rw [utf8_join]
  induction blocks with
  | nil => rfl
  | cons block blocks ih =>
      rw [List.map_cons, List.map_cons, List.flatMap_cons, ih, bundleBytes_cons, List.nil_append]

/-- Armor of well-formed blocks, one after the other, is scanned to the blocks. -/
theorem scan_join_toPem {blocks : List Block} (h : ∀ block ∈ blocks, block.WellFormed) :
    scan (utf8 (String.join (blocks.map Block.toPem))) = ⟨blocks, none⟩ := by
  have hpieces : ∀ piece ∈ blocks.map fun block => (([] : List UInt8), block),
      piece.2.WellFormed ∧ IsSeparator piece.1 := by
    intro piece hmem
    obtain ⟨block, hblock, rfl⟩ := List.mem_map.mp hmem
    exact ⟨h block hblock, isSeparator_nil⟩
  calc
    scan (utf8 (String.join (blocks.map Block.toPem)))
        = scan (bundleBytes (blocks.map fun block => ([], block)) []) := by rw [utf8_join_toPem]
    _ = ⟨(blocks.map fun block => (([] : List UInt8), block)).map Prod.snd, none⟩ :=
        scan_bundleBytes (fun piece hmem => (hpieces piece hmem).1)
          (fun piece hmem => (hpieces piece hmem).2) isSeparator_nil.opensNone
    _ = ⟨blocks, none⟩ := by
        rw [List.map_map]
        exact congrArg (Scan.mk · none) (List.map_id blocks)

/-- Writing undoes reading: each scanned block can be written and is scanned again from its own
armor, and the armor of all of them together is scanned to the same blocks. -/
theorem scan_rearmored (data : List UInt8) :
    (∀ block ∈ (scan data).blocks,
      block.armor = .ok block.toPem ∧ (scan (utf8 block.toPem)).blocks = [block]) ∧
    scan (utf8 (String.join ((scan data).blocks.map Block.toPem))) =
      ⟨(scan data).blocks, none⟩ := by
  constructor
  · intro block hmem
    have hblock := wellFormed_of_mem_scan hmem
    exact ⟨hblock.armor_eq, by rw [hblock.scan_toPem]⟩
  · apply scan_join_toPem
    intro block hmem
    exact wellFormed_of_mem_scan hmem

/-- Three kinds of line ends, text behind the opening dashes, blanks around header names, a repeated
and an empty name, a blank among the digits, and a line that ends the body early. -/
def looseText : List UInt8 :=
  utf8 "x\r-----BEGIN A B-----x\r\n a :b:  c \x0b\r\n a :d\r\n:\r\nA A==\r\n---- Q\r-----END A B----- \t\n"

/-- The block in the loose text. -/
def looseBlock : Block := ⟨"A B", [0], [(" a ", "d"), ("", "")]⟩

theorem scan_rearmored_loose :
    looseBlock ∈ (scan looseText).blocks ∧ looseBlock.armor = .ok looseBlock.toPem ∧
      (scan (utf8 looseBlock.toPem)).blocks = [looseBlock] := by
  have hpull : (pullLines 1 (lines looseText)).blocks = [looseBlock] := by decide +kernel
  rw [pullLines_eq] at hpull
  have hmem : looseBlock ∈ (scan looseText).blocks :=
    List.mem_of_mem_take (hpull ▸ List.mem_singleton_self looseBlock)
  exact ⟨hmem, (scan_rearmored looseText).1 looseBlock hmem⟩

end PemBundle.Pem
