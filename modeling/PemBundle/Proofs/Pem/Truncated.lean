import PemBundle.Proofs.Pem.BundleText

/-!
# Texts that break off

The first bytes of a text are cut into prefixes of its first lines. Where a bundle breaks off, the
scan gives the blocks whose END lines are whole up to their closing dashes. Of a block that is cut
anywhere before, no line is left that could close it.
-/

namespace PemBundle.Pem

open Text

/-! ### Lines of first bytes -/

/-- The lines are, one by one, prefixes of the first of the others. -/
inductive ArePrefixes : List Line → List Line → Prop
  | nil (others : List Line) : ArePrefixes [] others
  | cons {line whole : Line} {ls others : List Line} (first : line <+: whole)
      (rest : ArePrefixes ls others) : ArePrefixes (line :: ls) (whole :: others)

theorem ArePrefixes.exists_of_mem {ls others : List Line} (h : ArePrefixes ls others)
    {line : Line} (hline : line ∈ ls) : ∃ whole ∈ others, line <+: whole := by
  induction h with
  | nil others => exact absurd hline List.not_mem_nil
  | @cons first whole ls others hfirst _ ih =>
      rcases List.mem_cons.mp hline with rfl | hline
      · exact ⟨whole, List.mem_cons_self, hfirst⟩
      · obtain ⟨other, hother, hprefix⟩ := ih hline
        exact ⟨other, List.mem_cons_of_mem whole hother, hprefix⟩

theorem arePrefixes_lines (first second : List UInt8) :
    ArePrefixes (lines first) (lines (first ++ second)) := by
  induction first using lines.induct with
  | case1 => exact .nil _
  | case2 rest ih =>
      rw [List.cons_append, lines_lineFeed, lines_lineFeed]
      exact .cons (List.prefix_refl []) ih
  | case3 rest _ ih =>
      rw [List.cons_append, List.cons_append, lines_pair, lines_pair]
      exact .cons (List.prefix_refl []) ih
  | case4 c rest hc _ ih =>
      rw [List.cons_append, lines_carriageReturn (by simpa using hc),
        lines_carriageReturn (by simpa using hc)]
      exact .cons (List.prefix_refl []) ih
  | case5 _ =>
      obtain ⟨more, hlines⟩ := exists_lines_carriageReturn second
      rw [lines_carriageReturn (by simp), List.singleton_append, hlines]
      exact .cons (List.prefix_refl []) (.nil more)
  | case6 b rest hlf hcr hnil _ =>
      rw [List.cons_append, lines_cons hlf hcr, lines_cons hlf hcr, hnil]
      exact .cons (List.cons_prefix_cons.mpr ⟨rfl, List.nil_prefix⟩) (.nil _)
  | case7 b rest hlf hcr line more heq ih =>
      rw [List.cons_append, lines_cons hlf hcr, lines_cons hlf hcr, heq]
      rw [heq] at ih
      generalize lines (rest ++ second) = wholes at ih ⊢
      cases ih with
      | cons hline hmore => exact .cons (List.cons_prefix_cons.mpr ⟨rfl, hline⟩) hmore

/-- A line of the first bytes is a prefix of a line. -/
theorem exists_prefix_of_mem_lines {first bytes : List UInt8} (h : first <+: bytes) {line : Line}
    (hline : line ∈ lines first) : ∃ whole ∈ lines bytes, line <+: whole := by
  obtain ⟨second, rfl⟩ := h
  exact (arePrefixes_lines first second).exists_of_mem hline

/-! ### Boundary lines that are cut -/

/-- What opens no region still opens none when it is cut. -/
theorem beginLabel?_of_prefix {line whole : Line} (h : line <+: whole)
    (hwhole : beginLabel? whole = none) : beginLabel? line = none := by
  rw [Option.eq_none_iff_forall_ne_some] at hwhole ⊢
  intro label hline
  obtain ⟨more, rfl⟩ := h
  obtain ⟨hlabel, after, rfl⟩ := (beginLabel?_eq_some_iff line label).mp hline
  apply hwhole label
  rw [beginLabel?_eq_some_iff]
  exact ⟨hlabel, after ++ more, List.append_assoc _ _ _⟩

theorem OpensNone.of_prefix {first bytes : List UInt8} (h : OpensNone bytes)
    (hfirst : first <+: bytes) : OpensNone first := by
  intro line hline
  obtain ⟨whole, hwhole, hprefix⟩ := exists_prefix_of_mem_lines hfirst hline
  exact beginLabel?_of_prefix hprefix (h whole hwhole)

/-- What does not start with five dashes closes no region when it is cut. -/
theorem endLabel?_of_prefix_undashed {line whole : Line} (h : line <+: whole)
    (hwhole : isDashed whole = false) : endLabel? line = none := by
  apply endLabel?_of_undashed
  rw [Bool.eq_false_iff] at hwhole ⊢
  intro hline
  apply hwhole
  rw [isDashed, List.isPrefixOf_iff_prefix] at hline ⊢
  exact hline.trans h

/-- No END line is the beginning of another one. -/
theorem eq_nil_of_endLine_append {label other : Label} (hlabel : IsLabel label)
    (hother : IsLabel other) {after : List UInt8}
    (h : endLine other ++ after = endLine label) : after = [] := by
  have hrest : other ++ (dashes ++ after) = label ++ (dashes ++ []) := by
    simpa [endLine] using h
  have hsplit := congrArg splitLabel hrest
  rw [splitLabel_dashes hother.2, splitLabel_dashes hlabel.2] at hsplit
  exact List.append_cancel_left (Prod.mk.inj hsplit).2

theorem dropLast_endLine (label : Label) :
    (endLine label).dropLast ++ [0x2d] = endLine label := by
  rw [endLine, List.dropLast_append_of_ne_nil (by decide), List.append_assoc]
  rfl

/-- An END line without its last dash, or cut before, closes no region. -/
theorem IsLabel.endLabel?_of_prefix {label : Label} (hlabel : IsLabel label) {line : Line}
    (h : line <+: (endLine label).dropLast) : endLabel? line = none := by
  rw [Option.eq_none_iff_forall_ne_some]
  intro other hline
  obtain ⟨hother, after, rfl, -⟩ := (endLabel?_eq_some_iff line other).mp hline
  obtain ⟨more, hmore⟩ := h
  have hlast := dropLast_endLine label
  rw [← hmore, List.append_assoc, List.append_assoc] at hlast
  have hnil := eq_nil_of_endLine_append hlabel hother hlast
  simp at hnil

/-! ### Blocks that are cut -/

/-- Without a line that closes a region there is no block. -/
theorem blocks_eq_nil_of_no_end {ls : List Line} (h : ∀ line ∈ ls, endLabel? line = none) :
    (scanLines ls).blocks = [] := by
  rw [List.eq_nil_iff_forall_not_mem]
  intro block hblock
  obtain ⟨region, hregion, hlines, -⟩ := exists_region_of_mem_scanLines hblock
  cases hregion with
  | @mk label first last inner begins undashed ends =>
      have hlast := h last (hlines last (by simp))
      rw [ends] at hlast
      exact nomatch hlast

namespace Block

variable {block : Block}

section WellFormed

variable (h : block.WellFormed)
include h

/-- Armor that is cut before the last dash of its END line holds no line that closes a region. -/
theorem WellFormed.endLabel?_of_cut {cut : List UInt8}
    (hcut : cut <+: unlines block.openLines ++ (endLine block.labelBytes).dropLast)
    {line : Line} (hline : line ∈ lines cut) : endLabel? line = none := by
  have hplain : ∀ line ∈ block.openLines ++ [(endLine block.labelBytes).dropLast],
      IsPlain line := by
    have hend := h.isLabel.isPlain_endLine
    rw [← dropLast_endLine] at hend
    intro line hline
    rcases List.mem_append.mp hline with hline | hline
    · exact h.isPlain_of_mem_openLines line hline
    · rw [List.mem_singleton.mp hline]
      exact hend.of_append
  have hwhole : cut <+: unlines (block.openLines ++ [(endLine block.labelBytes).dropLast]) := by
    apply hcut.trans
    exact ⟨[lineFeed], by simp⟩
  obtain ⟨whole, hmem, hprefix⟩ := exists_prefix_of_mem_lines hwhole hline
  have hlines := lines_unlines_append hplain []
  rw [List.append_nil, lines_nil, List.append_nil] at hlines
  rw [hlines, openLines, List.cons_append, List.mem_cons, List.mem_append,
    List.mem_singleton] at hmem
  rcases hmem with rfl | hinner | rfl
  · exact endLabel?_of_prefix_beginLine hprefix
  · exact endLabel?_of_prefix_undashed hprefix (h.innerLine hinner).1
  · exact h.isLabel.endLabel?_of_prefix hprefix

/-- The bytes of the armor end with the last dash of the END line and its line feed. -/
theorem WellFormed.utf8_toPem_eq : utf8 block.toPem =
    unlines block.openLines ++ (endLine block.labelBytes).dropLast ++ [0x2d, lineFeed] := by
  rw [h.utf8_toPem, armorLines_eq, ← dropLast_endLine block.labelBytes]
  simp

theorem WellFormed.one_lt_length_toPem : 1 < (utf8 block.toPem).length := by
  rw [h.utf8_toPem_eq, List.length_append, List.length_cons, List.length_singleton]
  exact Nat.lt_add_left _ Nat.one_lt_two

theorem WellFormed.dropLast_toPem : (utf8 block.toPem).dropLast =
    unlines block.openLines ++ endLine block.labelBytes := by
  rw [h.utf8_toPem_eq, ← dropLast_endLine block.labelBytes]
  simp

/-- The line feed of the END line may be missing at the end. -/
theorem WellFormed.lines_dropLast_toPem :
    lines (utf8 block.toPem).dropLast = block.armorLines := by
  rw [h.dropLast_toPem, lines_unlines_append h.isPlain_of_mem_openLines,
    lines_of_isPlain h.isLabel.isPlain_endLine (endLine_ne_nil _)]
  rfl

theorem WellFormed.head?_toPem : (utf8 block.toPem).head? = some 0x2d := by
  rw [h.utf8_toPem]
  rfl

end WellFormed

end Block

/-! ### Bundles that are cut -/

section Piece

variable {separator : List UInt8} (hseparator : IsSeparator separator)
variable {block : Block} (hblock : block.WellFormed)
include hseparator hblock

/-- The lines of the first bytes of a block, behind a separator. -/
theorem IsSeparator.lines_append_prefix {cut : List UInt8} (hcut : cut <+: utf8 block.toPem) :
    lines (separator ++ cut) = lines separator ++ lines cut := by
  apply Pem.lines_append hseparator.terminated
  cases cut with
  | nil => simp
  | cons b cut =>
      obtain ⟨more, hmore⟩ := hcut
      have hhead := hblock.head?_toPem
      rw [← hmore, List.cons_append, List.head?_cons] at hhead
      rw [List.head?_cons, hhead]
      decide

/-- A block that is cut before the last dash of its END line is not given. -/
theorem blocks_scan_cut {k : Nat} (hk : k + 1 < (utf8 block.toPem).length) :
    (scan (separator ++ (utf8 block.toPem).take k)).blocks = [] := by
  have hopen : (utf8 block.toPem).take k <+:
      unlines block.openLines ++ (endLine block.labelBytes).dropLast := by
    rw [hblock.utf8_toPem_eq, List.length_append] at hk
    rw [hblock.utf8_toPem_eq, List.take_append_of_le_length (Nat.le_of_lt_succ (by simpa using hk))]
    exact List.take_prefix k _
  rw [scan, hseparator.lines_append_prefix hblock (List.take_prefix k _),
    scanLines_append_of_unopened hseparator.opensNone]
  apply blocks_eq_nil_of_no_end
  intro line hline
  exact hblock.endLabel?_of_cut hopen hline

/-- A block is given although the line feed of its END line is missing. -/
theorem blocks_scan_dropLast :
    (scan (separator ++ (utf8 block.toPem).dropLast)).blocks = [block] := by
  have hscan := scanLines_armor hseparator.opensNone hblock []
  rw [List.append_nil, scanLines_unopened (List.forall_mem_nil _)] at hscan
  rw [scan, hseparator.lines_append_prefix hblock (List.dropLast_prefix _),
    hblock.lines_dropLast_toPem, hscan]

end Piece

/-- The blocks of a bundle, each with the number of bytes up to the last dash of its END line, the
line feed of which is the last byte of its armor. -/
def closings : List (List UInt8 × Block) → List (Nat × Block)
  | [] => []
  | (separator, block) :: pieces =>
      let size := separator.length + (utf8 block.toPem).length
      (size - 1, block) :: (closings pieces).map fun later => (size + later.1, later.2)

/-- The blocks of a bundle that are closed within its first `k` bytes. -/
def closedWithin (k : Nat) (pieces : List (List UInt8 × Block)) : List Block :=
  ((closings pieces).filter (·.1 ≤ k)).map Prod.snd

section Closed

variable (separator : List UInt8) (block : Block) (pieces : List (List UInt8 × Block))

/-- No block is closed in front of the last dash of the first END line. -/
theorem closedWithin_of_lt {k : Nat}
    (hk : k + 1 < separator.length + (utf8 block.toPem).length) :
    closedWithin k ((separator, block) :: pieces) = [] := by
  rw [closedWithin, List.map_eq_nil_iff, List.filter_eq_nil_iff, closings]
  intro closing hclosing
  rw [decide_eq_true_eq, Nat.not_le]
  rcases List.mem_cons.mp hclosing with rfl | hclosing
  · exact Nat.lt_sub_of_add_lt hk
  · obtain ⟨later, -, rfl⟩ := List.mem_map.mp hclosing
    exact Nat.lt_of_lt_of_le (Nat.lt_of_succ_lt hk) (Nat.le_add_right _ _)

theorem closedWithin_of_size_eq {k : Nat}
    (hk : k + 1 = separator.length + (utf8 block.toPem).length) :
    closedWithin k ((separator, block) :: pieces) = [block] := by
  have hlater : ((closings pieces).map fun later =>
      (separator.length + (utf8 block.toPem).length + later.1, later.2)).filter (·.1 ≤ k) = [] := by
    rw [List.filter_eq_nil_iff]
    intro closing hclosing
    obtain ⟨later, -, rfl⟩ := List.mem_map.mp hclosing
    rw [decide_eq_true_eq, Nat.not_le, ← hk]
    exact Nat.lt_of_lt_of_le (Nat.lt_succ_self k) (Nat.le_add_right _ _)
  rw [closedWithin, closings, ← hk, List.filter_cons_of_pos (by simp)]
  rw [← hk] at hlater
  rw [List.map_cons, hlater, List.map_nil]

/-- Behind the first block the others are closed where they are closed among themselves. -/
theorem closedWithin_of_size_add (j : Nat) :
    closedWithin (separator.length + (utf8 block.toPem).length + j)
        ((separator, block) :: pieces) = block :: closedWithin j pieces := by
  rw [closedWithin, closings, List.filter_cons_of_pos (by simp; omega), List.map_cons,
    List.filter_map, List.map_map]
  simp [closedWithin, Function.comp_def]

end Closed

/-- What is cut in front of the last item of the second part. -/
theorem take_length_add_pred {α : Type} (first : List α) {second : List α} {n : Nat}
    (h : n + 1 = second.length) (rest : List α) :
    (first ++ (second ++ rest)).take (first.length + n) = first ++ second.dropLast := by
  rw [List.take_length_add_append, List.take_append_of_le_length (h ▸ Nat.le_succ n),
    List.dropLast_eq_take, ← h, Nat.add_sub_cancel]

variable {pieces : List (List UInt8 × Block)}

theorem blocks_scan_take (hblocks : ∀ piece ∈ pieces, piece.2.WellFormed)
    (hseparators : ∀ piece ∈ pieces, IsSeparator piece.1) {tail : List UInt8}
    (htail : OpensNone tail) (k : Nat) :
    (scan ((bundleBytes pieces tail).take k)).blocks = closedWithin k pieces := by
  induction pieces generalizing k with
  | nil =>
      have hopens : OpensNone (tail.take k) := htail.of_prefix (List.take_prefix k tail)
      rw [bundleBytes_nil, scan, scanLines_unopened hopens]
      rfl
  | cons piece pieces ih =>
      obtain ⟨separator, block⟩ := piece
      obtain ⟨(hblock : block.WellFormed), hblocks⟩ := List.forall_mem_cons.mp hblocks
      obtain ⟨(hseparator : IsSeparator separator), hseparators⟩ :=
        List.forall_mem_cons.mp hseparators
      have hlength := hblock.one_lt_length_toPem
      rw [bundleBytes_cons]
      -- The cut is in the separator, in the armor, in front of its line feed, or behind it.
      by_cases hcut : k ≤ separator.length
      · have hopens : OpensNone (separator.take k) :=
          hseparator.opensNone.of_prefix (List.take_prefix k separator)
        rw [List.take_append_of_le_length hcut, scan, scanLines_unopened hopens,
          closedWithin_of_lt separator block pieces (by omega)]
      obtain ⟨i, rfl⟩ := Nat.exists_eq_add_of_le (Nat.le_of_not_le hcut)
      rcases Nat.lt_trichotomy (i + 1) (utf8 block.toPem).length with hi | hi | hi
      · rw [List.take_length_add_append,
          List.take_append_of_le_length (Nat.le_of_succ_le (Nat.le_of_lt hi)),
          blocks_scan_cut hseparator hblock hi,
          closedWithin_of_lt separator block pieces (by omega)]
      · rw [take_length_add_pred separator hi, blocks_scan_dropLast hseparator hblock,
          closedWithin_of_size_eq separator block pieces (by omega)]
      · obtain ⟨j, rfl⟩ := Nat.exists_eq_add_of_le (Nat.le_of_lt_succ hi)
        rw [List.take_length_add_append, List.take_length_add_append,
          hseparator.scan_armor_append hblock, ih hblocks hseparators, ← Nat.add_assoc,
          closedWithin_of_size_add]

/-- Where a block of a bundle is closed, its END line ends but for the line feed. -/
theorem endLine_suffix_of_mem_closings (hblocks : ∀ piece ∈ pieces, piece.2.WellFormed)
    (tail : List UInt8) {closing : Nat × Block} (h : closing ∈ closings pieces) :
    endLine closing.2.labelBytes <:+ (bundleBytes pieces tail).take closing.1 := by
  induction pieces generalizing closing with
  | nil => exact absurd h List.not_mem_nil
  | cons piece pieces ih =>
      obtain ⟨separator, block⟩ := piece
      obtain ⟨(hblock : block.WellFormed), hblocks⟩ := List.forall_mem_cons.mp hblocks
      rw [bundleBytes_cons]
      rcases List.mem_cons.mp h with rfl | h
      · have hlength := hblock.one_lt_length_toPem
        have hlast := Nat.sub_add_cancel hlength.le
        rw [Nat.add_sub_assoc hlength.le, take_length_add_pred separator hlast,
          hblock.dropLast_toPem, ← List.append_assoc]
        exact List.suffix_append _ _
      · obtain ⟨later, hlater, rfl⟩ := List.mem_map.mp h
        rw [Nat.add_assoc, List.take_length_add_append, List.take_length_add_append,
          ← List.append_assoc]
        exact (ih hblocks hlater).trans (List.suffix_append _ _)

/-- The scan of the first bytes of a bundle gives, in order, the blocks that are closed within them:
those whose END line is whole up to its last dash. -/
theorem scan_truncated (hblocks : ∀ piece ∈ pieces, piece.2.WellFormed)
    (hseparators : ∀ piece ∈ pieces, IsSeparator piece.1) {tail : List UInt8}
    (htail : OpensNone tail) (k : Nat) :
    (scan ((bundleBytes pieces tail).take k)).blocks =
        ((closings pieces).filter (·.1 ≤ k)).map Prod.snd ∧
      ∀ closing ∈ closings pieces,
        endLine closing.2.labelBytes <:+ (bundleBytes pieces tail).take closing.1 :=
  ⟨blocks_scan_take hblocks hseparators htail k,
    fun _ hclosing => endLine_suffix_of_mem_closings hblocks tail hclosing⟩

/-- Two blocks of one label, behind lines that would close it; a header value of five dashes. -/
def cutPieces : List (List UInt8 × Block) := [
  (utf8 "-----END A-----\r\n", ⟨"A", [0], [("a", "-----")]⟩),
  (utf8 "-----END A-----\r", ⟨"A", [], []⟩)]

theorem scan_truncated_cut :
    (∀ piece ∈ cutPieces, piece.2.WellFormed) ∧ (∀ piece ∈ cutPieces, IsSeparator piece.1) ∧
      OpensNone (utf8 "-----END A-----") ∧ (closings cutPieces).map Prod.fst = [65, 115] ∧
        (scan ((bundleBytes cutPieces (utf8 "-----END A-----")).take 114)).blocks =
          [⟨"A", [0], [("a", "-----")]⟩] ∧
        (scan ((bundleBytes cutPieces (utf8 "-----END A-----")).take 115)).blocks =
          cutPieces.map Prod.snd := by
  have hblocks : ∀ piece ∈ cutPieces, piece.2.WellFormed := by decide +kernel
  have hseparators : ∀ piece ∈ cutPieces, IsSeparator piece.1 := by decide +kernel
  have htail : OpensNone (utf8 "-----END A-----") := by
    unfold OpensNone
    decide +kernel
  refine ⟨hblocks, hseparators, htail, by decide +kernel, ?_, ?_⟩
  · rw [(scan_truncated hblocks hseparators htail 114).1]
    decide +kernel
  · rw [(scan_truncated hblocks hseparators htail 115).1]
    decide +kernel

end PemBundle.Pem
