import PemBundle.Logged
import PemBundle.Proofs.Pem.RegionBody
import PemBundle.Proofs.Pem.Scanning

/-!
# The regions of a scan

A scan reads the regions of its lines in order, each to one block, up to the first that cannot be
read. What a block holds is the decoded body of its region, as far as the body is read; which
regions stop the scan depends on the bytes of their header lines and on the digits and padding signs
of their bodies.
-/

namespace PemBundle.Pem

open Text

/-- The regions of the lines, in order, up to the end or to where a region cannot be closed. -/
def regions (ls : List Line) : List Region :=
  match h : nextRegion ls with
  | .region region rest =>
      have := nextRegion_length h
      region :: regions rest
  | _ => []
termination_by ls.length

theorem regions_of_region {ls rest : List Line} {region : Region}
    (h : nextRegion ls = .region region rest) : regions ls = region :: regions rest := by
  rw [regions]
  split
  · rename_i hnext
    obtain ⟨rfl, rfl⟩ := RegionStep.region.inj (hnext.symm.trans h)
    rfl
  · rename_i hnext
    exact absurd h (hnext region rest)

theorem regions_eq_nil {ls : List Line} (h : ∀ region rest, nextRegion ls ≠ .region region rest) :
    regions ls = [] := by
  rw [regions]
  split
  · rename_i region rest hnext
    exact absurd hnext (h region rest)
  · rfl

/-- The first of the regions is the next region; the others are those of the lines after it. -/
theorem nextRegion_of_regions {ls : List Line} {region : Region} {more : List Region}
    (h : regions ls = region :: more) :
    ∃ rest, nextRegion ls = .region region rest ∧ regions rest = more := by
  cases hnext : nextRegion ls with
  | region first rest =>
      rw [regions_of_region hnext] at h
      obtain ⟨rfl, hmore⟩ := List.cons.inj h
      exact ⟨rest, rfl, hmore⟩
  | finished | unmatched label | unclosed label =>
      rw [regions_eq_nil (by simp [hnext])] at h
      exact nomatch h

theorem isRegion_of_mem_regions {ls : List Line} {region : Region} (h : region ∈ regions ls) :
    IsRegion region := by
  induction hregions : regions ls generalizing ls with
  | nil => exact absurd (hregions ▸ h) List.not_mem_nil
  | cons first more ih =>
      obtain ⟨rest, hnext, hrest⟩ := nextRegion_of_regions hregions
      rw [hregions, List.mem_cons] at h
      rcases h with rfl | h
      · exact ((nextRegion_eq_region_iff ls rest region).mp hnext).1
      · exact ih (hrest ▸ h) hrest

/-- Lines without a region hold no block. -/
theorem blocks_of_regions_nil {ls : List Line} (h : regions ls = []) :
    (scanLines ls).blocks = [] := by
  cases hpull : pull ls with
  | finished => rw [scanLines_of_finished hpull]
  | stopped stop => rw [scanLines_of_stopped hpull]
  | block block rest =>
      obtain ⟨region, hnext, -⟩ := (pull_eq_block_iff ls rest block).mp hpull
      rw [regions_of_region hnext] at h
      exact nomatch h

/-- A scan goes on after a region that is read. -/
theorem scanLines_of_read {ls rest : List Line} {region : Region} {block : Block}
    (hnext : nextRegion ls = .region region rest) (hread : unarmor region.lines = .ok block) :
    scanLines ls = ⟨block :: (scanLines rest).blocks, (scanLines rest).stop⟩ :=
  scanLines_of_block ((pull_eq_block_iff ls rest block).mpr ⟨region, hnext, hread⟩)

/-- A scan stops at a region that cannot be read. -/
theorem scanLines_of_unread {ls rest : List Line} {region : Region} {error : ArmorError}
    (hnext : nextRegion ls = .region region rest) (hread : unarmor region.lines = .error error) :
    scanLines ls = ⟨[], some (.undecodable error)⟩ := by
  apply scanLines_of_stopped
  simp only [pull, hnext, hread]

/-- The block at an index is read from the region at this index. -/
theorem exists_region_of_getElem? {ls : List Line} {i : Nat} {block : Block}
    (h : (scanLines ls).blocks[i]? = some block) :
    ∃ region, (regions ls)[i]? = some region ∧ unarmor region.lines = .ok block := by
  induction hregions : regions ls generalizing ls i with
  | nil =>
      rw [blocks_of_regions_nil hregions] at h
      exact nomatch h
  | cons region more ih =>
      obtain ⟨rest, hnext, hrest⟩ := nextRegion_of_regions hregions
      cases hread : unarmor region.lines with
      | error e =>
          rw [scanLines_of_unread hnext hread] at h
          exact nomatch h
      | ok first =>
          rw [scanLines_of_read hnext hread] at h
          cases i with
          | zero => exact ⟨region, rfl, hread.trans (congrArg _ (Option.some.inj h))⟩
          | succ i => exact ih h hrest

/-- A region behind regions that are read is read to the block at its index, or the scan stops
there. -/
theorem scanLines_reached {ls : List Line} {i : Nat} {region : Region}
    (hregion : (regions ls)[i]? = some region) (hreached : i ≤ (scanLines ls).blocks.length) :
    (∃ block, unarmor region.lines = .ok block ∧ (scanLines ls).blocks[i]? = some block) ∨
      ∃ error, unarmor region.lines = .error error ∧ (scanLines ls).blocks.length = i ∧
        (scanLines ls).stop = some (.undecodable error) := by
  induction hregions : regions ls generalizing ls i with
  | nil =>
      rw [hregions] at hregion
      exact nomatch hregion
  | cons first more ih =>
      obtain ⟨rest, hnext, hrest⟩ := nextRegion_of_regions hregions
      rw [hregions] at hregion
      cases hread : unarmor first.lines with
      | error e =>
          rw [scanLines_of_unread hnext hread] at hreached ⊢
          obtain rfl := Nat.le_zero.mp hreached
          obtain rfl := Option.some.inj hregion
          exact Or.inr ⟨e, hread, rfl, rfl⟩
      | ok block =>
          rw [scanLines_of_read hnext hread] at hreached ⊢
          cases i with
          | zero =>
              obtain rfl := Option.some.inj hregion
              exact Or.inl ⟨block, hread, rfl⟩
          | succ i =>
              have htail : (regions rest)[i]? = some region := hrest ▸ hregion
              rcases ih htail (Nat.le_of_succ_le_succ hreached) hrest with
                ⟨found, hfound, hblock⟩ | ⟨e, herror, hlength, hstop⟩
              · exact Or.inl ⟨found, hfound, hblock⟩
              · exact Or.inr ⟨e, herror, congrArg (· + 1) hlength, hstop⟩

/-- A scan stops at a region that it reaches exactly if the region cannot be read. -/
theorem scanLines_stops_iff {ls : List Line} {i : Nat} {region : Region}
    (hregion : (regions ls)[i]? = some region) (hreached : i ≤ (scanLines ls).blocks.length) :
    ((scanLines ls).blocks.length = i ∧
        ∃ error, (scanLines ls).stop = some (.undecodable error)) ↔
      ¬ ∃ block, unarmor region.lines = .ok block := by
  rcases scanLines_reached hregion hreached with
    ⟨block, hread, hblock⟩ | ⟨error, herror, hlength, hstop⟩
  · have hlt : i < (scanLines ls).blocks.length := (List.getElem?_eq_some_iff.mp hblock).1
    exact iff_of_false (fun h => hlt.ne' h.1) (not_not_intro ⟨block, hread⟩)
  · have hunread : ¬ ∃ block, unarmor region.lines = .ok block := by
      rintro ⟨block, hread⟩
      exact nomatch herror.symm.trans hread
    exact iff_of_true ⟨hlength, error, hstop⟩ hunread

theorem events_eq_scanStopped_iff (scan : Scan) (stop : Stop) :
    scan.events = [.scanStopped stop] ↔ scan.stop = some stop := by
  cases hstop : scan.stop with
  | none => simp [Scan.events, hstop]
  | some other => simp [Scan.events, hstop]

/-! ### Which part of a body is read -/

/-- The payload of a scanned block is decoded from the lines of its body before the first that
starts with four dashes and a space, so from the whole body if there is no such line. -/
theorem scanned_der {data : List UInt8} {i : Nat} {block : Block}
    (h : (scan data).blocks[i]? = some block) :
    ∃ region, (regions (lines data))[i]? = some region ∧
      Base64.decode region.readBody.flatten = .ok block.der ∧
        ((∀ line ∈ region.body, isSpacedDashed line = false) →
          Base64.decode region.body.flatten = .ok block.der) := by
  obtain ⟨region, hregion, hread⟩ := exists_region_of_getElem? h
  have hisregion := isRegion_of_mem_regions (List.mem_of_getElem? hregion)
  obtain ⟨-, hdecode, -⟩ := (hisregion.unarmor_eq_ok_iff block).mp hread
  refine ⟨region, hregion, hdecode, ?_⟩
  intro hbody
  rw [← Region.readBody_eq_body hbody, hdecode]

/-- Behind a first block: empty lines around headers, one of which starts with four dashes and a
space, a line of the body that looks like a header, and blanks among the digits. -/
def headedText : List UInt8 :=
  utf8 "-----BEGIN A-----\n-----END A-----\n-----BEGIN A-----\n\n---- a: b\n\nA A\nc: d==\n-----END A-----\n"

theorem scanned_der_headed :
    (scan headedText).blocks[1]? = some ⟨"A", [0, 0x07, 0x1d], [("---- a", "b")]⟩ ∧
      ∃ region, (regions (lines headedText))[1]? = some region ∧
        Base64.decode region.readBody.flatten = .ok [0, 0x07, 0x1d] := by
  have hblock : (scan headedText).blocks[1]? =
      some ⟨"A", [0, 0x07, 0x1d], [("---- a", "b")]⟩ := by decide +kernel
  obtain ⟨region, hregion, hdecode, -⟩ := scanned_der hblock
  exact ⟨hblock, region, hregion, hdecode⟩

/-- A block whose END line is missing, in front of a block whose opening line has four dashes. -/
def truncatedText : List UInt8 :=
  utf8 "-----BEGIN A-----\nAAAA\n---- BEGIN A ----\nBBBB\n-----END A-----\n"

/-- An opening line of four dashes closes the block before it: the block is given although the body
of its region cannot be decoded. -/
theorem truncated_block_given :
    scan truncatedText = ⟨[⟨"A", [0, 0, 0], []⟩], none⟩ ∧
      (regions (lines truncatedText)).map (fun region => Base64.decode region.body.flatten) =
        [.error .missingPadding] := by
  decide +kernel

/-! ### Where a scan stops -/

theorem isBlankByte_of_isSign {b : UInt8} (h : Base64.isSign b = true) : isBlankByte b = false := by
  have hlow := (Base64.isSign_bounds h).1
  simp only [isBlankByte, Bool.or_eq_false_iff, decide_eq_false_iff_not, Bool.and_eq_false_iff,
    UInt8.le_iff_toNat_le]
  constructor
  · rintro rfl
    exact absurd hlow (by decide)
  · right
    exact Nat.not_le.mpr (Nat.lt_of_lt_of_le (by decide) hlow)

/-- White space is no part of the signs of a text. -/
theorem signs_without_blanks (text : List UInt8) :
    Base64.signs (text.filter (!isBlankByte ·)) = Base64.signs text := by
  rw [Base64.signs, List.filter_filter]
  apply List.filter_congr
  intro b _
  cases hsign : Base64.isSign b with
  | false => rfl
  | true => rw [isBlankByte_of_isSign hsign]; rfl

/-- A scan stops at a region that it reaches, and in whose lines nothing closes the body early,
exactly if a header line holds a byte outside ASCII or the body leaves a group open. A body that is
padded base64 but for white space leaves none open. -/
theorem scan_stops_iff {data : List UInt8} {i : Nat} {region : Region}
    (hregion : (regions (lines data))[i]? = some region)
    (hreached : i ≤ (scan data).blocks.length)
    (hplain : ∀ line ∈ region.inner, isSpacedDashed line = false) :
    ((scan data).blocks.length = i ∧
        (∃ error, (scan data).events = [.scanStopped (.undecodable error)]) ↔
      ¬ (region.HasAsciiHead ∧ Base64.IsComplete region.body.flatten)) ∧
    (Base64.IsPadded (region.body.flatten.filter (!isBlankByte ·)) →
      Base64.IsComplete region.body.flatten) := by
  constructor
  · have hisregion := isRegion_of_mem_regions (List.mem_of_getElem? hregion)
    have hbody : region.readBody = region.body := by
      apply Region.readBody_eq_body
      intro line hline
      exact hplain line ((List.dropWhile_sublist _).subset hline)
    simp only [events_eq_scanStopped_iff]
    rw [← hbody, ← hisregion.exists_unarmor_iff]
    exact scanLines_stops_iff hregion hreached
  · intro hpadded
    have hsigns := signs_without_blanks region.body.flatten
    exact (Base64.isComplete_iff_of_signs hsigns).mp hpadded.isComplete

/-- A first block, and a second one with a padding sign between its digits. -/
def unreadText : List UInt8 :=
  utf8 "-----BEGIN A-----\n-----END A-----\n-----BEGIN B-----\nAA=A\n-----END B-----\n"

/-- The region of the second block. -/
def unreadRegion : Region := ⟨[0x42], lines (unreadText.drop 34)⟩

theorem scan_stops_unread :
    (regions (lines unreadText))[1]? = some unreadRegion ∧
      (scan unreadText).blocks.length = 1 ∧
        (scan unreadText).events = [.scanStopped (.undecodable (.body .missingPadding))] ∧
          ¬ (unreadRegion.HasAsciiHead ∧ Base64.IsComplete unreadRegion.body.flatten) := by
  have hregion : (regions (lines unreadText))[1]? = some unreadRegion := by decide +kernel
  have hplain : ∀ line ∈ unreadRegion.inner, isSpacedDashed line = false := by decide +kernel
  have hscan : scan unreadText =
      ⟨[⟨"A", [], []⟩], some (.undecodable (.body .missingPadding))⟩ := by decide +kernel
  have hlength : (scan unreadText).blocks.length = 1 := by
    rw [hscan]
    rfl
  have hevents : (scan unreadText).events =
      [.scanStopped (.undecodable (.body .missingPadding))] := by
    rw [hscan]
    rfl
  have hstops := (scan_stops_iff hregion hlength.ge hplain).1
  exact ⟨hregion, hlength, hevents, hstops.mp ⟨hlength, _, hevents⟩⟩

/-- Two digits with their padding, then more digits, in front of a whole block. -/
def overlongText : List UInt8 :=
  utf8 "-----BEGIN A-----\nAA==BBBB\n-----END A-----\n-----BEGIN B-----\nAAAA\n-----END B-----\n"

/-- What stands behind padding in a body is left out of the block, and the scan goes on: the body is
not padded base64, and yet nothing stops. -/
theorem overlong_block_given :
    (∃ region, (regions (lines overlongText))[0]? = some region ∧
      (∀ line ∈ region.inner, isSpacedDashed line = false) ∧
        ¬ Base64.IsPadded (region.body.flatten.filter (!isBlankByte ·))) ∧
      scan overlongText = ⟨[⟨"A", [0], []⟩, ⟨"B", [0, 0, 0], []⟩], none⟩ := by
  refine ⟨⟨⟨[0x41], lines (overlongText.take 43)⟩, ?_⟩, ?_⟩
  · decide +kernel
  · decide +kernel

end PemBundle.Pem
