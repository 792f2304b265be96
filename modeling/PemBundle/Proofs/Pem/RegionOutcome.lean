import PemBundle.Proofs.Pem.KeptLines
import PemBundle.Proofs.Pem.ScannedRegions
import PemBundle.Proofs.Pem.Single

/-!
# How reading a region ends

A region is found by one reader of lines and read by another, from its bytes, which are cut into
lines once more. The second finds what the first found: reading gives a block of the region's label,
or fails for a header byte outside ASCII or for the digits of the body, and for nothing else. So a
scan ends for one of five reasons, behind the last of its blocks.
-/

namespace PemBundle.Pem

open Text

/-- The errors that reading a region can end in. -/
inductive IsRegionError : ArmorError → Prop
  | headerByte {byte : UInt8} (h : 0x80 ≤ byte) (position : Nat) :
      IsRegionError (.headerByte byte position)
  | missingPadding : IsRegionError (.body .missingPadding)
  /-- One digit is left over behind this many groups. -/
  | strayDigit (groups : Nat) : IsRegionError (.body (.strayDigit (4 * groups + 1)))

/-- The texts that tell why a scan ended. -/
inductive IsStopText : String → Prop
  | unmatchedBoundary : IsStopText "unmatched boundary"
  | missingEnd : IsStopText "missing END line"
  | headerByte {byte : UInt8} (h : 0x80 ≤ byte) (position : Nat) :
      IsStopText ("'ascii' codec can't decode byte 0x" ++ String.ofList (hexDigits 2 byte.toNat) ++
        " in position " ++ toString position ++ ": ordinal not in range(128)")
  | missingPadding : IsStopText "Incorrect padding"
  | strayDigit (groups : Nat) :
      IsStopText ("Invalid base64-encoded string: number of data characters (" ++
        toString (4 * groups + 1) ++ ") cannot be 1 more than a multiple of 4")

/-- A header line is refused for a byte outside ASCII. -/
theorem isRegionError_of_readHeader {line : Line} {error : ArmorError}
    (h : readHeader line = .error error) : IsRegionError error := by
  rw [readHeader] at h
  split at h
  · rename_i byte rest hdrop
    injection h with h
    subst h
    have hhead := List.head?_dropWhile_not (· < 0x80) line
    rw [hdrop] at hhead
    exact .headerByte (by simpa using hhead) _
  · cases h

theorem isRegionError_of_readHeaders {before : Headers} {ls : List Line} {error : ArmorError}
    (h : readHeaders before ls = .error error) : IsRegionError error := by
  induction ls generalizing before with
  | nil => cases h
  | cons line ls ih =>
      rw [readHeaders] at h
      split at h
      · exact ih h
      · split at h
        · cases hread : readHeader line with
          | error e =>
              rw [hread] at h
              injection h with h
              exact h ▸ isRegionError_of_readHeader hread
          | ok header =>
              rw [hread] at h
              exact ih h
        · cases h

/-- Text that is not base64 leaves one digit over, or lacks padding. -/
theorem isRegionError_of_decode {text : List UInt8} {error : Base64.Error}
    (h : Base64.decode text = .error error) : IsRegionError (.body error) := by
  rw [Base64.decode, Base64.State.finish] at h
  split at h
  · cases h
  · injection h with h
    rw [← h, Nat.mul_comm]
    exact .strayDigit _
  · injection h with h
    exact h ▸ .missingPadding

/-- Reading a region gives a block of its label, or ends in one of the errors of regions. -/
theorem IsRegion.unarmor_cases {region : Region} (h : IsRegion region) :
    (∃ block, unarmor region.lines = .ok block ∧ block.label = ofAscii region.label) ∨
      ∃ error, unarmor region.lines = .error error ∧ IsRegionError error := by
  rw [h.unarmor_eq]
  cases hread : readHeaders [] region.lines.tail with
  | error error => exact .inr ⟨error, rfl, isRegionError_of_readHeaders hread⟩
  | ok found =>
      cases hdecode : Base64.decode region.readBody.flatten with
      | error error => exact .inr ⟨.body error, rfl, isRegionError_of_decode hdecode⟩
      | ok der => exact .inl ⟨⟨ofAscii region.label, der, found.1⟩, rfl, rfl⟩

/-! ### Where regions stand -/

/-- The lines of a region stand one after the other in the lines it was found in. -/
theorem exists_lines_of_mem_regions {ls : List Line} {region : Region} (h : region ∈ regions ls) :
    ∃ before after, ls = before ++ region.lines ++ after := by
  induction hregions : regions ls generalizing ls with
  | nil => exact absurd (hregions ▸ h) List.not_mem_nil
  | cons first more ih =>
      obtain ⟨rest, hnext, hrest⟩ := nextRegion_of_regions hregions
      obtain ⟨-, junk, -, hls⟩ := (nextRegion_eq_region_iff ls rest first).mp hnext
      rw [hregions, List.mem_cons] at h
      rcases h with rfl | h
      · exact ⟨junk, rest, hls⟩
      · obtain ⟨before, after, hafter⟩ := ih (hrest ▸ h) hrest
        exact ⟨junk ++ first.lines ++ before, after, by rw [hls, hafter]; simp⟩

/-! ### Why a scan stops -/

theorem IsRegionError.isStopText {error : ArmorError} (h : IsRegionError error) :
    IsStopText error.message := by
  cases h with
  | headerByte hbyte position => exact .headerByte hbyte position
  | missingPadding => exact .missingPadding
  | strayDigit groups => exact .strayDigit groups

theorem isStopText_of_pull {ls : List Line} {stop : Stop} (h : pull ls = .stopped stop) :
    IsStopText stop.reason := by
  rw [pull] at h
  split at h
  · cases h
  · injection h with h
    exact h ▸ .unmatchedBoundary
  · injection h with h
    exact h ▸ .missingEnd
  · rename_i region rest hnext
    have hregion := ((nextRegion_eq_region_iff ls rest region).mp hnext).1
    rcases hregion.unarmor_cases with ⟨block, hread, -⟩ | ⟨error, hread, herror⟩
    · rw [hread] at h
      cases h
    · rw [hread] at h
      injection h with h
      exact h ▸ herror.isStopText

theorem isStopText_of_scanLines {ls : List Line} {stop : Stop}
    (h : (scanLines ls).stop = some stop) : IsStopText stop.reason := by
  induction ls using scanLines.induct with
  | case1 ls hpull =>
      rw [scanLines_of_finished hpull] at h
      cases h
  | case2 ls reason hpull =>
      rw [scanLines_of_stopped hpull] at h
      obtain rfl := Option.some.inj h
      exact isStopText_of_pull hpull
  | case3 ls block rest hpull _ ih =>
      rw [scanLines_of_block hpull] at h
      exact ih h

/-- Every region, read from its bytes, gives a block of the label that both of its boundary lines
carry, or ends in one of the errors of regions. A whole scan reports nothing, or once, for one of
five reasons, why it stopped; it does so behind its last block, for pulling no more blocks than
there are reports nothing. -/
theorem scan_region_outcomes (data : List UInt8) :
    (∀ region ∈ regions (lines data), IsRegion region ∧
      ∃ before kept after, keptLines data = before ++ kept ++ after ∧
        lines kept.flatten = region.lines ∧
          ((∃ block, unarmor (lines kept.flatten) = .ok block ∧
              block.label = ofAscii region.label) ∨
            ∃ error, unarmor (lines kept.flatten) = .error error ∧ IsRegionError error)) ∧
      ((scan data).events = [] ∨
        ∃ stop, (scan data).events = [.scanStopped stop] ∧ IsStopText stop.reason) ∧
      ∀ count ≤ (scan data).blocks.length,
        (pullBlocks count data).blocks = (scan data).blocks.take count ∧
          (pullBlocks count data).events = [] := by
  refine ⟨?_, ?_, ?_⟩
  · intro region hregion
    have hisregion := isRegion_of_mem_regions hregion
    obtain ⟨before, after, hlines⟩ := exists_lines_of_mem_regions hregion
    obtain ⟨first, kept, second, hkept, hrun⟩ := exists_keptLines_run hlines
    refine ⟨hisregion, first, kept, second, hkept, hrun, ?_⟩
    rw [hrun]
    exact hisregion.unarmor_cases
  · cases hstop : (scan data).stop with
    | none => exact .inl (by rw [Scan.events, hstop]; rfl)
    | some stop =>
        exact .inr ⟨stop, (events_eq_scanStopped_iff _ _).mpr hstop,
          isStopText_of_scanLines hstop⟩
  · intro count hcount
    have hpulled : pullBlocks count data = ⟨(scan data).blocks.take count, none⟩ :=
      (pullLines_eq count (lines data)).trans (congrArg _ (if_pos hcount))
    rw [hpulled]
    exact ⟨rfl, rfl⟩

end PemBundle.Pem
