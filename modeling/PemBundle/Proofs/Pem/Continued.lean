import PemBundle.Proofs.Pem.ScannedRegions

/-!
# Texts that go on

What a scan has given is not taken back when more text follows whole lines. A scan that came to the
end of its text goes on with the text that follows, and one that was stopped by a boundary or by a
region that cannot be read stays stopped. Only a region that was left open can still be closed.
-/

namespace PemBundle.Pem

open Text

/-! ### One step -/

/-- What comes next when `more` follows the lines, if they leave no region open. -/
def RegionStep.continuedBy (more : List Line) : RegionStep → RegionStep
  | .finished => nextRegion more
  | .region found rest => .region found (rest ++ more)
  | step => step

/-- What a pull gives when `more` follows the lines, if they leave no region open. -/
def Pull.continuedBy (more : List Line) : Pull → Pull
  | .finished => pull more
  | .block found rest => .block found (rest ++ more)
  | result => result

/-- A region that is closed or broken is so whatever follows. -/
theorem closeRegion_append {label : Label} {first : Line} {ls : List Line}
    (h : closeRegion label first ls ≠ .unclosed label) (more : List Line) :
    closeRegion label first (ls ++ more) = (closeRegion label first ls).continuedBy more := by
  rcases undashed_or_exists_dashed ls with hls | ⟨inner, last, after, rfl, hinner, hlast⟩
  · exact absurd (closeRegion_of_undashed hls label first) h
  · rw [List.append_assoc, List.cons_append, closeRegion_of_dashed hinner hlast,
      closeRegion_of_dashed hinner hlast]
    split <;> rfl

theorem nextRegion_append {ls : List Line} (h : ∀ label, nextRegion ls ≠ .unclosed label)
    (more : List Line) : nextRegion (ls ++ more) = (nextRegion ls).continuedBy more := by
  induction ls with
  | nil => rfl
  | cons line ls ih =>
      cases hline : beginLabel? line with
      | some label =>
          simp only [List.cons_append, nextRegion_cons_of_begins hline] at h ⊢
          exact closeRegion_append (h label) more
      | none =>
          simp only [List.cons_append, nextRegion, hline] at h ⊢
          exact ih h

theorem pull_append {ls : List Line} (h : ∀ label, pull ls ≠ .stopped (.missingEnd label))
    (more : List Line) : pull (ls ++ more) = (pull ls).continuedBy more := by
  have hclosed : ∀ label, nextRegion ls ≠ .unclosed label := by
    intro label hnext
    apply h (ofAscii label)
    rw [pull, hnext]
  rw [pull, nextRegion_append hclosed]
  cases hnext : nextRegion ls with
  | finished => simp only [pull, hnext]; rfl
  | unmatched label => simp only [pull, hnext]; rfl
  | unclosed label => exact absurd hnext (hclosed label)
  | region found rest =>
      cases hread : unarmor found.lines with
      | ok block => simp only [RegionStep.continuedBy, pull, hnext, hread]; rfl
      | error error => simp only [RegionStep.continuedBy, pull, hnext, hread]; rfl

/-! ### Whole scans -/

/-- What the scan `whole` of a text has to do with the scan `first` of its first part and the scan
`more` of the rest. -/
structure Scan.Continues (first more whole : Scan) : Prop where
  kept : first.blocks <+: whole.blocks
  goes_on : first.stop = none → whole = ⟨first.blocks ++ more.blocks, more.stop⟩
  stays_stopped : ∀ stop, first.stop = some stop →
    whole = first ∨ ∃ label, stop = .missingEnd label

theorem continues_scanLines (ls more : List Line) :
    Scan.Continues (scanLines ls) (scanLines more) (scanLines (ls ++ more)) := by
  induction ls using scanLines.induct with
  | case1 ls hpull =>
      have hmore : pull (ls ++ more) = pull more := by
        rw [pull_append (by simp [hpull]), hpull]
        rfl
      rw [scanLines_of_finished hpull, scanLines_of_pull_eq hmore]
      refine ⟨List.nil_prefix, fun _ => rfl, ?_⟩
      rintro _ ⟨⟩
  | case2 ls stop hpull =>
      rw [scanLines_of_stopped hpull]
      refine ⟨List.nil_prefix, by rintro ⟨⟩, ?_⟩
      rintro _ ⟨⟩
      by_cases hmissing : ∃ label, stop = .missingEnd label
      · exact .inr hmissing
      · left
        apply scanLines_of_stopped
        rw [pull_append, hpull]
        · rfl
        · rintro label heq
          rw [hpull] at heq
          exact hmissing ⟨label, Pull.stopped.inj heq⟩
  | case3 ls block rest hpull _ ih =>
      have hmore : pull (ls ++ more) = .block block (rest ++ more) := by
        rw [pull_append (by simp [hpull]), hpull]
        rfl
      rw [scanLines_of_block hpull, scanLines_of_block hmore]
      refine ⟨List.cons_prefix_cons.mpr ⟨rfl, ih.kept⟩, ?_, ?_⟩
      · intro hstop
        simp [ih.goes_on hstop]
      · intro stop hstop
        exact (ih.stays_stopped stop hstop).imp_left fun h => by simp [h]

theorem events_eq_nil_iff (scan : Scan) : scan.events = [] ↔ scan.stop = none := by
  simp [Scan.events]

/-- Later text changes nothing of what a scan of whole lines has given: its blocks stay the first
blocks. If it reported nothing, the scan of the later text follows it; if it reported a boundary or
a region that cannot be read, nothing follows it. -/
theorem scan_append {first : List UInt8} (h : first = [] ∨ first.getLast? = some lineFeed)
    (second : List UInt8) :
    (scan first).blocks <+: (scan (first ++ second)).blocks ∧
      ((scan first).events = [] →
        (scan (first ++ second)).blocks = (scan first).blocks ++ (scan second).blocks ∧
          (scan (first ++ second)).events = (scan second).events) ∧
      ∀ stop, (scan first).events = [.scanStopped stop] → (∀ label, stop ≠ .missingEnd label) →
        (scan (first ++ second)).blocks = (scan first).blocks ∧
          (scan (first ++ second)).events = [.scanStopped stop] := by
  have hlines : lines (first ++ second) = lines first ++ lines second := by
    apply lines_append_of_uncut (h.imp_right .inl)
    intro hlast
    rcases h with rfl | h
    · exact nomatch hlast
    · exact absurd (hlast.symm.trans h) (by decide)
  have hcontinues : Scan.Continues (scan first) (scan second) (scan (first ++ second)) := by
    rw [scan, scan, scan, hlines]
    exact continues_scanLines (lines first) (lines second)
  refine ⟨hcontinues.kept, ?_, ?_⟩
  · intro hnone
    rw [hcontinues.goes_on ((events_eq_nil_iff _).mp hnone)]
    exact ⟨rfl, rfl⟩
  · intro stop hevents hclosed
    rcases hcontinues.stays_stopped stop ((events_eq_scanStopped_iff _ _).mp hevents) with
      hwhole | ⟨label, hmissing⟩
    · rw [hwhole]
      exact ⟨rfl, hevents⟩
    · exact absurd hmissing (hclosed label)

/-- A block, and text that opens none. -/
def wholeText : List UInt8 := utf8 "-----BEGIN A-----\r\n-----END A-----\r\n-----END B-----\n"

/-- A block, and one that is broken by the opening line of the next. -/
def brokenText : List UInt8 :=
  utf8 "-----BEGIN A-----\n-----END A-----\n-----BEGIN B-----\n-----BEGIN C-----\n"

/-- A block, and one that is left open. -/
def openText : List UInt8 :=
  utf8 "-----BEGIN A-----\n-----END A-----\n-----BEGIN B-----\nAAAA\n"

/-- The end of block `B`, which closes it where it is open, and another block. -/
def laterText : List UInt8 := utf8 "-----END B-----\n-----BEGIN C-----\n-----END C-----"

theorem scan_append_later :
    (wholeText.getLast? = some lineFeed ∧ (scan wholeText).events = [] ∧
      (scan (wholeText ++ laterText)).blocks = [⟨"A", [], []⟩, ⟨"C", [], []⟩]) ∧
    (brokenText.getLast? = some lineFeed ∧
      (scan (brokenText ++ laterText)).blocks = [⟨"A", [], []⟩] ∧
        (scan (brokenText ++ laterText)).events = [.scanStopped (.unmatchedBoundary "B")]) ∧
    openText.getLast? = some lineFeed ∧ (scan openText).events = [.scanStopped (.missingEnd "B")] ∧
      [⟨"A", [], []⟩] <+: (scan (openText ++ laterText)).blocks ∧
        (scan (openText ++ laterText)).blocks.length = 3 := by
  have hlater : (scan laterText).blocks = [⟨"C", [], []⟩] := by decide +kernel
  refine ⟨?_, ?_, ?_⟩
  · have hlast : wholeText.getLast? = some lineFeed := by decide +kernel
    have hwhole : scan wholeText = ⟨[⟨"A", [], []⟩], none⟩ := by decide +kernel
    have hevents : (scan wholeText).events = [] := by rw [hwhole]; rfl
    refine ⟨hlast, hevents, ?_⟩
    rw [((scan_append (.inr hlast) laterText).2.1 hevents).1, hwhole, hlater]
    rfl
  · have hlast : brokenText.getLast? = some lineFeed := by decide +kernel
    have hbroken : scan brokenText = ⟨[⟨"A", [], []⟩], some (.unmatchedBoundary "B")⟩ := by
      decide +kernel
    have hevents : (scan brokenText).events = [.scanStopped (.unmatchedBoundary "B")] := by
      rw [hbroken]
      rfl
    obtain ⟨hblocks, hstopped⟩ := (scan_append (.inr hlast) laterText).2.2 _ hevents (by simp)
    exact ⟨hlast, hblocks.trans (by rw [hbroken]), hstopped⟩
  · have hlast : openText.getLast? = some lineFeed := by decide +kernel
    have hopen : scan openText = ⟨[⟨"A", [], []⟩], some (.missingEnd "B")⟩ := by decide +kernel
    have hkept := (scan_append (.inr hlast) laterText).1
    rw [hopen] at hkept
    refine ⟨hlast, ?_, hkept, by decide +kernel⟩
    rw [hopen]
    rfl

end PemBundle.Pem
