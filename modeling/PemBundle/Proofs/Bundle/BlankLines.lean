import PemBundle.Bundle
import PemBundle.Proofs.Pem.Scanning

/-!
# Line ends and empty lines

How lines end and how many empty lines stand between them makes no difference to a scan, nor to what
is parsed from a bundle. Every step of a scan takes empty lines along to where they are dropped: in
front of an opening line, among headers, or in the body of a region.
-/

namespace PemBundle

namespace Pem

/-- The lines that are not empty. -/
def filled (ls : List Line) : List Line := ls.filter (!·.isEmpty)

@[simp] theorem filled_nil : filled [] = [] := rfl

@[simp] theorem filled_blank (ls : List Line) : filled ([] :: ls) = filled ls := rfl

theorem filled_cons {line : Line} (h : line ≠ []) (ls : List Line) :
    filled (line :: ls) = line :: filled ls := List.filter_cons_of_pos (by simpa using h)

@[simp] theorem filled_append (first second : List Line) :
    filled (first ++ second) = filled first ++ filled second := List.filter_append first second

theorem mem_of_mem_filled {ls : List Line} {line : Line} (h : line ∈ filled ls) : line ∈ ls :=
  (List.mem_filter.mp h).1

/-- Empty lines hold no bytes. -/
theorem flatten_filled (ls : List Line) : (filled ls).flatten = ls.flatten := by
  induction ls with
  | nil => rfl
  | cons line ls ih =>
      cases line with
      | nil => exact ih
      | cons b line => rw [filled_cons (List.cons_ne_nil b line), List.flatten_cons, ih,
          List.flatten_cons]

section While

variable {p : Line → Bool} (h : p [] = true)
include h

theorem takeWhile_filled (ls : List Line) : (filled ls).takeWhile p = filled (ls.takeWhile p) := by
  rw [filled, List.takeWhile_filter]
  congr 2
  funext line
  cases line <;> simp [h]

theorem dropWhile_filled (ls : List Line) : (filled ls).dropWhile p = filled (ls.dropWhile p) := by
  rw [filled, List.dropWhile_filter]
  congr 2
  funext line
  cases line <;> simp [h]

end While

/-! ### Reading one block -/

/-- Empty lines among header lines are passed over; those behind them are left. -/
theorem readHeaders_filled (headers : Headers) (ls : List Line) :
    readHeaders headers (filled ls) =
      (readHeaders headers ls).map fun read => (read.1, filled read.2) := by
  induction ls generalizing headers with
  | nil => rfl
  | cons line ls ih =>
      by_cases hempty : line = []
      · rw [hempty, filled_blank, readHeaders_blank, ih]
      · by_cases hcolon : colon ∈ line
        · rw [filled_cons hempty, readHeaders, readHeaders, if_neg hempty, if_neg hempty,
            if_pos hcolon, if_pos hcolon]
          cases readHeader line with
          | error error => rfl
          | ok header => exact ih (headers.set header.1 header.2)
        · rw [readHeaders_body headers hempty hcolon, filled_cons hempty,
            readHeaders_body headers hempty hcolon]
          simp [Except.map, filled_cons hempty]

theorem bodyLines?_filled (ls : List Line) :
    bodyLines? (filled ls) = (bodyLines? ls).map filled := by
  have hany : (filled ls).any closesBody = ls.any closesBody := by
    rw [filled, List.any_filter]
    congr 1
    funext line
    cases line with
    | nil => rfl
    | cons b line => rfl
  rw [bodyLines?, bodyLines?, hany, takeWhile_filled rfl]
  split <;> rfl

/-- The reader of one block does not see empty lines. -/
theorem unarmor_filled (ls : List Line) : unarmor (filled ls) = unarmor ls := by
  have hdrop := dropWhile_filled (p := fun line => (openLabel? line).isNone) rfl ls
  rw [unarmor, unarmor, hdrop]
  cases hopen : ls.dropWhile fun line => (openLabel? line).isNone with
  | nil => rfl
  | cons first rest =>
      -- An opening line is not empty, so it is the first of the lines that are left as well.
      have hne : first ≠ [] := by
        rintro rfl
        have hhead := List.head?_dropWhile_not (fun line => (openLabel? line).isNone) ls
        rw [hopen] at hhead
        cases hhead
      rw [filled_cons hne]
      simp only [bind, Except.bind, readHeaders_filled]
      cases readHeaders [] rest with
      | error error => rfl
      | ok read =>
          simp only [Except.map, bodyLines?_filled]
          cases bodyLines? read.2 with
          | none => rfl
          | some body => simp only [Option.map_some, flatten_filled]

/-! ### Steps of a scan -/

/-- A step with the empty lines left out. -/
def RegionStep.filled : RegionStep → RegionStep
  | .finished => .finished
  | .region found rest => .region ⟨found.label, Pem.filled found.lines⟩ (Pem.filled rest)
  | .unmatched label => .unmatched label
  | .unclosed label => .unclosed label

/-- A pull with the empty lines left out. -/
def Pull.filled : Pull → Pull
  | .finished => .finished
  | .stopped stop => .stopped stop
  | .block found rest => .block found (Pem.filled rest)

theorem ne_nil_of_isDashed {line : Line} (h : isDashed line = true) : line ≠ [] := by
  rintro rfl
  exact absurd h (by decide)

theorem closeRegion_filled {first : Line} (hfirst : first ≠ []) (label : Label) (ls : List Line) :
    closeRegion label first (filled ls) = (closeRegion label first ls).filled := by
  rcases undashed_or_exists_dashed ls with hls | ⟨inner, last, after, rfl, hinner, hlast⟩
  · have hfilled : ∀ line ∈ filled ls, isDashed line = false :=
      fun line hline => hls line (mem_of_mem_filled hline)
    rw [closeRegion_of_undashed hls, closeRegion_of_undashed hfilled, RegionStep.filled]
  · have hfilled : ∀ line ∈ filled inner, isDashed line = false :=
      fun line hline => hinner line (mem_of_mem_filled hline)
    have hne := ne_nil_of_isDashed hlast
    rw [filled_append, filled_cons hne, closeRegion_of_dashed hinner hlast,
      closeRegion_of_dashed hfilled hlast]
    split
    · simp [RegionStep.filled, filled_cons hfirst, filled_cons hne]
    · rfl

theorem nextRegion_filled (ls : List Line) : nextRegion (filled ls) = (nextRegion ls).filled := by
  induction ls with
  | nil => rfl
  | cons line ls ih =>
      cases hbegin : beginLabel? line with
      | some label =>
          have hne := ne_nil_of_isDashed (isDashed_of_beginLabel? hbegin)
          rw [filled_cons hne, nextRegion_cons_of_begins hbegin, nextRegion_cons_of_begins hbegin,
            closeRegion_filled hne]
      | none =>
          have hpassed : nextRegion (line :: ls) = nextRegion ls := by rw [nextRegion, hbegin]
          by_cases hempty : line = []
          · rw [hpassed, hempty, filled_blank, ih]
          · rw [hpassed, filled_cons hempty, nextRegion, hbegin, ih]

theorem pull_filled (ls : List Line) : pull (filled ls) = (pull ls).filled := by
  rw [pull, pull, nextRegion_filled]
  cases nextRegion ls with
  | finished => rfl
  | unmatched label => rfl
  | unclosed label => rfl
  | region region rest =>
      simp only [RegionStep.filled, unarmor_filled]
      cases unarmor region.lines with
      | ok block => rfl
      | error error => rfl

/-- A scan does not see empty lines. -/
theorem scanLines_filled (ls : List Line) : scanLines (filled ls) = scanLines ls := by
  induction ls using scanLines.induct with
  | case1 ls hpull =>
      rw [scanLines_of_finished hpull, scanLines_of_finished (by rw [pull_filled, hpull]; rfl)]
  | case2 ls stop hpull =>
      rw [scanLines_of_stopped hpull, scanLines_of_stopped (by rw [pull_filled, hpull]; rfl)]
  | case3 ls block rest hpull _ ih =>
      have hfilled : pull (filled ls) = .block block (filled rest) := by
        rw [pull_filled, hpull]
        rfl
      rw [scanLines_of_block hpull, scanLines_of_block hfilled, ih]

/-- Texts are scanned alike if their lines are the same but for empty ones. -/
theorem scan_of_filled_eq {first second : List UInt8}
    (h : filled (lines first) = filled (lines second)) : scan first = scan second := by
  rw [scan, scan, ← scanLines_filled (lines first), h, scanLines_filled]

end Pem

namespace Bundle

open Pem

/-- Whatever ends the lines of two texts, and however many empty lines they have: if their other
lines are the same, scans give the same blocks and report the same, and so does parsing. -/
theorem parse_of_filled_eq {first second : List UInt8}
    (h : filled (lines first) = filled (lines second)) :
    (scan first).blocks = (scan second).blocks ∧ (scan first).events = (scan second).events ∧
      ∀ order, parse order first = parse order second := by
  have hscan := scan_of_filled_eq h
  refine ⟨by rw [hscan], by rw [hscan], ?_⟩
  intro order
  rw [parse, parse, hscan]

/-- A block and an open region, with line feeds only. -/
def denseText : List UInt8 :=
  Text.utf8 "x\n-----BEGIN A-----\na: b\nAA\nAA\n-----END A-----\n-----BEGIN B-----\n"

/-- The same lines with all kinds of ends, empty lines wherever they can be, and no end after the
last. -/
def sparseText : List UInt8 :=
  Text.utf8 ("\nx\r\r\n-----BEGIN A-----\r\n\n\ra: b\r\n\r\nAA\n\rAA\r" ++
    "\r-----END A-----\n\n\r\n-----BEGIN B-----")

theorem parse_of_filled_eq_loose :
    filled (lines sparseText) = filled (lines denseText) ∧ sparseText ≠ denseText ∧
      (scan sparseText).blocks = [⟨"A", [0, 0, 0], [("a", "b")]⟩] ∧
      (scan sparseText).events = [.scanStopped (.missingEnd "B")] ∧
      ∀ order, parse order sparseText = parse order denseText := by
  have hlines : filled (lines sparseText) = filled (lines denseText) := by decide +kernel
  have hscan : scan denseText =
      ⟨[⟨"A", [0, 0, 0], [("a", "b")]⟩], some (.missingEnd "B")⟩ := by decide +kernel
  obtain ⟨hblocks, hevents, hparse⟩ := parse_of_filled_eq hlines
  rw [hscan] at hblocks hevents
  exact ⟨hlines, by decide +kernel, hblocks, hevents, hparse⟩

end Bundle

end PemBundle
