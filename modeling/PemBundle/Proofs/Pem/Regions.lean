import PemBundle.Pem.Region
import PemBundle.Proofs.Pem.Boundary

/-!
# Which regions are found

A region is an opening line, lines without five dashes in front, and an END line of the same label.
The next region of a sequence of lines is the first of this form; lines that open no region are
passed over before it.
-/

namespace PemBundle.Pem

/-- The regions that can be found: the boundary lines carry one label and none of the lines between
them starts with five dashes. -/
inductive IsRegion : Region → Prop
  | mk {label : Label} {first last : Line} {inner : List Line}
      (begins : beginLabel? first = some label)
      (undashed : ∀ line ∈ inner, isDashed line = false)
      (ends : endLabel? last = some label) :
      IsRegion ⟨label, first :: inner ++ [last]⟩

theorem splitDashed_append {inner : List Line} (h : ∀ line ∈ inner, isDashed line = false)
    {last : Line} (hlast : isDashed last = true) (rest : List Line) :
    splitDashed (inner ++ last :: rest) = (inner, last :: rest) := by
  have hinner : ∀ line ∈ inner, (!isDashed line) = true := by
    intro line hline
    simp [h line hline]
  rw [splitDashed, List.takeWhile_append_of_pos hinner, List.dropWhile_append_of_pos hinner]
  simp [hlast]

/-- Lines start with five dashes nowhere, or there is a first one that does. -/
theorem undashed_or_exists_dashed (ls : List Line) :
    (∀ line ∈ ls, isDashed line = false) ∨
      ∃ inner last after, ls = inner ++ last :: after ∧
        (∀ line ∈ inner, isDashed line = false) ∧ isDashed last = true := by
  cases hfind : ls.find? isDashed with
  | none =>
      left
      simpa using List.find?_eq_none.mp hfind
  | some last =>
      right
      obtain ⟨hlast, inner, after, hls, hinner⟩ := List.find?_eq_some_iff_append.mp hfind
      exact ⟨inner, last, after, hls, by simpa using hinner, hlast⟩

/-- A region is left open when no line starts with five dashes. -/
theorem closeRegion_of_undashed {ls : List Line} (h : ∀ line ∈ ls, isDashed line = false)
    (label : Label) (first : Line) : closeRegion label first ls = .unclosed label := by
  have hrest : (splitDashed ls).2 = [] := by
    rw [splitDashed, List.dropWhile_eq_nil_iff]
    simpa using h
  rw [closeRegion]
  split
  · rfl
  · rename_i hsplit
    rw [hsplit] at hrest
    exact nomatch hrest

/-- The first line that starts with five dashes closes a region or breaks it. -/
theorem closeRegion_of_dashed {inner : List Line} (h : ∀ line ∈ inner, isDashed line = false)
    {last : Line} (hlast : isDashed last = true) (label : Label) (first : Line)
    (after : List Line) :
    closeRegion label first (inner ++ last :: after) =
      if endLabel? last = some label then .region ⟨label, first :: inner ++ [last]⟩ after
      else .unmatched label := by
  rw [closeRegion, splitDashed_append h hlast]

/-- An open region ends at the first line that starts with five dashes, if that is its END line. -/
theorem closeRegion_eq_region_iff (label : Label) (first : Line) (ls after : List Line)
    (region : Region) :
    closeRegion label first ls = .region region after ↔
      ∃ inner last, ls = inner ++ last :: after ∧ (∀ line ∈ inner, isDashed line = false) ∧
        endLabel? last = some label ∧ region = ⟨label, first :: inner ++ [last]⟩ := by
  constructor
  · intro h
    rcases undashed_or_exists_dashed ls with hls | ⟨inner, last, rest, rfl, hinner, hlast⟩
    · rw [closeRegion_of_undashed hls] at h
      exact nomatch h
    · rw [closeRegion_of_dashed hinner hlast] at h
      split at h
      · rename_i hend
        injection h with hregion hafter
        exact ⟨inner, last, hafter ▸ rfl, hinner, hend, hregion.symm⟩
      · exact nomatch h
  · rintro ⟨inner, last, rfl, hinner, hend, rfl⟩
    rw [closeRegion_of_dashed hinner (isDashed_of_endLabel? hend), if_pos hend]

/-- Lines that open no region are passed over. -/
theorem nextRegion_append_of_unopened {junk : List Line}
    (h : ∀ line ∈ junk, beginLabel? line = none) (ls : List Line) :
    nextRegion (junk ++ ls) = nextRegion ls := by
  induction junk with
  | nil => rfl
  | cons line junk ih =>
      obtain ⟨hline, hjunk⟩ := List.forall_mem_cons.mp h
      rw [List.cons_append, nextRegion, hline]
      exact ih hjunk

/-- A line that opens a region makes it the next, if it is closed. -/
theorem nextRegion_cons_of_begins {first : Line} {label : Label}
    (h : beginLabel? first = some label) (ls : List Line) :
    nextRegion (first :: ls) = closeRegion label first ls := by
  rw [nextRegion, h]

/-- The next region is the first in the lines, after lines that open none. -/
theorem nextRegion_eq_region_iff (ls rest : List Line) (region : Region) :
    nextRegion ls = .region region rest ↔
      IsRegion region ∧
        ∃ junk, (∀ line ∈ junk, beginLabel? line = none) ∧ ls = junk ++ region.lines ++ rest := by
  constructor
  · intro h
    induction ls with
    | nil => exact nomatch h
    | cons line ls ih =>
        rw [nextRegion] at h
        split at h
        · rename_i label hbegin
          obtain ⟨inner, last, rfl, hinner, hlast, rfl⟩ :=
            (closeRegion_eq_region_iff label line ls rest region).mp h
          exact ⟨.mk hbegin hinner hlast, [], by simp, by simp⟩
        · rename_i hbegin
          obtain ⟨hregion, junk, hjunk, rfl⟩ := ih h
          refine ⟨hregion, line :: junk, ?_, rfl⟩
          intro other hother
          rcases List.mem_cons.mp hother with rfl | hother
          · exact hbegin
          · exact hjunk other hother
  · rintro ⟨hregion, junk, hjunk, rfl⟩
    rw [List.append_assoc, nextRegion_append_of_unopened hjunk]
    cases hregion with
    | @mk label first last inner begins undashed ends =>
        have hclose := (closeRegion_eq_region_iff label first (inner ++ last :: rest) rest
          ⟨label, first :: inner ++ [last]⟩).mpr ⟨inner, last, rfl, undashed, ends, rfl⟩
        simpa [nextRegion_cons_of_begins begins] using hclose

end PemBundle.Pem
