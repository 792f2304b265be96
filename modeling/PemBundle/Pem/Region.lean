import PemBundle.Pem.Boundary

/-!
# Regions

A region is the lines from an opening line to the END line of the same label. While a region is
open, any other line that starts with five dashes breaks the sequence of regions, and so does the
end of the lines.
-/

namespace PemBundle.Pem

/-- A block's lines, boundaries included, and the label that both boundaries carry. -/
structure Region where
  label : Label
  lines : List Line
  deriving DecidableEq

/-- What comes next in a sequence of lines. -/
inductive RegionStep
  /-- No line opens a region. -/
  | finished
  | region (region : Region) (rest : List Line)
  /-- A region of this label is open when another boundary line comes. -/
  | unmatched (label : Label)
  /-- A region of this label is open at the end. -/
  | unclosed (label : Label)
  deriving DecidableEq

/-- The lines before the first that starts with five dashes, and the lines from there on. -/
def splitDashed (ls : List Line) : List Line × List Line :=
  (ls.takeWhile (!isDashed ·), ls.dropWhile (!isDashed ·))

/-- The region that `first` opens with `label`, closed somewhere in `rest`. -/
def closeRegion (label : Label) (first : Line) (rest : List Line) : RegionStep :=
  match splitDashed rest with
  | (_, []) => .unclosed label
  | (inner, last :: after) =>
      if endLabel? last = some label then .region ⟨label, first :: inner ++ [last]⟩ after
      else .unmatched label

/-- The first region of the lines, or what stands in its place. -/
def nextRegion : List Line → RegionStep
  | [] => .finished
  | line :: rest =>
      match beginLabel? line with
      | some label => closeRegion label line rest
      | none => nextRegion rest

/-- Fewer lines are left after a region. -/
theorem closeRegion_length {label first rest region after}
    (h : closeRegion label first rest = .region region after) : after.length < rest.length := by
  have hsub := (List.dropWhile_sublist (fun line => !isDashed line) (l := rest)).length_le
  unfold closeRegion splitDashed at h
  split at h
  · exact nomatch h
  · rename_i heq
    obtain ⟨-, heq⟩ := Prod.mk.inj heq
    rw [heq] at hsub
    split at h
    · injection h with _ h
      subst h
      exact hsub
    · exact nomatch h

/-- Fewer lines are left after a region. -/
theorem nextRegion_length {ls region after} (h : nextRegion ls = .region region after) :
    after.length < ls.length := by
  induction ls with
  | nil => exact nomatch h
  | cons line rest ih =>
      rw [nextRegion] at h
      split at h
      · exact Nat.lt_succ_of_lt (closeRegion_length h)
      · exact Nat.lt_succ_of_lt (ih h)

end PemBundle.Pem
