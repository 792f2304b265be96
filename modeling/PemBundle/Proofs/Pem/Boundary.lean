import Mathlib.Data.List.DropRight
import PemBundle.Pem.Boundary
import PemBundle.Proofs.Pem.Lines

/-!
# What boundary lines look like

The readers of boundary lines give a label exactly for the lines of a fixed form. On a line that
opens a region the scan and the reader of one block see the same label.
-/

namespace PemBundle.Pem

/-- A label that boundary lines can carry: a non-empty run of label bytes. -/
def IsLabel (label : Label) : Prop := label ≠ [] ∧ ∀ b ∈ label, isLabelByte b = true

/-- The line that opens a block. -/
def beginLine (label : Label) : Line := dashes ++ beginWord ++ label ++ dashes

/-- The line that closes a block. -/
def endLine (label : Label) : Line := dashes ++ endWord ++ label ++ dashes

/-- A run of label bytes is found whole in front of a byte that is none. -/
theorem splitLabel_append {label : Label} (h : ∀ b ∈ label, isLabelByte b = true)
    {rest : List UInt8} (hrest : ∀ b ∈ rest.head?, isLabelByte b = false) :
    splitLabel (label ++ rest) = (label, rest) := by
  have hstop : rest.takeWhile isLabelByte = [] ∧ rest.dropWhile isLabelByte = rest := by
    cases rest with
    | nil => exact ⟨rfl, rfl⟩
    | cons b rest =>
        have hb := hrest b rfl
        simp [hb]
  rw [splitLabel, List.takeWhile_append_of_pos h, List.dropWhile_append_of_pos h, hstop.1,
    hstop.2, List.append_nil]

theorem splitLabel_dashes {label : Label} (h : ∀ b ∈ label, isLabelByte b = true)
    (rest : List UInt8) : splitLabel (label ++ (dashes ++ rest)) = (label, dashes ++ rest) := by
  apply splitLabel_append h
  simp [dashes, isLabelByte]

/-- The parts of a split make up the whole, and the first holds label bytes only. -/
theorem splitLabel_eq {bytes rest : List UInt8} {label : Label}
    (h : splitLabel bytes = (label, rest)) :
    bytes = label ++ rest ∧ ∀ b ∈ label, isLabelByte b = true := by
  obtain ⟨rfl, rfl⟩ := Prod.mk.inj h
  constructor
  · exact List.takeWhile_append_dropWhile.symm
  · intro b hb
    exact List.mem_takeWhile_imp hb

/-- The lines that open a region: the label between the dashes, then anything. -/
theorem beginLabel?_eq_some_iff (line : Line) (label : Label) :
    beginLabel? line = some label ↔
      IsLabel label ∧ ∃ after, line = beginLine label ++ after := by
  constructor
  · intro h
    simp only [beginLabel?, Option.bind_eq_bind, Option.bind_eq_some_iff,
      List.isPrefixOf?_eq_some_iff_append_eq] at h
    obtain ⟨bytes, rfl, h⟩ := h
    cases hsplit : splitLabel bytes with
    | mk found rest =>
        rw [hsplit] at h
        obtain ⟨hbytes, hfound⟩ := splitLabel_eq hsplit
        obtain ⟨⟨hne, hdashes⟩, rfl⟩ : (found ≠ [] ∧ dashes.isPrefixOf rest = true) ∧
            found = label := by simpa using h
        obtain ⟨after, rfl⟩ := List.isPrefixOf_iff_prefix.mp hdashes
        exact ⟨⟨hne, hfound⟩, after, by simp [beginLine, hbytes]⟩
  · rintro ⟨⟨hne, hlabel⟩, after, rfl⟩
    have hprefix : (dashes ++ beginWord).isPrefixOf? (beginLine label ++ after) =
        some (label ++ (dashes ++ after)) := by
      simp [List.isPrefixOf?_eq_some_iff_append_eq, beginLine]
    simp [beginLabel?, hprefix, splitLabel_dashes hlabel, hne]

/-- The lines that close a region: the label between the dashes, then white space. -/
theorem endLabel?_eq_some_iff (line : Line) (label : Label) :
    endLabel? line = some label ↔
      IsLabel label ∧ ∃ after, line = endLine label ++ after ∧
        ∀ b ∈ after, isBlankByte b = true := by
  constructor
  · intro h
    simp only [endLabel?, Option.bind_eq_bind, Option.bind_eq_some_iff,
      List.isPrefixOf?_eq_some_iff_append_eq] at h
    obtain ⟨bytes, rfl, h⟩ := h
    cases hsplit : splitLabel bytes with
    | mk found rest =>
        rw [hsplit] at h
        obtain ⟨hbytes, hfound⟩ := splitLabel_eq hsplit
        obtain ⟨after, rfl, h⟩ := h
        obtain ⟨⟨hne, hblank⟩, rfl⟩ : (found ≠ [] ∧ ∀ b ∈ after, isBlankByte b = true) ∧
            found = label := by simpa using h
        exact ⟨⟨hne, hfound⟩, after, by simp [endLine, hbytes], hblank⟩
  · rintro ⟨⟨hne, hlabel⟩, after, rfl, hblank⟩
    have hprefix : (dashes ++ endWord).isPrefixOf? (endLine label ++ after) =
        some (label ++ (dashes ++ after)) := by
      simp [List.isPrefixOf?_eq_some_iff_append_eq, endLine]
    have hdashes : dashes.isPrefixOf? (dashes ++ after) = some after := by
      simp [List.isPrefixOf?_eq_some_iff_append_eq]
    simpa [endLabel?, hprefix, splitLabel_dashes hlabel, hne, hdashes] using hblank

/-- A line that opens a region opens a block of the same label for the reader of one block. -/
theorem openLabel?_of_beginLabel? {line : Line} {label : Label}
    (h : beginLabel? line = some label) : openLabel? line = some label := by
  obtain ⟨⟨hne, hlabel⟩, after, rfl⟩ := (beginLabel?_eq_some_iff line label).mp h
  have hprefix : (dashes ++ beginWord).isPrefixOf? (beginLine label ++ after) =
      some (label ++ (dashes ++ after)) := by
    simp [List.isPrefixOf?_eq_some_iff_append_eq, beginLine]
  simp [openLabel?, hprefix, splitLabel_dashes hlabel, hne]

/-- A line that closes a region starts with five dashes. -/
theorem isDashed_of_endLabel? {line : Line} {label : Label}
    (h : endLabel? line = some label) : isDashed line = true := by
  obtain ⟨-, after, rfl, -⟩ := (endLabel?_eq_some_iff line label).mp h
  rw [isDashed, List.isPrefixOf_iff_prefix]
  exact ⟨endWord ++ label ++ dashes ++ after, by simp [endLine]⟩

/-- A line that opens a region starts with five dashes. -/
theorem isDashed_of_beginLabel? {line : Line} {label : Label}
    (h : beginLabel? line = some label) : isDashed line = true := by
  obtain ⟨-, after, rfl⟩ := (beginLabel?_eq_some_iff line label).mp h
  rw [isDashed, List.isPrefixOf_iff_prefix]
  exact ⟨beginWord ++ label ++ dashes ++ after, by simp [beginLine]⟩

theorem beginLabel?_of_undashed {line : Line} (h : isDashed line = false) :
    beginLabel? line = none := by
  rw [Option.eq_none_iff_forall_ne_some]
  intro label hline
  rw [isDashed_of_beginLabel? hline] at h
  exact nomatch h

theorem endLabel?_of_undashed {line : Line} (h : isDashed line = false) :
    endLabel? line = none := by
  rw [Option.eq_none_iff_forall_ne_some]
  intro label hline
  rw [isDashed_of_endLabel? hline] at h
  exact nomatch h

/-- An opening line closes no region, whole or cut. -/
theorem endLabel?_of_prefix_beginLine {line : Line} {label : Label}
    (h : line <+: beginLine label) : endLabel? line = none := by
  rw [Option.eq_none_iff_forall_ne_some]
  intro other hline
  obtain ⟨-, after, rfl, -⟩ := (endLabel?_eq_some_iff line other).mp hline
  simp [endLine, beginLine, endWord, beginWord, List.append_assoc,
    List.prefix_append_right_inj] at h

/-- Label bytes are no line ends and no dashes, and they are ASCII. -/
theorem isLabelByte_bounds {b : UInt8} (h : isLabelByte b = true) :
    0x20 ≤ b.toNat ∧ b.toNat < 0x5b ∧ b.toNat ≠ 0x2d ∧ b.toNat ≠ 0x3a := by
  simp only [isLabelByte, Bool.or_eq_true, Bool.and_eq_true, decide_eq_true_eq,
    UInt8.le_iff_toNat_le] at h
  rcases h with (h | h) | rfl
  · simp at h
    omega
  · simp at h
    omega
  · decide

end PemBundle.Pem
