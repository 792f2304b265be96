import PemBundle.Logged
import PemBundle.Proofs.Pem.Scanning

/-!
# Bundle texts

A bundle text is written from blocks with text between them. Scanning it gives exactly the blocks
that were written, as long as the text between them ends its lines and opens no region.

## Implementation notes

Text between blocks is given by its bytes, so it may be any text in UTF-8 or no text at all. What
stands behind the last block need not end its last line: no block comes after it.
-/

namespace PemBundle.Pem

open Text

/-- None of the lines of the bytes opens a region. -/
def OpensNone (bytes : List UInt8) : Prop := ∀ line ∈ lines bytes, beginLabel? line = none

/-- Bytes that can stand in front of a block. -/
structure IsSeparator (bytes : List UInt8) : Prop where
  terminated : IsTerminated bytes
  opensNone : OpensNone bytes

instance (bytes : List UInt8) : Decidable (IsSeparator bytes) :=
  decidable_of_iff
    ((bytes = [] ∨ bytes.getLast? = some lineFeed ∨ bytes.getLast? = some carriageReturn) ∧
      ∀ line ∈ lines bytes, beginLabel? line = none)
    ⟨fun ⟨h₁, h₂⟩ => ⟨h₁, h₂⟩, fun ⟨h₁, h₂⟩ => ⟨h₁, h₂⟩⟩

/-- The bytes of a bundle: blocks, each behind its separator, and what follows the last. -/
def bundleBytes (pieces : List (List UInt8 × Block)) (tail : List UInt8) : List UInt8 :=
  pieces.flatMap (fun (separator, block) => separator ++ utf8 block.toPem) ++ tail

@[simp] theorem bundleBytes_nil (tail : List UInt8) : bundleBytes [] tail = tail := rfl

theorem bundleBytes_cons (separator : List UInt8) (block : Block)
    (pieces : List (List UInt8 × Block)) (tail : List UInt8) :
    bundleBytes ((separator, block) :: pieces) tail =
      separator ++ (utf8 block.toPem ++ bundleBytes pieces tail) := by
  simp [bundleBytes]

theorem bundleBytes_append (first second : List (List UInt8 × Block)) (tail : List UInt8) :
    bundleBytes (first ++ second) tail = bundleBytes first (bundleBytes second tail) := by
  simp [bundleBytes]

theorem isSeparator_nil : IsSeparator [] := ⟨Or.inl rfl, by simp [OpensNone]⟩

/-- The lines of a separator stay lines of their own in front of armor. -/
theorem IsSeparator.lines_append {separator : List UInt8} (h : IsSeparator separator)
    {block : Block} (hblock : block.WellFormed) (rest : List UInt8) :
    lines (separator ++ (utf8 block.toPem ++ rest)) =
      lines separator ++ block.armorLines ++ lines rest := by
  have hhead : (utf8 block.toPem ++ rest).head? ≠ some lineFeed := by
    rw [hblock.utf8_toPem]
    simp [Block.armorLines, beginLine, dashes, lineFeed]
  rw [Pem.lines_append h.terminated hhead, hblock.lines_armor, List.append_assoc]

/-- A block behind a separator is given, and the scan goes on after it. -/
theorem IsSeparator.scan_armor_append {separator : List UInt8} (h : IsSeparator separator)
    {block : Block} (hblock : block.WellFormed) (rest : List UInt8) :
    scan (separator ++ (utf8 block.toPem ++ rest)) =
      ⟨block :: (scan rest).blocks, (scan rest).stop⟩ := by
  rw [scan, h.lines_append hblock, scanLines_armor h.opensNone hblock, scan]

/-- The blocks of a bundle are given, and the scan goes on with what follows them. -/
theorem scan_bundleBytes_tail {pieces : List (List UInt8 × Block)}
    (hblocks : ∀ piece ∈ pieces, piece.2.WellFormed)
    (hseparators : ∀ piece ∈ pieces, IsSeparator piece.1) (tail : List UInt8) :
    scan (bundleBytes pieces tail) =
      ⟨pieces.map Prod.snd ++ (scan tail).blocks, (scan tail).stop⟩ := by
  induction pieces with
  | nil => rfl
  | cons piece pieces ih =>
      obtain ⟨separator, block⟩ := piece
      obtain ⟨hblock, hblocks⟩ := List.forall_mem_cons.mp hblocks
      obtain ⟨hseparator, hseparators⟩ := List.forall_mem_cons.mp hseparators
      rw [bundleBytes_cons, IsSeparator.scan_armor_append hseparator hblock, ih hblocks hseparators]
      rfl

/-- The scan of a bundle gives its blocks and nothing is wrong with it. -/
theorem scan_bundleBytes {pieces : List (List UInt8 × Block)} {tail : List UInt8}
    (hblocks : ∀ piece ∈ pieces, piece.2.WellFormed)
    (hseparators : ∀ piece ∈ pieces, IsSeparator piece.1) (htail : OpensNone tail) :
    scan (bundleBytes pieces tail) = ⟨pieces.map Prod.snd, none⟩ := by
  have hnone : scan tail = ⟨[], none⟩ := scanLines_unopened htail
  rw [scan_bundleBytes_tail hblocks hseparators, hnone, List.append_nil]

/-- Reading a bundle undoes writing it: all blocks can be written, the scan of their armor with
separators around it gives them back in order, and it reports nothing. -/
theorem scan_written_bundle (pieces : List (List UInt8 × Block)) (tail : List UInt8)
    (hblocks : ∀ piece ∈ pieces, piece.2.WellFormed)
    (hseparators : ∀ piece ∈ pieces, IsSeparator piece.1) (htail : OpensNone tail) :
    (∀ piece ∈ pieces, piece.2.armor = .ok piece.2.toPem) ∧
      (scan (bundleBytes pieces tail)).blocks = pieces.map Prod.snd ∧
      (scan (bundleBytes pieces tail)).events = [] := by
  rw [scan_bundleBytes hblocks hseparators htail]
  refine ⟨?_, rfl, rfl⟩
  intro piece hmem
  exact (hblocks piece hmem).armor_eq

/-- A stray END line, a bare carriage return and a pair between blocks; a header without name, one
with a name of four dashes, and a label of one space. -/
def oddPieces : List (List UInt8 × Block) := [
  (utf8 "-----END A-----\r", ⟨"A 1", [], [("", "a: b"), ("----", "")]⟩),
  (utf8 "\r\n", ⟨" ", [0xff, 0x00], []⟩)]

theorem scan_written_bundle_odd :
    (∀ piece ∈ oddPieces, piece.2.WellFormed) ∧ (∀ piece ∈ oddPieces, IsSeparator piece.1) ∧
      OpensNone (utf8 "-----BEGIN A") ∧
      (scan (bundleBytes oddPieces (utf8 "-----BEGIN A"))).blocks = oddPieces.map Prod.snd := by
  have hblocks : ∀ piece ∈ oddPieces, piece.2.WellFormed := by decide +kernel
  have hseparators : ∀ piece ∈ oddPieces, IsSeparator piece.1 := by decide +kernel
  have htail : OpensNone (utf8 "-----BEGIN A") := by
    unfold OpensNone
    decide +kernel
  exact ⟨hblocks, hseparators, htail,
    (scan_written_bundle oddPieces _ hblocks hseparators htail).2.1⟩

end PemBundle.Pem
