import PemBundle.Proofs.Bundle.Parsed
import PemBundle.Proofs.Credentials.KeyShape
import PemBundle.Proofs.Pem.KeyBodies

/-!
# Parsing bundles with other private keys

What is parsed from a bundle, but for the text of the private key, and all that is reported of it
are functions of the blocks without the bytes of private keys. So bundles with the same blocks but
for these bytes are rejected alike, or give the same credentials but for the key, of which the same
shows.
-/

namespace PemBundle

open Pem

theorem Pem.Block.redacted_of_certificate {block : Block} (h : block.label = certificateLabel) :
    block.redacted = block := by
  apply redacted_of_not_key
  rw [h]
  decide

@[simp] theorem Pem.Block.keyShape_redacted (block : Block) :
    block.redacted.keyShape = block.keyShape := by
  simp [keyShape, RuntimeCertificate.isProtected, header?]

/-- The data is the same, or has the same lines of bytes but for the bodies of private key blocks. -/
inductive RawData.SameButKeys : RawData → RawData → Prop
  | same (data : RawData) : SameButKeys data data
  | octets {data other : RawData} {octets otherOctets : List UInt8}
      (hdata : data.octets = .ok octets) (hother : other.octets = .ok otherOctets)
      (hlines : Pem.SameButKeys (lines octets) (lines otherOctets)) : SameButKeys data other

namespace Bundle

/-! ### Blocks without the bytes of private keys -/

theorem blockRejection?_redacted (block : Block) (index : Nat) :
    blockRejection? block.redacted index = blockRejection? block index := by
  by_cases hlabel : block.label = certificateLabel
  · rw [Block.redacted_of_certificate hlabel]
  · rw [blockRejection?, blockRejection?, block.label_redacted, if_neg hlabel, if_neg hlabel]

theorem firstRejection?_redacted (index : Nat) (blocks : List Block) :
    firstRejection? index (blocks.map Block.redacted) = firstRejection? index blocks := by
  induction blocks generalizing index with
  | nil => rfl
  | cons block rest ih =>
      rw [List.map_cons, firstRejection?_cons, firstRejection?_cons, blockRejection?_redacted, ih]

theorem isAccepted_redacted (block : Block) : isAccepted block.redacted = isAccepted block := by
  rw [isAccepted, isAccepted, blockRejection?_redacted]

theorem skipEvents_redacted (index : Nat) (blocks : List Block) :
    skipEvents index (blocks.map Block.redacted) = skipEvents index blocks := by
  induction blocks generalizing index with
  | nil => rfl
  | cons block rest ih =>
      rw [List.map_cons, skipEvents_cons, skipEvents_cons, ih, isOther, isOther,
        block.label_redacted]

/-- The blocks in front of the first that is not accepted, without the bytes of private keys. -/
theorem takeWhile_isAccepted_redacted (blocks : List Block) :
    (blocks.map Block.redacted).takeWhile isAccepted =
      (blocks.takeWhile isAccepted).map Block.redacted := by
  rw [List.takeWhile_map]
  congr 2
  funext block
  exact isAccepted_redacted block

theorem certificateTexts_redacted (blocks : List Block) :
    certificateTexts (blocks.map Block.redacted) = certificateTexts blocks := by
  induction blocks with
  | nil => rfl
  | cons block rest ih =>
      simp only [certificateTexts, certificateDers] at ih ⊢
      by_cases hlabel : block.label = certificateLabel
      · simp only [List.map_cons, List.filter_cons, Block.redacted_of_certificate hlabel, hlabel,
          decide_true, if_true, ih]
      · simp only [List.map_cons, List.filter_cons, block.label_redacted, hlabel, decide_false,
          Bool.false_eq_true, if_false, ih]

theorem otherCount_redacted (blocks : List Block) :
    otherCount (blocks.map Block.redacted) = otherCount blocks := by
  simp [otherCount, List.countP_map, Function.comp_def]

theorem lastKey?_redacted (blocks : List Block) :
    lastKey? (blocks.map Block.redacted) = (lastKey? blocks).map Block.redacted := by
  simp [lastKey?, List.filter_map, Function.comp_def]

theorem isSome_lastKey?_redacted (blocks : List Block) :
    (lastKey? (blocks.map Block.redacted)).isSome = (lastKey? blocks).isSome := by
  rw [lastKey?_redacted, Option.isSome_map]

/-! ### Two bundles -/

/-- What is read of blocks without the bytes of private keys is the same for blocks that are the
same but for these. -/
theorem eq_of_redacted {β : Type} (read : List Block → β)
    (hread : ∀ blocks, read (blocks.map Block.redacted) = read blocks) {blocks others : List Block}
    (h : blocks.map Block.redacted = others.map Block.redacted) : read blocks = read others := by
  rw [← hread blocks, h, hread others]

theorem map_redacted_lastKey? {blocks others : List Block}
    (h : blocks.map Block.redacted = others.map Block.redacted) :
    (lastKey? blocks).map Block.redacted = (lastKey? others).map Block.redacted := by
  rw [← lastKey?_redacted, h, lastKey?_redacted]

/-- The last private key blocks of two scans that are the same but for the bytes of private keys are
written as texts of which the same shows. -/
theorem sameKeyText_lastKey? {first second : List UInt8}
    (h : (scan first).redacted = (scan second).redacted) :
    SameKeyText ((lastKey? (scan first).blocks).map fun block => .unicode block.toPem)
      ((lastKey? (scan second).blocks).map fun block => .unicode block.toPem) := by
  have hlast := map_redacted_lastKey? (Scan.mk.inj h).1
  have hscanned {data : List UInt8} {block : Block}
      (hblock : lastKey? (scan data).blocks = some block) :
      firstBlock? block.toPem = some block ∧ block.label ∈ privateKeyLabels := by
    obtain ⟨hmem, hlabel⟩ := lastKey?_mem hblock
    have hscan := (wellFormed_of_mem_scan hmem).scan_toPem
    exact ⟨firstBlock?_of_blocks rfl (by rw [hscan]), List.contains_iff_mem.mp hlabel⟩
  cases hfirst : lastKey? (scan first).blocks with
  | none =>
      rw [hfirst, Option.map_none, eq_comm, Option.map_eq_none_iff] at hlast
      rw [hlast]
      exact .same none
  | some block =>
      rw [hfirst, Option.map_some, eq_comm, Option.map_eq_some_iff] at hlast
      obtain ⟨other, hsecond, hredacted⟩ := hlast
      rw [hsecond]
      apply SameKeyText.key (hscanned hfirst).1 (hscanned hsecond).1 (hscanned hfirst).2
      rw [← block.keyShape_redacted, ← hredacted, other.keyShape_redacted]

/-- Parsing bundles whose scans are the same but for the bytes of private keys reports the same and
is refused alike, or gives credentials that are the same but for the key. -/
theorem parse_alike (order : ChainOrder) {first second : List UInt8}
    (h : (scan first).redacted = (scan second).redacted) :
    (parse order first).Alike Credentials.SameButKey (parse order second) := by
  obtain ⟨hblocks, hstop⟩ := Scan.mk.inj h
  have hrejections := eq_of_redacted (firstRejection? 0) (firstRejection?_redacted 0) hblocks
  cases hrejection : firstRejection? 0 (scan second).blocks with
  | some failure =>
      have hskip : skipEvents 0 ((scan first).blocks.takeWhile isAccepted) =
          skipEvents 0 ((scan second).blocks.takeWhile isAccepted) := by
        apply eq_of_redacted (fun blocks => skipEvents 0 (blocks.takeWhile isAccepted)) _ hblocks
        intro blocks
        rw [takeWhile_isAccepted_redacted, skipEvents_redacted]
      rw [parse_of_rejection order hrejection,
        parse_of_rejection order (hrejections.trans hrejection), hskip]
      exact ⟨rfl, .failure failure⟩
  | none =>
      have hskip := eq_of_redacted (skipEvents 0) (skipEvents_redacted 0) hblocks
      have htexts := eq_of_redacted certificateTexts certificateTexts_redacted hblocks
      have hothers := eq_of_redacted otherCount otherCount_redacted hblocks
      have hkeys :=
        eq_of_redacted (fun blocks => (lastKey? blocks).isSome) isSome_lastKey?_redacted hblocks
      rw [parse_of_no_rejection order hrejection,
        parse_of_no_rejection order (hrejections.trans hrejection),
        assemble_eq_texts order hrejection, assemble_eq_texts order (hrejections.trans hrejection),
        hskip, htexts, hothers, hkeys, Scan.events, Scan.events, hstop]
      exact ⟨rfl, .success ⟨rfl, sameKeyText_lastKey? h, rfl, rfl⟩⟩

/-- Reading data that is the same but for the bodies of private key blocks breaks off alike, or
reports the same and is refused alike, or gives credentials that are the same but for the key. -/
theorem read_alike (order : ChainOrder) {data other : RawData} (h : data.SameButKeys other) :
    Breaking.Alike Credentials.SameButKey (read order data) (read order other) := by
  cases h with
  | same => exact .of_eq .refl _
  | octets hdata hother hlines =>
      rw [read_of_octets order hdata, read_of_octets order hother]
      exact (parse_alike order hlines.redacted_scanLines).lift

/-- Written blocks that are the same but for the bytes of private keys make up bundles whose lines
are the same but for the bodies of private key blocks. -/
theorem sameButKeys_bundleOf {blocks others : List Block}
    (hblocks : ∀ block ∈ blocks, block.WellFormed) (hothers : ∀ block ∈ others, block.WellFormed)
    (h : blocks.map Block.redacted = others.map Block.redacted) :
    SameButKeys (lines (bundleOf blocks)) (lines (bundleOf others)) := by
  have hcons {block : Block} (hblock : block.WellFormed) (rest : List Block) :
      lines (bundleOf (block :: rest)) = block.armorLines ++ lines (bundleOf rest) := by
    rw [bundleOf, bundleOf, List.map_cons, Text.utf8_join, Text.utf8_join, List.flatMap_cons,
      hblock.lines_armor]
  induction blocks generalizing others with
  | nil =>
      obtain rfl := List.map_eq_nil_iff.mp h.symm
      exact .refl _
  | cons block blocks ih =>
      rw [List.map_cons, eq_comm, List.map_eq_cons_iff] at h
      obtain ⟨other, others, rfl, hredacted, hrest⟩ := h
      obtain ⟨hblock, hblocks⟩ := List.forall_mem_cons.mp hblocks
      obtain ⟨hother, hothers⟩ := List.forall_mem_cons.mp hothers
      rw [hcons hblock, hcons hother]
      exact .armor hblock hredacted.symm (ih hblocks hothers hrest.symm)

end Bundle

end PemBundle
