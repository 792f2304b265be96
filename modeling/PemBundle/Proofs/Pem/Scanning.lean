import PemBundle.Proofs.Pem.Armor

/-!
# Steps of a scan

A scan goes from region to region. Each block that it gives was read from a region of the text, and
the armor of a well-formed block gives that block and leaves the lines after it for the next step.
-/

namespace PemBundle.Pem

/-- A pull gives a block when the next region can be read. -/
theorem pull_eq_block_iff (ls rest : List Line) (block : Block) :
    pull ls = .block block rest ↔
      ∃ region, nextRegion ls = .region region rest ∧ unarmor region.lines = .ok block := by
  rw [pull]
  constructor
  · intro h
    split at h
    · exact nomatch h
    · exact nomatch h
    · exact nomatch h
    · rename_i region after hnext
      split at h
      · rename_i hread
        injection h with hblock hrest
        subst hblock hrest
        exact ⟨region, hnext, hread⟩
      · exact nomatch h
  · rintro ⟨region, hnext, hread⟩
    simp only [hnext, hread]

theorem scanLines_of_block {ls rest : List Line} {block : Block} (h : pull ls = .block block rest) :
    scanLines ls = ⟨block :: (scanLines rest).blocks, (scanLines rest).stop⟩ := by
  rw [scanLines]
  split
  · rename_i hpull
    exact absurd (hpull.symm.trans h) (by simp)
  · rename_i hpull
    exact absurd (hpull.symm.trans h) (by simp)
  · rename_i hpull
    obtain ⟨rfl, rfl⟩ := Pull.block.inj (hpull.symm.trans h)
    rfl

theorem scanLines_of_finished {ls : List Line} (h : pull ls = .finished) :
    scanLines ls = ⟨[], none⟩ := by
  rw [scanLines]
  split
  · rfl
  · rename_i hpull
    exact absurd (hpull.symm.trans h) (by simp)
  · rename_i hpull
    exact absurd (hpull.symm.trans h) (by simp)

theorem scanLines_of_stopped {ls : List Line} {stop : Stop} (h : pull ls = .stopped stop) :
    scanLines ls = ⟨[], some stop⟩ := by
  rw [scanLines]
  split
  · rename_i hpull
    exact absurd (hpull.symm.trans h) (by simp)
  · rename_i hpull
    obtain rfl := Pull.stopped.inj (hpull.symm.trans h)
    rfl
  · rename_i hpull
    exact absurd (hpull.symm.trans h) (by simp)

/-- A scan depends on what the first pull gives, and on nothing else of the lines. -/
theorem scanLines_of_pull_eq {ls other : List Line} (h : pull ls = pull other) :
    scanLines ls = scanLines other := by
  cases hpull : pull other with
  | finished => rw [scanLines_of_finished hpull, scanLines_of_finished (h.trans hpull)]
  | stopped stop => rw [scanLines_of_stopped hpull, scanLines_of_stopped (h.trans hpull)]
  | block block rest => rw [scanLines_of_block hpull, scanLines_of_block (h.trans hpull)]

/-- Lines that open no region are passed over by a scan. -/
theorem scanLines_append_of_unopened {junk : List Line}
    (h : ∀ line ∈ junk, beginLabel? line = none) (ls : List Line) :
    scanLines (junk ++ ls) = scanLines ls := by
  apply scanLines_of_pull_eq
  rw [pull, nextRegion_append_of_unopened h, pull]

/-- Every block of a scan was read from a region whose lines are lines of the text. -/
theorem exists_region_of_mem_scanLines {ls : List Line} {block : Block}
    (h : block ∈ (scanLines ls).blocks) :
    ∃ region, IsRegion region ∧ (∀ line ∈ region.lines, line ∈ ls) ∧
      unarmor region.lines = .ok block := by
  induction ls using scanLines.induct with
  | case1 ls hpull =>
      rw [scanLines_of_finished hpull] at h
      exact absurd h List.not_mem_nil
  | case2 ls stop hpull =>
      rw [scanLines_of_stopped hpull] at h
      exact absurd h List.not_mem_nil
  | case3 ls first rest hpull _ ih =>
      rw [scanLines_of_block hpull, List.mem_cons] at h
      obtain ⟨region, hnext, hread⟩ := (pull_eq_block_iff ls rest first).mp hpull
      obtain ⟨hregion, junk, -, hls⟩ := (nextRegion_eq_region_iff ls rest region).mp hnext
      rcases h with rfl | h
      · refine ⟨region, hregion, ?_, hread⟩
        intro line hline
        rw [hls]
        apply List.mem_append_left
        exact List.mem_append_right junk hline
      · obtain ⟨other, hother, hmem, hreadOther⟩ := ih h
        refine ⟨other, hother, ?_, hreadOther⟩
        intro line hline
        rw [hls]
        apply List.mem_append_right
        exact hmem line hline

theorem nextRegion_eq_finished {ls : List Line} (h : ∀ line ∈ ls, beginLabel? line = none) :
    nextRegion ls = .finished := by
  induction ls with
  | nil => rfl
  | cons line ls ih =>
      have hline := h line List.mem_cons_self
      have hrest : nextRegion ls = .finished := by
        apply ih
        intro other hother
        exact h other (List.mem_cons_of_mem _ hother)
      simpa [nextRegion, hline] using hrest

/-- Lines that open no region hold no block, and nothing is wrong with them. -/
theorem scanLines_unopened {ls : List Line} (h : ∀ line ∈ ls, beginLabel? line = none) :
    scanLines ls = ⟨[], none⟩ := by
  apply scanLines_of_finished
  rw [pull, nextRegion_eq_finished h]

/-- The armor of a well-formed block, after lines that open no region, gives the block; the scan
goes on after it. -/
theorem scanLines_armor {junk : List Line} (hjunk : ∀ line ∈ junk, beginLabel? line = none)
    {block : Block} (hblock : block.WellFormed) (rest : List Line) :
    scanLines (junk ++ block.armorLines ++ rest) =
      ⟨block :: (scanLines rest).blocks, (scanLines rest).stop⟩ := by
  apply scanLines_of_block
  rw [pull_eq_block_iff]
  refine ⟨⟨block.labelBytes, block.armorLines⟩, ?_, hblock.unarmor_armorLines⟩
  rw [nextRegion_eq_region_iff]
  exact ⟨hblock.isRegion, junk, hjunk, rfl⟩

/-- What a scan gives when it is pulled for `count` blocks. -/
theorem pullLines_eq (count : Nat) (ls : List Line) :
    pullLines count ls =
      ⟨(scanLines ls).blocks.take count,
        if count ≤ (scanLines ls).blocks.length then none else (scanLines ls).stop⟩ := by
  induction count generalizing ls with
  | zero => simp [pullLines]
  | succ count ih =>
      rw [pullLines]
      cases hpull : pull ls with
      | finished => simp [scanLines_of_finished hpull]
      | stopped stop => simp [scanLines_of_stopped hpull]
      | block block rest => simp [scanLines_of_block hpull, ih]

/-- What a scan of bytes gives when it is pulled for `count` blocks: the first blocks of the whole
scan, and why that stops if it has fewer. -/
theorem pullBlocks_eq (count : Nat) (data : List UInt8) :
    pullBlocks count data =
      ⟨(scan data).blocks.take count,
        if count ≤ (scan data).blocks.length then none else (scan data).stop⟩ :=
  pullLines_eq count (lines data)

end PemBundle.Pem
