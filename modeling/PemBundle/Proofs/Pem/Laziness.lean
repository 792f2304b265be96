import PemBundle.Proofs.Pem.Continued
import PemBundle.Proofs.Pem.Single

/-!
# How far a scan goes

A scan that is pulled for some blocks goes as far as the END line of the last of them. What follows
that line, whole or broken, changes neither the blocks nor what is reported, and the scan tells why
it stops only when it is pulled for more blocks than there are. So a text whose first block can be
decoded may go on with anything.
-/

namespace PemBundle.Pem

open Text

/-- The lines give the blocks one after the other and end with the END line of the last. -/
inductive EndsWithBlocks : List Line → List Block → Prop
  | nil : EndsWithBlocks [] []
  | block {junk : List Line} {region : Region} {block : Block} {ls : List Line}
      {blocks : List Block} (unopened : ∀ line ∈ junk, beginLabel? line = none)
      (isRegion : IsRegion region) (unarmored : unarmor region.lines = .ok block)
      (rest : EndsWithBlocks ls blocks) :
      EndsWithBlocks (junk ++ region.lines ++ ls) (block :: blocks)

/-- Pulling the blocks from such lines gives them, whatever follows. -/
theorem EndsWithBlocks.pullLines {ls : List Line} {blocks : List Block}
    (h : EndsWithBlocks ls blocks) (more : List Line) :
    pullLines blocks.length (ls ++ more) = ⟨blocks, none⟩ := by
  induction h with
  | nil => rfl
  | @block junk region block ls blocks unopened isRegion unarmored rest ih =>
      have hpull : pull (junk ++ region.lines ++ ls ++ more) = .block block (ls ++ more) := by
        rw [pull_eq_block_iff]
        refine ⟨region, ?_, unarmored⟩
        rw [nextRegion_eq_region_iff]
        exact ⟨isRegion, junk, unopened, List.append_assoc _ ls more⟩
      rw [List.length_cons, Pem.pullLines, hpull]
      simp only [ih]

/-- Where a pull gives as many blocks as it was asked for, it has read lines that end with them. -/
theorem exists_endsWithBlocks {count : Nat} {ls : List Line}
    (h : (pullLines count ls).blocks.length = count) :
    ∃ read, EndsWithBlocks read (pullLines count ls).blocks ∧ read <+: ls := by
  induction count generalizing ls with
  | zero => exact ⟨[], .nil, List.nil_prefix⟩
  | succ count ih =>
      cases hpull : pull ls with
      | finished =>
          rw [pullLines, hpull] at h
          exact absurd h (Nat.zero_ne_add_one count)
      | stopped stop =>
          rw [pullLines, hpull] at h
          exact absurd h (Nat.zero_ne_add_one count)
      | block block rest =>
          have hlines : pullLines (count + 1) ls =
              ⟨block :: (pullLines count rest).blocks, (pullLines count rest).stop⟩ := by
            rw [pullLines, hpull]
          rw [hlines, List.length_cons, Nat.succ_inj] at h
          obtain ⟨read, hread, hprefix⟩ := ih h
          obtain ⟨region, hnext, hunarmor⟩ := (pull_eq_block_iff ls rest block).mp hpull
          obtain ⟨hregion, junk, hjunk, rfl⟩ := (nextRegion_eq_region_iff ls rest region).mp hnext
          refine ⟨junk ++ region.lines ++ read, ?_, ?_⟩
          · rw [hlines]
            exact .block hjunk hregion hunarmor hread
          · exact (List.prefix_append_right_inj _).mpr hprefix

/-- A pull that gave all blocks it was asked for gives the same on lines that begin with those that
it has read. -/
theorem EndsWithBlocks.pullBlocks_eq {read : List Line} {blocks : List Block}
    (h : EndsWithBlocks read blocks) {data : List UInt8} (hdata : read <+: lines data) :
    pullBlocks blocks.length data = ⟨blocks, none⟩ := by
  obtain ⟨more, hmore⟩ := hdata
  rw [pullBlocks, ← hmore, h.pullLines]

/-! ### The first region -/

/-- A region that comes next is all that pulling one block reads. -/
theorem pullLines_one_append {ls rest : List Line} {region : Region}
    (h : nextRegion ls = .region region rest) (more : List Line) :
    pullLines 1 (ls ++ more) = pullLines 1 ls := by
  have hmore : nextRegion (ls ++ more) = .region region (rest ++ more) := by
    rw [nextRegion_append (by simp [h]), h]
    rfl
  simp only [pullLines, pull, hmore, h]
  cases unarmor region.lines <;> rfl

/-- The bytes end with a whole line, and a first region is closed in them. -/
structure ClosesRegion (head : List UInt8) : Prop where
  terminated : IsTerminated head
  closed : regions (lines head) ≠ []

/-- What follows such bytes does not show when one block is decoded. -/
theorem ClosesRegion.decodeSingle_append {head : List UInt8} (h : ClosesRegion head)
    (suffix : List UInt8) (what : String) (rule : LabelRule) :
    decodeSingle (some (head ++ suffix)) what rule = decodeSingle (some head) what rule := by
  obtain ⟨region, more, hregions⟩ := List.exists_cons_of_ne_nil h.closed
  obtain ⟨rest, hnext, -⟩ := nextRegion_of_regions hregions
  have hne : head ≠ [] := by
    rintro rfl
    exact nomatch hnext
  apply decodeSingle_congr (List.append_ne_nil_of_left_ne_nil hne suffix) hne
  obtain ⟨after, hafter⟩ := h.terminated.lines_prefix suffix
  rw [pullBlocks, pullBlocks, ← hafter, pullLines_one_append hnext]

/-- A region is closed in bytes that can be decoded. -/
theorem closesRegion_of_decodeSingle {data : List UInt8} (hdata : data.getLast? = some lineFeed)
    {what : String} {rule : LabelRule} {block : Block}
    (h : (decodeSingle (some data) what rule).value = .success block) : ClosesRegion data := by
  refine ⟨.inr (.inl hdata), ?_⟩
  intro hnil
  have hhead := (head?_of_decodeSingle h).1
  rw [List.head?_eq_getElem?] at hhead
  obtain ⟨region, hregion, -⟩ := exists_region_of_getElem? hhead
  rw [hnil] at hregion
  exact nomatch hregion

/-! ### Lazy pulls -/

/-- Pulling `count` blocks gives the first blocks of the whole scan. If it gives them all, it has
reported nothing, and it gives the same on every text that begins with the same lines up to the END
line of the last one; what it reports, the whole scan reports where it has come to fewer blocks. So
whatever block is decoded from a text that ends with a line feed is decoded, without a report, from
every text that goes on after it. -/
theorem pullBlocks_lazy (count : Nat) (data : List UInt8) :
    (pullBlocks count data).blocks = (scan data).blocks.take count ∧
      ((pullBlocks count data).blocks.length = count →
        (pullBlocks count data).events = [] ∧
          (∃ read, EndsWithBlocks read (pullBlocks count data).blocks ∧ read <+: lines data) ∧
          ∀ read, EndsWithBlocks read (pullBlocks count data).blocks →
            ∀ other, read <+: lines other → pullBlocks count other = pullBlocks count data) ∧
      ((pullBlocks count data).events ≠ [] →
        (scan data).blocks.length < count ∧ pullBlocks count data = scan data) ∧
      ∀ what rule block, (decodeSingle (some data) what rule).value = .success block →
        (decodeSingle (some data) what rule).events = [] ∧
          (data.getLast? = some lineFeed → ∀ suffix,
            decodeSingle (some (data ++ suffix)) what rule =
              decodeSingle (some data) what rule) := by
  refine ⟨by rw [pullBlocks_eq], ?_, ?_, ?_⟩
  · intro hcount
    have hsame {read : List Line} (hread : EndsWithBlocks read (pullBlocks count data).blocks)
        {other : List UInt8} (hother : read <+: lines other) :
        pullBlocks count other = ⟨(pullBlocks count data).blocks, none⟩ := by
      have hgiven := hread.pullBlocks_eq hother
      rwa [hcount] at hgiven
    obtain ⟨read, hread, hprefix⟩ := exists_endsWithBlocks hcount
    refine ⟨?_, ⟨read, hread, hprefix⟩, ?_⟩
    · rw [hsame hread hprefix]
      rfl
    · intro read' hread' other hother
      rw [hsame hread' hother, ← hsame hread hprefix]
  · intro hevents
    have hlt : (scan data).blocks.length < count := by
      rw [← Nat.not_le]
      intro hle
      rw [pullBlocks_eq, if_pos hle] at hevents
      exact hevents rfl
    refine ⟨hlt, ?_⟩
    rw [pullBlocks_eq, if_neg (Nat.not_le.mpr hlt), List.take_of_length_le hlt.le]
  · intro what rule block h
    constructor
    · rw [decodeSingle_of_head? (head?_of_decodeSingle h).1]
      rfl
    · intro hdata suffix
      exact (closesRegion_of_decodeSingle hdata h).decodeSingle_append suffix what rule

/-- A block behind another line, and a second one that is left open. -/
def halfText : List UInt8 := utf8 "a\r-----BEGIN A-----\nAAAA\n-----END A-----\n-----BEGIN B-----\n"

/-- What breaks the second block, and is no text. -/
def brokenEnd : List UInt8 := utf8 "-----BEGIN A-----" ++ [0xff]

theorem pullBlocks_lazy_half :
    (pullBlocks 1 halfText).blocks = [⟨"A", [0, 0, 0], []⟩] ∧
      (pullBlocks 1 halfText).events = [] ∧
      pullBlocks 1 (halfText ++ brokenEnd) = pullBlocks 1 halfText ∧
      (pullBlocks 2 halfText).events = [.scanStopped (.missingEnd "B")] ∧
      (scan halfText).blocks.length < 2 ∧ pullBlocks 2 halfText = scan halfText ∧
      (decodeSingle (some halfText) "text" .any).value = .success ⟨"A", [0, 0, 0], []⟩ ∧
        decodeSingle (some (halfText ++ brokenEnd)) "text" .any =
          decodeSingle (some halfText) "text" .any := by
  have hscan : scan halfText = ⟨[⟨"A", [0, 0, 0], []⟩], some (.missingEnd "B")⟩ := by
    decide +kernel
  have hprefix : lines halfText <+: lines (halfText ++ brokenEnd) := by decide +kernel
  have hlast : halfText.getLast? = some lineFeed := by decide +kernel
  obtain ⟨hone, hgiven, -, hdecoded⟩ := pullBlocks_lazy 1 halfText
  obtain ⟨-, -, hreported, -⟩ := pullBlocks_lazy 2 halfText
  rw [hscan] at hone
  obtain ⟨hsilent, ⟨read, hread, hdata⟩, hsame⟩ := hgiven (by rw [hone]; rfl)
  have hevents : (pullBlocks 2 halfText).events = [.scanStopped (.missingEnd "B")] := by
    rw [pullBlocks_eq, hscan]
    rfl
  obtain ⟨hfewer, hwhole⟩ := hreported (by rw [hevents]; exact List.cons_ne_nil _ _)
  have hblock : (decodeSingle (some halfText) "text" .any).value =
      .success ⟨"A", [0, 0, 0], []⟩ := by
    rw [decodeSingle_of_head? (by rw [hscan]; rfl)]
    rfl
  exact ⟨hone, hsilent, hsame read hread _ (hdata.trans hprefix), hevents, hfewer, hwhole, hblock,
    (hdecoded "text" .any _ hblock).2 hlast brokenEnd⟩

end PemBundle.Pem
