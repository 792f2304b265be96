import PemBundle.Proofs.Bundle
import PemBundle.Proofs.Pem.Rearmor

/-!
# What parsing answers and reports

Parsing takes the blocks of a bundle in order and stops at the first certificate block that is no
certificate. So both its answer and its events are functions of the block list: every block that is
passed over before that place is reported, then the rejection; or, where there is no such block, all
that are passed over, why the scan stopped, and how many blocks of each kind there were. Data that is
a text with surrogates has no blocks: reading it breaks off, and nothing is reported.
-/

namespace PemBundle

/-- Roles take up all items in their order, except that ignoring takes the first alone. -/
theorem ChainOrder.assign_items {α : Type} (order : ChainOrder) (items : List α) :
    match order with
    | .rootLast => (order.assign items).leaf.toList ++ (order.assign items).chain = items
    | .rootFirst => (order.assign items).chain ++ (order.assign items).leaf.toList = items
    | .ignore => (order.assign items).leaf = items.head? ∧ (order.assign items).chain = [] := by
  cases order with
  | rootLast => cases items <;> rfl
  | rootFirst =>
      rcases List.eq_nil_or_concat items with rfl | ⟨chain, leaf, rfl⟩
      · rfl
      · simp [assign]
  | ignore => exact ⟨rfl, rfl⟩

/-- Data has no bytes exactly if it is a text with a surrogate. -/
theorem RawData.exists_octets_eq_error_iff (data : RawData) :
    (∃ run, data.octets = .error run) ↔
      ∃ text, data = .text text ∧ ∃ point ∈ text.points, point.isSurrogate = true := by
  cases data with
  | bytes bytes => simp [RawData.octets]
  | text text =>
      cases text with
      | unicode text => simp [RawData.octets, CodeText.utf8, CodePoint.isSurrogate]
      | broken before surrogate after =>
          have hmem : .surrogate surrogate ∈ (CodeText.broken before surrogate after).points :=
            List.mem_append_right _ List.mem_cons_self
          exact ⟨fun _ => ⟨_, rfl, _, hmem, rfl⟩, fun _ => ⟨_, rfl⟩⟩

namespace Bundle

/-- The block is labelled as a certificate, but its bytes are none. -/
def IsInvalid (block : Pem.Block) : Prop :=
  block.label = Pem.certificateLabel ∧ X509.checkCertificate block.der ≠ .ok ()

instance (block : Pem.Block) : Decidable (IsInvalid block) :=
  inferInstanceAs (Decidable (_ ∧ _))

/-- Whether a bundle is not rejected for the block. -/
def isAccepted (block : Pem.Block) : Bool := (blockRejection? block 0).isNone

/-- Whether the block is neither a certificate nor a private key. -/
def isOther (block : Pem.Block) : Bool :=
  block.label ≠ Pem.certificateLabel && !Pem.privateKeyLabels.contains block.label

/-- The events of the blocks that are passed over, where the first block has the given index. -/
def skipEvents (index : Nat) (blocks : List Pem.Block) : List Event :=
  ((blocks.zipIdx index).filter fun (block, _) => isOther block).map fun (block, i) =>
    .blockSkipped block.label i

/-- The PEM texts of the certificates in the certificate blocks, in order. -/
def certificateTexts (blocks : List Pem.Block) : List CodeText :=
  (certificateDers blocks).map fun der => .unicode (Pem.Block.toPem ⟨Pem.certificateLabel, der, []⟩)

/-- How many blocks are private keys. -/
def keyCount (blocks : List Pem.Block) : Nat :=
  blocks.countP (Pem.privateKeyLabels.contains ·.label)

/-! ### Accepted and invalid blocks -/

theorem isSome_blockRejection? (block : Pem.Block) (index : Nat) :
    (blockRejection? block index).isSome = !isAccepted block := by
  rw [isAccepted, blockRejection?, blockRejection?]
  split
  · cases X509.checkCertificate block.der <;> rfl
  · rfl

theorem blockRejection?_eq_none_iff (block : Pem.Block) (index : Nat) :
    blockRejection? block index = none ↔ isAccepted block = true := by
  rw [← Option.not_isSome_iff_eq_none, isSome_blockRejection?, Bool.not_eq_true', Bool.not_eq_false]

/-- A block that is passed over is accepted. -/
theorem isAccepted_of_isOther {block : Pem.Block} (h : isOther block = true) :
    isAccepted block = true := by
  have hlabel : block.label ≠ Pem.certificateLabel := by
    simpa using (Bool.and_eq_true_iff.mp h).1
  rw [isAccepted, blockRejection?, if_neg hlabel]
  rfl

theorem isAccepted_iff (block : Pem.Block) : isAccepted block = true ↔ ¬ IsInvalid block := by
  rw [isAccepted, blockRejection?, IsInvalid]
  split
  · next hlabel => cases hcheck : X509.checkCertificate block.der <;> simp [hlabel]
  · next hlabel => simp [hlabel]

/-- An invalid block is rejected under its index. -/
theorem IsInvalid.exists_blockRejection? {block : Pem.Block} (h : IsInvalid block) (index : Nat) :
    ∃ error, X509.checkCertificate block.der = .error error ∧
      blockRejection? block index = some (rejection index error) := by
  obtain ⟨hlabel, hcheck⟩ := h
  cases hder : X509.checkCertificate block.der with
  | ok _ => exact absurd hder hcheck
  | error error => exact ⟨error, rfl, by rw [blockRejection?, if_pos hlabel, hder]⟩

theorem firstRejection?_eq_none_iff (index : Nat) (blocks : List Pem.Block) :
    firstRejection? index blocks = none ↔ ∀ block ∈ blocks, ¬ IsInvalid block := by
  induction blocks generalizing index with
  | nil => simp [firstRejection?]
  | cons block rest ih =>
      rw [firstRejection?_cons, Option.or_eq_none_iff, blockRejection?_eq_none_iff,
        isAccepted_iff, ih, List.forall_mem_cons]

/-- The first invalid block decides, under its place among all blocks. -/
theorem firstRejection?_append_cons {before : List Pem.Block}
    (hbefore : ∀ block ∈ before, ¬ IsInvalid block) {block : Pem.Block} (hblock : IsInvalid block)
    (after : List Pem.Block) (index : Nat) :
    firstRejection? index (before ++ block :: after) =
      blockRejection? block (index + before.length) := by
  induction before generalizing index with
  | nil =>
      obtain ⟨error, -, hrejection⟩ := hblock.exists_blockRejection? index
      rw [List.nil_append, firstRejection?_cons, hrejection]
      exact hrejection.symm
  | cons first before ih =>
      obtain ⟨hfirst, hbefore⟩ := List.forall_mem_cons.mp hbefore
      have hnone : blockRejection? first index = none :=
        (blockRejection?_eq_none_iff first index).mpr ((isAccepted_iff first).mpr hfirst)
      rw [List.cons_append, firstRejection?_cons, hnone, Option.none_or, ih hbefore,
        List.length_cons, Nat.add_assoc, Nat.add_comm 1]

theorem takeWhile_isAccepted {before : List Pem.Block}
    (hbefore : ∀ block ∈ before, ¬ IsInvalid block) {block : Pem.Block} (hblock : IsInvalid block)
    (after : List Pem.Block) : (before ++ block :: after).takeWhile isAccepted = before := by
  have haccepted : ∀ other ∈ before, isAccepted other = true := by
    intro other hother
    exact (isAccepted_iff other).mpr (hbefore other hother)
  have hstop : ¬ isAccepted block = true := fun h => (isAccepted_iff block).mp h hblock
  rw [List.takeWhile_append_of_pos haccepted, List.takeWhile_cons_of_neg hstop, List.append_nil]

/-! ### Events -/

theorem skipEvents_nil (index : Nat) : skipEvents index [] = [] := rfl

theorem skipEvents_cons (index : Nat) (block : Pem.Block) (rest : List Pem.Block) :
    skipEvents index (block :: rest) =
      (if isOther block then [.blockSkipped block.label index] else []) ++
        skipEvents (index + 1) rest := by
  cases hother : isOther block <;> simp [skipEvents, hother]

/-- Taking a block reports that it is passed over, and nothing else. -/
theorem Contents.events_take (contents : Contents) (index : Nat) (block : Pem.Block) :
    (contents.take index block).events = skipEvents index [block] := by
  rw [skipEvents_cons, take]
  by_cases hlabel : block.label = Pem.certificateLabel
  · have hother : isOther block = false := by simp [isOther, hlabel]
    rw [if_pos hlabel, hother]
    cases X509.Certificate.ofDer block.der <;> rfl
  · by_cases hkey : Pem.privateKeyLabels.contains block.label = true
    · have hother : isOther block = false := by
        simp only [isOther, hkey, Bool.not_true, Bool.and_false]
      rw [if_neg hlabel, if_pos hkey, hother]
      rfl
    · have hother : isOther block = true := by
        simp only [isOther, hlabel, hkey, ne_eq, not_false_eq_true, decide_true, Bool.not_false,
          Bool.and_self]
      rw [if_neg hlabel, if_neg hkey, hother]
      rfl

/-- Taking blocks reports those that are passed over in front of the first that is not accepted. -/
theorem Contents.events_takeAll (contents : Contents) (index : Nat) (blocks : List Pem.Block) :
    (contents.takeAll index blocks).events = skipEvents index (blocks.takeWhile isAccepted) := by
  induction blocks generalizing contents index with
  | nil => rfl
  | cons block rest ih =>
      rw [takeAll, Logged.events_bind, contents.events_take, contents.value_take,
        List.takeWhile_cons, skipEvents_cons index block [], skipEvents_nil, List.append_nil]
      cases hrejection : blockRejection? block index with
      | none =>
          have haccepted := (blockRejection?_eq_none_iff block index).mp hrejection
          rw [if_pos haccepted, skipEvents_cons, ← ih (contents.withBlocks [block]) (index + 1)]
          rfl
      | some failure =>
          have hrejected : ¬ isAccepted block = true := by
            rw [← blockRejection?_eq_none_iff block index, hrejection]
            exact Option.some_ne_none failure
          rw [if_neg hrejected, if_neg (mt isAccepted_of_isOther hrejected)]
          rfl

theorem Contents.value_ofScan (scan : Pem.Scan) :
    (ofScan scan).value = (firstRejection? 0 scan.blocks).elim
      (.success (Contents.empty.withBlocks scan.blocks)) .failure := by
  rw [ofScan, Logged.value_bind, Outcome.value_peekM, Contents.value_takeAll]

/-- A scan is seen to its end if no block is rejected. -/
theorem Contents.events_ofScan (scan : Pem.Scan) :
    (ofScan scan).events = skipEvents 0 (scan.blocks.takeWhile isAccepted) ++
      if (firstRejection? 0 scan.blocks).isNone then scan.events else [] := by
  rw [ofScan, Logged.events_bind, Contents.empty.events_takeAll, Contents.empty.value_takeAll]
  cases firstRejection? 0 scan.blocks with
  | none => rw [Option.elim_none, Outcome.peekM, Logged.events_bind]; simp [Pem.Scan.logged]
  | some failure => rfl

theorem certificateTexts_eq {blocks : List Pem.Block} (h : firstRejection? 0 blocks = none) :
    (certificatesOf blocks).map (fun c => .unicode c.toPem) = certificateTexts blocks := by
  rw [certificateTexts, ← map_der_certificatesOf h, List.map_map]
  rfl

theorem withBlocks_empty (blocks : List Pem.Block) :
    Contents.empty.withBlocks blocks =
      ⟨certificatesOf blocks, lastKey? blocks, otherCount blocks⟩ := by
  simp [Contents.withBlocks, Contents.empty]

/-- All that parsing does where a block is rejected. -/
theorem parse_of_rejection (order : ChainOrder) {data : List UInt8} {failure : Failure}
    (h : firstRejection? 0 (Pem.scan data).blocks = some failure) :
    parse order data = ⟨.failure failure,
      skipEvents 0 ((Pem.scan data).blocks.takeWhile isAccepted) ++
        [.bundleRejected failure.message]⟩ := by
  have hscan : Contents.ofScan (Pem.scan data) = ⟨.failure failure,
      skipEvents 0 ((Pem.scan data).blocks.takeWhile isAccepted)⟩ := by
    ext1
    · rw [Contents.value_ofScan, h]
      rfl
    · rw [Contents.events_ofScan, h]
      exact List.append_nil _
  rw [parse, hscan]
  rfl

/-- All that parsing does where no block is rejected. -/
theorem parse_of_no_rejection (order : ChainOrder) {data : List UInt8}
    (h : firstRejection? 0 (Pem.scan data).blocks = none) :
    parse order data =
      ⟨.success ((Contents.empty.withBlocks (Pem.scan data).blocks).assemble order),
        skipEvents 0 (Pem.scan data).blocks ++ (Pem.scan data).events ++
          [.bundleParsed (certificateTexts (Pem.scan data).blocks).length
            (lastKey? (Pem.scan data).blocks).isSome (otherCount (Pem.scan data).blocks)
              order]⟩ := by
  have haccepted : (Pem.scan data).blocks.takeWhile isAccepted = (Pem.scan data).blocks := by
    rw [List.takeWhile_eq_self_iff]
    intro block hblock
    exact (isAccepted_iff block).mpr ((firstRejection?_eq_none_iff 0 _).mp h block hblock)
  have hscan : Contents.ofScan (Pem.scan data) =
      ⟨.success (Contents.empty.withBlocks (Pem.scan data).blocks),
        skipEvents 0 (Pem.scan data).blocks ++ (Pem.scan data).events⟩ := by
    ext1
    · rw [Contents.value_ofScan, h]
      rfl
    · rw [Contents.events_ofScan, h, haccepted]
      rfl
  have hcount : (certificateTexts (Pem.scan data).blocks).length =
      (certificatesOf (Pem.scan data).blocks).length := by
    rw [← certificateTexts_eq h, List.length_map]
  rw [parse, hscan, hcount, withBlocks_empty]
  rfl

/-! ### The credentials of a bundle -/

/-- What the credentials hold that are parsed from blocks under an order: the texts of all
certificates in their order, of which ignoring keeps the first alone, and the last private key. -/
structure HoldsBlocks (order : ChainOrder) (blocks : List Pem.Block) (c : Credentials) : Prop where
  csr : c.csr = none
  privateKey : c.privateKey = (lastKey? blocks).map fun block => .unicode block.toPem
  certificate : c.certificate = none ↔ certificateTexts blocks = []
  certificates :
    match order with
    | .rootLast => c.certificate.toList ++ c.chain = certificateTexts blocks
    | .rootFirst => c.chain ++ c.certificate.toList = certificateTexts blocks
    | .ignore => c.certificate = (certificateTexts blocks).head? ∧ c.chain = []

/-- The credentials of blocks without a rejected one, by the texts of the certificates. -/
theorem assemble_eq_texts (order : ChainOrder) {blocks : List Pem.Block}
    (h : firstRejection? 0 blocks = none) :
    (Contents.empty.withBlocks blocks).assemble order =
      ⟨(order.assign (certificateTexts blocks)).leaf,
        (lastKey? blocks).map fun block => .unicode block.toPem,
        (order.assign (certificateTexts blocks)).chain, none⟩ := by
  rw [assemble_withBlocks, ← certificateTexts_eq h, order.assign_map]

theorem holdsBlocks_assemble (order : ChainOrder) {blocks : List Pem.Block}
    (h : firstRejection? 0 blocks = none) :
    HoldsBlocks order blocks ((Contents.empty.withBlocks blocks).assemble order) := by
  rw [assemble_eq_texts order h]
  exact {
    csr := rfl
    privateKey := rfl
    certificate := order.leaf_assign_eq_none_iff (certificateTexts blocks)
    certificates := order.assign_items (certificateTexts blocks) }

theorem length_certificateTexts (blocks : List Pem.Block) :
    (certificateTexts blocks).length = blocks.countP (·.label = Pem.certificateLabel) := by
  rw [certificateTexts, List.length_map, certificateDers, List.length_map,
    List.countP_eq_length_filter]

/-- Every block is counted as one of the three kinds. -/
theorem length_eq_counts (blocks : List Pem.Block) :
    (certificateTexts blocks).length + otherCount blocks + keyCount blocks = blocks.length := by
  rw [length_certificateTexts, otherCount, keyCount]
  induction blocks with
  | nil => rfl
  | cons block rest ih =>
      rw [List.countP_cons, List.countP_cons, List.countP_cons, List.length_cons, ← ih]
      -- A certificate block is no private key block, so exactly one of the counts grows.
      by_cases hlabel : block.label = Pem.certificateLabel
      · have hkey : Pem.privateKeyLabels.contains Pem.certificateLabel = false := by decide
        simp only [hlabel, hkey, ne_eq, not_true_eq_false, decide_true, decide_false,
          Bool.false_and, if_true, Bool.false_eq_true, if_false]
        omega
      · cases hkey : Pem.privateKeyLabels.contains block.label <;>
          simp only [hlabel, ne_eq, not_false_eq_true, decide_true, decide_false, Bool.not_true,
            Bool.not_false, Bool.and_true, Bool.and_false, if_true, Bool.false_eq_true, if_false]
        all_goals omega

/-- Parsing fails for invalid certificate blocks alone. -/
theorem isFailure_parse_iff (order : ChainOrder) (data : List UInt8) :
    (parse order data).value.isFailure = true ↔ ∃ block ∈ (Pem.scan data).blocks, IsInvalid block := by
  have hnone := firstRejection?_eq_none_iff 0 (Pem.scan data).blocks
  rw [value_parse]
  cases hrejection : firstRejection? 0 (Pem.scan data).blocks with
  | none => simpa [Outcome.isFailure, Outcome.isSuccess] using hnone.mp hrejection
  | some failure =>
      rw [hrejection] at hnone
      simpa [Outcome.isFailure, Outcome.isSuccess] using hnone

/-- Parsing names the first invalid block under its place, and reports nothing behind it. -/
theorem parse_of_invalid (order : ChainOrder) {data : List UInt8} {before after : List Pem.Block}
    {block : Pem.Block} (hblocks : (Pem.scan data).blocks = before ++ block :: after)
    (hbefore : ∀ other ∈ before, ¬ IsInvalid other) (hblock : IsInvalid block) :
    ∃ error, X509.checkCertificate block.der = .error error ∧
      parse order data = ⟨.failure (rejection before.length error),
        skipEvents 0 before ++ [.bundleRejected (rejection before.length error).message]⟩ := by
  obtain ⟨error, hcheck, hrejection⟩ := hblock.exists_blockRejection? before.length
  have hfirst : firstRejection? 0 (Pem.scan data).blocks =
      some (rejection before.length error) := by
    rw [hblocks, firstRejection?_append_cons hbefore hblock, Nat.zero_add, hrejection]
  refine ⟨error, hcheck, ?_⟩
  rw [parse_of_rejection order hfirst, hblocks, takeWhile_isAccepted hbefore hblock]

/-- What reading does with data. It breaks off for a text with surrogates alone, and then with
nothing reported. Otherwise it reads the blocks of a scan, all of which can be written, and fails for
invalid certificate blocks alone: the first one is named under its place among all blocks, and nothing
behind it is reported. Where there is none, the credentials hold the certificates and the last private
key, and the counts that are reported make up the number of blocks. -/
theorem read_reads_blocks (order : ChainOrder) (data : RawData) :
    ((∃ fault, (read order data).run.value = .error fault) ↔
      ∃ text, data = .text text ∧ ∃ point ∈ text.points, point.isSurrogate = true) ∧
    (∀ run, data.octets = .error run → (read order data).run = ⟨.error (.notUtf8 run), []⟩) ∧
    ∀ octets, data.octets = .ok octets →
      let scan := Pem.scan octets
      (∀ block ∈ scan.blocks, block.armor = .ok block.toPem) ∧
      ((∃ e, (read order data).run.value = .ok (.failure e)) ↔
        ∃ block ∈ scan.blocks, IsInvalid block) ∧
      (∀ before block after, scan.blocks = before ++ block :: after →
        (∀ other ∈ before, ¬ IsInvalid other) → IsInvalid block →
          ∃ error, X509.checkCertificate block.der = .error error ∧
            (read order data).run = ⟨.ok (.failure (rejection before.length error)),
              skipEvents 0 before ++ [.bundleRejected (rejection before.length error).message]⟩) ∧
      ((∀ block ∈ scan.blocks, ¬ IsInvalid block) →
        ∃ c, HoldsBlocks order scan.blocks c ∧
          ∃ certificates skipped,
            (read order data).run = ⟨.ok (.success c), skipEvents 0 scan.blocks ++ scan.events ++
              [.bundleParsed certificates c.privateKey.isSome skipped order]⟩ ∧
            certificates = (certificateTexts scan.blocks).length ∧
            certificates + skipped + keyCount scan.blocks = scan.blocks.length) := by
  have hbroken (run : SurrogateRun) (hrun : data.octets = .error run) :
      (read order data).run = ⟨.error (.notUtf8 run), []⟩ := by
    rw [read_of_run order hrun]
    rfl
  have hread (octets : List UInt8) (hoctets : data.octets = .ok octets) :
      (read order data).run = ⟨.ok (parse order octets).value, (parse order octets).events⟩ := by
    rw [read_of_octets order hoctets, Breaking.run_lift]
  refine ⟨?breaks, hbroken, ?reads⟩
  case breaks =>
    rw [← data.exists_octets_eq_error_iff]
    cases hdata : data.octets with
    | ok octets => simp [hread octets hdata]
    | error run => simp [hbroken run hdata]
  case reads =>
    intro octets hoctets scan
    rw [hread octets hoctets]
    refine ⟨?armored, ?fails, ?rejected, ?parsed⟩
    case armored =>
      intro block hblock
      exact (Pem.wellFormed_of_mem_scan hblock).armor_eq
    case fails =>
      rw [← isFailure_parse_iff order octets]
      cases (parse order octets).value <;> simp [Outcome.isFailure, Outcome.isSuccess]
    case rejected =>
      intro before block after hblocks hbefore hblock
      obtain ⟨error, hcheck, hparse⟩ := parse_of_invalid order hblocks hbefore hblock
      exact ⟨error, hcheck, by rw [hparse]⟩
    case parsed =>
      intro hvalid
      have hnone := (firstRejection?_eq_none_iff 0 scan.blocks).mpr hvalid
      have hholds := holdsBlocks_assemble order hnone
      refine ⟨_, hholds, _, _, ?_, rfl, length_eq_counts scan.blocks⟩
      rw [parse_of_no_rejection order hnone, hholds.privateKey, Option.isSome_map]

/-- A block that is passed over, a key, a certificate, another key, a block labelled as a
certificate that is none, and a block that would be passed over behind it. -/
def spoiledBlocks : List Pem.Block := [
  ⟨"A", [], []⟩, ⟨"PRIVATE KEY", [1], []⟩, ⟨Pem.certificateLabel, Credentials.smallDer, []⟩,
  ⟨"EC PRIVATE KEY", [2], []⟩, ⟨Pem.certificateLabel, [], []⟩, ⟨"B", [], []⟩]

/-- The bundle of blocks without anything between them. -/
def bundleOf (blocks : List Pem.Block) : List UInt8 :=
  Text.utf8 (String.join (blocks.map Pem.Block.toPem))

theorem read_reads_blocks_spoiled :
    (∃ error, (read .rootFirst (.bytes (bundleOf spoiledBlocks))).run =
      ⟨.ok (.failure (rejection 4 error)),
        [.blockSkipped "A" 0, .bundleRejected (rejection 4 error).message]⟩) ∧
    (∃ c, c.chain ++ c.certificate.toList = certificateTexts (spoiledBlocks.take 4) ∧
      c.privateKey = some (.unicode (Pem.Block.toPem ⟨"EC PRIVATE KEY", [2], []⟩)) ∧
        (read .rootFirst (.bytes (bundleOf (spoiledBlocks.take 4)))).run.value =
          .ok (.success c)) ∧
    (read .ignore (.text (.broken ['a'] 1 [.surrogate 2, .char 'b']))).run =
      ⟨.error (.notUtf8 ⟨1, 1, 2⟩), []⟩ := by
  refine ⟨?rejected, ?parsed, ?broken⟩
  case rejected =>
    have hscan : Pem.scan (bundleOf spoiledBlocks) = ⟨spoiledBlocks, none⟩ :=
      Pem.scan_join_toPem (by decide +kernel)
    obtain ⟨error, -, hread⟩ :=
      ((read_reads_blocks .rootFirst (.bytes (bundleOf spoiledBlocks))).2.2 _ rfl).2.2.1
        (spoiledBlocks.take 4) ⟨Pem.certificateLabel, [], []⟩ (spoiledBlocks.drop 5)
        (congrArg Pem.Scan.blocks hscan) (by decide +kernel) (by decide +kernel)
    exact ⟨error, hread⟩
  case parsed =>
    have hscan : Pem.scan (bundleOf (spoiledBlocks.take 4)) = ⟨spoiledBlocks.take 4, none⟩ :=
      Pem.scan_join_toPem (by decide +kernel)
    have hvalid : ∀ block ∈ (Pem.scan (bundleOf (spoiledBlocks.take 4))).blocks,
        ¬ IsInvalid block := by
      rw [hscan]
      decide +kernel
    obtain ⟨c, hholds, _, _, hread, -⟩ :=
      ((read_reads_blocks .rootFirst (.bytes (bundleOf (spoiledBlocks.take 4)))).2.2 _ rfl).2.2.2
        hvalid
    rw [hscan] at hholds
    exact ⟨c, hholds.certificates, hholds.privateKey, congrArg Logged.value hread⟩
  case broken => exact (read_reads_blocks .ignore _).2.1 _ rfl

/-- A text is data like bytes, but one with a surrogate ends in no outcome at all. -/
theorem surrogate_breaks_off :
    (read .rootLast (.text (.broken [] 0 []))).run = ⟨.error (.notUtf8 ⟨0, 0, 1⟩), []⟩ :=
  rfl

end Bundle

end PemBundle
