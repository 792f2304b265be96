import PemBundle.Bundle
import PemBundle.Proofs.Credentials
import PemBundle.Proofs.Outcome

/-!
# What a bundle holds

The contents of a bundle are functions of its block list. Without a certificate block that is no
certificate they are the certificates of all certificate blocks in order, the last private key
block, and the number of other blocks; otherwise the first such block decides the outcome.
-/

namespace PemBundle

/-- Assigning roles to changed items changes the items in their roles. -/
theorem ChainOrder.assign_map {α β : Type} (order : ChainOrder) (f : α → β) (items : List α) :
    order.assign (items.map f) =
      ⟨(order.assign items).leaf.map f, (order.assign items).chain.map f⟩ := by
  cases order <;> simp [assign, List.map_tail, List.map_dropLast]

/-- There is an end entity's item as soon as there is any item. -/
theorem ChainOrder.leaf_assign_eq_none_iff {α : Type} (order : ChainOrder) (items : List α) :
    (order.assign items).leaf = none ↔ items = [] := by
  cases order <;> simp [assign]

namespace Bundle

/-- The bytes of the certificate blocks, in order. -/
def certificateDers (blocks : List Pem.Block) : List (List UInt8) :=
  (blocks.filter (·.label = Pem.certificateLabel)).map (·.der)

/-- The last private key block. -/
def lastKey? (blocks : List Pem.Block) : Option Pem.Block :=
  (blocks.filter (Pem.privateKeyLabels.contains ·.label)).getLast?

/-- How many blocks are neither certificates nor private keys. -/
def otherCount (blocks : List Pem.Block) : Nat :=
  blocks.countP fun block =>
    block.label ≠ Pem.certificateLabel && !Pem.privateKeyLabels.contains block.label

/-- The certificates of the certificate blocks, in order. -/
def certificatesOf (blocks : List Pem.Block) : List X509.Certificate :=
  blocks.filterMap fun block =>
    if block.label = Pem.certificateLabel then (X509.Certificate.ofDer block.der).toOption
    else none

/-- The failure of a block at the given index, if it is a certificate block that is no
certificate. -/
def blockRejection? (block : Pem.Block) (index : Nat) : Option Failure :=
  if block.label = Pem.certificateLabel then
    match X509.checkCertificate block.der with
    | .ok () => none
    | .error e => some (rejection index e)
  else none

/-- The failure of the first certificate block that is no certificate, where the first of the blocks
has the given index. -/
def firstRejection? (index : Nat) (blocks : List Pem.Block) : Option Failure :=
  (blocks.zipIdx index).findSome? fun (block, i) => blockRejection? block i

/-- The contents after the blocks have been taken too. -/
def Contents.withBlocks (contents : Contents) (blocks : List Pem.Block) : Contents :=
  ⟨contents.certificates ++ certificatesOf blocks, (lastKey? blocks).or contents.privateKey,
    contents.skipped + otherCount blocks⟩

theorem firstRejection?_cons (index : Nat) (block : Pem.Block) (rest : List Pem.Block) :
    firstRejection? index (block :: rest) =
      (blockRejection? block index).or (firstRejection? (index + 1) rest) := by
  simp only [firstRejection?, List.zipIdx_cons, List.findSome?_cons]
  cases blockRejection? block index <;> rfl

theorem certificatesOf_append (first second : List Pem.Block) :
    certificatesOf (first ++ second) = certificatesOf first ++ certificatesOf second :=
  List.filterMap_append

theorem lastKey?_append (first second : List Pem.Block) :
    lastKey? (first ++ second) = (lastKey? second).or (lastKey? first) := by
  rw [lastKey?, List.filter_append, List.getLast?_append]
  rfl

theorem otherCount_append (first second : List Pem.Block) :
    otherCount (first ++ second) = otherCount first + otherCount second :=
  List.countP_append

theorem lastKey?_mem {blocks : List Pem.Block} {block : Pem.Block}
    (h : lastKey? blocks = some block) :
    block ∈ blocks ∧ Pem.privateKeyLabels.contains block.label = true :=
  List.mem_filter.mp (List.mem_of_getLast? h)

theorem Contents.withBlocks_nil (contents : Contents) : contents.withBlocks [] = contents := by
  simp [withBlocks, certificatesOf, lastKey?, otherCount]

/-- Blocks can be taken in two parts. -/
theorem Contents.withBlocks_append (contents : Contents) (first second : List Pem.Block) :
    contents.withBlocks (first ++ second) = (contents.withBlocks first).withBlocks second := by
  simp only [withBlocks, certificatesOf_append, lastKey?_append, otherCount_append,
    Option.or_assoc, List.append_assoc, Nat.add_assoc]

theorem Contents.withBlocks_certificate (contents : Contents) {block : Pem.Block}
    (hlabel : block.label = Pem.certificateLabel) {certificate : X509.Certificate}
    (hder : X509.Certificate.ofDer block.der = .ok certificate) :
    contents.withBlocks [block] =
      { contents with certificates := contents.certificates ++ [certificate] } := by
  have hkey : Pem.certificateLabel ∉ Pem.privateKeyLabels := by decide
  simp [withBlocks, certificatesOf, lastKey?, otherCount, hlabel, hder, hkey, Except.toOption]

theorem Contents.withBlocks_key (contents : Contents) {block : Pem.Block}
    (hlabel : block.label ≠ Pem.certificateLabel)
    (hkey : Pem.privateKeyLabels.contains block.label = true) :
    contents.withBlocks [block] = { contents with privateKey := some block } := by
  simp [withBlocks, certificatesOf, lastKey?, otherCount, hlabel, List.contains_iff_mem.mp hkey]

theorem Contents.withBlocks_other (contents : Contents) {block : Pem.Block}
    (hlabel : block.label ≠ Pem.certificateLabel)
    (hkey : ¬ Pem.privateKeyLabels.contains block.label = true) :
    contents.withBlocks [block] = { contents with skipped := contents.skipped + 1 } := by
  have hmem : block.label ∉ Pem.privateKeyLabels := mt List.contains_iff_mem.mpr hkey
  simp [withBlocks, certificatesOf, lastKey?, otherCount, hlabel, hmem]

/-- Taking one block adds it to the contents, unless it is rejected. -/
theorem Contents.value_take (contents : Contents) (index : Nat) (block : Pem.Block) :
    (contents.take index block).value =
      (blockRejection? block index).elim (.success (contents.withBlocks [block])) .failure := by
  rw [take, blockRejection?]
  split
  · next hlabel =>
    cases hder : X509.Certificate.ofDer block.der with
    | error e =>
        rw [(X509.Certificate.ofDer_eq_error_iff block.der e).mp hder]
        rfl
    | ok certificate =>
        have hcheck : X509.checkCertificate block.der = .ok () :=
          (X509.Certificate.ofDer_eq_ok_iff block.der certificate).mp hder ▸ certificate.accepted
        rw [hcheck, contents.withBlocks_certificate hlabel hder]
        rfl
  · next hlabel =>
    split
    · next hkey =>
      rw [contents.withBlocks_key hlabel hkey]
      rfl
    · next hkey =>
      rw [contents.withBlocks_other hlabel hkey]
      rfl

/-- Taking blocks one after the other adds them all to the contents, unless one is rejected. -/
theorem Contents.value_takeAll (contents : Contents) (index : Nat) (blocks : List Pem.Block) :
    (contents.takeAll index blocks).value =
      (firstRejection? index blocks).elim (.success (contents.withBlocks blocks)) .failure := by
  induction blocks generalizing contents index with
  | nil =>
      rw [contents.withBlocks_nil]
      rfl
  | cons block rest ih =>
      have htogether : contents.withBlocks (block :: rest) =
          (contents.withBlocks [block]).withBlocks rest := contents.withBlocks_append [block] rest
      rw [takeAll, Logged.value_bind, Outcome.value_bindM, contents.value_take,
        firstRejection?_cons, htogether]
      cases blockRejection? block index with
      | some failure => rfl
      | none => exact ih (contents.withBlocks [block]) (index + 1)

/-- What parsing gives: the failure of the first rejected block, or the credentials assembled from
the certificates and the last private key block. -/
theorem value_parse (order : ChainOrder) (data : List UInt8) :
    (parse order data).value =
      (firstRejection? 0 (Pem.scan data).blocks).elim
        (.success ((Contents.empty.withBlocks (Pem.scan data).blocks).assemble order))
        .failure := by
  have htake := Contents.empty.value_takeAll 0 (Pem.scan data).blocks
  have hscan : (Contents.ofScan (Pem.scan data)).value =
      (Contents.empty.takeAll 0 (Pem.scan data).blocks).value := by
    rw [Contents.ofScan, Logged.value_bind, Outcome.value_peekM]
  rw [parse, Logged.value_bind, hscan, htake]
  cases firstRejection? 0 (Pem.scan data).blocks <;> rfl

/-- What is parsed depends on the blocks of the scan alone. -/
theorem value_parse_of_blocks_eq (order : ChainOrder) {first second : List UInt8}
    (h : (Pem.scan first).blocks = (Pem.scan second).blocks) :
    (parse order first).value = (parse order second).value := by
  rw [value_parse, value_parse, h]

/-- Data with bytes is parsed as these. -/
theorem read_of_octets (order : ChainOrder) {data : RawData} {octets : List UInt8}
    (h : data.octets = .ok octets) : read order data = liftM (parse order octets) := by
  rw [read, Breaking.encode_of_octets h, pure_bind]

/-- Data without bytes breaks off before anything is scanned. -/
theorem read_of_run (order : ChainOrder) {data : RawData} {run : SurrogateRun}
    (h : data.octets = .error run) : read order data = throw (.notUtf8 run) := by
  rw [read, Breaking.encode_of_run h]
  rfl

/-- What is read is parsed from the bytes of the data. -/
theorem exists_of_read {order : ChainOrder} {data : RawData} {outcome : Outcome Credentials}
    (h : (read order data).run.value = .ok outcome) :
    ∃ octets, data.octets = .ok octets ∧ (parse order octets).value = outcome := by
  cases hdata : data.octets with
  | ok octets =>
      rw [read_of_octets order hdata] at h
      exact ⟨octets, rfl, Except.ok.inj h⟩
  | error run =>
      rw [read_of_run order hdata] at h
      exact nomatch h

/-- The credentials of blocks without a rejected one. -/
theorem assemble_withBlocks (order : ChainOrder) (blocks : List Pem.Block) :
    (Contents.empty.withBlocks blocks).assemble order =
      ⟨(order.assign (certificatesOf blocks)).leaf.map fun c => .unicode c.toPem,
        (lastKey? blocks).map fun block => .unicode block.toPem,
        (order.assign (certificatesOf blocks)).chain.map fun c => .unicode c.toPem, none⟩ := by
  simp [Contents.assemble, Contents.withBlocks, Contents.empty]

/-- Without a rejected block, every certificate block gives a certificate of its bytes. -/
theorem map_der_certificatesOf {index : Nat} {blocks : List Pem.Block}
    (h : firstRejection? index blocks = none) :
    (certificatesOf blocks).map (·.der) = certificateDers blocks := by
  induction blocks generalizing index with
  | nil => rfl
  | cons block rest ih =>
      rw [firstRejection?_cons, Option.or_eq_none_iff] at h
      obtain ⟨hblock, hrest⟩ := h
      have hders := ih hrest
      rw [certificateDers] at hders ⊢
      by_cases hlabel : block.label = Pem.certificateLabel
      · have hcheck : X509.checkCertificate block.der = .ok () := by
          rw [blockRejection?, if_pos hlabel] at hblock
          split at hblock
          · assumption
          · exact nomatch hblock
        obtain ⟨certificate, hder⟩ := X509.Certificate.exists_ofDer_eq_ok hcheck
        simp [certificatesOf, hlabel, hder, Except.toOption, ← hders,
          X509.Certificate.der_of_ofDer hder]
      · simp [certificatesOf, hlabel, ← hders]

end Bundle

end PemBundle
