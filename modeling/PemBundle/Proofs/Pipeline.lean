import PemBundle.Pipeline
import PemBundle.Proofs.Bundle
import PemBundle.Proofs.RuntimeCertificate

/-!
# The pipeline on blocks

A pipeline writes the blocks of a bundle as PEM text and decodes this text again. Nothing is lost on
this way: the run-time certificate, or the failure, is what can be read off the list of scanned
blocks.
-/

namespace PemBundle.Pipeline

open PemBundle.Bundle RuntimeCertificate

/-- The run-time certificate of a list of blocks: the first certificate block that is no certificate
decides, then the absence of certificates, then the absence of private keys, then the last private
key block. -/
def ofBlocks (order : ChainOrder) (blocks : List Pem.Block) : Outcome RuntimeCertificate :=
  match firstRejection? 0 blocks with
  | some failure => .failure failure
  | none =>
      if certificateDers blocks = [] then .fail .malformedInput "certificate is empty"
      else
        match lastKey? blocks with
        | none => .fail .malformedInput "private key is empty"
        | some key =>
            let roles := order.assign (certificateDers blocks)
            (keyOutcome key).map fun privateKey => ⟨roles.leaf.toList ++ roles.chain, privateKey⟩

/-- The text of a scanned private key block is decoded to what the block gives. -/
theorem value_decodePrivateKey_toPem {data : List UInt8} {key : Pem.Block}
    (h : lastKey? (Pem.scan data).blocks = some key) :
    (decodePrivateKey (some (.unicode key.toPem))).run.value = .ok (keyOutcome key) := by
  obtain ⟨hmem, hlabel⟩ := lastKey?_mem h
  have hfirst : Pem.firstBlock? key.toPem = some key :=
    Pem.firstBlock?_of_blocks rfl (by rw [(Pem.wellFormed_of_mem_scan hmem).scan_toPem])
  rw [decodePrivateKey_of_firstBlock? hfirst hlabel, Breaking.value_run_lift, value_keyOfBlock]

/-- Exporting the credentials assembled from the blocks of a bundle without a rejected block. -/
theorem value_ofCredentials_assemble (order : ChainOrder) {data : List UInt8}
    (h : firstRejection? 0 (Pem.scan data).blocks = none) :
    (ofCredentials
      ((Contents.empty.withBlocks (Pem.scan data).blocks).assemble order)).run.value =
        .ok (ofBlocks order (Pem.scan data).blocks) := by
  generalize hblocks : (Pem.scan data).blocks = blocks at h ⊢
  have hders := map_der_certificatesOf h
  have hroles := order.assign_map (·.der) (certificatesOf blocks)
  have hempty := order.leaf_assign_eq_none_iff (certificatesOf blocks)
  simp only [ofBlocks, h, ← hders, hroles, List.map_eq_nil_iff]
  rw [assemble_withBlocks]
  cases hleaf : (order.assign (certificatesOf blocks)).leaf with
  | none =>
      rw [if_pos (hempty.mp hleaf)]
      exact value_ofCredentials_of_none rfl
  | some leaf =>
      have hne : certificatesOf blocks ≠ [] := by
        intro hnil
        rw [hempty.mpr hnil] at hleaf
        exact nomatch hleaf
      have hholds := forall₂_holdsCertificate_toPem (order.assign (certificatesOf blocks)).chain
      rw [if_neg hne, value_ofCredentials rfl (holdsCertificate_toPem leaf) hholds]
      cases hlast : lastKey? blocks with
      | none => rfl
      | some key =>
          have hkey := value_decodePrivateKey_toPem (hblocks ▸ hlast)
          exact congrArg (Except.map (Outcome.map _)) hkey

/-- Parsing a bundle of bytes and exporting it does not break off and gives what can be computed on
its blocks. -/
theorem value_ofBundle (order : ChainOrder) (data : List UInt8) :
    (ofBundle order (.bytes data)).run.value = .ok (ofBlocks order (Pem.scan data).blocks) := by
  have hparse : (Bundle.read order (.bytes data)).run.value = .ok (parse order data).value := rfl
  rw [ofBundle, run, Breaking.value_run_bind, hparse, value_parse]
  cases hrejection : firstRejection? 0 (Pem.scan data).blocks with
  | some failure =>
      rw [ofBlocks, hrejection]
      rfl
  | none => exact value_ofCredentials_assemble order hrejection

end PemBundle.Pipeline
