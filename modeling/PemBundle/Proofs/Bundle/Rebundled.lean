import PemBundle.Proofs.Bundle

/-!
# Bundling credentials again

The texts of credentials that were read from a bundle make up a bundle of the same credentials: the
certificates in the order that the chain order asks for, the private key anywhere among them.
Nothing of what the first bundle held besides is left, and no text takes in its neighbour.
-/

namespace PemBundle

/-- The texts one after the other. -/
def CodeText.join (texts : List CodeText) : CodeText := .ofPoints (texts.flatMap CodeText.points)

theorem CodeText.join_map_unicode (texts : List String) :
    join (texts.map .unicode) = .unicode (String.join texts) := by
  have hpoints : (texts.map CodeText.unicode).flatMap CodeText.points =
      (CodeText.unicode (String.join texts)).points := by
    induction texts with
    | nil => rfl
    | cons text texts ih => simp_all [String.join_cons]
  rw [join, hpoints, ofPoints_points]

namespace ChainOrder

/-- Items with roles, in the order in which they get these roles. -/
def arrange {α : Type} (order : ChainOrder) (roles : Roles α) : List α :=
  match order with
  | .rootLast | .ignore => roles.leaf.toList ++ roles.chain
  | .rootFirst => roles.chain ++ roles.leaf.toList

/-- Items that were arranged by their roles get these roles again. -/
theorem assign_arrange {α : Type} (order : ChainOrder) (items : List α) :
    order.assign (order.arrange (order.assign items)) = order.assign items := by
  cases order with
  | rootLast | ignore => cases items <;> rfl
  | rootFirst =>
      rcases List.eq_nil_or_concat items with rfl | ⟨chain, leaf, rfl⟩
      · rfl
      · simp [assign, arrange]

theorem arrange_map {α β : Type} (order : ChainOrder) (f : α → β) (roles : Roles α) :
    order.arrange ⟨roles.leaf.map f, roles.chain.map f⟩ = (order.arrange roles).map f := by
  cases order <;> cases hleaf : roles.leaf <;> simp [arrange, hleaf]

end ChainOrder

/-- The certificate texts of the credentials, in the order of a bundle. -/
def Credentials.certificateTexts (c : Credentials) (order : ChainOrder) : List CodeText :=
  order.arrange ⟨c.certificate, c.chain⟩

namespace Bundle

open Pem

/-- The blocks of certificates give the certificates. -/
theorem certificatesOf_toBlock (certificates : List X509.Certificate) :
    certificatesOf (certificates.map (·.toBlock)) = certificates := by
  induction certificates with
  | nil => rfl
  | cons certificate rest ih =>
      have hder : X509.Certificate.ofDer certificate.der = .ok certificate :=
        (X509.Certificate.ofDer_eq_ok_iff _ _).mpr rfl
      rw [List.map_cons, ← List.singleton_append, certificatesOf_append, ih]
      simp [certificatesOf, X509.Certificate.toBlock, hder, Except.toOption]

/-- The blocks of a bundle of certificates with a private key block among them. -/
def arrangedBlocks (before : List X509.Certificate) (key : Option Block)
    (after : List X509.Certificate) : List Block :=
  before.map (·.toBlock) ++ key.toList ++ after.map (·.toBlock)

section Arranged

variable {before after : List X509.Certificate} {key : Option Block}

theorem map_toPem_arrangedBlocks :
    (arrangedBlocks before key after).map Block.toPem =
      before.map (·.toPem) ++ (key.map Block.toPem).toList ++ after.map (·.toPem) := by
  rw [arrangedBlocks, List.map_append, List.map_append, List.map_map, List.map_map]
  cases key <;> rfl

theorem forall_mem_arrangedBlocks {property : Block → Prop}
    (hcertificate : ∀ certificate : X509.Certificate, property certificate.toBlock)
    (hkey : ∀ block, key = some block → property block) :
    ∀ block ∈ arrangedBlocks before key after, property block := by
  intro block hblock
  rw [arrangedBlocks, List.mem_append, List.mem_append, List.mem_map, List.mem_map,
    Option.mem_toList] at hblock
  rcases hblock with (⟨certificate, -, rfl⟩ | hblock) | ⟨certificate, -, rfl⟩
  · exact hcertificate certificate
  · exact hkey block hblock
  · exact hcertificate certificate

theorem blockRejection?_toBlock (certificate : X509.Certificate) (index : Nat) :
    blockRejection? certificate.toBlock index = none := by
  simp [blockRejection?, X509.Certificate.toBlock, certificate.accepted]

theorem certificateLabel_ne_of_key {block : Block}
    (h : privateKeyLabels.contains block.label = true) : block.label ≠ certificateLabel := by
  intro hlabel
  rw [hlabel] at h
  exact absurd h (by decide)

theorem firstRejection?_eq_none {blocks : List Block}
    (h : ∀ block ∈ blocks, ∀ index, blockRejection? block index = none) (index : Nat) :
    firstRejection? index blocks = none := by
  induction blocks generalizing index with
  | nil => rfl
  | cons block rest ih =>
      rw [firstRejection?_cons, h block List.mem_cons_self]
      exact ih (fun other hother => h other (List.mem_cons_of_mem _ hother)) (index + 1)

variable (hkey : ∀ block, key = some block → privateKeyLabels.contains block.label = true)
include hkey

theorem firstRejection?_arrangedBlocks :
    firstRejection? 0 (arrangedBlocks before key after) = none := by
  apply firstRejection?_eq_none
  apply forall_mem_arrangedBlocks
  · exact fun certificate index => blockRejection?_toBlock certificate index
  · intro block hblock index
    rw [blockRejection?, if_neg (certificateLabel_ne_of_key (hkey block hblock))]

theorem certificatesOf_arrangedBlocks :
    certificatesOf (arrangedBlocks before key after) = before ++ after := by
  have hnone : certificatesOf key.toList = [] := by
    cases key with
    | none => rfl
    | some block => simp [certificatesOf, certificateLabel_ne_of_key (hkey block rfl)]
  rw [arrangedBlocks, certificatesOf_append, certificatesOf_append, hnone, List.append_nil,
    certificatesOf_toBlock, certificatesOf_toBlock]

theorem lastKey?_arrangedBlocks : lastKey? (arrangedBlocks before key after) = key := by
  have hcertificates (certificates : List X509.Certificate) :
      lastKey? (certificates.map (·.toBlock)) = none := by
    rw [lastKey?, List.getLast?_eq_none_iff, List.filter_eq_nil_iff]
    intro block hblock
    obtain ⟨certificate, -, rfl⟩ := List.mem_map.mp hblock
    exact of_decide_eq_true rfl
  have hlast : lastKey? key.toList = key := by
    cases key with
    | none => rfl
    | some block => simp [lastKey?, List.contains_iff_mem.mp (hkey block rfl)]
  rw [arrangedBlocks, lastKey?_append, lastKey?_append, hcertificates, hcertificates, hlast,
    Option.none_or, Option.or_none]

end Arranged

/-- What is parsed from a bundle of certificates with a private key block among them. -/
theorem value_parse_arranged (order : ChainOrder) (before after : List X509.Certificate)
    {key : Option Block} (hkey : ∀ block, key = some block →
      block.WellFormed ∧ privateKeyLabels.contains block.label = true) :
    (parse order (Text.utf8 (String.join (before.map (·.toPem) ++
      (key.map Block.toPem).toList ++ after.map (·.toPem))))).value =
      .success ⟨(order.assign (before ++ after)).leaf.map fun c => .unicode c.toPem,
        key.map fun block => .unicode block.toPem,
        (order.assign (before ++ after)).chain.map fun c => .unicode c.toPem, none⟩ := by
  have hlabel := fun block hblock => (hkey block hblock).2
  have hwellFormed : ∀ block ∈ arrangedBlocks before key after, block.WellFormed := by
    apply forall_mem_arrangedBlocks
    · exact fun certificate => Block.wellFormed_of_label (by decide) (by decide) certificate.der
    · exact fun block hblock => (hkey block hblock).1
  rw [← map_toPem_arrangedBlocks, value_parse, scan_join_toPem hwellFormed,
    firstRejection?_arrangedBlocks hlabel, Option.elim_none, assemble_withBlocks,
    certificatesOf_arrangedBlocks hlabel, lastKey?_arrangedBlocks hlabel]

/-- Parsing the texts of credentials that were read from a bundle gives the same credentials again,
wherever the private key stands among the certificates. -/
theorem value_parse_rebundled {order : ChainOrder} {data : RawData} {c : Credentials}
    (h : (read order data).run.value = .ok (.success c)) {before after : List CodeText}
    (hsplit : before ++ after = c.certificateTexts order) :
    (read order (.text (.join (before ++ c.privateKey.toList ++ after)))).run.value =
      .ok (.success c) := by
  obtain ⟨octets, -, h⟩ := exists_of_read h
  generalize hblocks : (scan octets).blocks = blocks
  have hc : c = ⟨(order.assign (certificatesOf blocks)).leaf.map fun c => .unicode c.toPem,
      (lastKey? blocks).map fun block => .unicode block.toPem,
      (order.assign (certificatesOf blocks)).chain.map fun c => .unicode c.toPem, none⟩ := by
    rw [value_parse, hblocks] at h
    cases hrejection : firstRejection? 0 blocks with
    | some failure =>
        rw [hrejection] at h
        exact nomatch h
    | none =>
        rw [hrejection, Option.elim_none, assemble_withBlocks] at h
        exact (Outcome.success.inj h).symm
  have hkey : ∀ block, lastKey? blocks = some block →
      block.WellFormed ∧ privateKeyLabels.contains block.label = true := by
    intro block hlast
    obtain ⟨hmem, hlabel⟩ := lastKey?_mem hlast
    exact ⟨wellFormed_of_mem_scan (hblocks ▸ hmem), hlabel⟩
  -- The texts are those of the certificates that have a role, cut at the place of the key.
  have htexts : c.certificateTexts order =
      (order.arrange (order.assign (certificatesOf blocks))).map fun c => .unicode c.toPem := by
    rw [hc, Credentials.certificateTexts, order.arrange_map]
  rw [htexts, eq_comm, List.map_eq_append_iff] at hsplit
  obtain ⟨first, second, harrange, rfl, rfl⟩ := hsplit
  have hparse := value_parse_arranged order first second hkey
  rw [← harrange, order.assign_arrange] at hparse
  have hpieces : first.map (fun c => CodeText.unicode c.toPem) ++ c.privateKey.toList ++
      second.map (fun c => CodeText.unicode c.toPem) =
        (first.map (·.toPem) ++ ((lastKey? blocks).map Block.toPem).toList ++
          second.map (·.toPem)).map CodeText.unicode := by
    rw [hc]
    cases lastKey? blocks <;> simp [Function.comp_def]
  rw [hpieces, CodeText.join_map_unicode, read_of_octets order rfl, Breaking.value_run_lift, hparse,
    hc]

/-- Text in front, a certificate, a key, a block that is passed over, and a certificate with a
header. -/
def mixedPieces : List (List UInt8 × Block) := [
  (Text.utf8 "x\r", ⟨certificateLabel, Credentials.smallDer, []⟩),
  (Text.utf8 "\n", ⟨"EC PRIVATE KEY", [1], [("Proc-Type", "")]⟩),
  ([], ⟨"A", [], []⟩),
  ([], ⟨certificateLabel, Credentials.smallDer, [("a", "b")]⟩)]

/-- The bytes of the mixed bundle. -/
def mixedData : List UInt8 := bundleBytes mixedPieces (Text.utf8 "-----END A-----")

/-- The credentials of the mixed bundle. -/
def mixedCredentials : Credentials :=
  (Contents.empty.withBlocks (mixedPieces.map Prod.snd)).assemble .rootFirst

theorem value_parse_rebundled_mixed :
    (read .rootFirst (.bytes mixedData)).run.value = .ok (.success mixedCredentials) ∧
      mixedCredentials.chain.length = 1 ∧
        (read .rootFirst (.text (.join (mixedCredentials.chain ++
          mixedCredentials.privateKey.toList ++ mixedCredentials.certificate.toList)))).run.value =
            .ok (.success mixedCredentials) := by
  have hscan : scan mixedData = ⟨mixedPieces.map Prod.snd, none⟩ := by
    apply scan_bundleBytes
    · decide +kernel
    · decide +kernel
    · unfold OpensNone
      decide +kernel
  have hparse : (read .rootFirst (.bytes mixedData)).run.value =
      .ok (.success mixedCredentials) := by
    have hrejection : firstRejection? 0 (mixedPieces.map Prod.snd) = none := by decide +kernel
    rw [read_of_octets _ rfl, Breaking.value_run_lift, value_parse, hscan, hrejection]
    rfl
  have hchain : mixedCredentials.chain.length = 1 := by decide +kernel
  exact ⟨hparse, hchain, value_parse_rebundled hparse rfl⟩

end Bundle

end PemBundle
