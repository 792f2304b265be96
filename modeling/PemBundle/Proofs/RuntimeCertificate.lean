import PemBundle.Proofs.Credentials
import PemBundle.Proofs.Outcome
import PemBundle.RuntimeCertificate

/-!
# Exporting texts that hold blocks

Once the first block of every text is known, an export is known: texts that hold certificates give
their bytes, and the text that holds a private key block gives what this block gives.
-/

namespace PemBundle.RuntimeCertificate

/-- The first block of the text is a certificate block of these bytes. -/
def HoldsCertificate (text : CodeText) (der : List UInt8) : Prop :=
  ∃ block, Pem.firstBlock? text = some block ∧ block.label = Pem.certificateLabel ∧ block.der = der

theorem holdsCertificate_toPem (certificate : X509.Certificate) :
    HoldsCertificate certificate.toPem certificate.der :=
  ⟨certificate.toBlock, Pem.firstBlock?_of_blocks rfl (by rw [certificate.scan_toPem]), rfl, rfl⟩

theorem forall₂_holdsCertificate_toPem (certificates : List X509.Certificate) :
    List.Forall₂ HoldsCertificate (certificates.map fun certificate => .unicode certificate.toPem)
      (certificates.map (·.der)) := by
  rw [List.forall₂_map_left_iff, List.forall₂_map_right_iff, List.forall₂_same]
  intro certificate _
  exact holdsCertificate_toPem certificate

theorem decodeCertificate_of_holds {text : CodeText} {der : List UInt8}
    (h : HoldsCertificate text der) (what : String) :
    decodeCertificate (some text) what = pure (.success der) := by
  obtain ⟨block, hfirst, hlabel, rfl⟩ := h
  have hallowed : (Pem.LabelRule.oneOf [Pem.certificateLabel]).allows block.label = true := by
    rw [hlabel]
    decide
  rw [decodeCertificate, Option.map_some, Pem.decodeRaw_of_firstBlock? hfirst, if_pos hallowed,
    pure_bind, Outcome.map_success]

/-- The decoding of the texts of a chain, one by one; the first one has the number `start`. -/
def chainSteps (start : Nat) (chain : List CodeText) :
    List (Breaking (Outcome (List UInt8))) :=
  (chain.zipIdx start).map fun (text, index) =>
    decodeCertificate (some text) ("chain entry #" ++ toString index)

theorem chainSteps_cons (start : Nat) (text : CodeText) (chain : List CodeText) :
    chainSteps start (text :: chain) =
      decodeCertificate (some text) ("chain entry #" ++ toString start) ::
        chainSteps (start + 1) chain := rfl

theorem decodeChain_eq (chain : List CodeText) :
    decodeChain chain = Outcome.allOfM (chainSteps 0 chain) := rfl

/-- The texts of a chain are decoded one by one. -/
theorem decodeChain_of_holds {chain : List CodeText} {ders : List (List UInt8)}
    (h : List.Forall₂ HoldsCertificate chain ders) :
    decodeChain chain = pure (.success ders) := by
  have hfrom : ∀ start : Nat,
      Outcome.allOfM (chainSteps start chain) = pure (.success ders) := by
    induction h with
    | nil => exact fun _ => rfl
    | cons hhead _ ih =>
        intro start
        simp only [chainSteps_cons, Outcome.allOfM, decodeCertificate_of_holds hhead, pure_bind,
          Outcome.bindM_success, ih (start + 1), Outcome.map_success]
  exact hfrom 0

theorem decodePrivateKey_of_firstBlock? {text : CodeText} {block : Pem.Block}
    (h : Pem.firstBlock? text = some block)
    (hlabel : Pem.privateKeyLabels.contains block.label = true) :
    decodePrivateKey (some text) = liftM (keyOfBlock block) := by
  have hallowed : (Pem.LabelRule.oneOf Pem.privateKeyLabels).allows block.label = true := hlabel
  rw [decodePrivateKey, Option.map_some, Pem.decodeRaw_of_firstBlock? h, if_pos hallowed,
    pure_bind, Outcome.bindM_success]

/-- What a private key block gives a run-time certificate: a key if the label names the structure of
a kind, no header says that the block is protected, and the bytes are a key of this kind. -/
def keyOutcome (block : Pem.Block) : Outcome PrivateKey :=
  if block.label = "RSA PRIVATE KEY" ∧ ¬ isProtected block then read .rsa
  else if block.label = "EC PRIVATE KEY" ∧ ¬ isProtected block then read .ec
  else
    .fail .unsupportedKey
      ("Private key block " ++ Text.quoted block.label ++ " cannot be converted to a runtime key")
where
  /-- The key of the kind, or the failure of a block that holds none. -/
  read (kind : KeyKind) : Outcome PrivateKey :=
    match PrivateKey.ofDer block.der with
    | .error e => unread (.key e)
    | .ok key =>
        if key.kind = kind then .success key else unread (.keyMismatch block.label key.kind)
  /-- The failure of a block whose bytes are no key of the kind. -/
  unread (fault : Fault) : Outcome PrivateKey :=
    .failure ⟨.malformedInput, "Failed to parse " ++ block.label ++ " block", some fault⟩

theorem keyOutcome.read_eq (block : Pem.Block) (kind : KeyKind) :
    read block kind =
      .ofExcept .malformedInput ("Failed to parse " ++ block.label ++ " block")
        (readKey block.label kind block.der) := by
  rw [read, readKey]
  cases PrivateKey.ofDer block.der with
  | error e => rfl
  | ok key =>
      simp only
      split <;> rfl

theorem value_keyOfBlock (block : Pem.Block) : (keyOfBlock block).value = keyOutcome block := by
  have hkind : exportableKind? block.label =
      if block.label = "EC PRIVATE KEY" then some .ec
      else if block.label = "RSA PRIVATE KEY" then some .rsa
      else none := rfl
  rw [keyOfBlock, keyOutcome]
  cases hprotected : isProtected block with
  | true =>
      simp only [not_true, and_false, if_false]
      cases exportableKind? block.label <;> rfl
  | false =>
      rw [hkind]
      by_cases hrsa : block.label = "RSA PRIVATE KEY"
      · simp [hrsa, keyOutcome.read_eq]
      · by_cases hec : block.label = "EC PRIVATE KEY"
        · simp [hec, keyOutcome.read_eq]
        · simp [hrsa, hec]

theorem value_ofCredentials_of_none {c : Credentials} (h : c.certificate = none) :
    (ofCredentials c).run.value = .ok (.fail .malformedInput "certificate is empty") := by
  rw [ofCredentials, h]
  rfl

/-- With a certificate in its text and in the texts of the chain, only the private key can make an
export fail. -/
theorem value_ofCredentials {c : Credentials} {text : CodeText} {leaf : List UInt8}
    {ders : List (List UInt8)} (htext : c.certificate = some text)
    (hleaf : HoldsCertificate text leaf) (hchain : List.Forall₂ HoldsCertificate c.chain ders) :
    (ofCredentials c).run.value =
      (decodePrivateKey c.privateKey).run.value.map
        (Outcome.map fun key => ⟨leaf :: ders, key⟩) := by
  rw [ofCredentials, htext, decodeCertificate_of_holds hleaf, pure_bind, Outcome.bindM_success,
    decodeChain_of_holds hchain, pure_bind, Outcome.bindM_success, Breaking.value_run_bind]
  simp only [Breaking.value_run_peekM]
  rfl

end PemBundle.RuntimeCertificate
