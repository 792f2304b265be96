import PemBundle.Proofs.Credentials.ExportedKey
import PemBundle.Proofs.Pem.Laziness

/-!
# The checks of an export

An export is a sequence of checks: of the certificate, of every text of the chain in order, and of
the private key. The first one that objects decides what the export ends with: it fails, or it breaks
off where a text without UTF-8 bytes is decoded. If none objects, the export holds the bytes of the
first blocks. Of the bytes of a text, nothing behind the first block is looked at.
-/

namespace PemBundle

/-- No other kind has the label of a kind that can be exported. -/
theorem KeyKind.label_eq_iff {kind : KeyKind} (h : kind = .rsa ∨ kind = .ec)
    (other : KeyKind) : other.label = kind.label ↔ other = kind := by
  rcases h with rfl | rfl
  · cases other <;> decide
  · cases other <;> decide

namespace RuntimeCertificate

open Text

/-- A check of an export. -/
inductive Check
  /-- The text, which messages call `what`, is there and holds a block, and the label of the first
  block is one of `labels`. -/
  | holdsBlock (text : Option CodeText) (what : String) (labels : List String)
  /-- The first block of the text has the label of a kind that can be exported, and no header of it
  says that it is protected by a password. -/
  | isReadable (text : Option CodeText)
  /-- The first block of the text is a key of the kind that its label says. -/
  | holdsKey (text : Option CodeText)

/-- Why a check does not pass. Of a text without a block only the first check does not. -/
def Check.objection? : Check → Option Objection
  | .holdsBlock text what labels =>
      let failure message := some (.failure ⟨.malformedInput, what ++ message, none⟩)
      match (text.getD "").utf8 with
      | .error run => some (.fault (.notUtf8 run))
      | .ok [] => failure " is empty"
      | .ok octets =>
          match (Pem.scan octets).blocks.head? with
          | none => failure " is not valid PEM data"
          | some block =>
              if block.label ∈ labels then none
              else failure (" has unexpected PEM label " ++ Text.quoted block.label)
  | .isReadable text =>
      (text.bind Pem.firstBlock?).bind fun block =>
        if block.label ∈ ["RSA PRIVATE KEY", "EC PRIVATE KEY"] ∧ ¬ isProtected block then none
        else some (.failure (unsupported block.label))
  | .holdsKey text =>
      (text.bind Pem.firstBlock?).bind fun block =>
        let failure fault :=
          some (.failure ⟨.malformedInput, "Failed to parse " ++ block.label ++ " block", some fault⟩)
        match PrivateKey.ofDer block.der with
        | .error e => failure (.key e)
        | .ok key =>
            if key.kind.label = block.label then none
            else failure (.keyMismatch block.label key.kind)

/-- The checks of the texts of a chain; the first one has the number `start`. -/
def chainChecks (start : Nat) (chain : List CodeText) : List Check :=
  (chain.zipIdx start).map fun (text, index) =>
    .holdsBlock (some text) ("chain entry #" ++ toString index) [Pem.certificateLabel]

theorem chainChecks_nil (start : Nat) : chainChecks start [] = [] := rfl

theorem chainChecks_cons (start : Nat) (text : CodeText) (chain : List CodeText) :
    chainChecks start (text :: chain) =
      .holdsBlock (some text) ("chain entry #" ++ toString start) [Pem.certificateLabel] ::
        chainChecks (start + 1) chain := rfl

/-- The checks of a private key. -/
def keyChecks (text : Option CodeText) : List Check :=
  [.holdsBlock text "private key" Pem.privateKeyLabels, .isReadable text, .holdsKey text]

/-- The checks of an export, in order. -/
def checks (c : Credentials) : List Check :=
  .holdsBlock c.certificate "certificate" [Pem.certificateLabel] ::
    (chainChecks 0 c.chain ++ keyChecks c.privateKey)

/-! ### Each check -/

/-- Of a text that holds a block, the label of the first one is checked. -/
theorem Check.objection?_holdsBlock {text : CodeText} {block : Pem.Block}
    (h : Pem.firstBlock? text = some block) (what : String) (labels : List String) :
    (holdsBlock (some text) what labels).objection? =
      if block.label ∈ labels then none
      else
        some (.failure ⟨.malformedInput,
          what ++ (" has unexpected PEM label " ++ Text.quoted block.label), none⟩) := by
  obtain ⟨octets, htext⟩ := Pem.exists_utf8_of_firstBlock? h
  have hhead := (Pem.firstBlock?_of_utf8 htext).symm.trans h
  rw [objection?, Option.getD_some, htext]
  cases octets with
  | nil =>
      rw [Pem.scan_nil] at hhead
      exact nomatch hhead
  | cons b octets => simp only [hhead]

/-- Decoding a single block is its check. -/
theorem decodeRaw_decided (text : Option CodeText) (what : String) (labels : List String) :
    DecidedBy (fun block => text.bind Pem.firstBlock? = some block)
      (Check.holdsBlock text what labels).objection?
      (Pem.decodeRaw (text.map .text) what (.oneOf labels)).run.value := by
  cases text with
  | none => exact .failure _
  | some text =>
      cases htext : text.utf8 with
      | error run =>
          have hcheck : (Check.holdsBlock (some text) what labels).objection? =
              some (.fault (.notUtf8 run)) := by
            rw [Check.objection?, Option.getD_some, htext]
          rw [hcheck, Option.map_some, Pem.decodeRaw_of_run htext]
          exact .fault _
      | ok octets =>
          rw [Option.bind_some, Option.map_some]
          cases hfirst : Pem.firstBlock? text with
          | none =>
              have hblocks : (Pem.scan octets).blocks.head? = none :=
                (Pem.firstBlock?_of_utf8 htext).symm.trans hfirst
              rw [Check.objection?, Option.getD_some, htext, Pem.decodeRaw_text htext,
                Breaking.value_run_lift]
              cases octets with
              | nil => exact .failure _
              | cons b octets =>
                  rw [Pem.value_decodeSingle_of_no_blocks (List.cons_ne_nil b octets)
                    (List.head?_eq_none_iff.mp hblocks)]
                  simp only [hblocks]
                  exact .failure _
          | some block =>
              have hallows : (Pem.LabelRule.oneOf labels).allows block.label = true ↔
                  block.label ∈ labels := List.contains_iff_mem
              rw [Check.objection?_holdsBlock hfirst, Pem.decodeRaw_of_firstBlock? hfirst,
                Breaking.value_run_pure]
              simp only [hallows]
              split
              · exact .success rfl
              · rw [String.append_assoc]
                exact .failure _

theorem decodeCertificate_decided (text : Option CodeText) (what : String) :
    DecidedBy (fun der => (text.bind Pem.firstBlock?).map (·.der) = some der)
      (Check.holdsBlock text what [Pem.certificateLabel]).objection?
      (decodeCertificate text what).run.value := by
  rw [decodeCertificate, Breaking.value_run_bind]
  apply (decodeRaw_decided text what [Pem.certificateLabel]).map
  intro block hblock
  rw [hblock, Option.map_some]

/-- The first check that objects is the first of a list, or of those after it. -/
theorem findSome?_objection?_cons (check : Check) (rest : List Check) :
    (check :: rest).findSome? Check.objection? =
      check.objection?.or (rest.findSome? Check.objection?) := by
  rw [List.findSome?_cons]
  cases check.objection? <;> rfl

/-- The texts of a chain are decoded in order, up to the first to which a check objects. -/
theorem chainSteps_decided (start : Nat) (chain : List CodeText) :
    DecidedBy (fun ders => chain.map (fun text => (Pem.firstBlock? text).map (·.der)) = ders.map some)
      ((chainChecks start chain).findSome? Check.objection?)
      (Outcome.allOfM (chainSteps start chain)).run.value := by
  induction chain generalizing start with
  | nil => exact .success rfl
  | cons text chain ih =>
      rw [chainSteps_cons, chainChecks_cons, findSome?_objection?_cons, Outcome.allOfM]
      apply (decodeCertificate_decided _ _).bindM
      intro der hder
      rw [Breaking.value_run_bind]
      apply (ih (start + 1)).map
      intro ders hders
      rw [List.map_cons, List.map_cons, hders, ← hder, Option.bind_some]

/-- The bytes of a block that can be exported are a key if their check passes. -/
theorem read_decided {text : Option CodeText} {block : Pem.Block}
    (h : text.bind Pem.firstBlock? = some block) {kind : KeyKind} (hkind : kind = .rsa ∨ kind = .ec)
    (hlabel : block.label = kind.label) :
    DecidedBy (fun key => PrivateKey.ofDer block.der = .ok key)
      (Check.holdsKey text).objection? (.ok (keyOutcome.read block kind)) := by
  rw [Check.objection?, h, Option.bind_some, keyOutcome.read]
  cases PrivateKey.ofDer block.der with
  | error e => exact .failure _
  | ok key =>
      simp only [hlabel, KeyKind.label_eq_iff hkind]
      split
      · exact .success rfl
      · rw [keyOutcome.unread, hlabel]
        exact .failure _

/-- A key block is read if the checks of its label and headers and of its bytes pass. -/
theorem keyOutcome_decided {text : Option CodeText} {block : Pem.Block}
    (h : text.bind Pem.firstBlock? = some block) :
    DecidedBy (fun key => PrivateKey.ofDer block.der = .ok key)
      ((Check.isReadable text).objection?.or (Check.holdsKey text).objection?)
      (.ok (keyOutcome block)) := by
  have hobjection : (Check.isReadable text).objection? =
      if block.label ∈ ["RSA PRIVATE KEY", "EC PRIVATE KEY"] ∧ ¬ isProtected block then none
      else some (.failure (unsupported block.label)) := by
    rw [Check.objection?, h, Option.bind_some]
  rw [hobjection, keyOutcome]
  by_cases hrsa : block.label = "RSA PRIVATE KEY" ∧ ¬ isProtected block
  · rw [if_pos hrsa, if_pos ⟨by simp [hrsa.1], hrsa.2⟩, Option.none_or]
    exact read_decided h (.inl rfl) hrsa.1
  · rw [if_neg hrsa]
    by_cases hec : block.label = "EC PRIVATE KEY" ∧ ¬ isProtected block
    · rw [if_pos hec, if_pos ⟨by simp [hec.1], hec.2⟩, Option.none_or]
      exact read_decided h (.inr rfl) hec.1
    · rw [if_neg hec, if_neg]
      · exact .failure _
      · rintro ⟨hlabel, hprotected⟩
        rw [List.mem_cons, List.mem_singleton] at hlabel
        rcases hlabel with hlabel | hlabel
        · exact hrsa ⟨hlabel, hprotected⟩
        · exact hec ⟨hlabel, hprotected⟩

theorem decodePrivateKey_decided (text : Option CodeText) :
    DecidedBy
      (fun key => ∃ block, text.bind Pem.firstBlock? = some block ∧
        PrivateKey.ofDer block.der = .ok key)
      ((keyChecks text).findSome? Check.objection?) (decodePrivateKey text).run.value := by
  rw [decodePrivateKey, keyChecks, findSome?_objection?_cons, findSome?_objection?_cons,
    findSome?_objection?_cons, List.findSome?_nil, Option.or_none]
  apply (decodeRaw_decided text "private key" Pem.privateKeyLabels).bindM
  intro block hblock
  rw [Breaking.value_run_lift, value_keyOfBlock]
  apply (keyOutcome_decided hblock).imp
  intro key hkey
  exact ⟨block, hblock, hkey⟩

/-- What an export of the credentials holds: the bytes of the first blocks of the certificate and of
the texts of the chain, in this order, and the key that the first block of the private key is. -/
structure HoldsFirstBlocks (c : Credentials) (runtime : RuntimeCertificate) : Prop where
  certificates : (c.certificate :: c.chain.map some).map
    (fun text => (text.bind Pem.firstBlock?).map (·.der)) = runtime.chain.map some
  privateKey : ∃ block, c.privateKey.bind Pem.firstBlock? = some block ∧
    PrivateKey.ofDer block.der = .ok runtime.privateKey

/-- An export is decided by its checks. -/
theorem ofCredentials_decided (c : Credentials) :
    DecidedBy (HoldsFirstBlocks c) ((checks c).findSome? Check.objection?)
      (ofCredentials c).run.value := by
  rw [ofCredentials, checks, findSome?_objection?_cons, List.findSome?_append]
  apply (decodeCertificate_decided c.certificate "certificate").bindM
  intro leaf hleaf
  rw [decodeChain_eq]
  apply (chainSteps_decided 0 c.chain).bindM
  intro ders hders
  rw [Breaking.value_run_bind]
  simp only [Breaking.value_run_peekM]
  apply (decodePrivateKey_decided c.privateKey).map
  intro key hkey
  refine ⟨?_, hkey⟩
  rw [List.map_cons, List.map_cons, hleaf, ← hders, List.map_map]
  rfl

namespace HoldsFirstBlocks

variable {c : Credentials} {runtime : RuntimeCertificate} (h : HoldsFirstBlocks c runtime)
include h

theorem length_chain : runtime.chain.length = 1 + c.chain.length := by
  have hlength := congrArg List.length h.certificates
  rw [List.length_map, List.length_map, List.length_cons, List.length_map] at hlength
  rw [← hlength, Nat.add_comm]

/-- A certificate of the export is the first block of its text. -/
theorem exists_block {i : Nat} {text : Option CodeText}
    (htext : (c.certificate :: c.chain.map some)[i]? = some text) :
    ∃ block, text.bind Pem.firstBlock? = some block ∧ runtime.chain[i]? = some block.der := by
  have hitem := congrArg (·[i]?) h.certificates
  simp only [List.getElem?_map, htext, Option.map_some] at hitem
  obtain ⟨der, hder, hblock⟩ := Option.map_eq_some_iff.mp hitem.symm
  obtain ⟨block, hfirst, hsame⟩ := Option.map_eq_some_iff.mp hblock.symm
  exact ⟨block, hfirst, hder.trans (congrArg some hsame.symm)⟩

end HoldsFirstBlocks

/-! ### Texts that start alike -/

/-- The texts are the same, or what their bytes share ends with a whole line and closes a first
region. -/
inductive SameStart : CodeText → CodeText → Prop
  | same (text : CodeText) : SameStart text text
  | head {text other : CodeText} {head suffix otherSuffix : List UInt8}
      (closes : Pem.ClosesRegion head) (htext : text.utf8 = .ok (head ++ suffix))
      (hother : other.utf8 = .ok (head ++ otherSuffix)) : SameStart text other

/-- The texts that an export reads start alike. -/
structure SameStarts (c d : Credentials) : Prop where
  certificate : Option.Rel SameStart c.certificate d.certificate
  chain : List.Forall₂ SameStart c.chain d.chain
  privateKey : Option.Rel SameStart c.privateKey d.privateKey

theorem decodeRaw_eq_of_rel {text other : Option CodeText} (h : Option.Rel SameStart text other)
    (what : String) (rule : Pem.LabelRule) :
    Pem.decodeRaw (text.map .text) what rule = Pem.decodeRaw (other.map .text) what rule := by
  cases h with
  | none => rfl
  | some h =>
      cases h with
      | same => rfl
      | head closes htext hother =>
          rw [Option.map_some, Option.map_some, Pem.decodeRaw_text htext, Pem.decodeRaw_text hother,
            closes.decodeSingle_append, closes.decodeSingle_append]

theorem chainSteps_eq_of_forall₂ {chain other : List CodeText}
    (h : List.Forall₂ SameStart chain other) (start : Nat) :
    chainSteps start chain = chainSteps start other := by
  induction h generalizing start with
  | nil => rfl
  | cons hhead _ ih =>
      rw [chainSteps_cons, chainSteps_cons, ih, decodeCertificate, decodeCertificate,
        decodeRaw_eq_of_rel (.some hhead)]

/-- What follows the first blocks of the texts does not show in an export. -/
theorem SameStarts.ofCredentials_eq {c d : Credentials} (h : SameStarts c d) :
    ofCredentials c = ofCredentials d := by
  rw [ofCredentials, ofCredentials, decodeCertificate, decodeCertificate, decodeChain_eq,
    decodeChain_eq, decodePrivateKey, decodePrivateKey, decodeRaw_eq_of_rel h.certificate,
    chainSteps_eq_of_forall₂ h.chain, decodeRaw_eq_of_rel h.privateKey]

/-! ### Exports -/

/-- An export fails, or breaks off, as the first of its checks objects, and succeeds if none does.
Then it holds the bytes of the first block of the certificate and of each text of the chain, in
order, and the key of the first block of the private key. Credentials whose texts start alike up to
the end of their first blocks have the same export. -/
theorem ofCredentials_checked (c : Credentials) :
    (∀ e, (ofCredentials c).run.value = .ok (.failure e) ↔
      (checks c).findSome? Check.objection? = some (.failure e)) ∧
    (∀ fault, (ofCredentials c).run.value = .error fault ↔
      (checks c).findSome? Check.objection? = some (.fault fault)) ∧
    ((∃ runtime, (ofCredentials c).run.value = .ok (.success runtime)) ↔
      ∀ check ∈ checks c, check.objection? = none) ∧
    (∀ runtime, (ofCredentials c).run.value = .ok (.success runtime) →
      runtime.chain.length = 1 + c.chain.length ∧
        (∃ block, c.certificate.bind Pem.firstBlock? = some block ∧
          runtime.chain[0]? = some block.der) ∧
        (∀ i text, c.chain[i]? = some text →
          ∃ block, Pem.firstBlock? text = some block ∧ runtime.chain[i + 1]? = some block.der) ∧
        ∃ block, c.privateKey.bind Pem.firstBlock? = some block ∧
          PrivateKey.ofDer block.der = .ok runtime.privateKey) ∧
    ∀ d, SameStarts c d → ofCredentials c = ofCredentials d := by
  have hdecided := ofCredentials_decided c
  refine ⟨hdecided.eq_failure_iff, hdecided.eq_error_iff, ?_, ?_, fun d h => h.ofCredentials_eq⟩
  · rw [hdecided.exists_eq_success_iff, List.findSome?_eq_none_iff]
  · intro runtime hruntime
    have hholds := hdecided.of_success hruntime
    refine ⟨hholds.length_chain, hholds.exists_block rfl, ?_, hholds.privateKey⟩
    intro i text htext
    have hitem : (c.certificate :: c.chain.map some)[i + 1]? = some (some text) := by
      rw [List.getElem?_cons_succ, List.getElem?_map, htext, Option.map_some]
    exact hholds.exists_block hitem

/-- A certificate block behind another line. -/
def leafText : String := "a\n-----BEGIN CERTIFICATE-----\nAAAA\n-----END CERTIFICATE-----\n"

/-- The block of a small key with two prime factors. -/
def smallKeyText : String :=
  Pem.Block.toPem ⟨"RSA PRIVATE KEY", (PrivateKey.rsa Credentials.smallRsa).toDer .traditional, []⟩

/-- Credentials without a key, and with a key in their chain. -/
def unexportable : Credentials :=
  ⟨some leafText, none, [.unicode leafText, .unicode smallKeyText, ""], none⟩

/-- Credentials with all that an export needs. -/
def exportable : Credentials :=
  ⟨some leafText, some smallKeyText, [.unicode leafText], some (.unicode "")⟩

theorem ofCredentials_checked_small :
    (ofCredentials unexportable).run.value = .ok (.failure ⟨.malformedInput,
      "chain entry #1 has unexpected PEM label 'RSA PRIVATE KEY'", none⟩) ∧
    (∃ runtime, (ofCredentials exportable).run.value = .ok (.success runtime) ∧
      runtime.chain.length = 2 ∧ runtime.chain[1]? = some [0, 0, 0]) ∧
    ofCredentials exportable =
      ofCredentials { exportable with certificate := some (leafText ++ "-----BEGIN A-----") } := by
  have hleaf : Pem.firstBlock? leafText = some ⟨"CERTIFICATE", [0, 0, 0], []⟩ := by decide +kernel
  have hkey : Pem.firstBlock? smallKeyText = some ⟨"RSA PRIVATE KEY",
      (PrivateKey.rsa Credentials.smallRsa).toDer .traditional, []⟩ := by
    have hblock : Pem.Block.WellFormed ⟨"RSA PRIVATE KEY",
        (PrivateKey.rsa Credentials.smallRsa).toDer .traditional, []⟩ :=
      Pem.Block.wellFormed_of_label (by decide) (by decide) _
    apply Pem.firstBlock?_of_blocks rfl
    rw [smallKeyText, hblock.scan_toPem]
  have hder : PrivateKey.ofDer ((PrivateKey.rsa Credentials.smallRsa).toDer .traditional) =
      .ok (.rsa Credentials.smallRsa) := by decide +kernel
  have hmessage : "chain entry #" ++ toString 1 ++ (" has unexpected PEM label " ++
      Text.quoted "RSA PRIVATE KEY") =
        "chain entry #1 has unexpected PEM label 'RSA PRIVATE KEY'" := by decide +kernel
  refine ⟨?_, ?_, ?_⟩
  · rw [(ofCredentials_checked unexportable).1, checks, unexportable, chainChecks_cons,
      chainChecks_cons, findSome?_objection?_cons, List.findSome?_append, findSome?_objection?_cons,
      findSome?_objection?_cons, Check.objection?_holdsBlock hleaf,
      Check.objection?_holdsBlock hleaf, Check.objection?_holdsBlock hkey, hmessage]
    rfl
  · have hpass : ∀ check ∈ checks exportable, check.objection? = none := by
      have hreadable : (Check.isReadable (some smallKeyText)).objection? = none := by
        rw [Check.objection?, Option.bind_some, hkey]
        decide +kernel
      have hkind : (Check.holdsKey (some smallKeyText)).objection? = none := by
        simp only [Check.objection?, Option.bind_some, hkey, hder]
        rfl
      simp only [checks, exportable, chainChecks_cons, chainChecks_nil, keyChecks,
        List.forall_mem_cons, List.cons_append, List.nil_append,
        Check.objection?_holdsBlock hleaf, Check.objection?_holdsBlock hkey]
      exact ⟨rfl, rfl, rfl, hreadable, hkind, List.forall_mem_nil _⟩
    obtain ⟨runtime, hruntime⟩ := (ofCredentials_checked exportable).2.2.1.mpr hpass
    obtain ⟨hlength, -, hchain, -⟩ := (ofCredentials_checked exportable).2.2.2.1 runtime hruntime
    obtain ⟨block, hblock, hder⟩ := hchain 0 leafText rfl
    obtain rfl := Option.some.inj (hleaf.symm.trans hblock)
    exact ⟨runtime, hruntime, hlength, hder⟩
  · apply (ofCredentials_checked exportable).2.2.2.2
    have hcloses : Pem.ClosesRegion (utf8 leafText) :=
      ⟨.inr (.inl (by decide +kernel)), by decide +kernel⟩
    have hleafBytes : utf8 leafText ++ [] = utf8 leafText := List.append_nil _
    have hlonger : utf8 (leafText ++ "-----BEGIN A-----") =
        utf8 leafText ++ utf8 "-----BEGIN A-----" := by decide +kernel
    exact ⟨.some (.head hcloses (congrArg Except.ok hleafBytes.symm) (congrArg Except.ok hlonger)),
      .cons (.same _) .nil, .some (.same _)⟩

/-- Saved credentials can hold a surrogate, and then their export breaks off, even where the
surrogate stands behind a first block that ends with a whole line. -/
theorem surrogate_breaks_export_off :
    (∃ c, Credentials.ofJson "\x7b\"Certificate\": \"\\ud800\"\x7d" = .success c ∧
      (ofCredentials c).run = ⟨.error (.notUtf8 ⟨0, 0, 1⟩), []⟩) ∧
    (ofCredentials { exportable with
      certificate := some (.broken leafText.toList 0 []) }).run =
        ⟨.error (.notUtf8 ⟨0, leafText.length, 1⟩), []⟩ := by
  constructor
  · let lone : Credentials := ⟨some (.broken [] 0 []), none, [], none⟩
    have htext : lone.toJson = "\x7b\"Certificate\": \"\\ud800\"\x7d" := by decide +kernel
    refine ⟨lone, ?_, rfl⟩
    rw [← htext, Credentials.ofJson_toJson (by decide)]
    rfl
  · rfl

end RuntimeCertificate

end PemBundle
