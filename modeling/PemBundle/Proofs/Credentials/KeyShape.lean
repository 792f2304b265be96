import PemBundle.Proofs.Credentials.Canonical
import PemBundle.Proofs.Credentials.StoredKey
import PemBundle.Proofs.RuntimeCertificate

/-!
# Credentials with another private key

Of a private key block, only the label and whether it is protected show before its bytes are read.
Credentials whose keys agree in this stay so whatever is added to them, and keys of the same kind
that are stored under passwords of which both or none are empty agree in it. Storing and exporting
report the same for them, as long as they end alike.
-/

namespace PemBundle

open RuntimeCertificate

/-- What shows of a private key block without its bytes: its label and whether it is protected. -/
def Pem.Block.keyShape (block : Pem.Block) : String × Bool := (block.label, isProtected block)

/-- The texts are the same, or both hold a private key block first, of which the same shows. -/
inductive SameKeyText : Option CodeText → Option CodeText → Prop
  | same (text : Option CodeText) : SameKeyText text text
  | key {text other : CodeText} {block otherBlock : Pem.Block}
      (hblock : Pem.firstBlock? text = some block)
      (hother : Pem.firstBlock? other = some otherBlock)
      (hlabel : block.label ∈ Pem.privateKeyLabels)
      (hshape : block.keyShape = otherBlock.keyShape) :
      SameKeyText (some text) (some other)

/-- The credentials are the same but for the private key. -/
structure Credentials.SameButKey (c d : Credentials) : Prop where
  certificate : c.certificate = d.certificate
  privateKey : SameKeyText c.privateKey d.privateKey
  chain : c.chain = d.chain
  csr : c.csr = d.csr

theorem Credentials.SameButKey.refl (c : Credentials) : c.SameButKey c :=
  ⟨rfl, .same c.privateKey, rfl, rfl⟩

/-! ### Storing a key -/

/-- The passwords are the same, or both are absent, bytes or a text, not too long, and both or none
of them are empty. -/
inductive Password.SameEmptiness : Option Password → Option Password → Prop
  | same (password : Option Password) : SameEmptiness password password
  | octets {password other : Option Password} {octets otherOctets : List UInt8}
      (hoctets : octets? password = some octets) (hother : octets? other = some otherOctets)
      (hlength : octets.length ≤ maxPasswordLength)
      (hotherLength : otherOctets.length ≤ maxPasswordLength)
      (hempty : octets.isEmpty = otherOctets.isEmpty) : SameEmptiness password other

namespace Password

/-- A password counts as given if it is not empty. -/
theorem isSome_nonVoid? {password : Option Password} {octets : List UInt8}
    (h : octets? password = some octets) : (nonVoid? password).isSome = !octets.isEmpty := by
  cases password with
  | none =>
      obtain rfl := Option.some.inj h
      rfl
  | some password =>
      rw [nonVoid?, Option.isSome_filter, Option.any_some]
      cases password with
      | bytes bs =>
          obtain rfl : bs = octets := Option.some.inj h
          rfl
      | value value =>
          cases value with
          | text text =>
              cases text with
              | unicode text =>
                  obtain rfl : Text.utf8 text = octets := Option.some.inj h
                  have hvoid : (CodeText.unicode text == .unicode "") = (text == "") := by
                    rw [Bool.eq_iff_iff, beq_iff_eq, beq_iff_eq, CodeText.unicode.injEq]
                  rw [Text.isEmpty_utf8, ← hvoid]
                  rfl
              | broken before surrogate after => cases h
          | null | bool | int | decimal | list | object => cases h

namespace SameEmptiness

variable {password other : Option Password}

theorem isSome_nonVoid? (h : SameEmptiness password other) :
    (nonVoid? password).isSome = (nonVoid? other).isSome := by
  cases h with
  | same => rfl
  | octets hoctets hother _ _ hempty =>
      rw [Password.isSome_nonVoid? hoctets, Password.isSome_nonVoid? hother, hempty]

/-- The encoder refuses both passwords for the same reason, or takes both for bytes that are both
empty or both not, and both too long or both not. -/
theorem passwordBytes (h : SameEmptiness password other) :
    (∃ e, KeyEncoder.passwordBytes (nonVoid? password) = .error e ∧
      KeyEncoder.passwordBytes (nonVoid? other) = .error e) ∨
    ∃ octets otherOctets, KeyEncoder.passwordBytes (nonVoid? password) = .ok octets ∧
      KeyEncoder.passwordBytes (nonVoid? other) = .ok otherOctets ∧
      octets.isEmpty = otherOctets.isEmpty ∧
      (maxPasswordLength < octets.length ↔ maxPasswordLength < otherOctets.length) := by
  cases h with
  | same =>
      cases hbytes : KeyEncoder.passwordBytes (nonVoid? password) with
      | error e => exact .inl ⟨e, rfl, rfl⟩
      | ok octets => exact .inr ⟨octets, octets, rfl, rfl, rfl, Iff.rfl⟩
  | octets hoctets hother hlength hotherLength hempty =>
      exact .inr ⟨_, _, KeyEncoder.passwordBytes_nonVoid? hoctets,
        KeyEncoder.passwordBytes_nonVoid? hother, hempty,
        iff_of_false (Nat.not_lt.mpr hlength) (Nat.not_lt.mpr hotherLength)⟩

end SameEmptiness

end Password

/-- What shows of a written key: its kind, the form, and whether there is a password. -/
theorem PrivateKey.keyShape_toBlock {key other : PrivateKey} (hkind : key.kind = other.kind)
    (form : KeyForm) (protection otherProtection : Protection) {octets otherOctets : List UInt8}
    (hempty : octets.isEmpty = otherOctets.isEmpty) :
    (key.toBlock form protection octets).keyShape =
      (other.toBlock form otherProtection otherOctets).keyShape := by
  cases form with
  | traditional | wrapped =>
      simp only [toBlock, hempty, hkind]
      split <;> simp only [Pem.Block.keyShape, isProtected_headers, isProtected_of_no_headers]

theorem firstBlock?_toBlock (key : PrivateKey) (form : KeyForm) (protection : Protection)
    (octets : List UInt8) :
    Pem.firstBlock? (key.toBlock form protection octets).toPem =
      some (key.toBlock form protection octets) :=
  Pem.firstBlock?_of_blocks rfl
    (by rw [(key.wellFormed_toBlock form protection octets).scan_toPem])

namespace KeyEncoder

/-- Keys of the same kind are written in the same way and with the same event, or refused for the
same reason. -/
theorem encodeBlock_alike (protection otherProtection : Protection) {key other : PrivateKey}
    (hkind : key.kind = other.kind) {password otherPassword : Option Password}
    (hpassword : Password.SameEmptiness password otherPassword) (format : CodeText) :
    (∃ e, encodeBlock protection (some key) (Password.nonVoid? password) format = .error e ∧
      encodeBlock otherProtection (some other) (Password.nonVoid? otherPassword) format =
        .error e) ∨
    ∃ form octets otherOctets event, octets.isEmpty = otherOctets.isEmpty ∧
      encodeBlock protection (some key) (Password.nonVoid? password) format =
        .ok (key.toBlock form protection octets, event) ∧
      encodeBlock otherProtection (some other) (Password.nonVoid? otherPassword) format =
        .ok (other.toBlock form otherProtection otherOctets, event) := by
  rcases hpassword.passwordBytes with
    ⟨e, he, hother⟩ | ⟨octets, otherOctets, hoctets, hother, hempty, hlong⟩
  · exact .inl ⟨e, by rw [encodeBlock, he]; rfl, by rw [encodeBlock, hother]; rfl⟩
  · simp only [encodeBlock, hoctets, hother, formOf, hkind, hempty, bind, Except.bind]
    cases KeyForm.choose? other.kind format (!otherOctets.isEmpty) with
    | none => exact .inl ⟨_, rfl, rfl⟩
    | some form =>
        by_cases hotherLong : maxPasswordLength < otherOctets.length
        · simp only [hlong.mpr hotherLong, hotherLong, if_true]
          exact .inl ⟨_, rfl, rfl⟩
        · simp only [mt hlong.mp hotherLong, hotherLong, if_false]
          exact .inr ⟨form, octets, otherOctets, _, hempty, rfl, by rw [hkind]; rfl⟩

end KeyEncoder

namespace Credentials

variable {key other : PrivateKey} {password otherPassword : Option Password}

/-- Keys of the same kind are stored as texts of which the same shows, with the same events, or
refused alike. -/
theorem encodeForStorage_alike (protection otherProtection : Protection)
    (hkind : key.kind = other.kind) (hpassword : Password.SameEmptiness password otherPassword)
    (format : Option CodeText) :
    Logged.Alike (fun text otherText => SameKeyText (some text) (some otherText))
      (encodeForStorage (KeyEncoder.standard protection) key password format)
      (encodeForStorage (KeyEncoder.standard otherProtection) other otherPassword format) := by
  rw [encodeForStorage, encodeForStorage, KeyEncoder.standard, KeyEncoder.standard]
  rcases KeyEncoder.encodeBlock_alike protection otherProtection hkind hpassword
      ((some (format.getD "")).getD "") with
    ⟨e, he, hother⟩ | ⟨form, octets, otherOctets, event, hempty, hblock, hother⟩
  · rw [he, hother, Option.map_some, Option.map_some, hkind]
    exact ⟨rfl, .failure _⟩
  · rw [hblock, hother]
    refine ⟨rfl, .success ?_⟩
    exact .key (firstBlock?_toBlock key form protection octets)
      (firstBlock?_toBlock other form otherProtection otherOctets)
      (key.label_toBlock_mem form protection octets)
      (PrivateKey.keyShape_toBlock hkind form protection otherProtection hempty)

/-- Credentials built with a key each, of the same kind. -/
theorem build_alike (protection otherProtection : Protection)
    (certificate : Option X509.Certificate) {key other : Option PrivateKey}
    (hkind : key.map PrivateKey.kind = other.map PrivateKey.kind)
    (hpassword : Password.SameEmptiness password otherPassword) (format : Option CodeText) :
    Logged.Alike SameButKey
      (build (KeyEncoder.standard protection) certificate key password format)
      (build (KeyEncoder.standard otherProtection) certificate other otherPassword format) := by
  cases key with
  | none =>
      obtain rfl : other = none := by simpa using hkind.symm
      exact ⟨rfl, .success (.refl _)⟩
  | some key =>
      obtain ⟨other, rfl, hsame⟩ := Option.map_eq_some_iff.mp hkind.symm
      apply (encodeForStorage_alike protection otherProtection hsame.symm hpassword format).bind
      rintro _ _ (htext | e)
      · exact ⟨rfl, .success ⟨rfl, htext, rfl, rfl⟩⟩
      · exact ⟨rfl, .failure e⟩

end Credentials

/-! ### Adding to credentials -/

namespace SameKeyText

variable {text other : Option CodeText}

theorem isPresent_eq (h : SameKeyText text other) :
    Credentials.isPresent text = Credentials.isPresent other := by
  cases h with
  | same => rfl
  | key hblock hother _ _ =>
      exact (bne_iff_ne.mpr (Pem.ne_empty_of_firstBlock? hblock)).trans
        (bne_iff_ne.mpr (Pem.ne_empty_of_firstBlock? hother)).symm

theorem canonicalText (h : SameKeyText text other) :
    SameKeyText (Credentials.canonicalText text) (Credentials.canonicalText other) := by
  cases h with
  | same => exact .same _
  | key hblock hother hlabel hshape =>
      have hsame {text : CodeText} {block : Pem.Block} (h : Pem.firstBlock? text = some block) :
          Credentials.canonicalText (some text) = some text := by
        rw [Credentials.canonicalText_eq_self_iff]
        simpa using Pem.ne_empty_of_firstBlock? h
      rw [hsame hblock, hsame hother]
      exact .key hblock hother hlabel hshape

/-- A text that holds a block has no surrogates that pair. -/
theorem rejoined (h : SameKeyText text other) :
    SameKeyText (text.map CodeText.rejoined) (other.map CodeText.rejoined) := by
  cases h with
  | same => exact .same _
  | @key text other _ _ hblock hother hlabel hshape =>
      have hsame {text : CodeText} {block : Pem.Block} (h : Pem.firstBlock? text = some block) :
          text.rejoined = text := by
        obtain ⟨octets, hoctets⟩ := Pem.exists_utf8_of_firstBlock? h
        exact CodeText.rejoined_of_isJoined (CodeText.isJoined_of_utf8 hoctets)
      rw [Option.map_some, Option.map_some, hsame hblock, hsame hother]
      exact .key hblock hother hlabel hshape

end SameKeyText

namespace Credentials.SameButKey

variable {c d : Credentials}

theorem hasPrivateKey_eq (h : c.SameButKey d) : c.hasPrivateKey = d.hasPrivateKey :=
  h.privateKey.isPresent_eq

theorem hasCsr_eq (h : c.SameButKey d) : c.hasCsr = d.hasCsr := by rw [hasCsr, hasCsr, h.csr]

theorem canonical (h : c.SameButKey d) : c.canonical.SameButKey d.canonical where
  certificate := congrArg canonicalText h.certificate
  privateKey := h.privateKey.canonicalText
  chain := h.chain
  csr := congrArg canonicalText h.csr

theorem rejoined (h : c.SameButKey d) : c.rejoined.SameButKey d.rejoined where
  certificate := congrArg (Option.map CodeText.rejoined) h.certificate
  privateKey := h.privateKey.rejoined
  chain := congrArg (List.map CodeText.rejoined) h.chain
  csr := congrArg (Option.map CodeText.rejoined) h.csr

/-- A key of the same kind is added to both, or refused by both alike. -/
theorem addPrivateKey (h : c.SameButKey d) (protection otherProtection : Protection)
    {key other : Option PrivateKey} (hkind : key.map PrivateKey.kind = other.map PrivateKey.kind)
    {password otherPassword : Option Password}
    (hpassword : Password.SameEmptiness password otherPassword) (format : Option CodeText) :
    Logged.Alike SameButKey
      (c.addPrivateKey (KeyEncoder.standard protection) key password format)
      (d.addPrivateKey (KeyEncoder.standard otherProtection) other otherPassword format) := by
  unfold Credentials.addPrivateKey
  rw [h.hasPrivateKey_eq]
  split
  · exact ⟨rfl, .failure _⟩
  · cases key with
    | none =>
        obtain rfl : other = none := by simpa using hkind.symm
        exact ⟨rfl, .failure _⟩
    | some key =>
        obtain ⟨other, rfl, hsame⟩ := Option.map_eq_some_iff.mp hkind.symm
        apply (encodeForStorage_alike protection otherProtection hsame.symm hpassword format).bind
        rintro _ _ (htext | e)
        · refine ⟨?_, .success ⟨h.certificate, htext, h.chain, h.csr⟩⟩
          rw [hpassword.isSome_nonVoid?]
          rfl
        · exact ⟨rfl, .failure e⟩

theorem addChainElement (h : c.SameButKey d) (certificate : Option X509.Certificate) :
    (c.addChainElement certificate).Alike SameButKey (d.addChainElement certificate) := by
  rw [Credentials.addChainElement, Credentials.addChainElement]
  cases certificate with
  | none => exact .failure _
  | some certificate =>
      exact .success ⟨h.certificate, h.privateKey, congrArg (· ++ [.unicode certificate.toPem]) h.chain,
        h.csr⟩

theorem addCsr (h : c.SameButKey d) (request : Option SigningRequest) :
    (c.addCsr request).Alike SameButKey (d.addCsr request) := by
  rw [Credentials.addCsr, Credentials.addCsr, h.hasCsr_eq]
  split
  · exact .failure _
  · cases request with
    | none => exact .failure _
    | some request => exact .success ⟨h.certificate, h.privateKey, h.chain, rfl⟩

end Credentials.SameButKey

/-! ### Exporting -/

/-- The code of a failure. -/
def Outcome.failureCode? {α : Type} (o : Outcome α) : Option FailureCode :=
  o.either (fun _ => none) fun e => some e.code

/-- The code of a result that is a failure. -/
def resultCode? {α : Type} (result : Except Fault (Outcome α)) : Option FailureCode :=
  result.toOption.bind Outcome.failureCode?

/-- The computations report the same events, if none fails or both fail with the same code. -/
def Breaking.ReportsAlike {α β : Type} (x : Breaking (Outcome α)) (y : Breaking (Outcome β)) :
    Prop :=
  resultCode? x.run.value = resultCode? y.run.value → x.run.events = y.run.events

theorem Breaking.reportsAlike_refl {α : Type} (x : Breaking (Outcome α)) : x.ReportsAlike x :=
  fun _ => rfl

/-- What follows computations that end alike decides whether the whole reports the same. -/
theorem Breaking.Alike.reportsAlike_bindM {α β γ δ : Type} {related : α → β → Prop}
    {x : Breaking (Outcome α)} {y : Breaking (Outcome β)} (h : Breaking.Alike related x y)
    {f : α → Breaking (Outcome γ)} {g : β → Breaking (Outcome δ)}
    (hrest : ∀ v w, related v w → (f v).ReportsAlike (g w)) :
    (x >>= (·.bindM f)).ReportsAlike (y >>= (·.bindM g)) := by
  intro hcode
  obtain ⟨hevents, hvalue⟩ := h
  rw [value_run_bind, value_run_bind] at hcode
  rw [events_run_bind, events_run_bind, hevents]
  generalize x.run.value = result, y.run.value = other at hvalue hcode
  cases hvalue with
  | fault fault => rfl
  | outcome houtcome =>
      cases houtcome with
      | success hvalues => exact congrArg (y.run.events ++ ·) (hrest _ _ hvalues hcode)
      | failure e => rfl

namespace RuntimeCertificate

/-- What is reported of a private key block is what shows of it. -/
theorem events_keyOfBlock_eq {block other : Pem.Block} (h : block.keyShape = other.keyShape) :
    (keyOfBlock block).events = (keyOfBlock other).events := by
  obtain ⟨hlabel, hprotected⟩ := Prod.mk.inj h
  rw [keyOfBlock, keyOfBlock, hlabel, hprotected]
  cases exportableKind? other.label with
  | none => rfl
  | some kind => cases isProtected other <;> rfl

/-- The label of the block tells the kind of the key that is read from it. -/
theorem kind_of_value_keyOfBlock {block : Pem.Block} {key : PrivateKey}
    (h : (keyOfBlock block).value = .success key) :
    exportableKind? block.label = some key.kind := by
  rw [keyOfBlock] at h
  split at h
  · next kind hkind _ =>
    have hread : readKey block.label kind block.der = .ok key :=
      (Outcome.ofExcept_eq_success_iff _ _ _ _).mp h
    rw [readKey] at hread
    split at hread
    · cases hread
    · split at hread
      · next hsame =>
        rw [hkind, ← hsame, Except.ok.inj hread]
      · cases hread
  · cases h

/-- The end of an export: certificates and key are put together, which is reported. -/
def finish (chain : List (List UInt8)) (key : Outcome PrivateKey) :
    Breaking (Outcome RuntimeCertificate) :=
  (key.map (RuntimeCertificate.mk chain)).peekM fun runtime =>
    report (.exported runtime.chain.length runtime.privateKey.kind)

theorem run_bind_finish (x : Logged (Outcome PrivateKey)) (chain : List (List UInt8)) :
    ((liftM x : Breaking (Outcome PrivateKey)) >>= finish chain).run =
      ⟨.ok (x.value.map (RuntimeCertificate.mk chain)),
        x.events ++ x.value.either (fun key => [.exported chain.length key.kind]) fun _ => []⟩ := by
  unfold finish
  simp only [Breaking.peekM_lift, ← liftM_bind, Breaking.run_lift, Logged.value_bind,
    Logged.events_bind, Outcome.value_peekM]
  cases x.value <;> rfl

/-- Private key blocks of which the same shows are exported with the same events, if both are or both
fail with the same code. -/
theorem reportsAlike_keyOfBlock {block other : Pem.Block} (h : block.keyShape = other.keyShape)
    (chain : List (List UInt8)) :
    Breaking.ReportsAlike ((liftM (keyOfBlock block) : Breaking (Outcome PrivateKey)) >>= finish chain)
      ((liftM (keyOfBlock other) : Breaking (Outcome PrivateKey)) >>= finish chain) := by
  intro hcode
  rw [run_bind_finish, run_bind_finish] at hcode ⊢
  simp only [events_keyOfBlock_eq h, List.append_cancel_left_eq]
  -- What is read of the keys differs, so only their kinds are compared.
  cases hkey : (keyOfBlock block).value with
  | failure e =>
      cases hother : (keyOfBlock other).value with
      | failure e => rfl
      | success otherKey =>
          rw [hkey, hother] at hcode
          exact nomatch hcode
  | success key =>
      cases hother : (keyOfBlock other).value with
      | failure e =>
          rw [hkey, hother] at hcode
          exact nomatch hcode
      | success otherKey =>
          have hlabel : block.label = other.label := congrArg Prod.fst h
          have hkind : key.kind = otherKey.kind := by
            apply Option.some.inj
            rw [← kind_of_value_keyOfBlock hkey, ← kind_of_value_keyOfBlock hother, hlabel]
          simp only [Outcome.either, hkind]

/-- An export of credentials that are the same but for the private key reports the same, if it ends
with the same code. -/
theorem reportsAlike_ofCredentials {c d : Credentials} (h : c.SameButKey d) :
    (ofCredentials c).ReportsAlike (ofCredentials d) := by
  obtain ⟨certificate, privateKey, chain, csr⟩ := c
  obtain ⟨otherCertificate, otherKey, otherChain, otherCsr⟩ := d
  obtain ⟨rfl, hkey, rfl, rfl⟩ := h
  cases hkey with
  | same => exact Breaking.reportsAlike_refl _
  | @key text other block otherBlock hblock hother hlabel hshape =>
      have hlabels : block.label = otherBlock.label := congrArg Prod.fst hshape
      apply (Breaking.Alike.of_eq (fun _ => rfl)
        (decodeCertificate certificate "certificate")).reportsAlike_bindM
      rintro leaf _ rfl
      apply (Breaking.Alike.of_eq (fun _ => rfl) (decodeChain chain)).reportsAlike_bindM
      rintro ders _ rfl
      rw [decodePrivateKey_of_firstBlock? hblock (List.contains_iff_mem.mpr hlabel),
        decodePrivateKey_of_firstBlock? hother (List.contains_iff_mem.mpr (hlabels ▸ hlabel))]
      exact reportsAlike_keyOfBlock hshape (leaf :: ders)

end RuntimeCertificate

end PemBundle
