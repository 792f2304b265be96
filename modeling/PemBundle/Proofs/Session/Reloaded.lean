import PemBundle.Proofs.Credentials.AdditionRuns
import PemBundle.Proofs.Credentials.Canonical
import PemBundle.Session

/-!
# Sessions on reloaded credentials

Credentials that were saved and read again need not be the same: an empty text is absent afterwards.
No step of a session tells the difference. Every step treats an empty text and an absent one alike,
so a session goes on after saving and reading as it would have gone on without: it answers the same,
with the same effects, and leaves the same credentials up to empty texts.
-/

namespace PemBundle

/-- What a step answers with the encoder that is given for it. -/
def Step.runWith {m : Type → Type} [Monad m] [MonadLog m] (given : KeyEncoder m × Step)
    (current : Credentials) : m Reply := given.2.run given.1 current

/-- The reply, with empty texts absent in the credentials that it holds. -/
def Reply.canonical : Reply → Reply
  | .credentials (.success c) => .credentials (.success c.canonical)
  | reply => reply

/-- The turn, with empty texts absent in its credentials. -/
def Turn.canonical (turn : Turn) : Turn := ⟨turn.reply.canonical, turn.after.canonical⟩

namespace Credentials

@[simp] theorem canonicalText_canonicalText (text : Option CodeText) :
    canonicalText (canonicalText text) = canonicalText text := by
  simp [canonicalText]

@[simp] theorem canonical_canonical (c : Credentials) : c.canonical.canonical = c.canonical := by
  simp [canonical]

/-- A text that is absent in canonical form did not count before. -/
@[simp] theorem isPresent_canonicalText (text : Option CodeText) :
    isPresent (canonicalText text) = isPresent text := by
  cases text with
  | none => rfl
  | some s => by_cases hs : s = "" <;> simp [canonicalText, isPresent, Option.filter, hs]

@[simp] theorem hasCertificate_canonical (c : Credentials) :
    c.canonical.hasCertificate = c.hasCertificate := isPresent_canonicalText c.certificate

@[simp] theorem hasPrivateKey_canonical (c : Credentials) :
    c.canonical.hasPrivateKey = c.hasPrivateKey := isPresent_canonicalText c.privateKey

@[simp] theorem hasCsr_canonical (c : Credentials) : c.canonical.hasCsr = c.hasCsr :=
  isPresent_canonicalText c.csr

@[simp] theorem isEmpty_canonical (c : Credentials) : c.canonical.isEmpty = c.isEmpty := by
  simp [isEmpty, canonical, hasCertificate, hasPrivateKey, hasCsr]

/-! ### Looking at credentials -/

theorem textField_canonicalText (name : String) (text : Option CodeText) :
    textField name (canonicalText text) = textField name text := by
  cases text with
  | none => rfl
  | some s => by_cases hs : s = "" <;> simp [textField, canonicalText, isPresent, Option.filter, hs]

theorem toJson_canonical (c : Credentials) : c.canonical.toJson = c.toJson := by
  simp only [toJson, toObject, toFields, canonical, textField_canonicalText]

end Credentials

open Credentials

/-- An empty text is decoded as an absent one. -/
theorem Pem.decodeRaw_canonicalText (text : Option CodeText) (what : String) (rule : LabelRule) :
    decodeRaw ((canonicalText text).map .text) what rule =
      decodeRaw (text.map .text) what rule := by
  cases text with
  | none => rfl
  | some s =>
      by_cases hs : s = ""
      · subst hs
        rfl
      · rw [(canonicalText_eq_self_iff (some s)).mpr (by simpa using hs)]

theorem RuntimeCertificate.ofCredentials_canonical (c : Credentials) :
    ofCredentials c.canonical = ofCredentials c := by
  simp only [ofCredentials, decodeCertificate, decodePrivateKey, canonical,
    Pem.decodeRaw_canonicalText]

/-! ### Changing credentials -/

namespace Credentials

theorem addChainElement_canonical (c : Credentials) (certificate : Option X509.Certificate) :
    (c.canonical.addChainElement certificate).map canonical =
      (c.addChainElement certificate).map canonical := by
  cases certificate with
  | none => rfl
  | some certificate => simp [addChainElement, Outcome.ofOption, canonical]

theorem addCsr_canonical (c : Credentials) (request : Option SigningRequest) :
    (c.canonical.addCsr request).map canonical = (c.addCsr request).map canonical := by
  rw [addCsr, addCsr, hasCsr_canonical]
  split
  · rfl
  · cases request with
    | none => rfl
    | some request => simp [Outcome.ofOption, canonical]

variable {m : Type → Type} [Monad m] [LawfulMonad m] [MonadLog m]

/-- The encoder is called in the same way, and what it answers is stored in the same way. -/
theorem addPrivateKey_canonical (encode : KeyEncoder m) (c : Credentials)
    (key : Option PrivateKey) (password : Option Password) (format : Option CodeText) :
    Outcome.map canonical <$> c.canonical.addPrivateKey encode key password format =
      Outcome.map canonical <$> c.addPrivateKey encode key password format := by
  unfold addPrivateKey
  rw [hasPrivateKey_canonical]
  split
  · simp only [map_pure]
  · cases key with
    | none => rfl
    | some key =>
        simp only [map_bind]
        congr 1
        funext answer
        cases answer with
        | failure e => rfl
        | success text =>
            simp [Outcome.peekM, canonical]

end Credentials

/-! ### Steps and runs -/

section

variable {m : Type → Type} [Monad m] [LawfulMonad m]

/-- What is seen of a session is what is seen of its first turn, and then of the others. -/
theorem Session.map_run_cons {ι β : Type} (view : Turn → β) (perform : ι → Credentials → m Reply)
    (c : Credentials) (item : ι) (rest : List ι) :
    List.map view <$> Session.run perform c (item :: rest) =
      perform item c >>= fun reply =>
        List.map view <$> Session.run perform (reply.next c) rest >>= fun later =>
          pure (view ⟨reply, reply.next c⟩ :: later) := by
  simp only [Session.run, map_bind, map_pure, List.map_cons, bind_map_left]

variable [MonadLog m]

theorem Reply.canonical_credentials (outcome : Outcome Credentials) :
    (Reply.credentials outcome).canonical = .credentials (outcome.map Credentials.canonical) := by
  cases outcome <;> rfl

/-- What follows a reply in canonical form is what follows the reply, in canonical form. -/
theorem Reply.next_canonical (reply : Reply) (c : Credentials) :
    reply.canonical.next c.canonical = (reply.next c).canonical := by
  cases reply with
  | credentials outcome => cases outcome <;> rfl
  | json | flags | runtime | broken => rfl

/-- A step answers the same on credentials and on their canonical form. -/
theorem Step.run_canonical (encode : KeyEncoder m) (c : Credentials) (step : Step) :
    Reply.canonical <$> step.run encode c.canonical = Reply.canonical <$> step.run encode c := by
  cases step with
  | addKey key password format =>
      have hadd := c.addPrivateKey_canonical encode key password format
      have hmap (x : m (Outcome Credentials)) :
          Reply.canonical <$> Reply.credentials <$> x =
            Reply.credentials <$> Outcome.map Credentials.canonical <$> x := by
        simp only [← comp_map]
        congr 1
        funext outcome
        exact Reply.canonical_credentials outcome
      rw [Step.run, Step.run, hmap, hadd, hmap]
  | addChain certificate =>
      simp only [Step.run, map_pure, Reply.canonical_credentials, addChainElement_canonical]
  | addCsr request =>
      simp only [Step.run, map_pure, Reply.canonical_credentials, addCsr_canonical]
  | roundTrip | showJson => simp only [Step.run, toJson_canonical]
  | showFlags =>
      simp only [Step.run, hasCertificate_canonical, hasPrivateKey_canonical, isEmpty_canonical]
  | exportCurrent => simp only [Step.run, RuntimeCertificate.ofCredentials_canonical]
  | build | parse | readJson | readValue | replace | exportBundle => rfl

/-- A session, each step of which has an encoder of its own, takes the same turns from credentials
and from their canonical form. -/
theorem Session.run_canonical (c : Credentials) (steps : List (KeyEncoder m × Step)) :
    List.map Turn.canonical <$> Session.run Step.runWith c.canonical steps =
      List.map Turn.canonical <$> Session.run Step.runWith c steps := by
  induction steps generalizing c with
  | nil => rfl
  | cons given rest ih =>
      -- What follows a reply depends on its canonical form alone.
      let follow (reply : Reply) : m (List Turn) :=
        List.map Turn.canonical <$> Session.run Step.runWith (reply.next c.canonical) rest >>=
          fun later => pure (⟨reply, reply.next c.canonical⟩ :: later)
      have hfollow (current : Credentials) (hcurrent : current.canonical = c.canonical) :
          List.map Turn.canonical <$> Session.run Step.runWith current (given :: rest) =
            Reply.canonical <$> Step.runWith given current >>= follow := by
        rw [Session.map_run_cons, bind_map_left]
        congr 1
        funext reply
        simp only [Turn.canonical]
        rw [← ih (reply.next current), ← hcurrent, Reply.next_canonical]
      rw [hfollow c.canonical c.canonical_canonical, hfollow c rfl, Step.runWith, Step.runWith,
        Step.run_canonical]

/-- Saving credentials and reading them again goes unnoticed, if no surrogates in their texts pair.
Whatever encoders are used, with whatever effects, the session from the credentials that are read
takes the turns of the session from those that were saved: the same failures, flags, texts and
run-time certificates, and the same credentials up to empty texts. -/
theorem Session.run_reloaded {c : Credentials} (h : c.IsJoined)
    (steps : List (KeyEncoder m × Step)) :
    ∃ reloaded, ofJson c.toJson = .success reloaded ∧
      List.map Turn.canonical <$> Session.run Step.runWith reloaded steps =
        List.map Turn.canonical <$> Session.run Step.runWith c steps :=
  ⟨c.canonical, ofJson_toJson h, Session.run_canonical c steps⟩

end

/-- Credentials all of whose texts are there and empty. -/
def blankCredentials : Credentials := ⟨some "", some "", [""], some ""⟩

/-- Steps that look at credentials and add to them, the first key being refused. -/
def variedSteps : List (KeyEncoder (StateT Nat Logged) × Step) :=
  [.showFlags, .addKey (some (.ed25519 [])) none none, .addKey (some (.ed448 [])) none none,
    .addKey none none none, .addCsr (some ⟨[0]⟩), .showJson, .exportCurrent].map (lateEncoder, ·)

theorem Session.run_reloaded_blank :
    LawfulMonad (StateT Nat Logged) ∧ blankCredentials.IsJoined ∧
      blankCredentials.canonical ≠ blankCredentials ∧
      ((Session.run Step.runWith blankCredentials variedSteps).run 0).value.1.map
          (·.after.privateKey) =
        ["", "", "key", "key", "key", "key", "key"].map (some ∘ CodeText.unicode) ∧
      ∃ reloaded, ofJson blankCredentials.toJson = .success reloaded ∧
        List.map Turn.canonical <$> Session.run Step.runWith reloaded variedSteps =
          List.map Turn.canonical <$> Session.run Step.runWith blankCredentials variedSteps := by
  have hjoined : blankCredentials.IsJoined :=
    isJoined_of_unicode ["", "", "", ""] rfl
  exact ⟨inferInstance, hjoined, by decide, by decide +kernel,
    Session.run_reloaded hjoined variedSteps⟩

end PemBundle
