import PemBundle.Proofs.Bundle.Redacted
import PemBundle.Session

/-!
# Events keep keys secret

Two sessions may differ in all that is secret: in the numbers of keys, in passwords, in the bytes of
private key blocks, and in what is drawn to protect keys. As long as their steps fail in the same
places with the same codes, they report the same events. What carries this through a session is that
the credentials of both stay the same but for the private key, and that of the keys the same shows.
-/

namespace PemBundle

/-- The steps are the same, or the same but for secrets: for a key of the same kind, for a password
as empty, or for the bodies of private key blocks in a bundle. -/
inductive Step.SameButSecrets : Step → Step → Prop
  | same (step : Step) : SameButSecrets step step
  | build (certificate : Option X509.Certificate) {key other : Option PrivateKey}
      (hkind : key.map PrivateKey.kind = other.map PrivateKey.kind)
      {password otherPassword : Option Password}
      (hpassword : Password.SameEmptiness password otherPassword) (format : Option CodeText) :
      SameButSecrets (.build certificate key password format)
        (.build certificate other otherPassword format)
  | addKey {key other : Option PrivateKey}
      (hkind : key.map PrivateKey.kind = other.map PrivateKey.kind)
      {password otherPassword : Option Password}
      (hpassword : Password.SameEmptiness password otherPassword) (format : Option CodeText) :
      SameButSecrets (.addKey key password format) (.addKey other otherPassword format)
  | parse (order : ChainOrder) {data other : RawData} (hdata : data.SameButKeys other) :
      SameButSecrets (.parse order data) (.parse order other)
  | exportBundle (order : ChainOrder) {data other : RawData} (hdata : data.SameButKeys other) :
      SameButSecrets (.exportBundle order data) (.exportBundle order other)

/-- The code of a failed step; a step that breaks off does not fail with a code. -/
def Reply.failureCode? : Reply → Option FailureCode
  | .credentials outcome => outcome.failureCode?
  | .runtime outcome => outcome.failureCode?
  | .json _ | .flags _ _ _ | .broken _ => none

/-- What a step answers with the standard encoder, given what is drawn for it. -/
def Step.runDrawn (move : Protection × Step) (current : Credentials) : Logged Reply :=
  move.2.run (KeyEncoder.standard move.1) current

/-- The replies, given on credentials that are the same but for the private key: if both succeed or
fail with the same code, the same was reported and the credentials stay so. -/
def RepliesAlike (c d : Credentials) (x y : Logged Reply) : Prop :=
  x.value.failureCode? = y.value.failureCode? →
    x.events = y.events ∧ (x.value.next c).SameButKey (y.value.next d)

namespace RepliesAlike

variable {c d : Credentials} (h : c.SameButKey d)
include h

theorem of_credentials {x y : Logged (Outcome Credentials)}
    (hreplies : x.Alike Credentials.SameButKey y) :
    RepliesAlike c d (.credentials <$> x) (.credentials <$> y) := by
  intro _
  obtain ⟨outcome, events⟩ := x
  obtain ⟨otherOutcome, otherEvents⟩ := y
  obtain ⟨rfl, hvalue⟩ := hreplies
  refine ⟨rfl, ?_⟩
  cases hvalue with
  | success hnext => exact hnext
  | failure e => exact h

theorem of_outcomes {outcome other : Outcome Credentials}
    (houtcomes : outcome.Alike Credentials.SameButKey other) :
    RepliesAlike c d (pure (.credentials outcome)) (pure (.credentials other)) := by
  change RepliesAlike c d (.credentials <$> pure outcome) (.credentials <$> pure other)
  exact of_credentials h ⟨rfl, houtcomes⟩

theorem of_read {x y : Breaking (Outcome Credentials)}
    (hreplies : Breaking.Alike Credentials.SameButKey x y) :
    RepliesAlike c d (.ofResult .credentials <$> x.run) (.ofResult .credentials <$> y.run) := by
  intro _
  obtain ⟨hevents, hvalue⟩ := hreplies
  rw [Logged.events_map, Logged.events_map, Logged.value_map, Logged.value_map]
  refine ⟨hevents, ?_⟩
  generalize x.run.value = result, y.run.value = other at hvalue ⊢
  cases hvalue with
  | outcome houtcome =>
      cases houtcome with
      | success hnext => exact hnext
      | failure e => exact h
  | fault fault => exact h

theorem of_export {x y : Breaking (Outcome RuntimeCertificate)} (hreplies : x.ReportsAlike y) :
    RepliesAlike c d (.ofResult .runtime <$> x.run) (.ofResult .runtime <$> y.run) := by
  have hreply (result : Except Fault (Outcome RuntimeCertificate)) :
      (Reply.ofResult .runtime result).failureCode? = resultCode? result ∧
        ∀ c, (Reply.ofResult .runtime result).next c = c := by
    cases result with
    | ok o => exact ⟨rfl, fun _ => rfl⟩
    | error fault => exact ⟨rfl, fun _ => rfl⟩
  intro hcode
  rw [Logged.value_map, Logged.value_map] at hcode ⊢
  rw [(hreply _).1, (hreply _).1] at hcode
  rw [Logged.events_map, Logged.events_map, (hreply _).2, (hreply _).2]
  exact ⟨hreplies hcode, h⟩

end RepliesAlike

/-! ### One step -/

section Step

variable {c d : Credentials} (hc : c.SameButKey d) (protection otherProtection : Protection)
include hc

theorem Step.repliesAlike_parse (order : ChainOrder) {data other : RawData}
    (h : data.SameButKeys other) :
    RepliesAlike c d ((Step.parse order data).run (KeyEncoder.standard protection) c)
      ((Step.parse order other).run (KeyEncoder.standard otherProtection) d) := by
  rw [run, run, Logged.replay_eq, Logged.replay_eq]
  exact .of_read hc (Bundle.read_alike order h)

theorem Step.repliesAlike_exportBundle (order : ChainOrder) {data other : RawData}
    (h : data.SameButKeys other) :
    RepliesAlike c d ((Step.exportBundle order data).run (KeyEncoder.standard protection) c)
      ((Step.exportBundle order other).run (KeyEncoder.standard otherProtection) d) := by
  have hexport : (Pipeline.ofBundle order data).ReportsAlike (Pipeline.ofBundle order other) := by
    apply (Bundle.read_alike order h).reportsAlike_bindM
    intro parsed otherParsed hparsed
    exact RuntimeCertificate.reportsAlike_ofCredentials hparsed
  rw [run, run, Logged.replay_eq, Logged.replay_eq]
  exact .of_export hc hexport

/-- Steps that are the same but for secrets, on credentials that are the same but for the private
key, report the same and leave such credentials, unless only one of them fails or their failures
have different codes. -/
theorem Step.SameButSecrets.repliesAlike {step other : Step} (h : step.SameButSecrets other) :
    RepliesAlike c d (step.run (KeyEncoder.standard protection) c)
      (other.run (KeyEncoder.standard otherProtection) d) := by
  cases h with
  | build certificate hkind hpassword format =>
      exact .of_credentials hc
        (Credentials.build_alike protection otherProtection certificate hkind hpassword format)
  | addKey hkind hpassword format =>
      exact .of_credentials hc
        (hc.addPrivateKey protection otherProtection hkind hpassword format)
  | parse order hdata => exact repliesAlike_parse hc protection otherProtection order hdata
  | exportBundle order hdata =>
      exact repliesAlike_exportBundle hc protection otherProtection order hdata
  | same =>
      -- Even the same key is stored differently, since other bytes are drawn to protect it.
      cases step with
      | build certificate key password format =>
          exact .of_credentials hc (Credentials.build_alike protection otherProtection certificate
            rfl (.same password) format)
      | addKey key password format =>
          exact .of_credentials hc
            (hc.addPrivateKey protection otherProtection rfl (.same password) format)
      | parse order data => exact repliesAlike_parse hc protection otherProtection order (.same _)
      | exportBundle order data =>
          exact repliesAlike_exportBundle hc protection otherProtection order (.same _)
      | addChain certificate => exact .of_outcomes hc (hc.addChainElement certificate)
      | addCsr request => exact .of_outcomes hc (hc.addCsr request)
      | readJson text => exact .of_outcomes hc (.of_eq .refl (Credentials.ofJson text))
      | readValue value => exact .of_outcomes hc (.of_eq .refl (Credentials.ofValue value))
      | replace credentials => exact .of_outcomes hc (.success (.refl credentials))
      | roundTrip =>
          rw [run, run, Credentials.ofJson_toJson_rejoined, Credentials.ofJson_toJson_rejoined]
          exact .of_outcomes hc (.success hc.rejoined.canonical)
      | showJson | showFlags => exact fun _ => ⟨rfl, hc⟩
      | exportCurrent =>
          rw [run, run, Logged.replay_eq, Logged.replay_eq]
          exact .of_export hc (RuntimeCertificate.reportsAlike_ofCredentials hc)

end Step

/-! ### Whole sessions -/

/-- The codes of the failed steps of a session, step by step. -/
def Session.failureCodes (turns : List Turn) : List (Option FailureCode) :=
  turns.map (·.reply.failureCode?)

/-- A session reports what its first step reports, then what the rest of it reports. -/
theorem Session.events_run_cons {ι : Type} (perform : ι → Credentials → Logged Reply)
    (c : Credentials) (item : ι) (rest : List ι) :
    (Session.run perform c (item :: rest)).events = (perform item c).events ++
      (Session.run perform ((perform item c).value.next c) rest).events := by
  rw [Session.run, Logged.events_bind, Logged.events_bind, Logged.events_pure, List.append_nil]

/-- Sessions whose steps are the same but for secrets report the same from credentials that are the
same but for the private key. -/
theorem Session.events_run_eq {moves others : List (Protection × Step)}
    (h : List.Forall₂ (fun move other => move.2.SameButSecrets other.2) moves others)
    {c d : Credentials} (hc : c.SameButKey d)
    (hcodes : failureCodes (Session.run Step.runDrawn c moves).value =
      failureCodes (Session.run Step.runDrawn d others).value) :
    (Session.run Step.runDrawn c moves).events = (Session.run Step.runDrawn d others).events := by
  induction h generalizing c d with
  | nil => rfl
  | @cons move other moves others hstep _ ih =>
      obtain ⟨hcode, hcodes⟩ := List.cons.inj hcodes
      obtain ⟨hevents, hnext⟩ := hstep.repliesAlike hc move.1 other.1 hcode
      rw [Session.events_run_cons, Session.events_run_cons]
      exact congrArg₂ (· ++ ·) hevents (ih hnext hcodes)

/-- Events never depend on what is secret. Take two sessions from the same credentials whose steps
are the same but for secrets, with anything drawn to protect keys. If each step succeeds in both or
fails in both with the same code, the events of both are the same. -/
theorem Session.reports_no_secrets (start : Credentials) {moves others : List (Protection × Step)}
    (h : List.Forall₂ (fun move other => move.2.SameButSecrets other.2) moves others)
    (hcodes : failureCodes (Session.run Step.runDrawn start moves).value =
      failureCodes (Session.run Step.runDrawn start others).value) :
    (Session.run Step.runDrawn start moves).events =
      (Session.run Step.runDrawn start others).events :=
  Session.events_run_eq h (.refl start) hcodes

/-- Credentials with an empty certificate block. -/
def emptyBlockCredentials : Credentials where
  certificate := some (.unicode "-----BEGIN CERTIFICATE-----\n-----END CERTIFICATE-----")
  privateKey := none
  chain := []
  csr := none

/-- Steps that store a key with a password and without one, try to export it, and read a bundle of
another key. -/
def secretMoves (secret password der : List UInt8) : List (Protection × Step) := [
  .addKey (some (.ed25519 secret)) (some (.bytes password)) none,
  .replace emptyBlockCredentials,
  .addKey (some (.ed25519 secret)) none none,
  .exportCurrent,
  .parse .rootLast (.bytes (Bundle.bundleOf [⟨"PRIVATE KEY", der, []⟩]))].map (Credentials.zeroProtection, ·)

theorem Session.reports_no_secrets_stored :
    List.Forall₂ (fun move other => move.2.SameButSecrets other.2) (secretMoves [1] [2] [3])
        (secretMoves [4, 5] [6, 7, 8] []) ∧
      failureCodes (Session.run Step.runDrawn Credentials.empty (secretMoves [1] [2] [3])).value =
        [none, none, none, some .unsupportedKey, none] ∧
      (Session.run Step.runDrawn Credentials.empty (secretMoves [1] [2] [3])).events =
        (Session.run Step.runDrawn Credentials.empty (secretMoves [4, 5] [6, 7, 8] [])).events := by
  have hpassword : Password.SameEmptiness (some (.bytes [2])) (some (.bytes [6, 7, 8])) :=
    .octets rfl rfl (by decide) (by decide) rfl
  have hmoves : List.Forall₂ (fun move other : Protection × Step =>
      move.2.SameButSecrets other.2) (secretMoves [1] [2] [3])
        (secretMoves [4, 5] [6, 7, 8] []) := by
    refine .cons ?_ (.cons (.same _) (.cons ?_ (.cons (.same _) (.cons ?_ .nil))))
    · exact .addKey (by rfl) hpassword none
    · exact .addKey (by rfl) (.same none) none
    · apply Step.SameButSecrets.parse
      apply RawData.SameButKeys.octets rfl rfl
      apply Bundle.sameButKeys_bundleOf
      · decide +kernel
      · decide +kernel
      · decide +kernel
  have hcodes : failureCodes
      (Session.run Step.runDrawn Credentials.empty (secretMoves [1] [2] [3])).value =
        [none, none, none, some .unsupportedKey, none] := by decide +kernel
  refine ⟨hmoves, hcodes, reports_no_secrets Credentials.empty hmoves (hcodes.trans ?_)⟩
  decide +kernel

end PemBundle
