import PemBundle.Proofs.Credentials.Scannable
import PemBundle.Session

/-!
# Credentials that sessions reach

A session that starts from no credentials and puts no texts of the caller's own into them keeps them
scannable, however long it is, whatever is drawn for the keys, and wherever steps fail.
-/

namespace PemBundle

/-- Whether every text that the step stores was written by the step itself or was there before. -/
def Step.writesOwn : Step → Bool
  | .readJson _ | .readValue _ | .replace _ => false
  | _ => true

/-- The credentials after a step with the standard encoder; a failed step changes nothing. -/
def Step.after (step : Step) (protection : Protection) (current : Credentials) : Credentials :=
  (step.run (KeyEncoder.standard protection) current).value.next current

namespace Credentials

/-- The credentials that a session reaches from no credentials, with what is drawn for each of its
steps. -/
inductive Reachable : Credentials → Prop
  | empty : Reachable empty
  | step {c : Credentials} (h : Reachable c) (step : Step) (hstep : step.writesOwn = true)
      (protection : Protection) : Reachable (step.after protection c)

/-- What an operation that can break off keeps or establishes. -/
theorem next_ofResult {current : Credentials} {result : Except Fault (Outcome Credentials)}
    {property : Credentials → Prop} (hcurrent : property current)
    (hnext : ∀ next, result = .ok (.success next) → property next) :
    property ((Reply.ofResult .credentials result).next current) := by
  cases result with
  | error fault => exact hcurrent
  | ok outcome =>
      cases outcome with
      | success next => exact hnext next rfl
      | failure e => exact hcurrent

theorem next_credentials {current : Credentials} {outcome : Outcome Credentials}
    {property : Credentials → Prop} (hcurrent : property current)
    (hnext : ∀ next, outcome = .success next → property next) :
    property ((Reply.credentials outcome).next current) := by
  apply @next_ofResult current (.ok outcome) property hcurrent
  intro next h
  exact hnext next (Except.ok.inj h)

/-- Saving credentials and reading them back only makes empty texts absent. -/
theorem after_roundTrip (protection : Protection) {c : Credentials} (h : c.IsJoined) :
    Step.roundTrip.after protection c = c.canonical := by
  change (Reply.credentials (ofJson c.toJson)).next c = c.canonical
  rw [ofJson_toJson h]
  rfl

/-- An export leaves the credentials as they are. -/
theorem next_runtime (result : Except Fault (Outcome RuntimeCertificate)) (current : Credentials) :
    (Reply.ofResult .runtime result).next current = current := by
  cases result <;> rfl

/-- A step keeps credentials scannable. -/
theorem Scannable.after {c : Credentials} (h : c.Scannable) {step : Step}
    (hstep : step.writesOwn = true) (protection : Protection) :
    (step.after protection c).Scannable := by
  cases step with
  | build certificate key password format =>
      apply next_credentials h
      intro next hnext
      exact scannable_build hnext
  | addKey key password format =>
      apply next_credentials h
      intro next hnext
      exact h.addPrivateKey hnext
  | addChain certificate =>
      apply next_credentials h
      intro next hnext
      exact h.addChainElement hnext
  | addCsr request =>
      apply next_credentials h
      intro next hnext
      exact h.addCsr hnext
  | parse order data =>
      apply next_ofResult h
      intro next hnext
      obtain ⟨octets, -, hparse⟩ := Bundle.exists_of_read hnext
      exact scannable_parse hparse
  | roundTrip =>
      rw [after_roundTrip protection h.isJoined]
      exact h.canonical
  | readJson | readValue | replace => exact nomatch hstep
  | showJson | showFlags => exact h
  | exportCurrent | exportBundle =>
      rw [Step.after, Step.run, Logged.value_map, next_runtime]
      exact h

/-- Reachable credentials are scannable. -/
theorem Reachable.scannable {c : Credentials} (h : Reachable c) : c.Scannable := by
  induction h with
  | empty => exact scannable_empty
  | step _ step hstep protection ih => exact ih.after hstep protection

/-- Every text of reachable credentials holds exactly one block of the kind that belongs there. So
an export does not break off, fails for nothing but what is absent or what the private key block is,
and the end entity's certificate of an export can be read. -/
theorem reachable_exports {c : Credentials} (h : Reachable c) :
    c.Scannable ∧
      (∃ outcome, (RuntimeCertificate.ofCredentials c).run.value = .ok outcome) ∧
      (∀ failure, (RuntimeCertificate.ofCredentials c).run.value = .ok (.failure failure) →
        ExportFailure failure.code failure.message) ∧
      ∀ runtime, (RuntimeCertificate.ofCredentials c).run.value = .ok (.success runtime) →
        ∃ certificate, runtime.leaf = .ok certificate := by
  have hscannable := h.scannable
  refine ⟨hscannable, hscannable.exists_export, ?_, ?_⟩
  · intro failure hfailure
    exact hscannable.exportFailure hfailure
  · intro runtime hruntime
    exact hscannable.leaf_eq_ok hruntime

/-- Drawn bytes that are all zero, and a cipher that changes nothing. -/
def zeroProtection : Protection where
  salt := List.replicate cipherBlock 0
  initialBlock := List.replicate cipherBlock 0
  cipher _ plain := plain
  length_salt := List.length_replicate
  length_initialBlock := List.length_replicate
  length_cipher _ _ := rfl

/-- The credentials after a certificate with a protected key, a key too many, and a request. -/
def builtCredentials : Credentials :=
  Step.after (.addCsr (some ⟨[0]⟩)) zeroProtection
    (Step.after (.addKey none none none) zeroProtection
      (Step.after
        (.build (some ⟨smallDer, smallDer_accepted⟩) (some (.rsa ⟨15, 3, 3, 3, 5, 1, 3, 2⟩))
          (some (.bytes [1])) (some (.unicode "legacy-pem"))) zeroProtection empty))

theorem reachable_builtCredentials : Reachable builtCredentials :=
  ((Reachable.empty.step _ rfl _).step _ rfl _).step _ rfl _

theorem reachable_exports_built :
    Reachable (Step.roundTrip.after zeroProtection builtCredentials) ∧
      (Step.roundTrip.after zeroProtection builtCredentials).hasCertificate = true ∧
      (Step.roundTrip.after zeroProtection builtCredentials).hasPrivateKey = true ∧
      (Step.roundTrip.after zeroProtection builtCredentials).hasCsr = true ∧
      (Step.roundTrip.after zeroProtection builtCredentials).Scannable := by
  have hreachable : Reachable (Step.roundTrip.after zeroProtection builtCredentials) :=
    reachable_builtCredentials.step _ rfl _
  have hjoined : builtCredentials.IsJoined := reachable_builtCredentials.scannable.isJoined
  refine ⟨hreachable, ?_, ?_, ?_, (reachable_exports hreachable).1⟩
  · rw [after_roundTrip zeroProtection hjoined]
    decide +kernel
  · rw [after_roundTrip zeroProtection hjoined]
    decide +kernel
  · rw [after_roundTrip zeroProtection hjoined]
    decide +kernel

end Credentials

end PemBundle
