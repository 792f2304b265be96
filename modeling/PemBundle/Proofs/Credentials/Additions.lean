import PemBundle.Credentials.Build
import PemBundle.Proofs.Credentials
import PemBundle.Proofs.Outcome

/-!
# Additions

Keys, certificates and signing requests are added to credentials. What one addition can do holds for
any encoder, also for one whose answers depend on what it was asked before; so the encoder has a
state of its own. Its calls are recorded, to tell how often it is called and with what.
-/

namespace PemBundle

variable {σ : Type}

/-- A call of an encoder: what it was given, and what it answered. -/
structure Encoding where
  key : Option PrivateKey
  password : Option Password
  format : Option CodeText
  answer : Outcome CodeText

/-- The text that the encoder gave. -/
def Encoding.text? (encoding : Encoding) : Option CodeText :=
  match encoding.answer with
  | .success text => some text
  | .failure _ => none

namespace KeyEncoder

/-- The encoder with a record of its calls. -/
def recorded (encode : KeyEncoder (StateT σ Logged)) :
    KeyEncoder (StateT (σ × List Encoding) Logged) := fun key password format (state, record) => do
  let (answer, next) ← (encode key password format).run state
  pure (answer, next, record ++ [⟨key, password, format, answer⟩])

/-- The encoder gives no empty text. -/
def WritesText (encode : KeyEncoder (StateT σ Logged)) : Prop :=
  ∀ key password format state text,
    ((encode key password format).run state).value.1 = .success text → text ≠ ""

end KeyEncoder

/-- An operation that adds to credentials. -/
inductive Addition
  | key (key : Option PrivateKey) (password : Option Password) (format : Option CodeText)
  | chain (certificate : Option X509.Certificate)
  | csr (request : Option SigningRequest)

namespace Addition

/-- What the operation answers on credentials. -/
def run {m : Type → Type} [Monad m] [MonadLog m] (encode : KeyEncoder m) (c : Credentials) :
    Addition → m (Outcome Credentials)
  | .key added password format => c.addPrivateKey encode added password format
  | .chain certificate => pure (c.addChainElement certificate)
  | .csr request => pure (c.addCsr request)

/-- Whether the operation adds a key. -/
def isKey : Addition → Bool
  | .key _ _ _ => true
  | _ => false

/-- Whether the operation adds a signing request. -/
def isCsr : Addition → Bool
  | .csr _ => true
  | _ => false

/-- The certificate to append. -/
def certificate? : Addition → Option X509.Certificate
  | .chain certificate => certificate
  | _ => none

/-- The signing request to add. -/
def request? : Addition → Option SigningRequest
  | .csr request => request
  | _ => none

end Addition

/-- A call of an operation: the credentials before it, its outcome, and the calls of the encoder
that it made. -/
structure Call where
  addition : Addition
  before : Credentials
  outcome : Outcome Credentials
  encodings : List Encoding

namespace Call

/-- The credentials after a call; a failure keeps them. -/
def after (call : Call) : Credentials := call.outcome.getOrElse call.before

/-- The text of a key that was encoded in the call. -/
def encoded? (call : Call) : Option CodeText := call.encodings.findSome? Encoding.text?

/-- Whether the call added a key. -/
def addsKey (call : Call) : Bool := call.addition.isKey && call.outcome.isSuccess

/-- Whether the call added a signing request. -/
def addsCsr (call : Call) : Bool := call.addition.isCsr && call.outcome.isSuccess

end Call

/-- The call of an operation on credentials in a state of the encoder, with the state after it. -/
def Addition.call (encode : KeyEncoder (StateT σ Logged)) (c : Credentials) (state : σ)
    (addition : Addition) : Call × σ :=
  let answer := ((addition.run encode.recorded c).run (state, [])).value
  (⟨addition, c, answer.1, answer.2.2⟩, answer.2.1)

namespace Credentials

/-- The failure of adding a key where there is one. -/
def duplicateKey : Failure :=
  ⟨.duplicateKey, "The PEM collection can only contain one private key", none⟩

/-- The failure of adding no key. -/
def missingKey : Failure := ⟨.invalidInput, "Signing key cannot be None", none⟩

/-- The failure of adding no certificate. -/
def missingCertificate : Failure := ⟨.invalidInput, "Certificate cannot be None", none⟩

/-- The failure of adding a signing request where there is one. -/
def duplicateCsr : Failure :=
  ⟨.duplicateCsr, "The PEM collection can only contain one certificate signing request", none⟩

/-- The failure of adding no signing request. -/
def missingCsr : Failure :=
  ⟨.invalidInput, "Certificate signing request cannot be None", none⟩

end Credentials

open Credentials

/-- All that a call can do. -/
inductive Call.Lawful : Call → Prop
  | duplicateKey {key password format c} (h : c.hasPrivateKey = true) :
      Lawful ⟨.key key password format, c, .failure Credentials.duplicateKey, []⟩
  | missingKey {password format c} (h : c.hasPrivateKey = false) :
      Lawful ⟨.key none password format, c, .failure Credentials.missingKey, []⟩
  | refusedKey {key password format c} (h : c.hasPrivateKey = false) (failure : Failure) :
      Lawful ⟨.key (some key) password format, c, .failure failure,
        [⟨some key, Password.nonVoid? password, some (format.getD ""), .failure failure⟩]⟩
  | storedKey {key password format c} (h : c.hasPrivateKey = false) {text : CodeText}
      (hne : text ≠ "") :
      Lawful ⟨.key (some key) password format, c, .success { c with privateKey := some text },
        [⟨some key, Password.nonVoid? password, some (format.getD ""), .success text⟩]⟩
  | missingCertificate {c} :
      Lawful ⟨.chain none, c, .failure Credentials.missingCertificate, []⟩
  | appended {c} (certificate : X509.Certificate) :
      Lawful ⟨.chain (some certificate), c,
        .success { c with chain := c.chain ++ [.unicode certificate.toPem] }, []⟩
  | duplicateCsr {request c} (h : c.hasCsr = true) :
      Lawful ⟨.csr request, c, .failure Credentials.duplicateCsr, []⟩
  | missingCsr {c} (h : c.hasCsr = false) :
      Lawful ⟨.csr none, c, .failure Credentials.missingCsr, []⟩
  | storedCsr {c} (h : c.hasCsr = false) (request : SigningRequest) :
      Lawful ⟨.csr (some request), c, .success { c with csr := some request.toPem }, []⟩

/-- What the recorded encoder answers, and what it adds to the record. -/
theorem KeyEncoder.value_run_recorded {encode : KeyEncoder (StateT σ Logged)}
    {key : Option PrivateKey} {password : Option Password} {format : Option CodeText}
    {state next : σ} {answer : Outcome CodeText}
    (hanswer : ((encode key password format).run state).value = (answer, next))
    (record : List Encoding) :
    ((encode.recorded key password format).run (state, record)).value =
      (answer, next, record ++ [⟨key, password, format, answer⟩]) := by
  change (match ((encode key password format).run state).value with
    | (answer, next) =>
        (pure (answer, next, record ++ [Encoding.mk key password format answer]) : Logged _)).value
      = _
  rw [hanswer]
  rfl

/-- A key is encoded by one call where there is none, and what the encoder answers decides. -/
theorem Addition.value_run_key {encode : KeyEncoder (StateT σ Logged)} {c : Credentials}
    (hkey : c.hasPrivateKey = false) {key : PrivateKey} {password : Option Password}
    {format : Option CodeText} {state next : σ} {answer : Outcome CodeText}
    (hanswer : ((encode (some key) (Password.nonVoid? password) (some (format.getD ""))).run
      state).value = (answer, next)) :
    (((Addition.key (some key) password format).run encode c).run state).value =
      (answer.map fun text => { c with privateKey := some text }, next) := by
  simp only [Addition.run, addPrivateKey, hkey, encodeForStorage]
  rw [if_neg Bool.false_ne_true, StateT.run_bind, Logged.value_bind, hanswer]
  cases answer <;> rfl

/-- A key is refused, before the encoder is called, where there is one. -/
theorem Addition.value_run_duplicateKey {c : Credentials} (hkey : c.hasPrivateKey = true)
    (encode : KeyEncoder (StateT σ Logged)) (key : Option PrivateKey) (password : Option Password)
    (format : Option CodeText) (state : σ) :
    (((Addition.key key password format).run encode c).run state).value =
      (.failure Credentials.duplicateKey, state) := by
  simp only [Addition.run, addPrivateKey, hkey]
  rfl

theorem Addition.value_run_missingKey {c : Credentials} (hkey : c.hasPrivateKey = false)
    (encode : KeyEncoder (StateT σ Logged)) (password : Option Password) (format : Option CodeText)
    (state : σ) :
    (((Addition.key none password format).run encode c).run state).value =
      (.failure Credentials.missingKey, state) := by
  simp only [Addition.run, addPrivateKey, hkey]
  rfl

/-- The record changes nothing of what a call answers and of the state that it leaves behind. -/
theorem Addition.value_run_eq_call (encode : KeyEncoder (StateT σ Logged)) (c : Credentials)
    (state : σ) (addition : Addition) :
    ((addition.run encode c).run state).value =
      ((addition.call encode c state).1.outcome, (addition.call encode c state).2) := by
  cases addition with
  | key key password format =>
      rw [Addition.call]
      cases hkey : c.hasPrivateKey with
      | true => rw [value_run_duplicateKey hkey, value_run_duplicateKey hkey]
      | false =>
          cases key with
          | none => rw [value_run_missingKey hkey, value_run_missingKey hkey]
          | some key =>
              cases hanswer : ((encode (some key) (Password.nonVoid? password)
                  (some (format.getD ""))).run state).value with
              | mk answer next =>
                  rw [value_run_key hkey hanswer,
                    value_run_key hkey (KeyEncoder.value_run_recorded hanswer [])]
  | chain certificate => rfl
  | csr request => rfl

/-- Every call is lawful, on any credentials and in any state of the encoder. -/
theorem Addition.lawful_call {encode : KeyEncoder (StateT σ Logged)} (hencode : encode.WritesText)
    (addition : Addition) (c : Credentials) (state : σ) :
    (addition.call encode c state).1.Lawful := by
  cases addition with
  | key key password format =>
      rw [Addition.call]
      cases hkey : c.hasPrivateKey with
      | true =>
          rw [value_run_duplicateKey hkey]
          exact .duplicateKey hkey
      | false =>
          cases key with
          | none =>
              rw [value_run_missingKey hkey]
              exact .missingKey hkey
          | some key =>
              cases hanswer : ((encode (some key) (Password.nonVoid? password)
                  (some (format.getD ""))).run state).value with
              | mk answer next =>
                  rw [value_run_key hkey (KeyEncoder.value_run_recorded hanswer [])]
                  cases answer with
                  | failure failure => exact .refusedKey hkey failure
                  | success text =>
                      exact .storedKey hkey (hencode _ _ _ state text (by rw [hanswer]))
  | chain certificate =>
      cases certificate with
      | none => exact .missingCertificate
      | some certificate => exact .appended certificate
  | csr request =>
      change Call.Lawful ⟨.csr request, c, c.addCsr request, []⟩
      rw [addCsr]
      cases hcsr : c.hasCsr with
      | true => exact .duplicateCsr hcsr
      | false =>
          cases request with
          | none => exact .missingCsr hcsr
          | some request => exact .storedCsr hcsr request

/-! ### What a call keeps and what it fills -/

namespace Call.Lawful

variable {call : Call}

theorem after_certificate (h : call.Lawful) : call.after.certificate = call.before.certificate := by
  cases h <;> rfl

theorem after_chain (h : call.Lawful) :
    call.after.chain =
      call.before.chain ++
        (call.addition.certificate?.map fun c => CodeText.unicode c.toPem).toList := by
  cases h with
  | appended certificate => rfl
  | _ => exact (List.append_nil _).symm

/-- Where there is a key, adding one fails before the encoder is called. -/
theorem refuses_key (h : call.Lawful) (hadds : call.addition.isKey = true)
    (hkey : call.before.hasPrivateKey = true) :
    call.outcome = .failure Credentials.duplicateKey ∧ call.encodings = [] := by
  cases h with
  | duplicateKey => exact ⟨rfl, rfl⟩
  | missingKey hnone | refusedKey hnone | storedKey hnone =>
      exact absurd (hkey.symm.trans hnone) (by decide)
  | missingCertificate | appended | duplicateCsr | missingCsr | storedCsr => exact nomatch hadds

/-- Where there is no key, adding one is a single call of the encoder. -/
theorem encodes_key (h : call.Lawful) {key : PrivateKey} {password : Option Password}
    {format : Option CodeText} (hadds : call.addition = .key (some key) password format)
    (hkey : call.before.hasPrivateKey = false) :
    ∃ answer,
      call.encodings = [⟨some key, Password.nonVoid? password, some (format.getD ""), answer⟩] ∧
        call.outcome = answer.map fun text => { call.before with privateKey := some text } := by
  cases h with
  | duplicateKey hsome => exact absurd (hsome.symm.trans hkey) (by decide)
  | refusedKey _ failure =>
      cases hadds
      exact ⟨.failure failure, rfl, rfl⟩
  | @storedKey _ _ _ _ _ text =>
      cases hadds
      exact ⟨.success text, rfl, rfl⟩
  | _ => exact nomatch hadds

/-- Without a key to add, the encoder is not called. -/
theorem encodings_eq_nil (h : call.Lawful)
    (hadds : ∀ key password format, call.addition ≠ .key (some key) password format) :
    call.encodings = [] := by
  cases h with
  | refusedKey | storedKey => exact absurd rfl (hadds _ _ _)
  | _ => rfl

end Call.Lawful

end PemBundle
