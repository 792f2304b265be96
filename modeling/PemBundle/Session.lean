import PemBundle.Credentials.Build
import PemBundle.Credentials.Saved
import PemBundle.Pipeline

/-!
# Sessions

A session works on one set of credentials, step by step. A step that succeeds with credentials
replaces the current ones; a step that fails, breaks off, or only looks, keeps them.
-/

namespace PemBundle

/-- A step of a session. -/
inductive Step
  | build (certificate : Option X509.Certificate) (key : Option PrivateKey)
      (password : Option Password) (format : Option CodeText)
  | addKey (key : Option PrivateKey) (password : Option Password) (format : Option CodeText)
  | addChain (certificate : Option X509.Certificate)
  | addCsr (request : Option SigningRequest)
  | parse (order : ChainOrder) (data : RawData)
  | readJson (text : String)
  | readValue (value : Json)
  | replace (credentials : Credentials)
  /-- Saves the credentials and reads them back. -/
  | roundTrip
  | showJson
  | showFlags
  | exportCurrent
  /-- Parses a bundle and exports it without keeping its credentials. -/
  | exportBundle (order : ChainOrder) (data : RawData)

/-- What a step answers. -/
inductive Reply
  | credentials (outcome : Outcome Credentials)
  | json (text : String)
  | flags (hasCertificate hasPrivateKey isEmpty : Bool)
  | runtime (outcome : Outcome RuntimeCertificate)
  /-- The step broke off. -/
  | broken (fault : Fault)

/-- What a step answers that gives a result or breaks off. -/
def Reply.ofResult {α : Type} (reply : α → Reply) : Except Fault α → Reply
  | .ok result => reply result
  | .error fault => .broken fault

/-- The credentials after a step. -/
def Reply.next (reply : Reply) (current : Credentials) : Credentials :=
  match reply with
  | .credentials (.success c) => c
  | _ => current

namespace Step

variable {m : Type → Type} [Monad m] [MonadLog m]

/-- What the step answers on the current credentials. -/
def run (encode : KeyEncoder m) (current : Credentials) : Step → m Reply
  | .build certificate key password format =>
      .credentials <$> Credentials.build encode certificate key password format
  | .addKey key password format =>
      .credentials <$> current.addPrivateKey encode key password format
  | .addChain certificate => pure (.credentials (current.addChainElement certificate))
  | .addCsr request => pure (.credentials (current.addCsr request))
  | .parse order data => .ofResult .credentials <$> (Bundle.read order data).run.replay
  | .readJson text => pure (.credentials (Credentials.ofJson text))
  | .readValue value => pure (.credentials (Credentials.ofValue value))
  | .replace c => pure (.credentials (.success c))
  | .roundTrip => pure (.credentials (Credentials.ofJson current.toJson))
  | .showJson => pure (.json current.toJson)
  | .showFlags =>
      pure (.flags current.hasCertificate current.hasPrivateKey current.isEmpty)
  | .exportCurrent =>
      .ofResult .runtime <$> (RuntimeCertificate.ofCredentials current).run.replay
  | .exportBundle order data => .ofResult .runtime <$> (Pipeline.ofBundle order data).run.replay

end Step

/-- What a session did in one step: what was answered, and the credentials after it. -/
structure Turn where
  reply : Reply
  after : Credentials

/-- The turns of a session, each performed on the credentials that the one before it left. -/
def Session.run {m : Type → Type} [Monad m] {ι : Type} (perform : ι → Credentials → m Reply) :
    Credentials → List ι → m (List Turn)
  | _, [] => pure []
  | current, item :: rest => do
      let reply ← perform item current
      let later ← Session.run perform (reply.next current) rest
      pure (⟨reply, reply.next current⟩ :: later)

end PemBundle
