import PemBundle.Bundle
import PemBundle.RuntimeCertificate

/-!
# From bundle to run-time certificate

A pipeline parses a bundle and exports the credentials it holds. Either stage may be replaced; the
first failure is the outcome of the whole.
-/

namespace PemBundle.Pipeline

/-- Parses, then exports. -/
def run {m : Type → Type} {ρ : Type} [Monad m] (parse : m (Outcome Credentials))
    (exportTo : Credentials → m (Outcome ρ)) : m (Outcome ρ) := do
  (← parse).bindM exportTo

/-- The run-time certificate of a bundle under the given order. -/
def ofBundle (order : ChainOrder) (data : RawData) : Breaking (Outcome RuntimeCertificate) :=
  run (Bundle.read order data) RuntimeCertificate.ofCredentials

end PemBundle.Pipeline
