import PemBundle.Json.Compare
import PemBundle.Outcome.Expect
import PemBundle.Proofs.Base64
import PemBundle.Proofs.Base64.Complete
import PemBundle.Proofs.Pem.Lines
import PemBundle.Proofs.Text
import PemBundle.Settings.EnvFile
import PemBundle.Toolkit
import PemBundle.Proofs.Pem.Boundary
import PemBundle.Proofs.Pem.Regions
import PemBundle.Proofs.Pem.Header
import PemBundle.Proofs.Pem.Armor
import PemBundle.Proofs.Pem.Scanning
import PemBundle.Proofs.Pem.BundleText
import PemBundle.Proofs.Pem.Rearmor
import PemBundle.Proofs.Bundle
import PemBundle.Proofs.Pipeline
import PemBundle.Proofs.Credentials.Saved
import PemBundle.Proofs.Credentials.Scannable
import PemBundle.Proofs.Session
import PemBundle.Proofs.Pem.RegionBody
import PemBundle.Proofs.Pem.ScannedRegions
import PemBundle.Proofs.Bundle.Rebundled
import PemBundle.Proofs.Json.Ascii
import PemBundle.Proofs.Credentials.Canonical
import PemBundle.Proofs.Pem.KeptLines
import PemBundle.Proofs.Pem.RegionOutcome
import PemBundle.Proofs.PrivateKey.RoundTrip
import PemBundle.Proofs.Credentials.AdditionRuns
import PemBundle.Proofs.Credentials.StoredKey
import PemBundle.Proofs.Credentials.ExportedKey
import PemBundle.Proofs.Pem.Continued
import PemBundle.Proofs.Pem.Truncated
import PemBundle.Proofs.Bundle.DamagedEnd
import PemBundle.Proofs.Bundle.BlankLines
import PemBundle.Proofs.Session.Reloaded
import PemBundle.Proofs.Bundle.Parsed
import PemBundle.Proofs.Toolkit
import PemBundle.Proofs.Pem.KeyBodies
import PemBundle.Proofs.Credentials.KeyShape
import PemBundle.Proofs.Bundle.Redacted
import PemBundle.Proofs.Session.Secrecy
import PemBundle.Proofs.Pem.Layout
import PemBundle.Proofs.Pem.Laziness
import PemBundle.Proofs.RuntimeCertificate.Checks
import PemBundle.Proofs.Credentials.Shape
import PemBundle.Proofs.Settings
import PemBundle.Proofs.Outcome.FirstFailure
