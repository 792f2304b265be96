import PemBundle.Credentials
import PemBundle.Proofs.Pem.Rearmor
import PemBundle.Proofs.Pem.Single

/-!
# Texts of certificates and signing requests

The PEM text of a certificate or of a signing request is the armor of a well-formed block without
headers, so the scan of the text gives this block and nothing else. Whether bytes are a certificate
is decided by the check of their form alone.
-/

namespace PemBundle

namespace X509.Certificate

/-- The certificate that bytes write is the one with these bytes. -/
theorem ofDer_eq_ok_iff (der : List UInt8) (certificate : Certificate) :
    ofDer der = .ok certificate ↔ certificate.der = der := by
  constructor
  · exact der_of_ofDer
  · rintro rfl
    unfold ofDer
    split
    · rfl
    · next e he => exact absurd (certificate.accepted.symm.trans he) (by simp)

theorem ofDer_eq_error_iff (der : List UInt8) (e : CertificateError) :
    ofDer der = .error e ↔ checkCertificate der = .error e := by
  unfold ofDer
  split
  · next h => simp [h]
  · next h => simp [h]

/-- Bytes that pass the check write a certificate. -/
theorem exists_ofDer_eq_ok {der : List UInt8} (h : checkCertificate der = .ok ()) :
    ∃ certificate, ofDer der = .ok certificate :=
  ⟨⟨der, h⟩, (ofDer_eq_ok_iff der ⟨der, h⟩).mpr rfl⟩

/-- The block of a certificate. -/
def toBlock (certificate : Certificate) : Pem.Block := ⟨Pem.certificateLabel, certificate.der, []⟩

end X509.Certificate

/-- The block of a signing request. -/
def SigningRequest.toBlock (request : SigningRequest) : Pem.Block :=
  ⟨Pem.requestLabel, request.der, []⟩

/-- A block without headers is well-formed if its label is. -/
theorem Pem.Block.wellFormed_of_label {label : String} (hne : label.toList ≠ [])
    (hchars : label.toList.all isLabelChar = true) (der : List UInt8) :
    Block.WellFormed ⟨label, der, []⟩ := ⟨hne, List.all_eq_true.mp hchars, areHeaders_nil⟩

theorem X509.Certificate.scan_toPem (certificate : X509.Certificate) :
    Pem.scan (Text.utf8 certificate.toPem) = ⟨[certificate.toBlock], none⟩ :=
  (Pem.Block.wellFormed_of_label (by decide) (by decide) certificate.der).scan_toPem

theorem SigningRequest.scan_toPem (request : SigningRequest) :
    Pem.scan (Text.utf8 request.toPem) = ⟨[request.toBlock], none⟩ :=
  (Pem.Block.wellFormed_of_label (by decide) (by decide) request.der).scan_toPem

namespace Credentials

/-- The bytes of a small certificate. -/
def smallDer : List UInt8 := [
  0x30, 0x48, 0x30, 0x3b, 0x02, 0x01, 0x01, 0x30, 0x05, 0x06, 0x03, 0x2b, 0x65, 0x70, 0x30, 0x00,
  0x30, 0x1e, 0x17, 0x0d, 0x32, 0x35, 0x30, 0x31, 0x30, 0x31, 0x30, 0x30, 0x30, 0x30, 0x30, 0x30,
  0x5a, 0x17, 0x0d, 0x32, 0x35, 0x30, 0x31, 0x30, 0x31, 0x30, 0x30, 0x30, 0x30, 0x30, 0x30, 0x5a,
  0x30, 0x00, 0x30, 0x0b, 0x30, 0x05, 0x06, 0x03, 0x2b, 0x65, 0x70, 0x03, 0x02, 0x00, 0x01, 0x30,
  0x05, 0x06, 0x03, 0x2b, 0x65, 0x70, 0x03, 0x02, 0x00, 0x01]

theorem smallDer_accepted : X509.checkCertificate smallDer = .ok () := by
  decide +kernel

end Credentials

end PemBundle
