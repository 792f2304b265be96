import PemBundle.Pem.Single
import PemBundle.PrivateKey.Protection
import PemBundle.Proofs.Pem.Rearmor

/-!
# Blocks of written keys

Every key is written as a well-formed block with one of the private key labels, in either form, with
or without a password, whatever is drawn for the encoding.
-/

namespace PemBundle

open Pem Text

/-- A header whose value has no blanks is a header if its name may be one. -/
theorem isHeader_of_unblank {name value : String} (hname : IsHeader (name, ""))
    (hvalue : ∀ c ∈ value.toList, (isAscii c && !isBlank c) = true) :
    IsHeader (name, value) := by
  have heach : ∀ c ∈ value.toList, isAscii c = true ∧ isBlank c = false := by
    intro c hc
    simpa using hvalue c hc
  refine ⟨hname.name_ascii, hname.name_plain, hname.name_undashed, ?_, ?_, ?_⟩
  · intro c hc
    exact (heach c hc).1
  · intro c hc
    have hblank := (heach c hc).2
    constructor
    · rintro rfl
      exact absurd hblank (by decide)
    · rintro rfl
      exact absurd hblank (by decide)
  · apply trim_of_forall
    intro c hc
    exact (heach c hc).2

namespace Protection

/-- The headers of protected data can be written. -/
theorem areHeaders_headers (protection : Protection) : AreHeaders protection.headers := by
  have hdigit : ∀ d < 16, (isAscii (Nat.digitChar d).toUpper &&
      !isBlank (Nat.digitChar d).toUpper) = true := by decide
  have hcipher : ∀ c ∈ "AES-256-CBC,".toList, (isAscii c && !isBlank c) = true :=
    List.all_eq_true.mp (by decide)
  -- A variable stands for the literal, which rewriting would unfold.
  have hchars (first : String) (cs : List Char) :
      (first ++ String.ofList cs).toList = first.toList ++ cs := by simp
  have hprocedure : ∀ c ∈ "4,ENCRYPTED".toList, (isAscii c && !isBlank c) = true :=
    List.all_eq_true.mp (by decide)
  constructor
  · intro header hmem
    rw [headers, List.mem_cons, List.mem_singleton] at hmem
    rcases hmem with rfl | rfl
    · apply isHeader_of_unblank
      · decide
      · exact hprocedure
    · apply isHeader_of_unblank
      · decide
      · intro c hc
        rw [hchars, List.mem_append, List.mem_map] at hc
        rcases hc with hc | ⟨d, hd, rfl⟩
        · exact hcipher c hc
        · obtain ⟨b, -, hb⟩ := List.mem_flatMap.mp hd
          obtain ⟨n, hn, rfl⟩ := mem_hexDigits hb
          exact hdigit n hn
  · change ["Proc-Type", "DEK-Info"].Nodup
    decide

end Protection

namespace PrivateKey

variable (key : PrivateKey) (form : KeyForm) (protection : Protection) (password : List UInt8)

theorem label_toBlock_mem :
    (key.toBlock form protection password).label ∈ privateKeyLabels := by
  have hkind : ∀ kind : KeyKind, kind.label ∈ privateKeyLabels := by
    intro kind
    cases kind <;> decide
  cases form with
  | traditional =>
      simp only [toBlock]
      split
      · exact hkind key.kind
      · exact hkind key.kind
  | wrapped =>
      simp only [toBlock]
      split
      · change "PRIVATE KEY" ∈ privateKeyLabels
        decide
      · change "ENCRYPTED PRIVATE KEY" ∈ privateKeyLabels
        decide

theorem areHeaders_toBlock : AreHeaders (key.toBlock form protection password).headers := by
  cases form with
  | traditional =>
      simp only [toBlock]
      split
      · exact areHeaders_nil
      · exact protection.areHeaders_headers
  | wrapped =>
      simp only [toBlock]
      split
      · exact areHeaders_nil
      · exact areHeaders_nil

/-- Every key is written as a well-formed block. -/
theorem wellFormed_toBlock : (key.toBlock form protection password).WellFormed := by
  have hlabels : ∀ label ∈ privateKeyLabels,
      label.toList ≠ [] ∧ label.toList.all isLabelChar = true := by decide
  obtain ⟨hne, hchars⟩ := hlabels _ (key.label_toBlock_mem form protection password)
  exact ⟨hne, List.all_eq_true.mp hchars, key.areHeaders_toBlock form protection password⟩

end PrivateKey

end PemBundle
