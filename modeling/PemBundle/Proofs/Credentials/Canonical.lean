import PemBundle.Proofs.Credentials.Saved
import PemBundle.Proofs.Credentials.Shape
import PemBundle.Proofs.Json.Ascii
import PemBundle.Proofs.Json.Joined

/-!
# Saved credentials in canonical form

Credentials are canonical if none of their single texts is empty. Saving and reading makes
credentials canonical and changes nothing else; whatever is read, from any JSON value, is canonical,
so saving and reading it again changes nothing at all. Reading a JSON text leaves no two surrogates
that pair, so this holds of all that is read from a text.
-/

namespace PemBundle.Credentials

theorem canonicalText_eq_self_iff (text : Option CodeText) :
    canonicalText text = text ↔ text ≠ some (.unicode "") := by
  cases text with
  | none => simp [canonicalText]
  | some s => by_cases hs : s = "" <;> simp [canonicalText, Option.filter, hs]

/-- Credentials are canonical if none of their single texts is empty. -/
theorem canonical_eq_self_iff (c : Credentials) :
    c.canonical = c ↔
      c.certificate ≠ some (.unicode "") ∧ c.privateKey ≠ some (.unicode "") ∧
        c.csr ≠ some (.unicode "") := by
  obtain ⟨certificate, privateKey, chain, csr⟩ := c
  simp [canonical, canonicalText_eq_self_iff]

/-! ### What is read is canonical -/

/-- A text that is read is not empty. -/
theorem ne_of_holdsText {value : Option Json} {text : Option CodeText} (h : HoldsText value text) :
    text ≠ some (.unicode "") := by
  cases h with
  | absent | null | empty => exact (Option.some_ne_none _).symm
  | text hs => exact fun heq => hs (Option.some.inj heq)

theorem canonical_of_readFields {fields : List (CodeText × Json)} {c : Credentials}
    (h : readFields fields = .ok c) : c.canonical = c := by
  simp only [readFields_eq_ok_iff, readText_eq_ok_iff] at h
  obtain ⟨hcertificate, hkey, -, hcsr⟩ := h
  rw [canonical_eq_self_iff]
  exact ⟨ne_of_holdsText hcertificate, ne_of_holdsText hkey, ne_of_holdsText hcsr⟩

theorem canonical_of_ofValue {value : Json} {c : Credentials} (h : ofValue value = .success c) :
    c.canonical = c := by
  cases value with
  | object fields =>
      exact canonical_of_readFields ((Outcome.ofExcept_eq_success_iff _ _ _ _).mp h)
  | null | bool | int | decimal | text | list => exact nomatch h

/-- What is read from a text is read from the value that the text writes. -/
theorem exists_of_ofJson {text : String} {c : Credentials} (h : ofJson text = .success c) :
    ∃ value, Json.read text = .ok value ∧ ofValue value = .success c := by
  cases hread : Json.read text with
  | error e =>
      rw [ofJson, readValue, hread] at h
      cases h
  | ok value =>
      rw [ofJson, readValue, hread] at h
      cases value with
      | object fields => exact ⟨_, rfl, h⟩
      | null | bool | int | decimal | text | list => cases h

theorem canonical_of_ofJson {text : String} {c : Credentials} (h : ofJson text = .success c) :
    c.canonical = c := by
  obtain ⟨value, -, hvalue⟩ := exists_of_ofJson h
  exact canonical_of_ofValue hvalue

/-! ### What is read from a text is joined -/

theorem isJoined_of_lookup {fields : List (CodeText × Json)}
    (h : ∀ field ∈ fields, field.2.IsJoined) {name : CodeText} {value : Json}
    (hlookup : fields.lookup name = some value) : value.IsJoined := by
  obtain ⟨before, after, rfl, -⟩ := List.lookup_eq_some_iff.mp hlookup
  exact h (name, value) (List.mem_append_right before List.mem_cons_self)

theorem isJoined_of_holdsText {value : Option Json} (hvalue : ∀ v ∈ value, v.IsJoined)
    {text : Option CodeText} (h : HoldsText value text) : ∀ s ∈ text, s.IsJoined := by
  intro s hs
  cases h with
  | absent | null | empty => exact nomatch hs
  | text _ =>
      obtain rfl := Option.mem_some.mp hs
      cases hvalue _ rfl with
      | text hjoined => exact hjoined

theorem isJoined_of_holdsTexts {value : Option Json} (hvalue : ∀ v ∈ value, v.IsJoined)
    {texts : List CodeText} (h : HoldsTexts value texts) : ∀ s ∈ texts, s.IsJoined := by
  intro s hs
  cases h with
  | absent | null => exact nomatch hs
  | texts =>
      cases hvalue _ rfl with
      | list hitems =>
          cases hitems _ (List.mem_map_of_mem hs) with
          | text hjoined => exact hjoined

theorem isJoined_of_ofValue {value : Json} (hvalue : value.IsJoined) {c : Credentials}
    (h : ofValue value = .success c) : c.IsJoined := by
  cases hvalue with
  | object _ hvalues =>
      obtain ⟨hcertificate, hkey, hchain, hcsr⟩ := ((ofValue_object_exact _).1 c).mp h
      have hfield {name : CodeText} (v : Json) (hv : v ∈ List.lookup name _) : v.IsJoined :=
        isJoined_of_lookup hvalues hv
      refine (isJoined_iff c).mpr ⟨isJoined_of_holdsText hfield hcertificate,
        isJoined_of_holdsText hfield hkey, ?_, isJoined_of_holdsText hfield hcsr⟩
      rcases hchain with hchain | ⟨hnil, -⟩
      · exact isJoined_of_holdsTexts hfield hchain
      · rw [hnil]
        exact List.forall_mem_nil _
  | null | bool | int | decimal | text | list => exact nomatch h

theorem isJoined_of_ofJson {text : String} {c : Credentials} (h : ofJson text = .success c) :
    c.IsJoined := by
  obtain ⟨value, hread, hvalue⟩ := exists_of_ofJson h
  exact isJoined_of_ofValue (Json.isJoined_of_read hread) hvalue

/-- Saved text is ASCII and, unless two surrogates pair, is read back in canonical form, so to the
same credentials exactly if these are canonical. Whatever is read from a text, or from a value
without pairing surrogates, stays the same when it is saved and read again. -/
theorem saved_read_canonical (c : Credentials) :
    (c.IsJoined →
      ofJson c.toJson = .success c.canonical ∧
        (ofJson c.toJson = .success c ↔
          c.certificate ≠ some (.unicode "") ∧ c.privateKey ≠ some (.unicode "") ∧
            c.csr ≠ some (.unicode ""))) ∧
      (∀ char ∈ c.toJson.toList, Text.isAscii char = true) ∧
      (∀ text read, ofJson text = .success read →
        read.canonical = read ∧ ofJson read.toJson = .success read) ∧
      ∀ value read, ofValue value = .success read →
        read.canonical = read ∧ (value.IsJoined → ofJson read.toJson = .success read) := by
  have hagain {read : Credentials} (hread : read.canonical = read) (hjoined : read.IsJoined) :
      ofJson read.toJson = .success read :=
    (ofJson_toJson hjoined).trans (by rw [hread])
  refine ⟨?_, ?_, ?_, ?_⟩
  · intro hc
    refine ⟨ofJson_toJson hc, ?_⟩
    rw [ofJson_toJson hc, Outcome.success.injEq, canonical_eq_self_iff]
  · intro char hchar
    exact Json.isAscii_of_mem_render hchar
  · intro text read hread
    have hcanonical := canonical_of_ofJson hread
    exact ⟨hcanonical, hagain hcanonical (isJoined_of_ofJson hread)⟩
  · intro value read hread
    have hcanonical := canonical_of_ofValue hread
    exact ⟨hcanonical, fun hvalue => hagain hcanonical (isJoined_of_ofValue hvalue hread)⟩

/-- An empty certificate, a key with a quote, a backslash, a line feed, a control character and a
character of two units, and a chain that starts with an empty text. -/
def oddCredentials : Credentials := ⟨some "", some "\"\\\n\x01\x7f😀", ["", "é"], none⟩

theorem saved_read_canonical_odd :
    ofJson oddCredentials.toJson = .success { oddCredentials with certificate := none } ∧
      ofJson oddCredentials.toJson ≠ .success oddCredentials ∧
        ofJson oddCredentials.canonical.toJson = .success oddCredentials.canonical := by
  have hjoined : oddCredentials.IsJoined :=
    isJoined_of_unicode ["", "\"\\\n\x01\x7f😀", "", "é"] rfl
  have hcanonical : oddCredentials.canonical = { oddCredentials with certificate := none } := by
    decide
  obtain ⟨hread, -, htext, -⟩ := saved_read_canonical oddCredentials
  obtain ⟨hread, hsame⟩ := hread hjoined
  refine ⟨hcanonical ▸ hread, ?_, (htext _ _ hread).2⟩
  intro h
  exact (hsame.mp h).1 rfl

end PemBundle.Credentials
