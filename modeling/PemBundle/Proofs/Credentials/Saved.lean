import Mathlib.Data.List.Nodup
import PemBundle.Credentials.Saved
import PemBundle.Proofs.Json.RoundTrip

/-!
# Saved credentials are read back

Credentials are read back from the JSON text that saves them, with each empty text taken for absent
and the chain unchanged. Their texts may be any in which no two surrogates pair, so all of those that
hold no surrogate.
-/

namespace PemBundle.Credentials

/-- An optional text, absent if it is empty. -/
def canonicalText (text : Option CodeText) : Option CodeText := text.filter (· ≠ "")

/-- The credentials with each text that counts as absent left out. -/
def canonical (c : Credentials) : Credentials :=
  { c with
    certificate := canonicalText c.certificate
    privateKey := canonicalText c.privateKey
    csr := canonicalText c.csr }

/-- The texts of the credentials. -/
def texts (c : Credentials) : List CodeText :=
  c.certificate.toList ++ c.privateKey.toList ++ c.chain ++ c.csr.toList

/-- No two surrogates pair in the texts of the credentials. -/
def IsJoined (c : Credentials) : Prop := ∀ text ∈ c.texts, text.IsJoined

instance (c : Credentials) : Decidable c.IsJoined :=
  inferInstanceAs (Decidable (∀ text ∈ c.texts, text.IsJoined))

/-- Credentials with no surrogate in their texts. -/
theorem isJoined_of_unicode {c : Credentials} (words : List String)
    (h : c.texts = words.map .unicode) : c.IsJoined := by
  intro text htext
  rw [h] at htext
  obtain ⟨word, -, rfl⟩ := List.mem_map.mp htext
  exact CodeText.isJoined_unicode word

theorem isJoined_iff (c : Credentials) :
    c.IsJoined ↔ (∀ text ∈ c.certificate, text.IsJoined) ∧ (∀ text ∈ c.privateKey, text.IsJoined) ∧
      (∀ text ∈ c.chain, text.IsJoined) ∧ ∀ text ∈ c.csr, text.IsJoined := by
  simp only [IsJoined, texts, List.forall_mem_append, Option.mem_toList, Option.mem_def, and_assoc]

/-- The credentials with surrogates that pair joined to characters. -/
def rejoined (c : Credentials) : Credentials where
  certificate := c.certificate.map CodeText.rejoined
  privateKey := c.privateKey.map CodeText.rejoined
  chain := c.chain.map CodeText.rejoined
  csr := c.csr.map CodeText.rejoined

theorem isJoined_rejoined (c : Credentials) : c.rejoined.IsJoined := by
  have hoption {text : Option CodeText} : ∀ s ∈ text.map CodeText.rejoined, s.IsJoined := by
    intro s hs
    obtain ⟨t, -, rfl⟩ := Option.map_eq_some_iff.mp hs
    exact t.isJoined_rejoined
  refine (isJoined_iff _).mpr ⟨hoption, hoption, ?_, hoption⟩
  intro s hs
  obtain ⟨t, -, rfl⟩ := List.mem_map.mp hs
  exact t.isJoined_rejoined

theorem isPresent_map_rejoined (text : Option CodeText) :
    isPresent (text.map CodeText.rejoined) = isPresent text := by
  cases text with
  | none => rfl
  | some s =>
      rw [Bool.eq_iff_iff, isPresent, isPresent, Option.map_some, Option.getD_some,
        Option.getD_some, bne_iff_ne, bne_iff_ne, ne_eq, s.rejoined_eq_empty_iff]

/-! ### The saved object is read back -/

theorem names_textField (name : String) (text : Option CodeText) :
    ((textField name text).map Prod.fst).Sublist [.unicode name] := by
  rw [textField]
  split
  · exact List.Sublist.refl _
  · exact List.nil_sublist _

theorem names_chainField (chain : List CodeText) :
    ((chainField chain).map Prod.fst).Sublist [.unicode "Chain"] := by
  rw [chainField]
  split
  · exact List.nil_sublist _
  · exact List.Sublist.refl _

theorem nodup_names_toFields (c : Credentials) : (c.toFields.map Prod.fst).Nodup := by
  have hsublist : (c.toFields.map Prod.fst).Sublist
      ([.unicode "Certificate"] ++ [.unicode "PrivateKey"] ++ [.unicode "Chain"] ++
        [.unicode "CSR"]) := by
    rw [toFields, List.map_append, List.map_append, List.map_append]
    apply List.Sublist.append
    · apply List.Sublist.append
      · exact (names_textField _ _).append (names_textField _ _)
      · exact names_chainField c.chain
    · exact names_textField _ _
  exact hsublist.nodup (by decide)

theorem isReadBack_of_mem_textField {name : String} {text : Option CodeText}
    (htext : ∀ s ∈ text, s.IsJoined) {field : CodeText × Json} (h : field ∈ textField name text)
    (depth : Nat) : field.1.IsJoined ∧ Json.IsReadBack (Json.readValue depth) field.2 := by
  rw [textField] at h
  split at h
  · obtain rfl := List.mem_singleton.mp h
    refine ⟨CodeText.isJoined_unicode name, Json.isReadBack_text depth ?_⟩
    cases text with
    | none => exact CodeText.isJoined_unicode ""
    | some s => exact htext s rfl
  · exact absurd h List.not_mem_nil

theorem isReadBack_of_mem_chainField {chain : List CodeText} (hchain : ∀ s ∈ chain, s.IsJoined)
    {field : CodeText × Json} (h : field ∈ chainField chain) (depth : Nat) :
    field.1.IsJoined ∧ Json.IsReadBack (Json.readValue (depth + 1)) field.2 := by
  rw [chainField] at h
  split at h
  · exact absurd h List.not_mem_nil
  · obtain rfl := List.mem_singleton.mp h
    refine ⟨CodeText.isJoined_unicode "Chain", Json.isReadBack_list ?_⟩
    intro v hv
    obtain ⟨s, hs, rfl⟩ := List.mem_map.mp hv
    exact Json.isReadBack_text depth (hchain s hs)

theorem isReadBack_of_mem_toFields {c : Credentials} (hc : c.IsJoined) {field : CodeText × Json}
    (h : field ∈ c.toFields) (depth : Nat) :
    field.1.IsJoined ∧ Json.IsReadBack (Json.readValue (depth + 1)) field.2 := by
  obtain ⟨hcertificate, hkey, hchain, hcsr⟩ := (isJoined_iff c).mp hc
  simp only [toFields, List.mem_append] at h
  rcases h with ((h | h) | h) | h
  · exact isReadBack_of_mem_textField hcertificate h (depth + 1)
  · exact isReadBack_of_mem_textField hkey h (depth + 1)
  · exact isReadBack_of_mem_chainField hchain h depth
  · exact isReadBack_of_mem_textField hcsr h (depth + 1)

/-- The saved text is JSON for the saved object. -/
theorem read_toJson {c : Credentials} (h : c.IsJoined) : Json.read c.toJson = .ok c.toObject := by
  have hobject : Json.IsReadBack (Json.readValue (983 + 1 + 1)) c.toObject := by
    apply Json.isReadBack_object
    · intro field hfield
      exact isReadBack_of_mem_toFields h hfield 983
    · exact nodup_names_toFields c
  exact Json.read_render hobject

/-! ### Surrogates that pair -/

theorem chars_textField_rejoined (name : String) (text : Option CodeText) :
    List.Forall₂ (fun f g => f.1 = g.1 ∧ Json.chars f.2 = Json.chars g.2)
      (textField name (text.map CodeText.rejoined)) (textField name text) := by
  rw [textField, textField, isPresent_map_rejoined]
  split
  · cases text with
    | none => exact .cons ⟨rfl, rfl⟩ .nil
    | some s => exact .cons ⟨rfl, by simp only [Json.chars]; exact Json.textChars_rejoined s⟩ .nil
  · exact .nil

theorem chars_chainField_rejoined (chain : List CodeText) :
    List.Forall₂ (fun f g => f.1 = g.1 ∧ Json.chars f.2 = Json.chars g.2)
      (chainField (chain.map CodeText.rejoined)) (chainField chain) := by
  have hitems : List.Forall₂ (fun v w => Json.chars v = Json.chars w)
      ((chain.map CodeText.rejoined).map .text) (chain.map .text) := by
    rw [List.map_map, List.forall₂_map_left_iff, List.forall₂_map_right_iff, List.forall₂_same]
    intro s _
    simp only [Function.comp_apply, Json.chars]
    exact Json.textChars_rejoined s
  rw [chainField, chainField, List.isEmpty_map]
  split
  · exact .nil
  · exact .cons ⟨rfl, by simp only [Json.chars, Json.itemChars_congr hitems]⟩ .nil

/-- Credentials are saved as those with surrogates that pair joined. -/
theorem toJson_rejoined (c : Credentials) : c.rejoined.toJson = c.toJson := by
  have hsingle := List.rel_append (chars_textField_rejoined "Certificate" c.certificate)
    (chars_textField_rejoined "PrivateKey" c.privateKey)
  have hfields := List.rel_append (List.rel_append hsingle (chars_chainField_rejoined c.chain))
    (chars_textField_rejoined "CSR" c.csr)
  have hchars : Json.fieldChars c.rejoined.toFields = Json.fieldChars c.toFields :=
    Json.fieldChars_congr hfields
  simp only [toJson, Json.render, toObject, Json.chars, hchars]

/-! ### The fields of the saved object -/

theorem lookup_field (name key : CodeText) (value : Json) :
    [(name, value)].lookup key = if key = name then some value else none := by
  rw [List.lookup_cons]
  by_cases hkey : key = name
  · rw [if_pos hkey, beq_iff_eq.mpr hkey]
  · rw [if_neg hkey, beq_eq_false_iff_ne.mpr hkey]
    rfl

theorem lookup_textField (name : String) (key : CodeText) (text : Option CodeText) :
    (textField name text).lookup key =
      if key = .unicode name then (canonicalText text).map Json.text else none := by
  cases text with
  | none => simp [textField, canonicalText, isPresent]
  | some s =>
      by_cases hs : s = ""
      · simp [textField, canonicalText, isPresent, Option.filter, hs]
      · simp [textField, canonicalText, isPresent, Option.filter, hs, lookup_field]

theorem lookup_chainField (chain : List CodeText) (key : CodeText) :
    (chainField chain).lookup key =
      if key = .unicode "Chain" ∧ chain ≠ [] then some (.list (chain.map .text)) else none := by
  cases chain with
  | nil => simp [chainField]
  | cons text chain => simp [chainField, lookup_field]

theorem readText_of_lookup {fields : List (CodeText × Json)} {name : String}
    {text : Option CodeText}
    (h : fields.lookup (.unicode name) = (canonicalText text).map Json.text) :
    readText fields name = .ok (canonicalText text) := by
  rw [readText, h]
  cases htext : canonicalText text with
  | none => rfl
  | some s =>
      have hs : s ≠ "" := by
        have hfilter := (Option.filter_eq_some_iff.mp htext).2
        simpa using hfilter
      simp [hs]

theorem readChain_of_lookup {fields : List (CodeText × Json)} {chain : List CodeText}
    (h : fields.lookup (.unicode "Chain") =
      if chain ≠ [] then some (.list (chain.map .text)) else none) :
    readChain fields = .ok chain := by
  rw [readChain, h]
  cases chain with
  | nil => rfl
  | cons text chain => simp [Json.isVoid, -List.map_cons]

/-- The fields that save credentials are read back. -/
theorem readFields_toFields (c : Credentials) : readFields c.toFields = .ok c.canonical := by
  have hlookup (key : CodeText) : c.toFields.lookup key =
      ((((textField "Certificate" c.certificate).lookup key).or
        ((textField "PrivateKey" c.privateKey).lookup key)).or
          ((chainField c.chain).lookup key)).or ((textField "CSR" c.csr).lookup key) := by
    rw [toFields, List.lookup_append, List.lookup_append, List.lookup_append]
  simp only [lookup_textField, lookup_chainField] at hlookup
  have hcertificate : readText c.toFields "Certificate" = .ok (canonicalText c.certificate) := by
    apply readText_of_lookup
    simp [hlookup]
  have hkey : readText c.toFields "PrivateKey" = .ok (canonicalText c.privateKey) := by
    apply readText_of_lookup
    simp [hlookup]
  have hchain : readChain c.toFields = .ok c.chain := by
    apply readChain_of_lookup
    simp [hlookup]
  have hcsr : readText c.toFields "CSR" = .ok (canonicalText c.csr) := by
    apply readText_of_lookup
    simp [hlookup]
  rw [readFields, hcertificate, hkey, hchain, hcsr]
  rfl

/-- Saved credentials are read back; an empty text is absent afterwards. -/
theorem ofJson_toJson {c : Credentials} (h : c.IsJoined) :
    ofJson c.toJson = .success c.canonical := by
  have hvalue : readValue c.toJson = .ok (some c.toObject) := by
    rw [readValue, read_toJson h]
    rfl
  have hfields : ofValue c.toObject = .success c.canonical := by
    change Outcome.ofExcept _ _ (readFields c.toFields) = _
    rw [readFields_toFields]
    rfl
  rw [ofJson, hvalue]
  exact hfields

/-- Whatever their texts are, saved credentials are read back with surrogates that pair joined. -/
theorem ofJson_toJson_rejoined (c : Credentials) :
    ofJson c.toJson = .success c.rejoined.canonical := by
  rw [← toJson_rejoined, ofJson_toJson c.isJoined_rejoined]

end PemBundle.Credentials
