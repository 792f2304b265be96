import PemBundle.Credentials.Saved
import PemBundle.Proofs.Outcome

/-!
# Which objects hold credentials

An object is read if its fields for the certificate, the private key and the signing request are
absent, null or a text, and its field for the chain is absent, null or a list of texts. Nothing else
is read, but for one kind of value: the field for the chain is taken for absent wherever its value
is void, of whatever kind it is. What is not read is refused for the first field that is misshapen.
-/

namespace PemBundle

/-- The texts of a list are there if it holds nothing but texts. -/
theorem Json.texts?_eq_some_iff (items : List Json) (texts : List CodeText) :
    texts? items = some texts ↔ items = texts.map .text := by
  constructor
  · intro h
    induction items generalizing texts with
    | nil =>
        obtain rfl := Option.some.inj h
        rfl
    | cons item items ih =>
        cases item with
        | text s =>
            obtain ⟨rest, hrest, rfl⟩ := Option.map_eq_some_iff.mp h
            rw [ih rest hrest]
            rfl
        | null | bool | int | decimal | list | object => exact nomatch h
  · rintro rfl
    exact texts?_map_text texts

namespace Credentials

/-- What the value of a field holds as an optional text: an absent value, null and the empty text
hold none. -/
inductive HoldsText : Option Json → Option CodeText → Prop
  | absent : HoldsText none none
  | null : HoldsText (some .null) none
  | empty : HoldsText (some (.text "")) none
  | text {s : CodeText} (h : s ≠ "") : HoldsText (some (.text s)) (some s)

/-- What the value of a field holds as a sequence of texts: an absent value and null hold none. -/
inductive HoldsTexts : Option Json → List CodeText → Prop
  | absent : HoldsTexts none []
  | null : HoldsTexts (some .null) []
  | texts (texts : List CodeText) : HoldsTexts (some (.list (texts.map .text))) texts

/-- Whether the value of a field is void, of whatever kind it is. -/
def IsVoidField (value : Option Json) : Prop := ∃ v, value = some v ∧ v.isVoid = true

/-- The fault of a field that does not have its shape. -/
inductive IsMisshapen (fields : List (CodeText × Json)) : Fault → Prop
  | text {name : String} {v : Json} (hname : name ∈ ["Certificate", "PrivateKey", "CSR"])
      (hlookup : fields.lookup (.unicode name) = some v)
      (hv : ∀ text, ¬ HoldsText (some v) text) :
      IsMisshapen fields (.notText name v.kindName)
  | chain {v : Json} (hlookup : fields.lookup (.unicode "Chain") = some v)
      (hv : ∀ texts, ¬ HoldsTexts (some v) texts) : IsMisshapen fields .chainNotTexts

/-! ### Each field -/

theorem readText_eq_ok_iff (fields : List (CodeText × Json)) (name : String)
    (text : Option CodeText) :
    readText fields name = .ok text ↔ HoldsText (fields.lookup (.unicode name)) text := by
  rw [readText]
  cases fields.lookup (.unicode name) with
  | none =>
      constructor
      · rintro ⟨⟩
        exact .absent
      · rintro ⟨⟩
        rfl
  | some v =>
      cases v with
      | null =>
          constructor
          · rintro ⟨⟩
            exact .null
          · rintro ⟨⟩
            rfl
      | text s =>
          by_cases hs : s = ""
          · rw [hs]
            constructor
            · rintro ⟨⟩
              exact .empty
            · intro h
              cases h with
              | empty => rfl
              | text hne => exact absurd rfl hne
          · simp only [if_neg hs]
            constructor
            · rintro ⟨⟩
              exact .text hs
            · intro h
              cases h with
              | empty => exact absurd rfl hs
              | text => rfl
      | bool | int | decimal | list | object =>
          constructor
          · rintro ⟨⟩
          · rintro ⟨⟩

/-- What is no optional text is refused, with its kind. -/
theorem isMisshapen_of_readText {fields : List (CodeText × Json)} {name : String}
    (hname : name ∈ ["Certificate", "PrivateKey", "CSR"]) {fault : Fault}
    (h : readText fields name = .error fault) : IsMisshapen fields fault := by
  have hrefused (text : Option CodeText) : ¬ HoldsText (fields.lookup (.unicode name)) text := by
    intro hholds
    rw [(readText_eq_ok_iff fields name text).mpr hholds] at h
    cases h
  rw [readText] at h
  split at h
  · cases h
  · cases h
  · cases h
  · rename_i v _ _ hlookup
    cases h
    exact .text hname hlookup (hlookup ▸ hrefused)

theorem holdsTexts_list_iff (items : List Json) (texts : List CodeText) :
    HoldsTexts (some (.list items)) texts ↔ Json.texts? items = some texts := by
  rw [Json.texts?_eq_some_iff]
  constructor
  · rintro ⟨⟩
    rfl
  · rintro rfl
    exact .texts texts

theorem HoldsTexts.eq_nil_of_isVoid {v : Json} {texts : List CodeText}
    (h : HoldsTexts (some v) texts) (hvoid : v.isVoid = true) : texts = [] := by
  cases h with
  | null => rfl
  | texts =>
      rw [Json.isVoid, List.isEmpty_map, List.isEmpty_iff] at hvoid
      exact hvoid

/-- A void field is taken for an empty chain. -/
theorem readChain_of_isVoid {fields : List (CodeText × Json)} {v : Json}
    (hlookup : fields.lookup (.unicode "Chain") = some v) (hvoid : v.isVoid = true) :
    readChain fields = .ok [] := by
  simp only [readChain, hlookup, if_pos hvoid]

/-- A field that is not void is a chain if it holds texts. -/
theorem readChain_eq_ok_iff_of_filled {fields : List (CodeText × Json)} {v : Json}
    (hlookup : fields.lookup (.unicode "Chain") = some v) (hvoid : v.isVoid = false)
    (texts : List CodeText) :
    readChain fields = .ok texts ↔ HoldsTexts (some v) texts := by
  simp only [readChain, hlookup, hvoid, Bool.false_eq_true, if_false]
  cases v with
  | list items =>
      rw [holdsTexts_list_iff]
      cases hitems : Json.texts? items with
      | none => simp [hitems]
      | some found => simp [hitems]
  | null => cases hvoid
  | bool | int | decimal | text | object =>
      constructor
      · rintro ⟨⟩
      · rintro ⟨⟩

/-- A chain is read if the field holds texts, and is empty where the field is void. -/
theorem readChain_eq_ok_iff (fields : List (CodeText × Json)) (texts : List CodeText) :
    readChain fields = .ok texts ↔
      HoldsTexts (fields.lookup (.unicode "Chain")) texts ∨
        texts = [] ∧ IsVoidField (fields.lookup (.unicode "Chain")) := by
  cases hlookup : fields.lookup (.unicode "Chain") with
  | none =>
      simp only [readChain, hlookup]
      constructor
      · rintro ⟨⟩
        exact .inl .absent
      · rintro (h | ⟨rfl, -⟩)
        · cases h
          rfl
        · rfl
  | some v =>
      cases hvoid : v.isVoid with
      | true =>
          rw [readChain_of_isVoid hlookup hvoid]
          constructor
          · rintro ⟨⟩
            exact .inr ⟨rfl, v, rfl, hvoid⟩
          · rintro (h | ⟨rfl, -⟩)
            · rw [h.eq_nil_of_isVoid hvoid]
            · rfl
      | false =>
          have hfilled : ¬ IsVoidField (some v) := by
            rintro ⟨other, hother, hv⟩
            rw [← Option.some.inj hother, hvoid] at hv
            cases hv
          rw [readChain_eq_ok_iff_of_filled hlookup hvoid]
          simp only [hfilled, and_false, or_false]

/-- Whatever is refused as a chain is refused for the same fault. -/
theorem eq_chainNotTexts_of_readChain {fields : List (CodeText × Json)} {fault : Fault}
    (h : readChain fields = .error fault) : fault = .chainNotTexts := by
  rw [readChain] at h
  split at h
  · cases h
  · split at h
    · cases h
    · split at h
      · split at h
        · cases h
        · cases h
          rfl
      · cases h
        rfl

theorem isMisshapen_of_readChain {fields : List (CodeText × Json)} {fault : Fault}
    (h : readChain fields = .error fault) : IsMisshapen fields fault := by
  have hrefused (texts : List CodeText) :
      ¬ HoldsTexts (fields.lookup (.unicode "Chain")) texts := by
    intro hholds
    rw [(readChain_eq_ok_iff fields texts).mpr (.inl hholds)] at h
    cases h
  rw [eq_chainNotTexts_of_readChain h]
  cases hlookup : fields.lookup (.unicode "Chain") with
  | none => exact absurd (hlookup ▸ .absent) (hrefused [])
  | some v => exact .chain hlookup (hlookup ▸ hrefused)

/-! ### Objects -/

theorem readFields_eq_ok_iff (fields : List (CodeText × Json)) (c : Credentials) :
    readFields fields = .ok c ↔
      readText fields "Certificate" = .ok c.certificate ∧
        readText fields "PrivateKey" = .ok c.privateKey ∧
        readChain fields = .ok c.chain ∧ readText fields "CSR" = .ok c.csr := by
  simp only [readFields, bind_eq_ok_iff]
  constructor
  · rintro ⟨certificate, hcertificate, privateKey, hkey, chain, hchain, csr, hcsr, ⟨⟩⟩
    exact ⟨hcertificate, hkey, hchain, hcsr⟩
  · rintro ⟨hcertificate, hkey, hchain, hcsr⟩
    exact ⟨_, hcertificate, _, hkey, _, hchain, _, hcsr, rfl⟩

/-- What is refused is a field that is misshapen. -/
theorem isMisshapen_of_readFields {fields : List (CodeText × Json)} {fault : Fault}
    (h : readFields fields = .error fault) : IsMisshapen fields fault := by
  simp only [readFields, bind_eq_error_iff] at h
  rcases h with h | ⟨_, -, h | ⟨_, -, h | ⟨_, -, h | ⟨_, -, h⟩⟩⟩⟩
  · exact isMisshapen_of_readText (by decide) h
  · exact isMisshapen_of_readText (by decide) h
  · exact isMisshapen_of_readChain h
  · exact isMisshapen_of_readText (by decide) h
  · cases h

/-- An object is read to the credentials that its fields hold, whatever other fields it has; the
field for the chain may also be void, which then is an empty chain. Every other object is refused
for a field that is misshapen. -/
theorem ofValue_object_exact (fields : List (CodeText × Json)) :
    (∀ c, ofValue (.object fields) = .success c ↔
      HoldsText (fields.lookup (.unicode "Certificate")) c.certificate ∧
        HoldsText (fields.lookup (.unicode "PrivateKey")) c.privateKey ∧
        (HoldsTexts (fields.lookup (.unicode "Chain")) c.chain ∨
          c.chain = [] ∧ IsVoidField (fields.lookup (.unicode "Chain"))) ∧
        HoldsText (fields.lookup (.unicode "CSR")) c.csr) ∧
    ∀ failure, ofValue (.object fields) = .failure failure →
      ∃ fault, failure = ⟨.malformedInput, "Serialized PEM collection has an invalid shape",
        some fault⟩ ∧ IsMisshapen fields fault := by
  constructor
  · intro c
    rw [ofValue, Outcome.ofExcept_eq_success_iff, readFields_eq_ok_iff, readText_eq_ok_iff,
      readText_eq_ok_iff, readText_eq_ok_iff, readChain_eq_ok_iff]
  · intro failure h
    rw [ofValue] at h
    cases hread : readFields fields with
    | ok c =>
        rw [hread] at h
        cases h
    | error fault =>
        rw [hread] at h
        cases h
        exact ⟨fault, rfl, isMisshapen_of_readFields hread⟩

/-- Fields that hold texts, among others. -/
def heldFields : List (CodeText × Json) :=
  [("Other", .int 1), ("CSR", .null), ("Chain", .list [.text "", .text "a"]),
    ("Certificate", .text ""), ("PrivateKey", .text "b")]

/-- A chain with a number in it. -/
def mixedFields : List (CodeText × Json) := [("Chain", .list [.text "a", .int 0])]

theorem ofValue_object_exact_held :
    ofValue (.object heldFields) = .success ⟨none, some "b", ["", "a"], none⟩ ∧
      ∃ failure, ofValue (.object mixedFields) = .failure failure ∧
        failure.code = .malformedInput ∧ IsMisshapen mixedFields .chainNotTexts := by
  constructor
  · rw [(ofValue_object_exact heldFields).1]
    have htexts : HoldsTexts (heldFields.lookup (.unicode "Chain")) ["", "a"] := .texts ["", "a"]
    exact ⟨.empty, .text (by decide), .inl htexts, .null⟩
  · have hfailure : ofValue (.object mixedFields) = .failure ⟨.malformedInput,
        "Serialized PEM collection has an invalid shape", some .chainNotTexts⟩ := rfl
    obtain ⟨fault, hfault, hmisshapen⟩ := (ofValue_object_exact mixedFields).2 _ hfailure
    obtain rfl := Option.some.inj (Failure.mk.inj hfault).2.2
    exact ⟨_, hfailure, rfl, hmisshapen⟩

/-- A field for the chain that is false is taken for an empty chain, although it holds no texts. -/
theorem void_chain_accepted :
    ofValue (.object [("Chain", .bool false)]) = .success .empty ∧
      ¬ ∃ texts, HoldsTexts
        ([(CodeText.unicode "Chain", Json.bool false)].lookup (.unicode "Chain")) texts := by
  constructor
  · rfl
  · rintro ⟨texts, ⟨⟩⟩

end Credentials

end PemBundle
