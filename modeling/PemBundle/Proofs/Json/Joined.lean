import PemBundle.Json.Reader
import PemBundle.Proofs.Outcome
import PemBundle.Proofs.Text.Utf16

/-!
# Texts in values that are read

The escapes of a high surrogate and of a low one right after it are read as one character. So in the
texts and names of a value that is read, whatever the input, no two surrogates pair.
-/

namespace PemBundle.Json

/-- No two surrogates pair in the texts and names of a value. -/
inductive IsJoined : Json → Prop
  | null : IsJoined .null
  | bool (b : Bool) : IsJoined (.bool b)
  | int (n : Int) : IsJoined (.int n)
  | decimal (d : Decimal) : IsJoined (.decimal d)
  | text {s : CodeText} (h : s.IsJoined) : IsJoined (.text s)
  | list {items : List Json} (h : ∀ v ∈ items, IsJoined v) : IsJoined (.list items)
  | object {fields : List (CodeText × Json)} (names : ∀ field ∈ fields, field.1.IsJoined)
      (values : ∀ field ∈ fields, IsJoined field.2) : IsJoined (.object fields)

/-- Every value that a reader gives is joined. -/
def GivesJoined (item : Reader Json) : Prop :=
  ∀ cs value rest, item cs = .ok (value, rest) → value.IsJoined

theorem isJoined_of_readText {start cs rest : List Char} {s : CodeText}
    (h : readText start cs = .ok (s, rest)) : s.IsJoined := by
  obtain ⟨⟨units, left⟩, -, heq⟩ := (bind_eq_ok_iff _ _ _).mp h
  obtain rfl := congrArg Prod.fst (Except.ok.inj heq)
  rw [CodeText.IsJoined, CodeText.points_ofPoints]
  exact Text.isChain_ofUnits _

theorem isJoined_of_readNumber {start cs rest : List Char} {negative : Bool} {value : Json}
    (h : readNumber start negative cs = .ok (value, rest)) : value.IsJoined := by
  rw [readNumber] at h
  split at h
  · cases h
  · simp only at h
    split at h
    · obtain rfl := congrArg Prod.fst (Except.ok.inj h)
      exact .decimal _
    · split at h
      · obtain rfl := congrArg Prod.fst (Except.ok.inj h)
        exact .decimal _
      · split at h
        · cases h
        · obtain rfl := congrArg Prod.fst (Except.ok.inj h)
          exact .int _

theorem isJoined_of_readAtom {cs rest : List Char} {value : Json}
    (h : readAtom cs = .ok (value, rest)) : value.IsJoined := by
  rw [readAtom.eq_def] at h
  split at h
  · next answer hword =>
    obtain rfl := Except.ok.inj h
    obtain ⟨⟨word, given⟩, hmem, hafter⟩ := List.exists_of_findSome?_eq_some hword
    obtain ⟨_, -, heq⟩ := Option.map_eq_some_iff.mp hafter
    obtain rfl : given = value := congrArg Prod.fst heq
    simp only [words, List.mem_cons, Prod.mk.injEq, List.not_mem_nil, or_false] at hmem
    rcases hmem with ⟨-, rfl⟩ | ⟨-, rfl⟩ | ⟨-, rfl⟩ | ⟨-, rfl⟩ | ⟨-, rfl⟩ | ⟨-, rfl⟩ <;> constructor
  · split at h <;> exact isJoined_of_readNumber h

variable {item : Reader Json}

/-- Items that are read behind joined ones make a joined list. -/
theorem isJoined_of_readItems (hitem : GivesJoined item) {fuel : Nat} {items : List Json}
    (hitems : ∀ v ∈ items, v.IsJoined) {cs rest : List Char} {value : Json}
    (h : readItems item fuel items cs = .ok (value, rest)) : value.IsJoined := by
  induction fuel generalizing items cs with
  | zero => cases h
  | succ fuel ih =>
      rw [readItems] at h
      obtain ⟨⟨next, left⟩, hnext, h⟩ := (bind_eq_ok_iff _ _ _).mp h
      have hmore : ∀ v ∈ next :: items, v.IsJoined :=
        List.forall_mem_cons.mpr ⟨hitem _ _ _ hnext, hitems⟩
      simp only at h
      split at h
      · obtain rfl := congrArg Prod.fst (Except.ok.inj h)
        exact .list fun v hv => hmore v (List.mem_reverse.mp hv)
      · exact ih hmore h
      · cases h

theorem forall_mem_setField {P : CodeText × Json → Prop} {name : CodeText} {value : Json}
    {fields : List (CodeText × Json)} (hfields : ∀ field ∈ fields, P field)
    (hfield : P (name, value)) : ∀ field ∈ setField name value fields, P field := by
  induction fields with
  | nil => exact List.forall_mem_singleton.mpr hfield
  | cons first fields ih =>
      rw [List.forall_mem_cons] at hfields
      rw [setField]
      split
      · next hname =>
        exact List.forall_mem_cons.mpr ⟨hname ▸ hfield, hfields.2⟩
      · exact List.forall_mem_cons.mpr ⟨hfields.1, ih hfields.2⟩

/-- Fields that are read behind joined ones make a joined object. -/
theorem isJoined_of_readFields (hitem : GivesJoined item) {fuel : Nat}
    {fields : List (CodeText × Json)}
    (hfields : ∀ field ∈ fields, field.1.IsJoined ∧ field.2.IsJoined) {cs rest : List Char}
    {value : Json} (h : readFields item fuel fields cs = .ok (value, rest)) : value.IsJoined := by
  induction fuel generalizing fields cs with
  | zero => cases h
  | succ fuel ih =>
      rw [readFields.eq_def] at h
      split at h
      · next left _ heq =>
        obtain rfl := Nat.succ.inj heq
        obtain ⟨⟨name, left⟩, hname, h⟩ := (bind_eq_ok_iff _ _ _).mp h
        simp only at h
        split at h
        · obtain ⟨⟨next, left⟩, hnext, h⟩ := (bind_eq_ok_iff _ _ _).mp h
          have hmore : ∀ field ∈ setField name next fields,
              field.1.IsJoined ∧ field.2.IsJoined :=
            forall_mem_setField hfields ⟨isJoined_of_readText hname, hitem _ _ _ hnext⟩
          simp only at h
          split at h
          · obtain rfl := congrArg Prod.fst (Except.ok.inj h)
            exact .object (fun field hfield => (hmore field hfield).1)
              fun field hfield => (hmore field hfield).2
          · exact ih hmore h
          · cases h
        · cases h
      · cases h

/-- One value that is read is joined, if its items are. -/
theorem givesJoined_readWith {inner : Option (Reader Json)}
    (hinner : ∀ item ∈ inner, GivesJoined item) : GivesJoined (readWith inner) := by
  intro cs value rest h
  rw [readWith.eq_def] at h
  split at h
  · obtain ⟨⟨s, left⟩, hs, heq⟩ := (bind_eq_ok_iff _ _ _).mp h
    obtain rfl := congrArg Prod.fst (Except.ok.inj heq)
    exact .text (isJoined_of_readText hs)
  · cases inner with
    | none => cases h
    | some item =>
        simp only [readObject] at h
        split at h
        · obtain rfl := congrArg Prod.fst (Except.ok.inj h)
          exact .object (List.forall_mem_nil _) (List.forall_mem_nil _)
        · exact isJoined_of_readFields (hinner item rfl) (List.forall_mem_nil _) h
  · cases inner with
    | none => cases h
    | some item =>
        simp only [readArray] at h
        split at h
        · obtain rfl := congrArg Prod.fst (Except.ok.inj h)
          exact .list (List.forall_mem_nil _)
        · exact isJoined_of_readItems (hinner item rfl) (List.forall_mem_nil _) h
  · exact isJoined_of_readAtom h

theorem givesJoined_readValue (depth : Nat) : GivesJoined (readValue depth) := by
  induction depth with
  | zero =>
      apply givesJoined_readWith
      intro item hitem
      exact nomatch hitem
  | succ depth ih =>
      apply givesJoined_readWith
      intro item hitem
      exact Option.mem_some.mp hitem ▸ ih

/-- Every value that a text is read as is joined. -/
theorem isJoined_of_read {text : String} {value : Json} (h : read text = .ok value) :
    value.IsJoined := by
  rw [read] at h
  split at h
  · next given hall =>
    obtain rfl := Except.ok.inj h
    rw [readAll.eq_def] at hall
    split at hall
    · cases hall
    · obtain ⟨⟨first, left⟩, hfirst, heq⟩ := (bind_eq_ok_iff _ _ _).mp hall
      simp only at heq
      split at heq
      · obtain rfl := Except.ok.inj heq
        exact givesJoined_readValue maxDepth _ _ _ hfirst
      · cases heq
  · cases h
  · cases h
  · cases h

end PemBundle.Json
