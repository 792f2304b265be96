import Mathlib.Data.List.Chain
import PemBundle.Text.Quoted
import PemBundle.Text.Utf16

/-!
# Code units are read back

The code units of a character stand for the character, since no character is a surrogate and a pair
is put together again. So the units of a text stand for the text, unless a high surrogate in it
stands right before a low one: these two are read as one character. What is read from units has no
two such surrogates. The hexadecimal digits of a unit determine it.
-/

namespace PemBundle

/-- A high surrogate and a low one, in this order: the two units of one character. -/
def CodePoint.Pairs : (high low : CodePoint) → Prop
  | .surrogate high, .surrogate low => high < 0x400 ∧ 0x400 ≤ low
  | _, _ => False

instance : DecidableRel CodePoint.Pairs
  | .surrogate high, .surrogate low =>
      inferInstanceAs (Decidable (high < 0x400 ∧ 0x400 ≤ low))
  | .char _, _ => .isFalse id
  | .surrogate _, .char _ => .isFalse id

theorem CodePoint.not_pairs_char (p : CodePoint) (c : Char) : ¬ p.Pairs (.char c) := by
  cases p <;> exact id

/-- No high surrogate stands right before a low one. -/
def CodeText.IsJoined (text : CodeText) : Prop :=
  text.points.IsChain fun p q => ¬ p.Pairs q

instance (text : CodeText) : Decidable text.IsJoined :=
  inferInstanceAs (Decidable (text.points.IsChain _))

/-- A text of characters has no surrogate at all. -/
theorem CodeText.isJoined_unicode (text : String) : (CodeText.unicode text).IsJoined := by
  rw [IsJoined, points_unicode, List.isChain_map]
  induction text.toList with
  | nil => exact List.isChain_nil
  | cons c cs ih =>
      rw [List.isChain_cons]
      exact ⟨fun _ _ => id, ih⟩

theorem CodeText.isJoined_of_utf8 {text : CodeText} {octets : List UInt8}
    (h : text.utf8 = .ok octets) : text.IsJoined := by
  cases text with
  | unicode text => exact isJoined_unicode text
  | broken => exact nomatch h

namespace Text

/-- The ranges of characters: below the surrogates, or above them and below the end of Unicode. -/
theorem toNat_char_cases (c : Char) :
    c.toNat < 0xd800 ∨ (0xdfff < c.toNat ∧ c.toNat < 0x110000) := c.valid

theorem isHighSurrogate_iff (u : Nat) : isHighSurrogate u = true ↔ 0xd800 ≤ u ∧ u < 0xdc00 := by
  rw [isHighSurrogate, Bool.and_eq_true, decide_eq_true_eq, decide_eq_true_eq]

theorem isLowSurrogate_iff (u : Nat) : isLowSurrogate u = true ↔ 0xdc00 ≤ u ∧ u < 0xe000 := by
  rw [isLowSurrogate, Bool.and_eq_true, decide_eq_true_eq, decide_eq_true_eq]

theorem isHighSurrogate_toNat (c : Char) : isHighSurrogate c.toNat = false := by
  have hc := toNat_char_cases c
  rw [Bool.eq_false_iff, ne_eq, isHighSurrogate_iff]
  omega

theorem unitPoint_toNat (c : Char) : unitPoint c.toNat = .char c := by
  have hc := toNat_char_cases c
  rw [unitPoint, dif_neg (by omega), Char.ofNat_toNat]

theorem unitPoint_surrogate (offset : Fin 0x800) :
    unitPoint (0xd800 + offset) = .surrogate offset := by
  have hoffset := offset.isLt
  rw [unitPoint, dif_pos (by omega)]
  simp

/-- A unit that is not joined with the next one stands for a code point of its own. -/
theorem ofUnits_cons {u : Nat} {units : List Nat}
    (h : ∀ v ∈ units.head?, isHighSurrogate u = true → isLowSurrogate v = false) :
    ofUnits (u :: units) = unitPoint u :: ofUnits units := by
  cases units with
  | nil => rfl
  | cons v units =>
      have hpair : (isHighSurrogate u && isLowSurrogate v) = false := by
        rw [Bool.and_eq_false_imp]
        exact h v rfl
      rw [ofUnits, hpair, if_neg Bool.false_ne_true]

/-- The units of a character in front of other units stand for the character. -/
theorem ofUnits_charUnits_append (c : Char) (units : List Nat) :
    ofUnits (charUnits c ++ units) = .char c :: ofUnits units := by
  rw [charUnits]
  split
  · rw [List.singleton_append, ofUnits_cons, unitPoint_toNat]
    intro v _ hhigh
    rw [isHighSurrogate_toNat] at hhigh
    exact absurd hhigh Bool.false_ne_true
  · next hlarge =>
    have hc := toNat_char_cases c
    have hhigh : isHighSurrogate (0xd800 + (c.toNat - 0x10000) / 0x400) = true := by
      rw [isHighSurrogate_iff]
      omega
    have hlow : isLowSurrogate (0xdc00 + (c.toNat - 0x10000) % 0x400) = true := by
      rw [isLowSurrogate_iff]
      omega
    have hvalue : 0x10000 + (0xd800 + (c.toNat - 0x10000) / 0x400 - 0xd800) * 0x400 +
        (0xdc00 + (c.toNat - 0x10000) % 0x400 - 0xdc00) = c.toNat := by omega
    rw [List.cons_append, List.singleton_append, ofUnits, hhigh, hlow, Bool.and_self, if_pos rfl,
      hvalue, Char.ofNat_toNat]

/-- The first unit of a character is no low surrogate. -/
theorem exists_charUnits_eq_cons (c : Char) :
    ∃ u units, charUnits c = u :: units ∧ isLowSurrogate u = false := by
  have hc := toNat_char_cases c
  rw [charUnits]
  split
  · refine ⟨_, _, rfl, ?_⟩
    rw [Bool.eq_false_iff, ne_eq, isLowSurrogate_iff]
    omega
  · refine ⟨_, _, rfl, ?_⟩
    rw [Bool.eq_false_iff, ne_eq, isLowSurrogate_iff]
    omega

/-- The units of code points stand for them, if no two surrogates in them pair. -/
theorem ofUnits_flatMap_units {ps : List CodePoint} (h : ps.IsChain fun p q => ¬ p.Pairs q) :
    ofUnits (ps.flatMap CodePoint.units) = ps := by
  induction ps with
  | nil => rfl
  | cons p ps ih =>
      rw [List.isChain_cons] at h
      obtain ⟨hnext, hrest⟩ := h
      cases p with
      | char c => rw [List.flatMap_cons, CodePoint.units, ofUnits_charUnits_append, ih hrest]
      | surrogate offset =>
          rw [List.flatMap_cons, CodePoint.units, List.singleton_append, ofUnits_cons,
            unitPoint_surrogate, ih hrest]
          -- What comes next is a character, or a surrogate that does not pair with this one.
          intro v hv hhigh
          cases ps with
          | nil => exact nomatch hv
          | cons q ps =>
              cases q with
              | char c =>
                  obtain ⟨u, units, hunits, hlow⟩ := exists_charUnits_eq_cons c
                  rw [List.flatMap_cons, CodePoint.units, hunits] at hv
                  exact Option.mem_some.mp hv ▸ hlow
              | surrogate second =>
                  obtain rfl : 0xd800 + second.val = v := Option.mem_some.mp hv
                  have hpair : ¬ (offset < 0x400 ∧ 0x400 ≤ second) := hnext _ rfl
                  rw [isHighSurrogate_iff] at hhigh
                  rw [Bool.eq_false_iff, ne_eq, isLowSurrogate_iff]
                  omega

/-- What units stand for begins with a character or with what the first unit stands for. -/
theorem head?_ofUnits {v : Nat} {units : List Nat} {q : CodePoint}
    (h : q ∈ (ofUnits (v :: units)).head?) : q = unitPoint v ∨ ∃ c, q = .char c := by
  cases units with
  | nil => exact .inl (Option.mem_some.mp h).symm
  | cons w units =>
      rw [ofUnits] at h
      split at h
      · exact .inr ⟨_, (Option.mem_some.mp h).symm⟩
      · exact .inl (Option.mem_some.mp h).symm

theorem pairs_unitPoint {u v : Nat} (h : (unitPoint u).Pairs (unitPoint v)) :
    isHighSurrogate u = true ∧ isLowSurrogate v = true := by
  rw [isHighSurrogate_iff, isLowSurrogate_iff]
  rw [unitPoint, unitPoint] at h
  split at h
  · split at h
    · simp only [CodePoint.Pairs, Fin.lt_def, Fin.le_def] at h
      omega
    · exact h.elim
  · exact h.elim

/-- In what units stand for no two surrogates pair. -/
theorem isChain_ofUnits (units : List Nat) :
    (ofUnits units).IsChain fun p q => ¬ p.Pairs q := by
  induction units using ofUnits.induct with
  | case1 => exact List.isChain_nil
  | case2 u => exact List.isChain_singleton _
  | case3 u v rest hpair ih =>
      rw [ofUnits, if_pos hpair, List.isChain_cons]
      exact ⟨fun _ _ => id, ih⟩
  | case4 u v rest hpair ih =>
      rw [ofUnits, if_neg hpair, List.isChain_cons]
      refine ⟨?_, ih⟩
      intro q hq hpairs
      rcases head?_ofUnits hq with rfl | ⟨c, rfl⟩
      · rw [Bool.and_eq_true] at hpair
        exact hpair (pairs_unitPoint hpairs)
      · exact CodePoint.not_pairs_char _ c hpairs

/-- A high and a low surrogate are the units of the character that they are joined to. -/
theorem charUnits_ofNat {u v : Nat} (hu : isHighSurrogate u = true)
    (hv : isLowSurrogate v = true) :
    charUnits (Char.ofNat (0x10000 + (u - 0xd800) * 0x400 + (v - 0xdc00))) = [u, v] := by
  rw [isHighSurrogate_iff] at hu
  rw [isLowSurrogate_iff] at hv
  have hvalid : (0x10000 + (u - 0xd800) * 0x400 + (v - 0xdc00)).isValidChar := by
    right
    omega
  have hvalue : (Char.ofNat (0x10000 + (u - 0xd800) * 0x400 + (v - 0xdc00))).toNat =
      0x10000 + (u - 0xd800) * 0x400 + (v - 0xdc00) := by
    rw [Char.ofNat, dif_pos hvalid]
    rfl
  rw [charUnits, hvalue, if_neg (by omega), List.cons.injEq, List.cons.injEq]
  exact ⟨by omega, by omega, rfl⟩

theorem ofUnits_eq_nil_iff (units : List Nat) : ofUnits units = [] ↔ units = [] := by
  cases units with
  | nil => exact iff_of_true rfl rfl
  | cons u units =>
      refine iff_of_false ?_ (List.cons_ne_nil u units)
      cases units with
      | nil => exact List.cons_ne_nil _ _
      | cons v units =>
          rw [ofUnits]
          split <;> exact List.cons_ne_nil _ _

/-- Code units have sixteen bits. -/
theorem lt_of_mem_charUnits {c : Char} {u : Nat} (h : u ∈ charUnits c) : u < 0x10000 := by
  have hc := toNat_char_cases c
  rw [charUnits] at h
  split at h
  · next hsmall =>
    rw [List.mem_singleton] at h
    omega
  · rw [List.mem_cons, List.mem_singleton] at h
    omega

end Text

namespace CodeText

/-- The text with surrogates that pair joined to characters. -/
def rejoined (text : CodeText) : CodeText :=
  .ofPoints (Text.ofUnits (text.points.flatMap CodePoint.units))

theorem points_rejoined (text : CodeText) :
    text.rejoined.points = Text.ofUnits (text.points.flatMap CodePoint.units) :=
  points_ofPoints _

theorem isJoined_rejoined (text : CodeText) : text.rejoined.IsJoined := by
  rw [IsJoined, points_rejoined]
  exact Text.isChain_ofUnits _

/-- There is nothing to join in a text without pairing surrogates. -/
theorem rejoined_of_isJoined {text : CodeText} (h : text.IsJoined) : text.rejoined = text := by
  rw [rejoined, Text.ofUnits_flatMap_units h, ofPoints_points]

theorem eq_empty_iff (text : CodeText) : text = "" ↔ text.points = [] := by
  constructor
  · rintro rfl
    rfl
  · intro h
    rw [← ofPoints_points text, h]
    rfl

theorem rejoined_eq_empty_iff (text : CodeText) : text.rejoined = "" ↔ text = "" := by
  have hunits (p : CodePoint) : p.units ≠ [] := by
    cases p with
    | char c =>
        obtain ⟨u, units, hunits, -⟩ := Text.exists_charUnits_eq_cons c
        rw [CodePoint.units, hunits]
        exact List.cons_ne_nil u units
    | surrogate offset => exact List.cons_ne_nil _ _
  rw [eq_empty_iff, eq_empty_iff, points_rejoined, Text.ofUnits_eq_nil_iff,
    List.flatMap_eq_nil_iff]
  cases text.points with
  | nil => exact iff_of_true (List.forall_mem_nil _) rfl
  | cons p ps =>
      exact iff_of_false (fun h => hunits p (h p List.mem_cons_self)) (List.cons_ne_nil p ps)

end CodeText

end PemBundle
