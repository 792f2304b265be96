import PemBundle.Proofs.Json.Escape
import PemBundle.Proofs.Text

/-!
# JSON text is ASCII

Whatever code points the texts in a value hold, the value is written in ASCII.
-/

namespace PemBundle.Json

open Text

theorem isAscii_of_shortEscape? {c d : Char} (h : shortEscape? c = some d) : isAscii c = true := by
  have hletters : c ∈ ['"', '\\', '/', 'b', 'f', 'n', 'r', 't'] := by
    rw [shortEscape?.eq_def] at h
    split at h <;> simp_all
  have hascii : ['"', '\\', '/', 'b', 'f', 'n', 'r', 't'].all isAscii = true := by decide
  exact List.all_eq_true.mp hascii c hletters

theorem isAscii_of_mem_escapeUnit {u : Nat} {d : Char} (h : d ∈ escapeUnit u) :
    isAscii d = true := by
  simp only [escapeUnit, List.mem_cons] at h
  rcases h with rfl | rfl | h
  · decide
  · decide
  · exact isAscii_of_mem_hexDigits h

/-- What is written for a character is ASCII. -/
theorem isAscii_of_mem_escapeChar {c d : Char} (h : d ∈ escapeChar c) : isAscii d = true := by
  rcases escapeChar_cases c with ⟨e, hchars, hshort, -⟩ | ⟨hchars, -, -, -, hplain⟩ | hchars
  · rw [hchars, List.mem_cons, List.mem_singleton] at h
    rcases h with rfl | rfl
    · decide
    · exact isAscii_of_shortEscape? hshort
  · rw [hchars, List.mem_singleton] at h
    subst h
    exact (isAscii_iff _).mpr (Nat.lt_trans hplain (by decide))
  · rw [hchars, List.mem_flatMap] at h
    obtain ⟨unit, -, h⟩ := h
    exact isAscii_of_mem_escapeUnit h

/-- What is written for a code point is ASCII. -/
theorem isAscii_of_mem_escapePoint {p : CodePoint} {d : Char} (h : d ∈ escapePoint p) :
    isAscii d = true := by
  cases p with
  | char c => exact isAscii_of_mem_escapeChar h
  | surrogate offset => exact isAscii_of_mem_escapeUnit h

/-! ### Parts of a value -/

/-- Characters between two marks. -/
theorem isAscii_between {opening closing : Char} (hopening : isAscii opening = true)
    (hclosing : isAscii closing = true) {cs : List Char} (h : ∀ c ∈ cs, isAscii c = true) :
    ∀ c ∈ opening :: cs ++ [closing], isAscii c = true := by
  rw [List.cons_append, List.forall_mem_cons, List.forall_mem_append, List.forall_mem_singleton]
  exact ⟨hopening, h, hclosing⟩

/-- Characters with a mark and a space between them. -/
theorem isAscii_parted {mark : Char} (hmark : isAscii mark = true) {first second : List Char}
    (hfirst : ∀ c ∈ first, isAscii c = true) (hsecond : ∀ c ∈ second, isAscii c = true) :
    ∀ c ∈ first ++ mark :: ' ' :: second, isAscii c = true := by
  rw [List.forall_mem_append, List.forall_mem_cons, List.forall_mem_cons]
  exact ⟨hfirst, hmark, by decide, hsecond⟩

theorem isAscii_textChars (s : CodeText) : ∀ c ∈ textChars s, isAscii c = true := by
  apply isAscii_between (by decide) (by decide)
  intro c hc
  obtain ⟨d, -, hc⟩ := List.mem_flatMap.mp hc
  exact isAscii_of_mem_escapePoint hc

/-- Decimal digits are ASCII. -/
theorem isAscii_toDigits (n : Nat) : ∀ c ∈ Nat.toDigits 10 n, isAscii c = true := by
  intro c hc
  have hdigit := Nat.isDigit_of_mem_toDigits (by decide) (by decide) hc
  rw [Char.isDigit_iff_toNat] at hdigit
  exact (isAscii_iff c).mpr (Nat.lt_of_le_of_lt hdigit.2 (by decide))

theorem isAscii_toString (n : Int) : ∀ c ∈ (toString n).toList, isAscii c = true := by
  rw [Int.toString_eq_repr, Int.repr_eq_if]
  split
  · rw [Nat.toList_repr]
    exact isAscii_toDigits _
  · rw [String.toList_append, Nat.toList_repr]
    have hsign : ("-".toList).all isAscii = true := by decide
    exact List.forall_mem_append.mpr ⟨List.all_eq_true.mp hsign, isAscii_toDigits _⟩

theorem isAscii_decimalChars (d : Decimal) : ∀ c ∈ decimalChars d, isAscii c = true := by
  cases d with
  | finite negative digits exponent =>
      have hsign : (if negative then ['-'] else []).all isAscii = true := by
        cases negative <;> decide
      rw [decimalChars, List.forall_mem_append, List.forall_mem_append, List.forall_mem_cons]
      exact ⟨⟨List.all_eq_true.mp hsign, isAscii_toDigits digits⟩, by decide, isAscii_toString exponent⟩
  | infinite negative => cases negative <;> exact List.all_eq_true.mp (by decide)
  | notANumber => exact List.all_eq_true.mp (by decide)

/-! ### Whole values -/

mutual

/-- The characters that write a value are ASCII. -/
theorem isAscii_chars : (value : Json) → ∀ c ∈ chars value, isAscii c = true
  | .null => List.all_eq_true.mp (by decide)
  | .bool true => List.all_eq_true.mp (by decide)
  | .bool false => List.all_eq_true.mp (by decide)
  | .int n => isAscii_toString n
  | .decimal d => isAscii_decimalChars d
  | .text s => isAscii_textChars s
  | .list items => isAscii_between (by decide) (by decide) (isAscii_itemChars items)
  | .object fields => isAscii_between (by decide) (by decide) (isAscii_fieldChars fields)

theorem isAscii_itemChars : (items : List Json) → ∀ c ∈ itemChars items, isAscii c = true
  | [] => List.forall_mem_nil _
  | [v] => isAscii_chars v
  | v :: w :: rest => isAscii_parted (by decide) (isAscii_chars v) (isAscii_itemChars (w :: rest))

theorem isAscii_fieldChars :
    (fields : List (CodeText × Json)) → ∀ c ∈ fieldChars fields, isAscii c = true
  | [] => List.forall_mem_nil _
  | [(n, v)] => isAscii_parted (by decide) (isAscii_textChars n) (isAscii_chars v)
  | (n, v) :: field :: rest =>
      have hfirst : ∀ c ∈ textChars n ++ ':' :: ' ' :: chars v, isAscii c = true :=
        isAscii_parted (by decide) (isAscii_textChars n) (isAscii_chars v)
      isAscii_parted (by decide) hfirst (isAscii_fieldChars (field :: rest))

end

/-- A value is written in ASCII. -/
theorem isAscii_of_mem_render {value : Json} {c : Char} (h : c ∈ value.render.toList) :
    isAscii c = true := by
  rw [render, String.toList_ofList] at h
  exact isAscii_chars value c h

end PemBundle.Json
