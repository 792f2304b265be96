import Mathlib.Tactic.SplitIfs
import PemBundle.Json.Printer
import PemBundle.Json.Reader
import PemBundle.Proofs.Text.Utf16

/-!
# Texts are read back

What is written for a code point inside the quotes of a text is read as its code units, whatever the
code point is. So a written text without pairing surrogates is read back, and reading goes on right
after its closing quote.
-/

namespace PemBundle.Json

open Text

theorem hexValue?_hexDigit (n : Nat) : hexValue? (hexDigit n) = some (n % 16) := by
  have hdigit : ∀ d < 16, hexValue? (Nat.digitChar d) = some d := by decide
  exact hdigit (n % 16) (Nat.mod_lt n (by decide))

/-- The four digits of a unit write the unit. -/
theorem hexUnit?_hexDigits {u : Nat} (h : u < 0x10000) :
    ∃ a b c d, hexDigits 4 u = [a, b, c, d] ∧ hexUnit? a b c d = some u := by
  refine ⟨_, _, _, _, rfl, ?_⟩
  simp only [hexUnit?, hexValue?_hexDigit, Option.bind_eq_bind, Option.bind_some, Option.pure_def,
    Option.some.injEq]
  omega

/-- The escape of a unit, with something behind it, is read as the unit. -/
theorem readUnits_escapeUnit (start : List Char) (units : List Nat) {u : Nat} (hu : u < 0x10000)
    (next : Char) (rest : List Char) :
    readUnits start units (escapeUnit u ++ next :: rest) =
      readUnits start (u :: units) (next :: rest) := by
  obtain ⟨a, b, c, d, hdigits, hvalue⟩ := hexUnit?_hexDigits hu
  simp [escapeUnit, hdigits, readUnits, hvalue]

/-- The escapes of units, with something behind them, are read as the units. -/
theorem readUnits_escapeUnits (start : List Char) (units : List Nat) {escaped : List Nat}
    (h : ∀ u ∈ escaped, u < 0x10000) (next : Char) (rest : List Char) :
    readUnits start units (escaped.flatMap escapeUnit ++ next :: rest) =
      readUnits start (escaped.reverse ++ units) (next :: rest) := by
  induction escaped generalizing units with
  | nil => rfl
  | cons u escaped ih =>
      have hu := h u List.mem_cons_self
      have hescaped : ∀ v ∈ escaped, v < 0x10000 := by
        intro v hv
        exact h v (List.mem_cons_of_mem u hv)
      -- Behind the first escape stands the second one, or what follows.
      obtain ⟨second, tail, hsecond⟩ := List.exists_cons_of_ne_nil
        (List.append_ne_nil_of_right_ne_nil (escaped.flatMap escapeUnit)
          (List.cons_ne_nil next rest))
      calc
        readUnits start units ((u :: escaped).flatMap escapeUnit ++ next :: rest)
            = readUnits start units (escapeUnit u ++ second :: tail) := by
          rw [List.flatMap_cons, List.append_assoc, hsecond]
        _ = readUnits start (u :: units) (escaped.flatMap escapeUnit ++ next :: rest) := by
          rw [readUnits_escapeUnit start units hu, hsecond]
        _ = readUnits start (escaped.reverse ++ u :: units) (next :: rest) :=
          ih (u :: units) hescaped
        _ = readUnits start ((u :: escaped).reverse ++ units) (next :: rest) := by
          rw [List.reverse_cons, List.append_assoc, List.singleton_append]

/-- A one-letter escape is read as the character it stands for. -/
theorem readUnits_shortEscape (start : List Char) (units : List Nat) {c e : Char}
    (h : shortEscape? c = some e) (rest : List Char) :
    readUnits start units ('\\' :: c :: rest) = readUnits start (e.toNat :: units) rest := by
  have hc : c ≠ 'u' := by
    rintro rfl
    exact nomatch h
  simp [readUnits, hc, h]

/-- A character that stands for itself is read as its code point. -/
theorem readUnits_plain (start : List Char) (units : List Nat) {c : Char} (hquote : c ≠ '"')
    (hslash : c ≠ '\\') (hcontrol : 0x20 ≤ c.toNat) (rest : List Char) :
    readUnits start units (c :: rest) = readUnits start (c.toNat :: units) rest := by
  simp [readUnits, hslash, Nat.not_lt.mpr hcontrol]

/-- The three ways to write a character: a one-letter escape, the character, or the escapes of its
units. -/
theorem escapeChar_cases (c : Char) :
    (∃ d, escapeChar c = ['\\', d] ∧ shortEscape? d = some c ∧ c.toNat < 0x7f) ∨
      (escapeChar c = [c] ∧ c ≠ '"' ∧ c ≠ '\\' ∧ 0x20 ≤ c.toNat ∧ c.toNat < 0x7f) ∨
        escapeChar c = (charUnits c).flatMap escapeUnit := by
  rw [escapeChar]
  split_ifs with hmark hn hr ht hb hf hplain
  · refine .inl ⟨c, rfl, ?_⟩
    rcases hmark with rfl | rfl <;> decide
  · exact .inl ⟨'n', rfl, hn ▸ by decide⟩
  · exact .inl ⟨'r', rfl, hr ▸ by decide⟩
  · exact .inl ⟨'t', rfl, ht ▸ by decide⟩
  · exact .inl ⟨'b', rfl, hb ▸ by decide⟩
  · exact .inl ⟨'f', rfl, hf ▸ by decide⟩
  · exact .inr (.inl ⟨rfl, fun h => hmark (.inl h), fun h => hmark (.inr h), hplain⟩)
  · exact .inr (.inr rfl)

/-- What is written for a character, with something behind it, is read as its units. -/
theorem readUnits_escapeChar (start : List Char) (units : List Nat) (c next : Char)
    (rest : List Char) :
    readUnits start units (escapeChar c ++ next :: rest) =
      readUnits start ((charUnits c).reverse ++ units) (next :: rest) := by
  have hunit : c.toNat < 0x7f → charUnits c = [c.toNat] := fun h => if_pos (by omega)
  rcases escapeChar_cases c with ⟨d, hchars, hshort, hsmall⟩ | ⟨hchars, hquote, hslash, hplain⟩ |
    hchars
  · rw [hchars, hunit hsmall]
    exact readUnits_shortEscape start units hshort (next :: rest)
  · rw [hchars, hunit hplain.2]
    exact readUnits_plain start units hquote hslash hplain.1 (next :: rest)
  · rw [hchars]
    apply readUnits_escapeUnits
    intro u hu
    exact lt_of_mem_charUnits hu

/-- What is written for a code point, with something behind it, is read as its units. -/
theorem readUnits_escapePoint (start : List Char) (units : List Nat) (p : CodePoint) (next : Char)
    (rest : List Char) :
    readUnits start units (escapePoint p ++ next :: rest) =
      readUnits start (p.units.reverse ++ units) (next :: rest) := by
  cases p with
  | char c => exact readUnits_escapeChar start units c next rest
  | surrogate offset =>
      have hoffset := offset.isLt
      exact readUnits_escapeUnit start units (by omega) next rest

/-- What is written for code points, up to a closing quote, is read as their units. -/
theorem readUnits_flatMap_escapePoint (start : List Char) (units : List Nat) (ps : List CodePoint)
    (rest : List Char) :
    readUnits start units (ps.flatMap escapePoint ++ '"' :: rest) =
      .ok ((ps.flatMap CodePoint.units).reverse ++ units, rest) := by
  induction ps generalizing units with
  | nil => rfl
  | cons p ps ih =>
      obtain ⟨next, tail, hnext⟩ := List.exists_cons_of_ne_nil
        (List.append_ne_nil_of_right_ne_nil (ps.flatMap escapePoint) (List.cons_ne_nil '"' rest))
      calc
        readUnits start units ((p :: ps).flatMap escapePoint ++ '"' :: rest)
            = readUnits start units (escapePoint p ++ next :: tail) := by
          rw [List.flatMap_cons, List.append_assoc, hnext]
        _ = readUnits start (p.units.reverse ++ units)
              (ps.flatMap escapePoint ++ '"' :: rest) := by
          rw [readUnits_escapePoint, hnext]
        _ = .ok (((p :: ps).flatMap CodePoint.units).reverse ++ units, rest) := by
          rw [ih, List.flatMap_cons, List.reverse_append, List.append_assoc]

/-! ### Surrogates that pair -/

theorem escapePoint_unitPoint {u : Nat} (h : 0xd800 ≤ u ∧ u < 0xe000) :
    escapePoint (unitPoint u) = escapeUnit u := by
  rw [unitPoint, dif_pos h, escapePoint, Nat.add_sub_of_le h.1]

/-- A character of two units is written by the escapes of these, which are surrogates. -/
theorem escapeChar_of_pair {c : Char} {u v : Nat} (h : charUnits c = [u, v])
    (hu : isHighSurrogate u = true) (hv : isLowSurrogate v = true) :
    escapeChar c = escapePoint (unitPoint u) ++ escapePoint (unitPoint v) := by
  have hlarge : ¬ c.toNat < 0x7f := by
    intro hsmall
    rw [charUnits, if_pos (by omega)] at h
    cases h
  rw [isHighSurrogate_iff] at hu
  rw [isLowSurrogate_iff] at hv
  rw [escapePoint_unitPoint (by omega), escapePoint_unitPoint (by omega)]
  rcases escapeChar_cases c with ⟨-, -, -, hsmall⟩ | ⟨-, -, -, -, hsmall⟩ | hchars
  · exact absurd hsmall hlarge
  · exact absurd hsmall hlarge
  · rw [hchars, h, List.flatMap_cons, List.flatMap_singleton]

/-- Code units are written in the same way, joined or one by one. -/
theorem flatMap_escapePoint_ofUnits (units : List Nat) :
    (ofUnits units).flatMap escapePoint = units.flatMap fun u => escapePoint (unitPoint u) := by
  induction units using ofUnits.induct with
  | case1 => rfl
  | case2 u => rfl
  | case3 u v rest hpair ih =>
      obtain ⟨hhigh, hlow⟩ := Bool.and_eq_true_iff.mp hpair
      have hchar := escapeChar_of_pair (charUnits_ofNat hhigh hlow) hhigh hlow
      rw [ofUnits, if_pos hpair, List.flatMap_cons, ih, escapePoint, hchar, List.flatMap_cons,
        List.flatMap_cons, List.append_assoc]
  | case4 u v rest hpair ih =>
      rw [ofUnits, if_neg hpair, List.flatMap_cons, ih]
      rfl

/-- A code point is written as its units are one by one. -/
theorem flatMap_units_escapePoint (p : CodePoint) :
    (p.units.flatMap fun u => escapePoint (unitPoint u)) = escapePoint p := by
  have hunits := flatMap_escapePoint_ofUnits p.units
  have hsingle : [p].IsChain fun p q => ¬ p.Pairs q := List.isChain_singleton p
  have hback := ofUnits_flatMap_units hsingle
  rw [List.flatMap_singleton] at hback
  rw [← hunits, hback, List.flatMap_singleton]

/-- A text is written as the one with surrogates that pair joined. -/
theorem textChars_rejoined (s : CodeText) : textChars s.rejoined = textChars s := by
  rw [textChars, textChars, CodeText.points_rejoined, flatMap_escapePoint_ofUnits,
    List.flatMap_assoc]
  simp only [flatMap_units_escapePoint]

/-- A written text is read back unless two of its surrogates pair, and reading goes on after its
closing quote. -/
theorem readText_written (start : List Char) {s : CodeText} (h : s.IsJoined) (rest : List Char) :
    readText start (s.points.flatMap escapePoint ++ '"' :: rest) = .ok (s, rest) := by
  have hunits := readUnits_flatMap_escapePoint start [] s.points rest
  rw [List.append_nil] at hunits
  simp only [readText, hunits, bind, Except.bind, List.reverse_reverse, ofUnits_flatMap_units h,
    CodeText.ofPoints_points, pure, Except.pure]

end PemBundle.Json
