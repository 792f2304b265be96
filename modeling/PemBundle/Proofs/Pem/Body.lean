import PemBundle.Pem.Unarmor
import PemBundle.Proofs.Base64
import PemBundle.Proofs.Pem.Lines
import PemBundle.Proofs.Text

/-!
# The body of a block

The base64 digits of a block are cut into lines that together hold them all. None of these lines is
empty, and none can be taken for a header or for a boundary line.
-/

namespace PemBundle.Pem

open Text

/-- `bytes` cut into lines of `width`; `fuel` bounds their number. -/
def cutLines (width : Nat) : (fuel : Nat) → List UInt8 → List Line
  | 0, _ => []
  | _ + 1, [] => []
  | fuel + 1, b :: rest => (b :: rest).take width :: cutLines width fuel ((b :: rest).drop width)

theorem flatten_cutLines {width : Nat} (hwidth : 0 < width) {fuel : Nat} {bytes : List UInt8}
    (h : bytes.length ≤ fuel) : (cutLines width fuel bytes).flatten = bytes := by
  induction fuel generalizing bytes with
  | zero => rw [List.length_eq_zero_iff.mp (Nat.le_zero.mp h)]; rfl
  | succ fuel ih =>
      cases bytes with
      | nil => rfl
      | cons b rest =>
          have hrest : ((b :: rest).drop width).length ≤ fuel := by
            rw [List.length_drop]
            omega
          rw [cutLines, List.flatten_cons, ih hrest, List.take_append_drop]

theorem mem_cutLines {width : Nat} (hwidth : 0 < width) {fuel : Nat} {bytes : List UInt8}
    {line : Line} (h : line ∈ cutLines width fuel bytes) : line ≠ [] ∧ ∀ b ∈ line, b ∈ bytes := by
  induction fuel generalizing bytes with
  | zero => exact absurd h List.not_mem_nil
  | succ fuel ih =>
      cases bytes with
      | nil => exact absurd h List.not_mem_nil
      | cons b rest =>
          rw [cutLines, List.mem_cons] at h
          rcases h with rfl | h
          · constructor
            · rw [Ne, List.take_eq_nil_iff]
              simp
              omega
            · intro c hc
              exact List.mem_of_mem_take hc
          · obtain ⟨hne, hmem⟩ := ih h
            refine ⟨hne, ?_⟩
            intro c hc
            exact List.mem_of_mem_drop (hmem c hc)

theorem wrapLines_cons (width fuel : Nat) (c : Char) (rest : List Char) :
    wrapLines width (fuel + 1) (c :: rest) =
      (c :: rest).take width ++ '\n' :: wrapLines width fuel ((c :: rest).drop width) := by
  rw [wrapLines]
  simp

/-- The wrapped digits are the cut lines, each with its line feed. -/
theorem asciiBytes_wrapLines (width fuel : Nat) (digits : List Char) :
    asciiBytes (wrapLines width fuel digits) =
      unlines (cutLines width fuel (asciiBytes digits)) := by
  induction fuel generalizing digits with
  | zero => simp [wrapLines, cutLines]
  | succ fuel ih =>
      cases digits with
      | nil => rfl
      | cons c rest =>
          have htake : asciiBytes ((c :: rest).take width) = (asciiBytes (c :: rest)).take width :=
            List.map_take
          have hdrop : asciiBytes ((c :: rest).drop width) = (asciiBytes (c :: rest)).drop width :=
            List.map_drop
          have hcut : cutLines width (fuel + 1) (asciiBytes (c :: rest)) =
              (asciiBytes (c :: rest)).take width ::
                cutLines width fuel ((asciiBytes (c :: rest)).drop width) := rfl
          rw [wrapLines_cons, asciiBytes_append, asciiBytes_cons, ih, htake, hdrop, hcut,
            unlines_cons]
          rfl

theorem mem_wrapLines {width fuel : Nat} {digits : List Char} {c : Char}
    (h : c ∈ wrapLines width fuel digits) : c = '\n' ∨ c ∈ digits := by
  induction fuel generalizing digits with
  | zero => simp [wrapLines] at h
  | succ fuel ih =>
      cases digits with
      | nil => simp [wrapLines] at h
      | cons d rest =>
          rw [wrapLines_cons, List.mem_append, List.mem_cons] at h
          rcases h with h | rfl | h
          · exact Or.inr (List.mem_of_mem_take h)
          · exact Or.inl rfl
          · exact (ih h).imp_right List.mem_of_mem_drop

/-- The lines of the body of a block. -/
def bodyLines (der : List UInt8) : List Line :=
  cutLines lineWidth (Base64.encode der).length (Base64.encode der)

/-- Together the lines of the body hold the digits. -/
theorem flatten_bodyLines (der : List UInt8) : (bodyLines der).flatten = Base64.encode der :=
  flatten_cutLines (by decide) (Nat.le_refl _)

/-- A line that base64 digits can stand on. -/
structure IsBodyLine (line : Line) : Prop where
  ne_nil : line ≠ []
  signs : ∀ b ∈ line, Base64.isSign b = true

theorem isBodyLine_of_mem {der : List UInt8} {line : Line} (h : line ∈ bodyLines der) :
    IsBodyLine line := by
  obtain ⟨hne, hmem⟩ := mem_cutLines (by decide) h
  refine ⟨hne, ?_⟩
  intro b hb
  exact Base64.isSign_of_mem_encode (hmem b hb)

theorem IsBodyLine.isPlain {line : Line} (h : IsBodyLine line) : IsPlain line := by
  constructor
  · intro hmem
    exact absurd (h.signs _ hmem) (by decide)
  · intro hmem
    exact absurd (h.signs _ hmem) (by decide)

theorem IsBodyLine.colon_not_mem {line : Line} (h : IsBodyLine line) : colon ∉ line := by
  intro hmem
  exact absurd (h.signs _ hmem) (by decide)

theorem IsBodyLine.closesBody {line : Line} (h : IsBodyLine line) : closesBody line = false := by
  obtain ⟨hne, hsigns⟩ := h
  cases line with
  | nil => exact absurd rfl hne
  | cons b rest =>
      have hb : b ≠ 0x2d := by
        rintro rfl
        exact absurd (hsigns _ List.mem_cons_self) (by decide)
      simp [Pem.closesBody, isDashed, dashes, spacedDashes, List.isPrefixOf, Ne.symm hb]

theorem isDashed_of_closesBody {line : Line} (h : closesBody line = false) :
    isDashed line = false := by
  rw [closesBody, Bool.or_eq_false_iff] at h
  exact h.1

theorem ascii_of_mem_encode {der : List UInt8} {b : UInt8} (h : b ∈ Base64.encode der) :
    b < 0x80 := by
  have hbounds := Base64.isSign_bounds (Base64.isSign_of_mem_encode h)
  rw [UInt8.lt_iff_toNat_lt]
  exact Nat.lt_trans hbounds.2.1 (by decide)

theorem asciiBytes_digitChars (der : List UInt8) :
    asciiBytes (digitChars der) = Base64.encode der := by
  rw [digitChars, ← toList_ofAscii, asciiBytes_ofAscii fun b hb => ascii_of_mem_encode hb]

/-- The written body is its lines, each with its line feed. -/
theorem asciiBytes_bodyChars (der : List UInt8) :
    asciiBytes (bodyChars der) = unlines (bodyLines der) := by
  rw [bodyChars, asciiBytes_wrapLines, asciiBytes_digitChars, digitChars, List.length_map]
  rfl

theorem isAscii_of_mem_bodyChars {der : List UInt8} {c : Char} (h : c ∈ bodyChars der) :
    isAscii c = true := by
  rcases mem_wrapLines h with rfl | hmem
  · decide
  · rw [digitChars, ← toList_ofAscii] at hmem
    exact (mem_ofAscii (fun b hb => ascii_of_mem_encode hb) hmem).1

end PemBundle.Pem
