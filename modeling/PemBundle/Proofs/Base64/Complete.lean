import Mathlib.Data.List.Induction
import Mathlib.Data.List.TakeWhile
import PemBundle.Proofs.Base64

/-!
# Which texts are read

Reading looks at the digits and padding signs of a text only. It succeeds if the digits make up
whole groups, or if padding completes a group of at least two digits somewhere; what stands behind
such padding is not looked at. So far more texts are read than those that were written.
-/

namespace PemBundle.Base64

/-- Whether the byte is a digit. -/
def isDigit (b : UInt8) : Bool := (value? b).isSome

/-- How many of the bytes are digits. -/
def digitCount (text : List UInt8) : Nat := text.countP isDigit

/-- The digits and padding signs of a text. -/
def signs (text : List UInt8) : List UInt8 := text.filter isSign

/-- Somewhere in the text, padding completes a group of at least two digits. -/
def IsClosed (text : List UInt8) : Prop :=
  ∃ before after, text = before ++ List.replicate (4 - digitCount before % 4) pad ++ after ∧
    2 ≤ digitCount before % 4

/-- No group is left open at the end of the text. -/
def IsComplete (text : List UInt8) : Prop := digitCount text % 4 = 0 ∨ IsClosed (signs text)

/-- Text in whole groups of four, digits only but for one or two padding signs at its end. -/
def IsPadded (text : List UInt8) : Prop :=
  text.length % 4 = 0 ∧ text.dropWhile isDigit ∈ [[], [pad], [pad, pad]]

instance (text : List UInt8) : Decidable (IsPadded text) :=
  inferInstanceAs (Decidable (_ ∧ _))

/-! ### Counting digits -/

theorem isDigit_pad : isDigit pad = false := by decide

theorem digitCount_append (first second : List UInt8) :
    digitCount (first ++ second) = digitCount first + digitCount second := List.countP_append

theorem digitCount_digit {v : Nat} (h : v < 64) : digitCount [digit v] = 1 := by
  simp [digitCount, isDigit, value?_digit v h]

@[simp] theorem digitCount_replicate_pad (count : Nat) :
    digitCount (List.replicate count pad) = 0 := by
  simp [digitCount, List.countP_replicate, isDigit_pad]

/-- Digits are signs. -/
theorem digitCount_signs (text : List UInt8) : digitCount (signs text) = digitCount text := by
  rw [digitCount, signs, List.countP_filter]
  apply List.countP_congr
  intro b _
  simp only [isSign, isDigit, Bool.and_eq_true, Bool.or_eq_true]
  exact and_iff_left_of_imp Or.inl

/-- A sign is the padding sign or a digit. -/
theorem isSign_cases {b : UInt8} (h : isSign b = true) : b = pad ∨ ∃ v < 64, b = digit v := by
  have hbyte : ∀ n < 256, isSign (UInt8.ofNat n) = true → UInt8.ofNat n = pad ∨
      (value? (UInt8.ofNat n)).getD 0 < 64 ∧
        UInt8.ofNat n = digit ((value? (UInt8.ofNat n)).getD 0) := by
    decide +kernel
  have hb := hbyte b.toNat b.toNat_lt
  rw [UInt8.ofNat_toNat] at hb
  exact (hb h).imp_right fun ⟨hlt, heq⟩ => ⟨_, hlt, heq⟩

/-! ### What is read -/

theorem step_of_ended {s : State} (h : s.ended = true) (b : UInt8) : s.step b = s := by
  rw [State.step, if_pos h]

/-- Nothing is read after the end. -/
theorem run_of_ended {s : State} (h : s.ended = true) (text : List UInt8) : s.run text = s := by
  induction text with
  | nil => rfl
  | cons b text ih => rw [State.run_cons, step_of_ended h, ih]

/-- Bytes that are no signs are passed over. -/
theorem step_of_not_isSign {s : State} {b : UInt8} (h : isSign b = false) : s.step b = s := by
  rw [isSign, Bool.or_eq_false_iff, decide_eq_false_iff_not, Option.isSome_eq_false_iff,
    Option.isNone_iff_eq_none] at h
  simp [State.step, h.1, h.2]

/-- Reading a text is reading its signs. -/
theorem run_signs (s : State) (text : List UInt8) : s.run (signs text) = s.run text := by
  induction text generalizing s with
  | nil => rfl
  | cons b text ih =>
      cases hsign : isSign b with
      | true => rw [signs, List.filter_cons_of_pos hsign, State.run_cons, State.run_cons, ← ih]; rfl
      | false =>
          rw [signs, List.filter_cons_of_neg (by simp [hsign]), State.run_cons,
            step_of_not_isSign hsign, ← ih]
          rfl

/-- Texts of the same signs write the same bytes. -/
theorem decode_eq_of_signs {first second : List UInt8} (h : signs first = signs second) :
    decode first = decode second := by
  rw [decode, decode, ← run_signs, h, run_signs]

/-- What the state after reading a text of signs tells about the text. -/
structure HasRead (text : List UInt8) (s : State) : Prop where
  group_length : s.ended = false → s.group.length = digitCount text % 4
  pads : s.ended = false → ∃ before, text = before ++ List.replicate s.pads pad
  group_nil : s.ended = true → s.group = []
  closed : s.ended = true → IsClosed text

theorem HasRead.of_open {text : List UInt8} {s : State} (hopen : s.ended = false)
    (hlength : s.group.length = digitCount text % 4)
    (hpads : ∃ before, text = before ++ List.replicate s.pads pad) : HasRead text s where
  group_length _ := hlength
  pads _ := hpads
  group_nil hended := absurd (hopen.symm.trans hended) (by decide)
  closed hended := absurd (hopen.symm.trans hended) (by decide)

theorem HasRead.of_ended {text : List UInt8} {s : State} (hended : s.ended = true)
    (hgroup : s.group = []) (hclosed : IsClosed text) : HasRead text s where
  group_length hopen := absurd (hended.symm.trans hopen) (by decide)
  pads hopen := absurd (hended.symm.trans hopen) (by decide)
  group_nil _ := hgroup
  closed _ := hclosed

theorem hasRead_nil : HasRead [] State.start := .of_open rfl rfl ⟨[], rfl⟩

theorem IsClosed.append {text : List UInt8} (h : IsClosed text) (more : List UInt8) :
    IsClosed (text ++ more) := by
  obtain ⟨before, after, rfl, hlow⟩ := h
  exact ⟨before, after ++ more, by simp, hlow⟩

/-- A digit is added to the open group, or completes it. -/
theorem HasRead.digit {text : List UInt8} {s : State} (h : HasRead text s)
    (hopen : s.ended = false) {v : Nat} (hv : v < 64) :
    HasRead (text ++ [Base64.digit v]) (s.step (Base64.digit v)) := by
  have hlength := h.group_length hopen
  have hcount : digitCount (text ++ [Base64.digit v]) = digitCount text + 1 := by
    rw [digitCount_append, digitCount_digit hv]
  by_cases hfull : s.group.length = 3
  · rw [step_digit_full hopen hfull hv]
    refine .of_open rfl ?_ ⟨_, (List.append_nil _).symm⟩
    rw [List.length_nil, hcount]
    omega
  · rw [step_digit_open hopen hfull hv]
    refine .of_open hopen ?_ ⟨_, (List.append_nil _).symm⟩
    rw [List.length_append, List.length_singleton, hcount]
    omega

/-- A padding sign is passed over, is counted, or completes the open group. -/
theorem HasRead.pad {text : List UInt8} {s : State} (h : HasRead text s)
    (hopen : s.ended = false) : HasRead (text ++ [Base64.pad]) (s.step Base64.pad) := by
  have hlength := h.group_length hopen
  obtain ⟨before, htext⟩ := h.pads hopen
  have hcount (count : Nat) :
      digitCount (before ++ List.replicate count Base64.pad) = digitCount before := by
    rw [digitCount_append, digitCount_replicate_pad, Nat.add_zero]
  have hbefore : s.group.length = digitCount before % 4 := by rw [hlength, htext, hcount]
  have hmore : text ++ [Base64.pad] = before ++ List.replicate (s.pads + 1) Base64.pad := by
    rw [htext, List.append_assoc, List.replicate_succ']
  by_cases hlow : s.group.length < 2
  · have hstep : s.step Base64.pad = s := by simp [State.step, hopen, hlow]
    rw [hstep]
    refine .of_open hopen (by rw [hbefore, hmore, hcount]) ⟨before ++ [Base64.pad], ?_⟩
    rw [hmore, List.replicate_succ, List.append_assoc, List.singleton_append]
  · by_cases hhigh : s.group.length + (s.pads + 1) < 4
    · have hstep : s.step Base64.pad = { s with pads := s.pads + 1 } := by
        simp [State.step, hopen, hlow, hhigh]
      rw [hstep]
      exact .of_open hopen (hbefore.trans (by rw [hmore, hcount])) ⟨before, hmore⟩
    · have hstep : s.step Base64.pad =
          ⟨(groupBytes s.group).reverse ++ s.reversed, [], 0, true⟩ := by
        simp [State.step, hopen, hlow, hhigh]
      rw [hstep]
      -- The last signs of the run are those that the group needs.
      refine .of_ended rfl rfl ⟨before ++
        List.replicate (s.pads + 1 - (4 - s.group.length)) Base64.pad, [], ?_, ?_⟩
      · rw [hcount, ← hbefore, hmore, List.append_nil, List.append_assoc,
          List.replicate_append_replicate]
        congr 2
        omega
      · rw [hcount, ← hbefore]
        omega

/-- One more sign is read. -/
theorem HasRead.step {text : List UInt8} {s : State} (h : HasRead text s) {b : UInt8}
    (hb : isSign b = true) : HasRead (text ++ [b]) (s.step b) := by
  cases hended : s.ended with
  | true =>
      rw [step_of_ended hended]
      exact .of_ended hended (h.group_nil hended) ((h.closed hended).append [b])
  | false =>
      rcases isSign_cases hb with rfl | ⟨v, hv, rfl⟩
      · exact h.pad hended
      · exact h.digit hended hv

/-- A text of signs is read from the start. -/
theorem hasRead_run {text : List UInt8} (h : ∀ b ∈ text, isSign b = true) :
    HasRead text (State.start.run text) := by
  induction text using List.reverseRecOn with
  | nil => exact hasRead_nil
  | append_singleton text b ih =>
      have htext := ih fun c hc => h c (List.mem_append_left [b] hc)
      rw [State.run_append]
      exact htext.step (h b (List.mem_append_right text (List.mem_singleton_self b)))

/-- Reading ends where padding completes a group. -/
theorem ended_of_isClosed {text : List UInt8} (hsigns : ∀ b ∈ text, isSign b = true)
    (h : IsClosed text) : (State.start.run text).ended = true := by
  obtain ⟨before, after, rfl, hlow⟩ := h
  have hbefore : HasRead before (State.start.run before) := by
    apply hasRead_run
    intro b hb
    exact hsigns b (List.mem_append_left _ (List.mem_append_left _ hb))
  rw [List.append_assoc, State.run_append, State.run_append]
  cases hended : (State.start.run before).ended with
  | true => rw [run_of_ended hended, run_of_ended hended, hended]
  | false =>
      have hlength := hbefore.group_length hended
      have hclosed := run_padding hended (by omega) (by omega)
      rw [hlength] at hclosed
      rw [hclosed, run_of_ended rfl]

/-- Exactly the complete texts are read. -/
theorem exists_decode_eq_ok_iff (text : List UInt8) :
    (∃ bytes, decode text = .ok bytes) ↔ IsComplete text := by
  have hsigns : ∀ b ∈ signs text, isSign b = true := fun b hb => (List.mem_filter.mp hb).2
  have hread := hasRead_run hsigns
  rw [run_signs] at hread
  have hfinish : (∃ bytes, decode text = .ok bytes) ↔ (State.start.run text).group = [] := by
    rw [decode, State.finish]
    split <;> simp_all
  rw [hfinish, IsComplete]
  constructor
  · intro hnil
    cases hended : (State.start.run text).ended with
    | true => exact Or.inr (hread.closed hended)
    | false =>
        have hlength := hread.group_length hended
        rw [hnil, digitCount_signs] at hlength
        exact Or.inl hlength.symm
  · rintro (hcount | hclosed)
    · cases hended : (State.start.run text).ended with
      | true => exact hread.group_nil hended
      | false =>
          have hlength := hread.group_length hended
          rw [digitCount_signs, hcount] at hlength
          exact List.length_eq_zero_iff.mp hlength
    · have hended := ended_of_isClosed hsigns hclosed
      rw [run_signs] at hended
      exact hread.group_nil hended

/-! ### Padded texts -/

theorem signs_append (first second : List UInt8) :
    signs (first ++ second) = signs first ++ signs second := List.filter_append ..

/-- Texts of the same signs are complete together. -/
theorem isComplete_iff_of_signs {first second : List UInt8} (h : signs first = signs second) :
    IsComplete first ↔ IsComplete second := by
  rw [IsComplete, IsComplete, ← digitCount_signs first, ← digitCount_signs second, h]

/-- Padded texts are complete, so they are read. -/
theorem IsPadded.isComplete {text : List UInt8} (h : IsPadded text) : IsComplete text := by
  obtain ⟨hlength, htail⟩ := h
  generalize hdigits : text.takeWhile isDigit = digits
  generalize hrest : text.dropWhile isDigit = rest at htail
  have htext : text = digits ++ rest := by
    rw [← hdigits, ← hrest, List.takeWhile_append_dropWhile]
  have hdigit : ∀ b ∈ digits, isDigit b = true := by
    intro b hb
    rw [← hdigits] at hb
    exact List.mem_takeWhile_imp hb
  have hcount : digitCount digits = digits.length := List.countP_eq_length.mpr hdigit
  have hsigns : signs digits = digits := by
    rw [signs, List.filter_eq_self]
    intro b hb
    exact Bool.or_eq_true_iff.mpr (Or.inl (hdigit b hb))
  have hclosed (count : Nat) (hpads : signs rest = List.replicate count pad)
      (hfull : 4 - digits.length % 4 = count) (hlow : 2 ≤ digits.length % 4) :
      IsClosed (signs text) := by
    refine ⟨digits, [], ?_, hcount.symm ▸ hlow⟩
    rw [hcount, hfull, List.append_nil, htext, signs_append, hsigns, hpads]
  rw [htext, List.length_append] at hlength
  simp only [List.mem_cons, List.not_mem_nil, or_false] at htail
  rcases htail with rfl | rfl | rfl
  · left
    rw [htext, List.append_nil, hcount]
    simpa using hlength
  · right
    rw [List.length_singleton] at hlength
    exact hclosed 1 rfl (by omega) (by omega)
  · right
    have hlength : (digits.length + 2) % 4 = 0 := hlength
    exact hclosed 2 rfl (by omega) (by omega)

end PemBundle.Base64
