import PemBundle.Base64

/-!
# Base64 round trip

Reading what was written gives the bytes back. The written text holds digits and padding signs only,
so it never looks like a boundary line, a header or a line end.
-/

namespace PemBundle.Base64

/-- Whether the byte is a digit or the padding sign. -/
def isSign (b : UInt8) : Bool := (value? b).isSome || b = pad

theorem value?_digit : ∀ v < 64, value? (digit v) = some v := by decide

theorem digit_ne_pad : ∀ v < 64, digit v ≠ pad := by decide

theorem isSign_digit {v : Nat} (h : v < 64) : isSign (digit v) = true := by
  simp [isSign, value?_digit v h]

theorem isSign_pad : isSign pad = true := by decide

/-- Written text holds digits and padding signs only. -/
theorem isSign_of_mem_encode {bytes : List UInt8} {b : UInt8} (h : b ∈ encode bytes) :
    isSign b = true := by
  induction bytes using encode.induct with
  | case1 => exact absurd h List.not_mem_nil
  | case2 x =>
      have hx := x.toNat_lt
      simp only [encode, List.mem_cons, List.not_mem_nil, or_false] at h
      rcases h with rfl | rfl | rfl | rfl
      · apply isSign_digit
        omega
      · apply isSign_digit
        omega
      · exact isSign_pad
      · exact isSign_pad
  | case3 x y =>
      have hx := x.toNat_lt
      have hy := y.toNat_lt
      simp only [encode, List.mem_cons, List.not_mem_nil, or_false] at h
      rcases h with rfl | rfl | rfl | rfl
      · apply isSign_digit
        omega
      · apply isSign_digit
        omega
      · apply isSign_digit
        omega
      · exact isSign_pad
  | case4 x y z rest ih =>
      have hx := x.toNat_lt
      have hy := y.toNat_lt
      have hz := z.toNat_lt
      simp only [encode, List.mem_cons] at h
      rcases h with rfl | rfl | rfl | rfl | h
      · apply isSign_digit
        omega
      · apply isSign_digit
        omega
      · apply isSign_digit
        omega
      · apply isSign_digit
        omega
      · exact ih h

/-- Digits and padding signs are ASCII, and no dash, colon or line end. -/
theorem isSign_bounds {b : UInt8} (h : isSign b = true) :
    0x2b ≤ b.toNat ∧ b.toNat < 0x7b ∧ b.toNat ≠ 0x2d ∧ b.toNat ≠ 0x3a := by
  rw [isSign, Bool.or_eq_true, decide_eq_true_eq] at h
  rcases h with h | rfl
  · simp only [value?] at h
    split at h
    · omega
    · split at h
      · omega
      · split at h
        · omega
        · split at h
          · omega
          · split at h
            · omega
            · exact absurd h (by simp)
  · decide

/-- One more digit of an open group is kept in the group. -/
theorem step_digit_open {s : State} {v : Nat} (hended : s.ended = false)
    (hgroup : s.group.length ≠ 3) (hv : v < 64) :
    s.step (digit v) = { s with group := s.group ++ [v], pads := 0 } := by
  simp [State.step, hended, digit_ne_pad v hv, value?_digit v hv, hgroup]

/-- The fourth digit of a group completes it. -/
theorem step_digit_full {s : State} {v : Nat} (hended : s.ended = false)
    (hgroup : s.group.length = 3) (hv : v < 64) :
    s.step (digit v) = ⟨(groupBytes (s.group ++ [v])).reverse ++ s.reversed, [], 0, false⟩ := by
  simp [State.step, hended, digit_ne_pad v hv, value?_digit v hv, hgroup]

/-- The first byte of a group, from its first two digits. -/
theorem firstByte (x : UInt8) {rest : Nat} (h : rest < 16) :
    UInt8.ofNat (x.toNat / 4 * 4 + (x.toNat % 4 * 16 + rest) / 16) = x := by
  have hx : x.toNat / 4 * 4 + (x.toNat % 4 * 16 + rest) / 16 = x.toNat := by omega
  rw [hx, UInt8.ofNat_toNat]

/-- The second byte of a group, from its second and third digit. -/
theorem secondByte (x : Nat) (y : UInt8) {rest : Nat} (h : rest < 4) :
    UInt8.ofNat ((x % 4 * 16 + y.toNat / 16) % 16 * 16 + (y.toNat % 16 * 4 + rest) / 4) = y := by
  have hlt := y.toNat_lt
  have hy : (x % 4 * 16 + y.toNat / 16) % 16 * 16 + (y.toNat % 16 * 4 + rest) / 4 = y.toNat := by
    omega
  rw [hy, UInt8.ofNat_toNat]

/-- The third byte of a group, from its last two digits. -/
theorem thirdByte (y : Nat) (z : UInt8) :
    UInt8.ofNat ((y % 16 * 4 + z.toNat / 64) % 4 * 64 + z.toNat % 64) = z := by
  have hlt := z.toNat_lt
  have hz : (y % 16 * 4 + z.toNat / 64) % 4 * 64 + z.toNat % 64 = z.toNat := by omega
  rw [hz, UInt8.ofNat_toNat]

/-- The digits of a last group of one byte. -/
theorem groupBytes_one (x : UInt8) : groupBytes [x.toNat / 4, x.toNat % 4 * 16] = [x] := by
  have hfirst := firstByte x (show 0 < 16 by omega)
  rw [Nat.add_zero] at hfirst
  rw [groupBytes, hfirst]

/-- The digits of a last group of two bytes. -/
theorem groupBytes_two (x y : UInt8) :
    groupBytes [x.toNat / 4, x.toNat % 4 * 16 + y.toNat / 16, y.toNat % 16 * 4] = [x, y] := by
  have hy := y.toNat_lt
  have hsecond := secondByte x.toNat y (show 0 < 4 by omega)
  rw [Nat.add_zero] at hsecond
  rw [groupBytes, firstByte x (by omega), hsecond]

/-- The digits of a whole group. -/
theorem groupBytes_three (x y z : UInt8) :
    groupBytes [x.toNat / 4, x.toNat % 4 * 16 + y.toNat / 16, y.toNat % 16 * 4 + z.toNat / 64,
      z.toNat % 64] = [x, y, z] := by
  have hy := y.toNat_lt
  have hz := z.toNat_lt
  rw [groupBytes, firstByte x (by omega), secondByte x.toNat y (by omega), thirdByte]

/-- The padding that completes a group of two or three digits ends the reading. -/
theorem run_padding {s : State} (hended : s.ended = false) (hlow : 2 ≤ s.group.length)
    (hhigh : s.group.length < 4) :
    s.run (List.replicate (4 - s.group.length) pad) =
      ⟨(groupBytes s.group).reverse ++ s.reversed, [], 0, true⟩ := by
  obtain ⟨reversed, group, pads, ended⟩ := s
  simp only at hended hlow hhigh
  subst hended
  have hcases : group.length = 2 ∨ group.length = 3 := by omega
  rcases hcases with h | h
  · -- Of two signs, the first ends the reading only behind another sign.
    by_cases hpads : pads = 0
    · simp [h, hpads, List.replicate, State.step]
    · have hfirst : ¬ 2 + (pads + 1) < 4 := by omega
      simp [h, hfirst, List.replicate, State.step]
  · have hfirst : ¬ 3 + (pads + 1) < 4 := by omega
    simp [h, hfirst, State.step]

/-- Reading the digits of `bytes` from a state without an open group adds `bytes`. -/
theorem run_encode (bytes reversed : List UInt8) :
    ∃ ended, (State.mk reversed [] 0 false).run (encode bytes) =
      ⟨bytes.reverse ++ reversed, [], 0, ended⟩ := by
  induction bytes using encode.induct generalizing reversed with
  | case1 => exact ⟨false, rfl⟩
  | case2 x =>
      have hx := x.toNat_lt
      refine ⟨true, ?_⟩
      rw [encode, State.run_cons, step_digit_open rfl (by simp) (by omega), State.run_cons,
        step_digit_open rfl (by simp) (by omega)]
      refine (run_padding rfl (by simp) (by simp)).trans ?_
      simp [groupBytes_one]
  | case3 x y =>
      have hx := x.toNat_lt
      have hy := y.toNat_lt
      refine ⟨true, ?_⟩
      rw [encode, State.run_cons, step_digit_open rfl (by simp) (by omega), State.run_cons,
        step_digit_open rfl (by simp) (by omega), State.run_cons,
        step_digit_open rfl (by simp) (by omega)]
      refine (run_padding rfl (by simp) (by simp)).trans ?_
      simp [groupBytes_two]
  | case4 x y z rest ih =>
      have hx := x.toNat_lt
      have hy := y.toNat_lt
      have hz := z.toNat_lt
      obtain ⟨ended, hrest⟩ := ih (z :: y :: x :: reversed)
      refine ⟨ended, ?_⟩
      rw [encode, State.run_cons, step_digit_open rfl (by simp) (by omega), State.run_cons,
        step_digit_open rfl (by simp) (by omega), State.run_cons,
        step_digit_open rfl (by simp) (by omega), State.run_cons,
        step_digit_full rfl (by simp) (by omega)]
      simpa [groupBytes_three] using hrest

/-- Reading what was written gives the bytes back. -/
theorem decode_encode (bytes : List UInt8) : decode (encode bytes) = .ok bytes := by
  obtain ⟨ended, hrun⟩ := run_encode bytes []
  rw [decode, State.start, hrun]
  simp [State.finish]

end PemBundle.Base64
