import PemBundle.Proofs.Pem.Lines

/-!
# Lines with their terminators

Bytes can be cut into lines that keep their terminators. Joined again they are the bytes, and every
run of them, joined and cut once more, has the lines of its part: no line end is taken apart or
joined anew where a run starts or ends.
-/

namespace PemBundle.Pem

/-- The lines of `bytes`, each with its terminator. -/
def keptLines : List UInt8 → List (List UInt8)
  | [] => []
  | b :: rest =>
      if b = lineFeed then [b] :: keptLines rest
      else if b = carriageReturn then
        match rest with
        | c :: rest =>
            if c = lineFeed then [b, c] :: keptLines rest else [b] :: keptLines (c :: rest)
        | [] => [[b]]
      else
        match keptLines rest with
        | [] => [[b]]
        | line :: more => (b :: line) :: more

theorem keptLines_lineFeed (rest : List UInt8) :
    keptLines (lineFeed :: rest) = [lineFeed] :: keptLines rest := by
  rw [keptLines.eq_def]
  simp

theorem keptLines_pair (rest : List UInt8) :
    keptLines (carriageReturn :: lineFeed :: rest) =
      [carriageReturn, lineFeed] :: keptLines rest := by
  rw [keptLines.eq_def]
  simp [carriageReturn_ne_lineFeed]

theorem keptLines_carriageReturn {rest : List UInt8} (h : rest.head? ≠ some lineFeed) :
    keptLines (carriageReturn :: rest) = [carriageReturn] :: keptLines rest := by
  rw [keptLines.eq_def]
  cases rest with
  | nil => simp [carriageReturn_ne_lineFeed, keptLines]
  | cons c rest =>
      have hc : c ≠ lineFeed := by simpa using h
      simp [carriageReturn_ne_lineFeed, hc]

/-- A byte that ends no line is put in front of the first line. -/
theorem keptLines_cons {b : UInt8} (hlf : b ≠ lineFeed) (hcr : b ≠ carriageReturn)
    (rest : List UInt8) :
    keptLines (b :: rest) = (b :: (keptLines rest).headD []) :: (keptLines rest).tail := by
  rw [keptLines.eq_def]
  simp only [hlf, hcr, if_false]
  cases keptLines rest <;> rfl

/-- Joined lines are the bytes they were cut from. -/
theorem flatten_keptLines (bytes : List UInt8) : (keptLines bytes).flatten = bytes := by
  induction bytes using lines.induct with
  | case1 => rfl
  | case2 rest ih => rw [keptLines_lineFeed, List.flatten_cons, ih, List.singleton_append]
  | case3 rest _ ih => rw [keptLines_pair, List.flatten_cons, ih]; rfl
  | case4 c rest hc _ ih =>
      rw [keptLines_carriageReturn (by simpa using hc), List.flatten_cons, ih,
        List.singleton_append]
  | case5 _ => rw [keptLines_carriageReturn (by simp)]; rfl
  | case6 b rest hlf hcr _ ih | case7 b rest hlf hcr _ _ _ ih =>
      rw [keptLines_cons hlf hcr, List.flatten_cons, List.cons_append]
      cases hkept : keptLines rest with
      | nil => rw [hkept] at ih; exact congrArg (b :: ·) ih
      | cons line more => rw [hkept] at ih; exact congrArg (b :: ·) ih

/-- The first line stays the first, and its part the same, in front of nothing and in front of all
that starts like what followed it. -/
theorem keptLines_first {bytes line : List UInt8} {more : List (List UInt8)}
    (h : keptLines bytes = line :: more) :
    ∃ part rest, bytes = line ++ rest ∧ keptLines rest = more ∧
      ∀ tail, tail = [] ∨ tail.head? = rest.head? →
        keptLines (line ++ tail) = line :: keptLines tail ∧
          lines (line ++ tail) = part :: lines tail := by
  induction bytes using lines.induct generalizing line more with
  | case1 => cases h
  | case2 rest _ =>
      rw [keptLines_lineFeed] at h
      obtain ⟨rfl, rfl⟩ := List.cons.inj h
      exact ⟨[], rest, rfl, rfl, fun tail _ => ⟨keptLines_lineFeed tail, lines_lineFeed tail⟩⟩
  | case3 rest _ _ =>
      rw [keptLines_pair] at h
      obtain ⟨rfl, rfl⟩ := List.cons.inj h
      exact ⟨[], rest, rfl, rfl, fun tail _ => ⟨keptLines_pair tail, lines_pair tail⟩⟩
  | case4 c rest hc _ _ =>
      rw [keptLines_carriageReturn (by simpa using hc)] at h
      obtain ⟨rfl, rfl⟩ := List.cons.inj h
      refine ⟨[], c :: rest, rfl, rfl, ?_⟩
      intro tail htail
      have hhead : tail.head? ≠ some lineFeed := by
        rcases htail with rfl | htail
        · simp
        · simpa [htail] using hc
      exact ⟨keptLines_carriageReturn hhead, lines_carriageReturn hhead⟩
  | case5 _ =>
      rw [keptLines_carriageReturn (by simp)] at h
      obtain ⟨rfl, rfl⟩ := List.cons.inj h
      refine ⟨[], [], rfl, rfl, ?_⟩
      intro tail htail
      have hhead : tail.head? ≠ some lineFeed := by
        rcases htail with rfl | htail
        · simp
        · simp [htail]
      exact ⟨keptLines_carriageReturn hhead, lines_carriageReturn hhead⟩
  | case6 b rest hlf hcr _ ih | case7 b rest hlf hcr _ _ _ ih =>
      rw [keptLines_cons hlf hcr] at h
      obtain ⟨rfl, rfl⟩ := List.cons.inj h
      cases hrest : keptLines rest with
      | nil =>
          obtain rfl : [] = rest := by rw [← flatten_keptLines rest, hrest, List.flatten_nil]
          refine ⟨[b], [], rfl, rfl, ?_⟩
          intro tail htail
          obtain rfl : tail = [] := by simpa using htail
          exact ⟨keptLines_cons hlf hcr [], lines_cons hlf hcr []⟩
      | cons line more =>
          obtain ⟨part, rest, rfl, hmore, hline⟩ := ih hrest
          refine ⟨b :: part, rest, rfl, hmore, ?_⟩
          intro tail htail
          obtain ⟨hkept, hlines⟩ := hline tail htail
          constructor
          · simp [keptLines_cons hlf hcr, hkept]
          · simp [lines_cons hlf hcr, hlines]

/-- A run of lines from the front, joined and cut again, is the same run; the lines of the bytes are
its lines and those of what follows. -/
theorem lines_of_keptLines {bytes : List UInt8} {first second : List (List UInt8)}
    (h : keptLines bytes = first ++ second) :
    keptLines first.flatten = first ∧ (lines first.flatten).length = first.length ∧
      lines bytes = lines first.flatten ++ lines second.flatten := by
  induction first generalizing bytes with
  | nil =>
      rw [List.nil_append] at h
      rw [← h, flatten_keptLines]
      exact ⟨rfl, rfl, rfl⟩
  | cons line first ih =>
      obtain ⟨part, rest, rfl, hrest, hline⟩ := keptLines_first h
      obtain ⟨hkept, hlength, hlines⟩ := ih hrest
      have hjoined : rest = first.flatten ++ second.flatten := by
        rw [← List.flatten_append, ← flatten_keptLines rest, hrest]
        rfl
      have hstart : first.flatten = [] ∨ first.flatten.head? = rest.head? := by
        rw [hjoined]
        cases first.flatten with
        | nil => exact .inl rfl
        | cons b tail => exact .inr rfl
      obtain ⟨hkeptLine, hlinesLine⟩ := hline first.flatten hstart
      rw [List.flatten_cons, hkeptLine, hkept, hlinesLine, List.length_cons, List.length_cons,
        hlength, (hline rest (.inr rfl)).2, hlines]
      exact ⟨rfl, rfl, rfl⟩

/-- There are as many lines with terminators as without. -/
theorem length_keptLines (bytes : List UInt8) : (keptLines bytes).length = (lines bytes).length := by
  have hall := (lines_of_keptLines (List.append_nil (keptLines bytes)).symm).2.1
  rw [flatten_keptLines] at hall
  exact hall.symm

/-- Where the lines can be parted, so can the lines with terminators. -/
theorem exists_keptLines_append {bytes : List UInt8} {first second : List Line}
    (h : lines bytes = first ++ second) :
    ∃ kept rest, keptLines bytes = kept ++ rest ∧ keptLines kept.flatten = kept ∧
      lines kept.flatten = first ∧ lines rest.flatten = second := by
  have hparted := (List.take_append_drop first.length (keptLines bytes)).symm
  obtain ⟨hkept, hlength, hlines⟩ := lines_of_keptLines hparted
  have hle : first.length ≤ (keptLines bytes).length := by
    rw [length_keptLines, h, List.length_append]
    exact Nat.le_add_right _ _
  rw [List.length_take, Nat.min_eq_left hle] at hlength
  obtain ⟨hfirst, hsecond⟩ := List.append_inj (h.symm.trans hlines) hlength.symm
  exact ⟨_, _, hparted, hkept, hfirst.symm, hsecond.symm⟩

/-- A run of the lines is a run of the lines with terminators, joined and cut again. -/
theorem exists_keptLines_run {bytes : List UInt8} {before run after : List Line}
    (h : lines bytes = before ++ run ++ after) :
    ∃ first kept second, keptLines bytes = first ++ kept ++ second ∧
      lines kept.flatten = run := by
  obtain ⟨front, second, hfront, hkeptFront, hlinesFront, -⟩ := exists_keptLines_append h
  obtain ⟨first, kept, hparts, -, -, hrun⟩ := exists_keptLines_append hlinesFront
  rw [hkeptFront] at hparts
  exact ⟨first, kept, second, by rw [hfront, hparts], hrun⟩

end PemBundle.Pem
