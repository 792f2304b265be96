import PemBundle.Pem.Line

/-!
# Lines of concatenations

Bytes that end at a line end contribute their own lines to a concatenation, unless they end between
the two bytes of a terminator. Lines that are written one by one are read back as they were.
-/

namespace PemBundle.Pem

/-- No byte of the line ends lines. -/
def IsPlain (line : Line) : Prop := lineFeed ∉ line ∧ carriageReturn ∉ line

/-- Nothing is left open at the end of the bytes: there are none, or the last one ends a line. -/
def IsTerminated (bytes : List UInt8) : Prop :=
  bytes = [] ∨ bytes.getLast? = some lineFeed ∨ bytes.getLast? = some carriageReturn

/-- The lines, each ended by a line feed. -/
def unlines (ls : List Line) : List UInt8 := ls.flatMap (· ++ [lineFeed])

@[simp] theorem unlines_nil : unlines [] = [] := rfl

@[simp] theorem unlines_cons (line : Line) (ls : List Line) :
    unlines (line :: ls) = line ++ lineFeed :: unlines ls := by
  simp [unlines]

@[simp] theorem unlines_append (first second : List Line) :
    unlines (first ++ second) = unlines first ++ unlines second := List.flatMap_append

theorem isPlain_nil : IsPlain [] := ⟨List.not_mem_nil, List.not_mem_nil⟩

theorem IsPlain.append {first second : Line} (h₁ : IsPlain first) (h₂ : IsPlain second) :
    IsPlain (first ++ second) := by
  constructor
  · rw [List.mem_append, not_or]
    exact ⟨h₁.1, h₂.1⟩
  · rw [List.mem_append, not_or]
    exact ⟨h₁.2, h₂.2⟩

theorem IsPlain.of_append {first second : Line} (h : IsPlain (first ++ second)) :
    IsPlain first := by
  constructor
  · intro hmem
    exact h.1 (List.mem_append_left second hmem)
  · intro hmem
    exact h.2 (List.mem_append_left second hmem)

/-- A byte that ends no line is put in front of the first line. -/
theorem lines_cons {b : UInt8} (hlf : b ≠ lineFeed) (hcr : b ≠ carriageReturn)
    (rest : List UInt8) :
    lines (b :: rest) = (b :: (lines rest).headD []) :: (lines rest).tail := by
  rw [lines.eq_def]
  simp only [hlf, hcr, if_false]
  cases lines rest <;> rfl

theorem carriageReturn_ne_lineFeed : carriageReturn ≠ lineFeed := by decide

/-- A pair ends one line. -/
theorem lines_pair (rest : List UInt8) :
    lines (carriageReturn :: lineFeed :: rest) = [] :: lines rest := by
  rw [lines.eq_def]
  simp [carriageReturn_ne_lineFeed]

/-- A carriage return that is not the first byte of a pair ends a line. -/
theorem lines_carriageReturn {rest : List UInt8} (h : rest.head? ≠ some lineFeed) :
    lines (carriageReturn :: rest) = [] :: lines rest := by
  rw [lines.eq_def]
  cases rest with
  | nil => simp [carriageReturn_ne_lineFeed]
  | cons c rest =>
      have hc : c ≠ lineFeed := by simpa using h
      simp [carriageReturn_ne_lineFeed, hc]

/-- A line that is ended by a line feed is the first of the lines. -/
theorem lines_line {line : Line} (h : IsPlain line) (rest : List UInt8) :
    lines (line ++ lineFeed :: rest) = line :: lines rest := by
  induction line with
  | nil => exact lines_lineFeed rest
  | cons b line ih =>
      obtain ⟨hlf, hcr⟩ := h
      rw [List.mem_cons, not_or] at hlf hcr
      rw [List.cons_append, lines_cons (Ne.symm hlf.1) (Ne.symm hcr.1), ih ⟨hlf.2, hcr.2⟩]
      rfl

/-- A line that nothing ends is the only line. -/
theorem lines_of_isPlain {line : Line} (h : IsPlain line) (hne : line ≠ []) :
    lines line = [line] := by
  induction line with
  | nil => exact absurd rfl hne
  | cons b line ih =>
      obtain ⟨hlf, hcr⟩ := h
      rw [List.mem_cons, not_or] at hlf hcr
      rw [lines_cons (Ne.symm hlf.1) (Ne.symm hcr.1)]
      cases line with
      | nil => rfl
      | cons c line => rw [ih ⟨hlf.2, hcr.2⟩ (List.cons_ne_nil c line)]; rfl

/-- Written lines are read back, whatever follows. -/
theorem lines_unlines_append {ls : List Line} (h : ∀ line ∈ ls, IsPlain line)
    (rest : List UInt8) : lines (unlines ls ++ rest) = ls ++ lines rest := by
  induction ls with
  | nil => rfl
  | cons line ls ih =>
      rw [unlines_cons, List.append_assoc, List.cons_append, lines_line (h line List.mem_cons_self),
        ih fun l hl => h l (List.mem_cons_of_mem _ hl), List.cons_append]

theorem IsTerminated.tail {b : UInt8} {bytes : List UInt8} (h : IsTerminated (b :: bytes)) :
    IsTerminated bytes := by
  cases bytes with
  | nil => exact Or.inl rfl
  | cons c rest => simpa [IsTerminated, List.getLast?_cons_cons] using h

/-- A byte that ends no line is not the last of terminated bytes. -/
theorem IsTerminated.ne_nil {b : UInt8} {bytes : List UInt8} (h : IsTerminated (b :: bytes))
    (hlf : b ≠ lineFeed) (hcr : b ≠ carriageReturn) : bytes ≠ [] := by
  rintro rfl
  simp [IsTerminated, hlf, hcr] at h

theorem lines_ne_nil {bytes : List UInt8} (h : bytes ≠ []) : lines bytes ≠ [] := by
  cases bytes with
  | nil => exact absurd rfl h
  | cons b rest =>
      by_cases hlf : b = lineFeed
      · subst hlf
        simp
      · by_cases hcr : b = carriageReturn
        · subst hcr
          rw [lines.eq_def]
          cases rest with
          | nil => simp [carriageReturn_ne_lineFeed]
          | cons c rest =>
              by_cases hc : c = lineFeed <;> simp [carriageReturn_ne_lineFeed, hc]
        · simp [lines_cons hlf hcr]

theorem getLast?_cons_of_getLast? {b c : UInt8} {bytes : List UInt8}
    (h : bytes.getLast? = some c) : (b :: bytes).getLast? = some c := by
  rw [List.getLast?_cons, h, Option.getD_some]

/-- The lines of a concatenation are the lines of its parts when the first part is terminated and
no pair is cut between the parts. -/
theorem lines_append_of_uncut {first second : List UInt8} (h : IsTerminated first)
    (hpair : first.getLast? = some carriageReturn → second.head? ≠ some lineFeed) :
    lines (first ++ second) = lines first ++ lines second := by
  induction first using lines.induct with
  | case1 => rfl
  | case2 rest ih =>
      simp [ih h.tail fun hlast => hpair (getLast?_cons_of_getLast? hlast)]
  | case3 rest _ ih =>
      have hrest := ih h.tail.tail fun hlast =>
        hpair (getLast?_cons_of_getLast? (getLast?_cons_of_getLast? hlast))
      rw [List.cons_append, List.cons_append, lines_pair, lines_pair, hrest, List.cons_append]
  | case4 c rest hc _ ih =>
      have hhead : (c :: rest).head? ≠ some lineFeed := by simpa using hc
      have hhead' : (c :: rest ++ second).head? ≠ some lineFeed := by simpa using hc
      rw [List.cons_append, lines_carriageReturn hhead', lines_carriageReturn hhead,
        ih h.tail fun hlast => hpair (getLast?_cons_of_getLast? hlast), List.cons_append]
  | case5 _ =>
      rw [List.cons_append, List.nil_append, lines_carriageReturn (hpair rfl),
        lines_carriageReturn (by simp)]
      rfl
  | case6 b rest hlf hcr hnil _ =>
      exact absurd hnil (lines_ne_nil (h.ne_nil hlf hcr))
  | case7 b rest hlf hcr line more heq ih =>
      rw [List.cons_append, lines_cons hlf hcr, lines_cons hlf hcr,
        ih h.tail fun hlast => hpair (getLast?_cons_of_getLast? hlast), heq]
      rfl

/-- The lines of a concatenation are the lines of its parts when the first part is terminated and
the second does not go on with the line feed of a pair. -/
theorem lines_append {first second : List UInt8} (h : IsTerminated first)
    (hsecond : second.head? ≠ some lineFeed) :
    lines (first ++ second) = lines first ++ lines second :=
  lines_append_of_uncut h fun _ => hsecond

theorem exists_lines_carriageReturn (rest : List UInt8) :
    ∃ more, lines (carriageReturn :: rest) = [] :: more := by
  by_cases h : rest.head? = some lineFeed
  · obtain ⟨rest, rfl⟩ := List.head?_eq_some_iff.mp h
    exact ⟨_, lines_pair rest⟩
  · exact ⟨_, lines_carriageReturn h⟩

/-- What ends with whole lines has the same lines when it goes on, also where it goes on with the
line feed of a pair. -/
theorem IsTerminated.lines_prefix {first : List UInt8} (h : IsTerminated first)
    (second : List UInt8) : lines first <+: lines (first ++ second) := by
  induction first using lines.induct with
  | case1 => exact List.nil_prefix
  | case2 rest ih =>
      rw [List.cons_append, lines_lineFeed, lines_lineFeed]
      exact List.cons_prefix_cons.mpr ⟨rfl, ih h.tail⟩
  | case3 rest _ ih =>
      rw [List.cons_append, List.cons_append, lines_pair, lines_pair]
      exact List.cons_prefix_cons.mpr ⟨rfl, ih h.tail.tail⟩
  | case4 c rest hc _ ih =>
      rw [List.cons_append, lines_carriageReturn (by simpa using hc),
        lines_carriageReturn (by simpa using hc)]
      exact List.cons_prefix_cons.mpr ⟨rfl, ih h.tail⟩
  | case5 _ =>
      obtain ⟨more, hlines⟩ := exists_lines_carriageReturn second
      rw [lines_carriageReturn (by simp), List.singleton_append, hlines]
      exact List.cons_prefix_cons.mpr ⟨rfl, List.nil_prefix⟩
  | case6 b rest hlf hcr hnil _ => exact absurd hnil (lines_ne_nil (h.ne_nil hlf hcr))
  | case7 b rest hlf hcr line more heq ih =>
      obtain ⟨after, hafter⟩ := ih h.tail
      rw [List.cons_append, lines_cons hlf hcr, lines_cons hlf hcr, ← hafter, heq]
      exact List.cons_prefix_cons.mpr ⟨rfl, List.prefix_append more after⟩

/-- Lines hold none of the bytes that end lines. -/
theorem isPlain_of_mem_lines {bytes : List UInt8} {line : Line} (h : line ∈ lines bytes) :
    IsPlain line := by
  induction bytes using lines.induct generalizing line with
  | case1 => exact absurd h List.not_mem_nil
  | case2 rest ih =>
      rw [lines_lineFeed, List.mem_cons] at h
      rcases h with rfl | h
      · exact isPlain_nil
      · exact ih h
  | case3 rest _ ih =>
      rw [lines_pair, List.mem_cons] at h
      rcases h with rfl | h
      · exact isPlain_nil
      · exact ih h
  | case4 c rest hc _ ih =>
      rw [lines_carriageReturn (by simpa using hc), List.mem_cons] at h
      rcases h with rfl | h
      · exact isPlain_nil
      · exact ih h
  | case5 _ =>
      rw [lines_carriageReturn (by simp), lines_nil, List.mem_singleton] at h
      exact h ▸ isPlain_nil
  | case6 b rest hlf hcr hnil _ =>
      rw [lines_cons hlf hcr, hnil] at h
      obtain rfl := List.mem_singleton.mp h
      constructor
      · simpa using Ne.symm hlf
      · simpa using Ne.symm hcr
  | case7 b rest hlf hcr first more heq ih =>
      rw [lines_cons hlf hcr, heq, List.headD_cons, List.tail_cons, List.mem_cons] at h
      rcases h with rfl | h
      · have hfirst := ih (heq ▸ List.mem_cons_self)
        constructor
        · rw [List.mem_cons, not_or]
          exact ⟨Ne.symm hlf, hfirst.1⟩
        · rw [List.mem_cons, not_or]
          exact ⟨Ne.symm hcr, hfirst.2⟩
      · exact ih (heq ▸ List.mem_cons_of_mem _ h)

end PemBundle.Pem
