import Mathlib.Data.List.Nodup
import PemBundle.Pem.Unarmor
import PemBundle.Proofs.Outcome
import PemBundle.Proofs.Pem.Boundary
import PemBundle.Proofs.Text

/-!
# Header lines

A header is written on one line and read back from it if its name and value are ASCII, hold no line
end, the name has no colon and does not start with five dashes, and the value is trimmed. Whatever
is read from a line of a region has this form.
-/

namespace PemBundle.Pem

open Text

/-- A header that can be written on a line of its own and read back from it. -/
structure IsHeader (header : String × String) : Prop where
  name_ascii : ∀ c ∈ header.1.toList, isAscii c = true
  name_plain : ∀ c ∈ header.1.toList, c ≠ ':' ∧ c ≠ '\r' ∧ c ≠ '\n'
  name_undashed : ¬ "-----".toList <+: header.1.toList
  value_ascii : ∀ c ∈ header.2.toList, isAscii c = true
  value_plain : ∀ c ∈ header.2.toList, c ≠ '\r' ∧ c ≠ '\n'
  value_trimmed : trim header.2.toList = header.2.toList

instance (header : String × String) : Decidable (IsHeader header) :=
  decidable_of_iff
    (header.1.toList.all isAscii = true ∧
      header.1.toList.all (fun c => decide (c ≠ ':' ∧ c ≠ '\r' ∧ c ≠ '\n')) = true ∧
      ¬ "-----".toList <+: header.1.toList ∧
      header.2.toList.all isAscii = true ∧
      header.2.toList.all (fun c => decide (c ≠ '\r' ∧ c ≠ '\n')) = true ∧
      trim header.2.toList = header.2.toList) <| by
    simp only [List.all_eq_true, decide_eq_true_eq]
    constructor
    · exact fun ⟨h₁, h₂, h₃, h₄, h₅, h₆⟩ => ⟨h₁, h₂, h₃, h₄, h₅, h₆⟩
    · exact fun ⟨h₁, h₂, h₃, h₄, h₅, h₆⟩ => ⟨h₁, h₂, h₃, h₄, h₅, h₆⟩

/-- Headers of a block: each can be written, and no name comes twice. -/
structure AreHeaders (headers : Headers) : Prop where
  each : ∀ header ∈ headers, IsHeader header
  distinct : (headers.map Prod.fst).Nodup

instance (headers : Headers) : Decidable (AreHeaders headers) :=
  decidable_of_iff ((∀ header ∈ headers, IsHeader header) ∧ (headers.map Prod.fst).Nodup)
    ⟨fun ⟨h₁, h₂⟩ => ⟨h₁, h₂⟩, fun ⟨h₁, h₂⟩ => ⟨h₁, h₂⟩⟩

theorem areHeaders_nil : AreHeaders [] := by
  constructor
  · intro header hmem
    exact absurd hmem List.not_mem_nil
  · exact List.nodup_nil

/-- The bytes of a header line. -/
def headerLine (header : String × String) : Line :=
  asciiBytes header.1.toList ++ colon :: 0x20 :: asciiBytes header.2.toList

/-- ASCII text without line ends is a line without line ends. -/
theorem isPlain_asciiBytes {cs : List Char} (hascii : ∀ c ∈ cs, isAscii c = true)
    (hplain : ∀ c ∈ cs, c ≠ '\r' ∧ c ≠ '\n') : IsPlain (asciiBytes cs) := by
  constructor
  · intro h
    exact (hplain _ ((code_mem_asciiBytes hascii (c := '\n') (by decide)).mp h)).2 rfl
  · intro h
    exact (hplain _ ((code_mem_asciiBytes hascii (c := '\r') (by decide)).mp h)).1 rfl

theorem colon_mem_headerLine (header : String × String) : colon ∈ headerLine header := by
  simp [headerLine]

theorem IsHeader.colon_not_mem {header : String × String} (h : IsHeader header) :
    colon ∉ asciiBytes header.1.toList := by
  intro hmem
  exact (h.name_plain _ ((code_mem_asciiBytes h.name_ascii (c := ':') (by decide)).mp hmem)).1 rfl

theorem IsHeader.isPlain {header : String × String} (h : IsHeader header) :
    IsPlain (headerLine header) := by
  have hname := isPlain_asciiBytes h.name_ascii fun c hc => (h.name_plain c hc).2
  have hvalue := isPlain_asciiBytes h.value_ascii h.value_plain
  have hmiddle : IsPlain [colon, 0x20] := by simp [IsPlain, colon, lineFeed, carriageReturn]
  exact hname.append (hmiddle.append hvalue)

theorem ascii_dashes : ∀ c ∈ "-----".toList, isAscii c = true := List.all_eq_true.mp (by decide)

/-- Five dashes in front of a line with a colon stand in front of its name. -/
theorem dashes_prefix_name {name rest : List UInt8}
    (h : dashes <+: name ++ colon :: rest) : dashes <+: name := by
  rcases List.prefix_or_prefix_of_prefix h (List.prefix_append name (colon :: rest)) with
    hname | ⟨after, hafter⟩
  · exact hname
  · rw [← hafter, List.prefix_append_right_inj] at h
    cases after with
    | nil => exact ⟨[], by rw [← hafter]; simp⟩
    | cons b after =>
        obtain rfl := (List.cons_prefix_cons.mp h).1
        have hmem : colon ∈ dashes := hafter ▸ List.mem_append_right _ List.mem_cons_self
        exact absurd hmem (by decide)

theorem IsHeader.isDashed {header : String × String} (h : IsHeader header) :
    isDashed (headerLine header) = false := by
  rw [Bool.eq_false_iff]
  intro hdashed
  have hprefix := dashes_prefix_name (List.isPrefixOf_iff_prefix.mp hdashed)
  exact h.name_undashed ((asciiBytes_prefix_iff ascii_dashes h.name_ascii).mp hprefix)

/-- The first colon of a line parts the name from the rest. -/
theorem split_colon {name : List UInt8} (h : colon ∉ name) (rest : List UInt8) :
    (name ++ colon :: rest).takeWhile (· ≠ colon) = name ∧
      (name ++ colon :: rest).dropWhile (· ≠ colon) = colon :: rest := by
  have hname : ∀ b ∈ name, decide (b ≠ colon) = true := by
    intro b hb
    have hne : b ≠ colon := fun heq => h (heq ▸ hb)
    simpa using hne
  rw [List.takeWhile_append_of_pos hname, List.dropWhile_append_of_pos hname]
  simp

theorem ascii_of_readHeader {line : Line} {header : String × String}
    (h : readHeader line = .ok header) : ∀ b ∈ line, b < 0x80 := by
  rw [readHeader] at h
  split at h
  · exact nomatch h
  · rename_i hnil
    simpa using List.dropWhile_eq_nil_iff.mp hnil

/-- On a line of ASCII bytes the name goes up to the first colon and the rest is the value. -/
theorem readHeader_ascii {line : Line} (h : ∀ b ∈ line, b < 0x80) :
    readHeader line = .ok (ofAscii (line.takeWhile (· ≠ colon)),
      String.ofList (trim (ofAscii ((line.dropWhile (· ≠ colon)).drop 1)).toList)) := by
  have hnil : line.dropWhile (· < 0x80) = [] := by
    rw [List.dropWhile_eq_nil_iff]
    simpa using h
  rw [readHeader, hnil]

/-- A header is read back from its line. -/
theorem IsHeader.read {header : String × String} (h : IsHeader header) :
    readHeader (headerLine header) = .ok header := by
  have hascii : ∀ b ∈ headerLine header, b < 0x80 := by
    intro b hb
    rw [headerLine, List.mem_append, List.mem_cons, List.mem_cons] at hb
    rcases hb with hb | rfl | rfl | hb
    · exact lt_of_mem_asciiBytes h.name_ascii hb
    · decide
    · decide
    · exact lt_of_mem_asciiBytes h.value_ascii hb
  obtain ⟨htake, hdrop⟩ := split_colon h.colon_not_mem (0x20 :: asciiBytes header.2.toList)
  have hvalue : (ofAscii (0x20 :: asciiBytes header.2.toList)).toList = ' ' :: header.2.toList := by
    rw [toList_ofAscii, List.map_cons, ← toList_ofAscii, ofAscii_asciiBytes h.value_ascii,
      String.toList_ofList]
    rfl
  rw [readHeader_ascii hascii, headerLine, htake, hdrop, List.drop_succ_cons, List.drop_zero,
    hvalue, trim_cons_blank (by decide), h.value_trimmed, ofAscii_asciiBytes h.name_ascii,
    String.ofList_toList, String.ofList_toList]

/-- What is read from a line without five dashes in front is a header that can be written. -/
theorem isHeader_of_readHeader {line : Line} (hplain : IsPlain line)
    (hundashed : isDashed line = false) {header : String × String}
    (h : readHeader line = .ok header) : IsHeader header := by
  have hascii := ascii_of_readHeader h
  rw [readHeader_ascii hascii] at h
  injection h with h
  obtain rfl := h
  have hname : ∀ b ∈ line.takeWhile (· ≠ colon), b ∈ line ∧ b ≠ colon := by
    intro b hb
    exact ⟨(List.takeWhile_sublist _).subset hb, by simpa using List.mem_takeWhile_imp hb⟩
  have hvalue : ∀ b ∈ (line.dropWhile (· ≠ colon)).drop 1, b ∈ line := by
    intro b hb
    exact (List.dropWhile_sublist _).subset ((List.drop_sublist 1 _).subset hb)
  have hnameChar := fun c (hc : c ∈ (ofAscii (line.takeWhile (· ≠ colon))).toList) =>
    mem_ofAscii (fun b hb => hascii b (hname b hb).1) hc
  have hvalueChar := fun c
      (hc : c ∈ trim (ofAscii ((line.dropWhile (· ≠ colon)).drop 1)).toList) =>
    mem_ofAscii (fun b hb => hascii b (hvalue b hb)) (mem_of_mem_trim hc)
  constructor
  · intro c hc
    exact (hnameChar c hc).1
  · intro c hc
    obtain ⟨hline, hcolon⟩ := hname _ (hnameChar c hc).2
    refine ⟨?_, ?_, ?_⟩
    · rintro rfl
      exact hcolon rfl
    · rintro rfl
      exact hplain.2 hline
    · rintro rfl
      exact hplain.1 hline
  · intro hprefix
    have hcodes :=
      (asciiBytes_prefix_iff ascii_dashes fun c hc => (hnameChar c hc).1).mpr hprefix
    rw [asciiBytes_ofAscii fun b hb => hascii b (hname b hb).1] at hcodes
    have hline : dashes <+: line := hcodes.trans (List.takeWhile_prefix _)
    rw [isDashed, List.isPrefixOf_iff_prefix.mpr hline] at hundashed
    cases hundashed
  · intro c hc
    rw [String.toList_ofList] at hc
    exact (hvalueChar c hc).1
  · intro c hc
    rw [String.toList_ofList] at hc
    have hline := hvalue _ (hvalueChar c hc).2
    constructor
    · rintro rfl
      exact hplain.2 hline
    · rintro rfl
      exact hplain.1 hline
  · rw [String.toList_ofList, trim_trim]

/-! ### Reading several header lines -/

theorem Headers.set_of_not_mem {name : String} {headers : Headers}
    (h : name ∉ headers.map Prod.fst) (value : String) :
    Headers.set name value headers = headers ++ [(name, value)] := by
  induction headers with
  | nil => rfl
  | cons header rest ih =>
      obtain ⟨n, v⟩ := header
      rw [List.map_cons, List.mem_cons, not_or] at h
      rw [Headers.set, if_neg (Ne.symm h.1), ih h.2, List.cons_append]

theorem Headers.names_set_of_mem {name : String} {headers : Headers}
    (h : name ∈ headers.map Prod.fst) (value : String) :
    (Headers.set name value headers).map Prod.fst = headers.map Prod.fst := by
  induction headers with
  | nil => exact absurd h List.not_mem_nil
  | cons header rest ih =>
      obtain ⟨n, v⟩ := header
      by_cases hn : n = name
      · simp [Headers.set, hn]
      · have hrest : name ∈ rest.map Prod.fst := by
          rw [List.map_cons, List.mem_cons] at h
          exact h.resolve_left (Ne.symm hn)
        simp [Headers.set, hn, ih hrest]

theorem Headers.mem_set {name value : String} {headers : Headers} {header : String × String}
    (h : header ∈ Headers.set name value headers) :
    header = (name, value) ∨ header ∈ headers := by
  induction headers with
  | nil => exact Or.inl (List.mem_singleton.mp h)
  | cons first rest ih =>
      obtain ⟨n, v⟩ := first
      rw [Headers.set] at h
      split at h
      · rename_i hn
        subst hn
        rcases List.mem_cons.mp h with rfl | h
        · exact Or.inl rfl
        · exact Or.inr (List.mem_cons_of_mem _ h)
      · rcases List.mem_cons.mp h with rfl | h
        · exact Or.inr List.mem_cons_self
        · exact (ih h).imp_right (List.mem_cons_of_mem _)

/-- Setting a header keeps headers headers: a name that was there is not added again. -/
theorem AreHeaders.set {headers : Headers} (h : AreHeaders headers) {name value : String}
    (hheader : IsHeader (name, value)) : AreHeaders (Headers.set name value headers) := by
  constructor
  · intro header hmem
    rcases Headers.mem_set hmem with rfl | hmem
    · exact hheader
    · exact h.each header hmem
  · by_cases hname : name ∈ headers.map Prod.fst
    · rw [Headers.names_set_of_mem hname]
      exact h.distinct
    · rw [Headers.set_of_not_mem hname, List.map_append, List.nodup_append]
      refine ⟨h.distinct, List.nodup_singleton name, ?_⟩
      intro other hother new hnew heq
      obtain rfl := List.mem_singleton.mp hnew
      exact hname (heq ▸ hother)

/-- Written header lines are read back in front of any lines. -/
theorem readHeaders_headerLines {before headers : Headers} (h : AreHeaders (before ++ headers))
    (rest : List Line) :
    readHeaders before (headers.map headerLine ++ rest) = readHeaders (before ++ headers) rest := by
  induction headers generalizing before with
  | nil => simp
  | cons header headers ih =>
      have hheader := h.each header (List.mem_append_right _ List.mem_cons_self)
      have hnew : header.1 ∉ before.map Prod.fst := by
        have hdistinct := h.distinct
        rw [List.map_append, List.nodup_append] at hdistinct
        intro hmem
        exact hdistinct.2.2 _ hmem _ List.mem_cons_self rfl
      have hne : headerLine header ≠ [] := by simp [headerLine]
      have hstep : readHeaders before (headerLine header :: (headers.map headerLine ++ rest)) =
          readHeaders (before.set header.1 header.2) (headers.map headerLine ++ rest) := by
        rw [readHeaders, if_neg hne, if_pos (colon_mem_headerLine header), hheader.read]
        rfl
      rw [List.map_cons, List.cons_append, hstep, Headers.set_of_not_mem hnew,
        ih (by simpa using h)]
      simp

theorem readHeaders_blank (headers : Headers) (rest : List Line) :
    readHeaders headers ([] :: rest) = readHeaders headers rest := by
  rw [readHeaders, if_pos rfl]

/-- The first line without a colon, unless it is empty, is the first of the body. -/
theorem readHeaders_body (headers : Headers) {line : Line} (hne : line ≠ [])
    (hcolon : colon ∉ line) (rest : List Line) :
    readHeaders headers (line :: rest) = .ok (headers, line :: rest) := by
  rw [readHeaders, if_neg hne, if_neg hcolon]

/-- A line with a colon is read and set before the lines after it. -/
theorem readHeaders_colon_iff (before : Headers) {line : Line} (hcolon : colon ∈ line)
    (ls : List Line) (read : Headers × List Line) :
    readHeaders before (line :: ls) = .ok read ↔
      ∃ header, readHeader line = .ok header ∧
        readHeaders (before.set header.1 header.2) ls = .ok read := by
  rw [readHeaders, if_neg (List.ne_nil_of_mem hcolon), if_pos hcolon, bind_eq_ok_iff]

/-- Whatever is read from header lines without five dashes in front can be written. -/
theorem areHeaders_of_readHeaders {ls rest : List Line} {before headers : Headers}
    (hls : ∀ line ∈ ls, colon ∈ line → IsPlain line ∧ isDashed line = false)
    (hbefore : AreHeaders before) (h : readHeaders before ls = .ok (headers, rest)) :
    AreHeaders headers := by
  induction ls generalizing before with
  | nil =>
      obtain ⟨rfl, -⟩ := Prod.mk.inj (Except.ok.inj h)
      exact hbefore
  | cons line ls ih =>
      have htail := fun other hother => hls other (List.mem_cons_of_mem line hother)
      by_cases hcolon : colon ∈ line
      · obtain ⟨hplain, hundashed⟩ := hls line List.mem_cons_self hcolon
        obtain ⟨header, hread, hrest⟩ := (readHeaders_colon_iff before hcolon ls _).mp h
        exact ih htail (hbefore.set (isHeader_of_readHeader hplain hundashed hread)) hrest
      · by_cases hempty : line = []
        · rw [hempty, readHeaders_blank] at h
          exact ih htail hbefore h
        · rw [readHeaders_body before hempty hcolon] at h
          obtain ⟨rfl, -⟩ := Prod.mk.inj (Except.ok.inj h)
          exact hbefore

end PemBundle.Pem
