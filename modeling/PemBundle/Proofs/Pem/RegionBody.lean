import PemBundle.Proofs.Base64.Complete
import PemBundle.Proofs.Pem.Armor

/-!
# The parts of a region

Between its boundary lines a region holds header lines, possibly with empty lines among them, and
then its body. A region is read if its header lines are ASCII and its body can be decoded. Of the
body only the lines before the first that starts with four dashes and a space are decoded, although
such a line does not break the region.
-/

namespace PemBundle.Pem

open Text

/-- Whether a line in front of the body belongs to the headers: it is empty or holds a colon. -/
def isHeadLine (line : Line) : Bool := line = [] || colon ∈ line

/-- Whether the line starts with four dashes and a space. -/
def isSpacedDashed (line : Line) : Bool := spacedDashes.isPrefixOf line

namespace Region

/-- The lines between the boundary lines. -/
def inner (region : Region) : List Line := region.lines.tail.dropLast

/-- The header lines, with the empty lines among them. -/
def head (region : Region) : List Line := region.inner.takeWhile isHeadLine

/-- The lines from the first that belongs to no header up to the END line. -/
def body (region : Region) : List Line := region.inner.dropWhile isHeadLine

/-- The lines of the body that are decoded. -/
def readBody (region : Region) : List Line := region.body.takeWhile (!isSpacedDashed ·)

/-- All bytes on header lines are ASCII. -/
def HasAsciiHead (region : Region) : Prop := ∀ line ∈ region.head, ∀ b ∈ line, b < 0x80

end Region

theorem isHeadLine_eq_false_iff (line : Line) :
    isHeadLine line = false ↔ line ≠ [] ∧ colon ∉ line := by
  simp [isHeadLine]

/-! ### Header lines -/

/-- Headers are read if all bytes of their lines are ASCII, and reading goes on at the first line
that belongs to no header. -/
theorem exists_readHeaders_iff (before : Headers) (ls rest : List Line) :
    (∃ headers, readHeaders before ls = .ok (headers, rest)) ↔
      (∀ line ∈ ls.takeWhile isHeadLine, ∀ b ∈ line, b < 0x80) ∧
        rest = ls.dropWhile isHeadLine := by
  induction ls generalizing before with
  | nil => simp [readHeaders, eq_comm]
  | cons line ls ih =>
      by_cases hcolon : colon ∈ line
      · have hhead : isHeadLine line = true := by simp [isHeadLine, hcolon]
        simp only [readHeaders_colon_iff before hcolon, List.takeWhile_cons_of_pos hhead,
          List.dropWhile_cons_of_pos hhead, List.forall_mem_cons, and_assoc]
        constructor
        · rintro ⟨headers, header, hread, hok⟩
          exact ⟨ascii_of_readHeader hread, (ih _).mp ⟨headers, hok⟩⟩
        · rintro ⟨hascii, hrest⟩
          obtain ⟨headers, hok⟩ := (ih _).mpr hrest
          exact ⟨headers, _, readHeader_ascii hascii, hok⟩
      · by_cases hempty : line = []
        · have hhead : isHeadLine line = true := by simp [isHeadLine, hempty]
          rw [List.takeWhile_cons_of_pos hhead, List.dropWhile_cons_of_pos hhead,
            List.forall_mem_cons, hempty, readHeaders_blank, ih]
          exact and_congr_left' (and_iff_right (List.forall_mem_nil _)).symm
        · have hhead : ¬ isHeadLine line = true := by simp [isHeadLine, hempty, hcolon]
          rw [List.takeWhile_cons_of_neg hhead, List.dropWhile_cons_of_neg hhead,
            readHeaders_body before hempty hcolon]
          simp [eq_comm]

/-! ### Reading a region -/

/-- The END line of a region belongs to no header. -/
theorem isHeadLine_of_endLabel? {line : Line} {label : Label} (h : endLabel? line = some label) :
    isHeadLine line = false := by
  rw [isHeadLine_eq_false_iff]
  refine ⟨?_, colon_not_mem_of_endLabel? h⟩
  rintro rfl
  exact nomatch h

/-- Without five dashes in front, a line closes the body if it starts with four and a space. -/
theorem closesBody_of_undashed {line : Line} (h : isDashed line = false) :
    closesBody line = isSpacedDashed line := by
  rw [closesBody, h, Bool.false_or, isSpacedDashed]

/-- Of lines without five dashes in front, in front of a line that closes the body, the body takes
those before the first that starts with four dashes and a space. -/
theorem bodyLines?_of_undashed {ls : List Line} (h : ∀ line ∈ ls, isDashed line = false)
    {last : Line} (hlast : closesBody last = true) :
    bodyLines? (ls ++ [last]) = some (ls.takeWhile (!isSpacedDashed ·)) := by
  have hany : (ls ++ [last]).any closesBody = true := by simp [hlast]
  rw [bodyLines?, if_pos hany, Option.some.injEq]
  clear hany
  induction ls with
  | nil => simp [hlast]
  | cons line ls ih =>
      have hline := closesBody_of_undashed (h line List.mem_cons_self)
      have hrest := ih fun other hother => h other (List.mem_cons_of_mem line hother)
      rw [List.cons_append, List.takeWhile_cons, List.takeWhile_cons, hline, hrest]

/-- An item that fails the test ends what is taken from the items before it. -/
theorem takeWhile_concat {α : Type} {p : α → Bool} (items : List α) {last : α}
    (h : p last = false) : (items ++ [last]).takeWhile p = items.takeWhile p := by
  induction items with
  | nil => simp [h]
  | cons item items ih => rw [List.cons_append, List.takeWhile_cons, List.takeWhile_cons, ih]

/-- An item that fails the test stays behind what is left of the items before it. -/
theorem dropWhile_concat {α : Type} {p : α → Bool} (items : List α) {last : α}
    (h : p last = false) : (items ++ [last]).dropWhile p = items.dropWhile p ++ [last] := by
  induction items with
  | nil => simp [h]
  | cons item items ih =>
      rw [List.cons_append, List.dropWhile_cons, List.dropWhile_cons, ih]
      split <;> rfl

/-- The inner lines of a region and its END line follow the opening line. -/
theorem IsRegion.tail_lines {region : Region} (h : IsRegion region) :
    ∃ last, region.lines.tail = region.inner ++ [last] ∧ endLabel? last = some region.label ∧
      ∀ line ∈ region.inner, isDashed line = false := by
  cases h with
  | @mk label first last inner begins undashed ends =>
      have hinner : Region.inner ⟨label, first :: inner ++ [last]⟩ = inner := by
        simp [Region.inner]
      rw [hinner]
      exact ⟨last, rfl, ends, undashed⟩

/-- Reading the headers leaves the body and the END line, which closes the body. -/
theorem IsRegion.bodyLines?_of_readHeaders {region : Region} (h : IsRegion region)
    {headers : Headers} {rest : List Line}
    (hread : readHeaders [] region.lines.tail = .ok (headers, rest)) :
    bodyLines? rest = some region.readBody := by
  obtain ⟨last, htail, ends, undashed⟩ := h.tail_lines
  have hclose : closesBody last = true := by
    rw [closesBody, isDashed_of_endLabel? ends, Bool.true_or]
  have hrest : rest = region.lines.tail.dropWhile isHeadLine :=
    ((exists_readHeaders_iff [] region.lines.tail rest).mp ⟨headers, hread⟩).2
  rw [hrest, htail, dropWhile_concat _ (isHeadLine_of_endLabel? ends)]
  apply bodyLines?_of_undashed _ hclose
  intro line hline
  exact undashed line ((List.dropWhile_sublist _).subset hline)

/-- Reading a region is reading its headers, then decoding the lines of its body. -/
theorem IsRegion.unarmor_eq {region : Region} (h : IsRegion region) :
    unarmor region.lines =
      match readHeaders [] region.lines.tail with
      | .error error => .error error
      | .ok (headers, _) =>
          match Base64.decode region.readBody.flatten with
          | .ok der => .ok ⟨ofAscii region.label, der, headers⟩
          | .error error => .error (.body error) := by
  have hbody {headers : Headers} {rest : List Line}
      (hread : readHeaders [] region.lines.tail = .ok (headers, rest)) :=
    h.bodyLines?_of_readHeaders hread
  cases h with
  | @mk label first last inner begins undashed ends =>
      have hopen := openLabel?_of_beginLabel? begins
      have hdrop : (first :: (inner ++ [last])).dropWhile (openLabel? · |>.isNone) =
          first :: (inner ++ [last]) := List.dropWhile_cons_of_neg (by simp [hopen])
      simp only [List.cons_append, List.tail_cons] at hbody ⊢
      simp only [unarmor, hdrop, hopen, Option.getD_some]
      cases hread : readHeaders [] (inner ++ [last]) with
      | error error => rfl
      | ok found =>
          obtain ⟨headers, rest⟩ := found
          have hlines := hbody hread
          cases hdecode : Base64.decode
              (Region.readBody ⟨label, first :: (inner ++ [last])⟩).flatten with
          | ok der => simp only [bind, Except.bind, hlines, hdecode]
          | error error => simp only [bind, Except.bind, hlines, hdecode]

/-- A region is read if its headers are, and gives the decoded lines of its body. -/
theorem IsRegion.unarmor_eq_ok_iff {region : Region} (h : IsRegion region) (block : Block) :
    unarmor region.lines = .ok block ↔
      (∃ rest, readHeaders [] region.lines.tail = .ok (block.headers, rest)) ∧
        Base64.decode region.readBody.flatten = .ok block.der ∧
          block.label = ofAscii region.label := by
  rw [h.unarmor_eq]
  cases hread : readHeaders [] region.lines.tail with
  | error error => simp
  | ok found =>
      obtain ⟨headers, rest⟩ := found
      obtain ⟨label, der, blockHeaders⟩ := block
      cases hdecode : Base64.decode region.readBody.flatten with
      | error error => simp
      | ok bytes => simp [and_comm, and_left_comm, and_assoc, eq_comm]

/-- A region is read exactly if its head is ASCII and the lines of its body that are decoded leave
no group open. -/
theorem IsRegion.exists_unarmor_iff {region : Region} (h : IsRegion region) :
    (∃ block, unarmor region.lines = .ok block) ↔
      region.HasAsciiHead ∧ Base64.IsComplete region.readBody.flatten := by
  have hhead (rest : List Line) :
      (∃ headers, readHeaders [] region.lines.tail = .ok (headers, rest)) ↔
        region.HasAsciiHead ∧ rest = region.lines.tail.dropWhile isHeadLine := by
    obtain ⟨last, htail, ends, -⟩ := h.tail_lines
    have htake : region.lines.tail.takeWhile isHeadLine = region.head := by
      rw [htail, takeWhile_concat _ (isHeadLine_of_endLabel? ends), Region.head]
    rw [exists_readHeaders_iff, htake, Region.HasAsciiHead]
  rw [← Base64.exists_decode_eq_ok_iff]
  constructor
  · rintro ⟨block, hok⟩
    obtain ⟨⟨rest, hread⟩, hdecode, -⟩ := (h.unarmor_eq_ok_iff block).mp hok
    exact ⟨((hhead rest).mp ⟨block.headers, hread⟩).1, block.der, hdecode⟩
  · rintro ⟨hascii, der, hdecode⟩
    obtain ⟨headers, hread⟩ := (hhead _).mpr ⟨hascii, rfl⟩
    refine ⟨⟨ofAscii region.label, der, headers⟩, ?_⟩
    rw [h.unarmor_eq_ok_iff]
    exact ⟨⟨_, hread⟩, hdecode, rfl⟩

/-- The whole body is read if none of its lines starts with four dashes and a space. -/
theorem Region.readBody_eq_body {region : Region}
    (h : ∀ line ∈ region.body, isSpacedDashed line = false) : region.readBody = region.body := by
  rw [readBody, List.takeWhile_eq_self_iff]
  intro line hline
  rw [h line hline, Bool.not_false]

/-! ### Bodies without a colon -/

/-- Headers end in front of lines without a colon. -/
theorem readHeaders_of_no_colon (headers : Headers) {ls : List Line}
    (h : ∀ line ∈ ls, colon ∉ line) :
    ∃ rest, readHeaders headers ls = .ok (headers, rest) := by
  induction ls with
  | nil => exact ⟨[], rfl⟩
  | cons line ls ih =>
      obtain ⟨hline, hls⟩ := List.forall_mem_cons.mp h
      by_cases hempty : line = []
      · rw [hempty, readHeaders_blank]
        exact ih hls
      · exact ⟨line :: ls, readHeaders_body headers hempty hline ls⟩

/-- Lines of headers are read first, then what follows them. -/
theorem readHeaders_append (headers : Headers) {head : List Line}
    (h : ∀ line ∈ head, isHeadLine line = true) (rest : List Line) :
    readHeaders headers (head ++ rest) =
      readHeaders headers head >>= fun read => readHeaders read.1 rest := by
  induction head generalizing headers with
  | nil => rfl
  | cons line head ih =>
      obtain ⟨hline, hhead⟩ := List.forall_mem_cons.mp h
      rw [List.cons_append]
      by_cases hempty : line = []
      · rw [hempty, readHeaders_blank, readHeaders_blank, ih headers hhead]
      · have hcolon : colon ∈ line := by simpa [isHeadLine, hempty] using hline
        rw [readHeaders, readHeaders, if_neg hempty, if_neg hempty, if_pos hcolon, if_pos hcolon,
          bind_assoc]
        congr 1
        funext header
        exact ih _ hhead

/-- Without a colon, only empty lines in front are taken for headers. -/
theorem flatten_dropWhile_isHeadLine {ls : List Line} (h : ∀ line ∈ ls, colon ∉ line) :
    (ls.dropWhile isHeadLine).flatten = ls.flatten := by
  induction ls with
  | nil => rfl
  | cons line ls ih =>
      obtain ⟨hline, hls⟩ := List.forall_mem_cons.mp h
      by_cases hempty : line = []
      · rw [hempty, List.dropWhile_cons_of_pos rfl, ih hls]
        rfl
      · rw [List.dropWhile_cons_of_neg (by simp [isHeadLine, hempty, hline])]

/-- Lines behind the headers are read whole if they hold no colon and none closes the body. -/
theorem Region.flatten_readBody {head body : List Line}
    (hhead : ∀ line ∈ head, isHeadLine line = true) (hcolon : ∀ line ∈ body, colon ∉ line)
    (hopen : ∀ line ∈ body, closesBody line = false) (label : Label) (first last : Line) :
    (Region.readBody ⟨label, first :: (head ++ body) ++ [last]⟩).flatten = body.flatten := by
  have hbody : Region.body ⟨label, first :: (head ++ body) ++ [last]⟩ =
      body.dropWhile isHeadLine := by
    simp [Region.body, Region.inner, List.dropWhile_append_of_pos hhead]
  rw [Region.readBody_eq_body, hbody]
  · exact flatten_dropWhile_isHeadLine hcolon
  · intro line hline
    rw [hbody] at hline
    have hclose := hopen line ((List.dropWhile_sublist _).subset hline)
    rw [← closesBody_of_undashed (isDashed_of_closesBody hclose), hclose]

/-- Reading a region of header lines and a body without colons is reading the headers, then decoding
the whole body. -/
theorem IsRegion.unarmor_of_parts {label : Label} {first last : Line} {head body : List Line}
    (h : IsRegion ⟨label, first :: (head ++ body) ++ [last]⟩)
    (hhead : ∀ line ∈ head, isHeadLine line = true) (hcolon : ∀ line ∈ body, colon ∉ line)
    (hopen : ∀ line ∈ body, closesBody line = false) :
    unarmor (first :: (head ++ body) ++ [last]) =
      match readHeaders [] head with
      | .error error => .error error
      | .ok read =>
          match Base64.decode body.flatten with
          | .ok der => .ok ⟨ofAscii label, der, read.1⟩
          | .error error => .error (.body error) := by
  have hend : endLabel? last = some label := by
    obtain ⟨other, htail, hother, -⟩ := h.tail_lines
    obtain rfl : last = other := by simpa using congrArg List.getLast? htail
    exact hother
  have htail : (first :: (head ++ body) ++ [last]).tail = head ++ (body ++ [last]) :=
    List.append_assoc head body [last]
  have hrest : ∀ line ∈ body ++ [last], colon ∉ line := by
    intro line hline
    rcases List.mem_append.mp hline with hline | hlast
    · exact hcolon line hline
    · rw [List.mem_singleton.mp hlast]
      exact colon_not_mem_of_endLabel? hend
  have hunarmor := h.unarmor_eq
  rw [Region.flatten_readBody hhead hcolon hopen, htail, readHeaders_append [] hhead] at hunarmor
  rw [hunarmor]
  cases readHeaders [] head with
  | error error => rfl
  | ok read =>
      obtain ⟨rest, hread⟩ := readHeaders_of_no_colon read.1 hrest
      simp only [bind, Except.bind, hread]

end PemBundle.Pem
