import PemBundle.Pem.Single
import PemBundle.Proofs.Pem.RegionBody
import PemBundle.Proofs.Pem.Scanning

/-!
# Texts with other private keys

Two texts may differ in the bodies of their private key blocks alone. As long as these bodies are
base64, a scan tells the texts apart by nothing but the bytes of the key blocks: it stops in the
same place for the same reason and gives the same other blocks.
-/

namespace PemBundle.Pem

open Text

/-- The block without the bytes of a private key. -/
def Block.redacted (block : Block) : Block :=
  if privateKeyLabels.contains block.label then { block with der := [] } else block

/-- The bytes of a private key are no part of what shows of its block. -/
@[simp] theorem Block.label_redacted (block : Block) : block.redacted.label = block.label := by
  rw [redacted]
  split <;> rfl

@[simp] theorem Block.headers_redacted (block : Block) :
    block.redacted.headers = block.headers := by
  rw [redacted]
  split <;> rfl

theorem Block.redacted_of_not_key {block : Block}
    (h : ¬ privateKeyLabels.contains block.label = true) : block.redacted = block := if_neg h

/-- The scan without the bytes of private keys. -/
def Scan.redacted (scan : Scan) : Scan := ⟨scan.blocks.map Block.redacted, scan.stop⟩

/-- The lines around the body of a private key block: the opening line, the lines of the headers
with empty lines among them, and the END line. -/
structure IsKeyFrame (label : Label) (first : Line) (head : List Line) (last : Line) : Prop where
  begins : beginLabel? first = some label
  isKey : privateKeyLabels.contains (ofAscii label) = true
  isHead : ∀ line ∈ head, isHeadLine line = true
  undashed : ∀ line ∈ head, isDashed line = false
  ends : endLabel? last = some label

/-- The lines are the digits of some bytes, however they are cut. -/
def WritesBytes (body : List Line) : Prop := ∃ der, body.flatten = Base64.encode der

/-- The lines are the same but for the bodies of private key blocks. -/
inductive SameButKeys : List Line → List Line → Prop
  | nil : SameButKeys [] []
  | line (line : Line) {ls others : List Line} (rest : SameButKeys ls others) :
      SameButKeys (line :: ls) (line :: others)
  | key {label : Label} {first last : Line} {head body other ls others : List Line}
      (frame : IsKeyFrame label first head last) (hbody : WritesBytes body)
      (hother : WritesBytes other) (rest : SameButKeys ls others) :
      SameButKeys (first :: (head ++ body ++ last :: ls))
        (first :: (head ++ other ++ last :: others))

theorem SameButKeys.refl (ls : List Line) : SameButKeys ls ls := by
  induction ls with
  | nil => exact .nil
  | cons line ls ih => exact .line line ih

/-! ### Bodies of digits -/

/-- A line of digits is empty or a line that a body can be written in. -/
theorem WritesBytes.isBodyLine {body : List Line} (h : WritesBytes body) {line : Line}
    (hline : line ∈ body) : line = [] ∨ IsBodyLine line := by
  obtain ⟨der, hder⟩ := h
  refine (eq_or_ne line []).imp_right fun hne => ⟨hne, ?_⟩
  intro b hb
  apply Base64.isSign_of_mem_encode
  rw [← hder]
  exact List.mem_flatten.mpr ⟨line, hline, hb⟩

theorem WritesBytes.colon_not_mem {body : List Line} (h : WritesBytes body) {line : Line}
    (hline : line ∈ body) : colon ∉ line := by
  rcases h.isBodyLine hline with rfl | hbody
  · exact List.not_mem_nil
  · exact hbody.colon_not_mem

theorem WritesBytes.closesBody {body : List Line} (h : WritesBytes body) {line : Line}
    (hline : line ∈ body) : closesBody line = false := by
  rcases h.isBodyLine hline with rfl | hbody
  · rfl
  · exact hbody.closesBody

namespace IsKeyFrame

variable {label : Label} {first last : Line} {head body : List Line}

theorem undashed_append (h : IsKeyFrame label first head last) (hbody : WritesBytes body) :
    ∀ line ∈ head ++ body, isDashed line = false := by
  intro line hline
  rcases List.mem_append.mp hline with hhead | hbodyLine
  · exact h.undashed line hhead
  · exact isDashed_of_closesBody (hbody.closesBody hbodyLine)

theorem isRegion (h : IsKeyFrame label first head last) (hbody : WritesBytes body) :
    IsRegion ⟨label, first :: (head ++ body) ++ [last]⟩ :=
  .mk h.begins (h.undashed_append hbody) h.ends

/-- Of a private key block whose body is the digits of some bytes, the headers alone decide whether
it can be read. -/
theorem unarmor_eq (h : IsKeyFrame label first head last) {der : List UInt8}
    (hder : body.flatten = Base64.encode der) :
    unarmor (first :: (head ++ body) ++ [last]) =
      (readHeaders [] head).map fun read => ⟨ofAscii label, der, read.1⟩ := by
  have hbody : WritesBytes body := ⟨der, hder⟩
  rw [(h.isRegion hbody).unarmor_of_parts h.isHead (fun _ hline => hbody.colon_not_mem hline)
    (fun _ hline => hbody.closesBody hline), hder, Base64.decode_encode]
  cases readHeaders [] head <;> rfl

end IsKeyFrame

/-! ### Steps of a scan -/

/-- The pulls are the same but for the bytes of private keys. -/
inductive Pull.SameButKeys : Pull → Pull → Prop
  | finished : SameButKeys .finished .finished
  | stopped (stop : Stop) : SameButKeys (.stopped stop) (.stopped stop)
  | block {first second : Block} {rest others : List Line}
      (hblock : first.redacted = second.redacted) (hrest : Pem.SameButKeys rest others) :
      SameButKeys (.block first rest) (.block second others)

theorem Pull.SameButKeys.refl (step : Pull) : step.SameButKeys step := by
  cases step with
  | finished => exact .finished
  | stopped stop => exact .stopped stop
  | block block rest => exact .block rfl (.refl rest)

namespace Pull.SameButKeys

variable {other : Pull}

theorem eq_finished (h : SameButKeys .finished other) : other = .finished := by
  cases h
  rfl

theorem eq_stopped {stop : Stop} (h : SameButKeys (.stopped stop) other) :
    other = .stopped stop := by
  cases h
  rfl

theorem exists_block {first : Block} {rest : List Line}
    (h : SameButKeys (.block first rest) other) :
    ∃ second otherRest, other = .block second otherRest ∧
      first.redacted = second.redacted ∧ Pem.SameButKeys rest otherRest := by
  cases h with
  | block hblock hrest => exact ⟨_, _, rfl, hblock, hrest⟩

end Pull.SameButKeys

/-- An opening line closes nothing. -/
theorem endLabel?_of_beginLabel? {line : Line} {label : Label} (h : beginLabel? line = some label) :
    endLabel? line = none := by
  rw [Option.eq_none_iff_forall_ne_some]
  intro other hline
  obtain ⟨-, after, hbegin⟩ := (beginLabel?_eq_some_iff line label).mp h
  obtain ⟨-, rest, hend, -⟩ := (endLabel?_eq_some_iff line other).mp hline
  rw [hbegin] at hend
  simp [beginLine, endLine, beginWord, endWord] at hend

/-- The next pull from a private key block whose body is the digits of some bytes. -/
theorem IsKeyFrame.pull_eq {label : Label} {first last : Line} {head body : List Line}
    (h : IsKeyFrame label first head last) {der : List UInt8}
    (hder : body.flatten = Base64.encode der) (ls : List Line) :
    pull (first :: (head ++ body ++ last :: ls)) =
      match readHeaders [] head with
      | .error error => .stopped (.undecodable error)
      | .ok read => .block ⟨ofAscii label, der, read.1⟩ ls := by
  simp only [pull, nextRegion_cons_of_begins h.begins,
    closeRegion_of_dashed (h.undashed_append ⟨der, hder⟩) (isDashed_of_endLabel? h.ends),
    if_pos h.ends, h.unarmor_eq hder]
  cases readHeaders [] head <;> rfl

namespace SameButKeys

variable {ls others : List Line}

/-- Up to the first line that starts with five dashes the lines are the same, and if that line
closes a region, what follows it is the same but for private keys. -/
theorem split (h : SameButKeys ls others) :
    (ls = others ∧ ∀ line ∈ ls, isDashed line = false) ∨
      ∃ inner last after otherAfter, ls = inner ++ last :: after ∧
        others = inner ++ last :: otherAfter ∧ (∀ line ∈ inner, isDashed line = false) ∧
        isDashed last = true ∧
          ∀ label, endLabel? last = some label → SameButKeys after otherAfter := by
  induction h with
  | nil => exact .inl ⟨rfl, List.forall_mem_nil _⟩
  | @line line ls others rest ih =>
      cases hdashed : isDashed line with
      | true => exact .inr ⟨[], line, ls, others, rfl, rfl, List.forall_mem_nil _, hdashed,
          fun _ _ => rest⟩
      | false =>
          rcases ih with ⟨rfl, hls⟩ | ⟨inner, last, after, otherAfter, rfl, rfl, hinner, hlast⟩
          · exact .inl ⟨rfl, List.forall_mem_cons.mpr ⟨hdashed, hls⟩⟩
          · exact .inr ⟨line :: inner, last, after, otherAfter, rfl, rfl,
              List.forall_mem_cons.mpr ⟨hdashed, hinner⟩, hlast⟩
  | @key label first last head body other ls others frame hbody hother rest _ =>
      refine .inr ⟨[], first, _, _, rfl, rfl, List.forall_mem_nil _,
        isDashed_of_beginLabel? frame.begins, ?_⟩
      intro found hend
      rw [endLabel?_of_beginLabel? frame.begins] at hend
      cases hend

theorem pull_opened (h : SameButKeys ls others) {first : Line} {label : Label}
    (hbegin : beginLabel? first = some label) :
    (pull (first :: ls)).SameButKeys (pull (first :: others)) := by
  rcases h.split with ⟨rfl, -⟩ | ⟨inner, last, after, otherAfter, rfl, rfl, hinner, hlast, hafter⟩
  · exact .refl _
  · simp only [pull, nextRegion_cons_of_begins hbegin, closeRegion_of_dashed hinner hlast]
    by_cases hend : endLabel? last = some label
    · simp only [if_pos hend]
      cases unarmor (first :: inner ++ [last]) with
      | error error => exact .stopped _
      | ok block => exact .block rfl (hafter label hend)
    · simp only [if_neg hend]
      exact .stopped _

/-- The next pulls of such lines are the same but for private keys. -/
theorem pull (h : SameButKeys ls others) : (Pem.pull ls).SameButKeys (Pem.pull others) := by
  induction h with
  | nil => exact .finished
  | @line line ls others rest ih =>
      cases hbegin : beginLabel? line with
      | some label => exact rest.pull_opened hbegin
      | none =>
          simp only [Pem.pull, nextRegion, hbegin] at ih ⊢
          exact ih
  | @key label first last head body other ls others frame hbody hother rest _ =>
      obtain ⟨der, hder⟩ := hbody
      obtain ⟨otherDer, hotherDer⟩ := hother
      rw [frame.pull_eq hder, frame.pull_eq hotherDer]
      cases readHeaders [] head with
      | error error => exact .stopped _
      | ok read =>
          apply Pull.SameButKeys.block _ rest
          simp only [Block.redacted, frame.isKey, if_true]

/-- A scan gives the same blocks, but for the bytes of private keys, and stops alike. -/
theorem redacted_scanLines (h : SameButKeys ls others) :
    (scanLines ls).redacted = (scanLines others).redacted := by
  induction ls using scanLines.induct generalizing others with
  | case1 ls hpull =>
      have hother : Pem.pull others = .finished := (hpull ▸ h.pull).eq_finished
      rw [scanLines_of_finished hpull, scanLines_of_finished hother]
  | case2 ls stop hpull =>
      have hother : Pem.pull others = .stopped stop := (hpull ▸ h.pull).eq_stopped
      rw [scanLines_of_stopped hpull, scanLines_of_stopped hother]
  | case3 ls block rest hpull _ ih =>
      obtain ⟨second, otherRest, hother, hblock, hrest⟩ := (hpull ▸ h.pull).exists_block
      obtain ⟨hblocks, hstop⟩ := Scan.mk.inj (ih hrest)
      rw [scanLines_of_block hpull, scanLines_of_block hother]
      simp only [Scan.redacted, List.map_cons, hblock, hblocks, hstop]

theorem append_left (shared : List Line) (h : SameButKeys ls others) :
    SameButKeys (shared ++ ls) (shared ++ others) := by
  induction shared with
  | nil => exact h
  | cons line shared ih => exact .line line ih

end SameButKeys

/-! ### Written blocks -/

theorem writesBytes_bodyLines (der : List UInt8) : WritesBytes (bodyLines der) :=
  ⟨der, flatten_bodyLines der⟩

/-- The lines around the body of a written private key block. -/
theorem Block.WellFormed.isKeyFrame {block : Block} (h : block.WellFormed)
    (hkey : privateKeyLabels.contains block.label = true) :
    IsKeyFrame block.labelBytes (beginLine block.labelBytes) (headerLines block.headers)
      (endLine block.labelBytes) where
  begins := h.isLabel.beginLabel?_beginLine
  isKey := by
    rw [Block.labelBytes, ofAscii_asciiBytes h.label_ascii, String.ofList_toList]
    exact hkey
  isHead := by
    intro line hline
    rcases mem_headerLines hline with rfl | ⟨header, -, rfl⟩
    · rfl
    · simp [isHeadLine, colon_mem_headerLine]
  undashed := by
    intro line hline
    exact (h.innerLine (List.mem_append_left _ hline)).1
  ends := h.isLabel.endLabel?_endLine

/-- Blocks that are the same but for the bytes of a private key are written as lines that are the
same but for its body. -/
theorem SameButKeys.armor {block other : Block} (hblock : block.WellFormed)
    (h : block.redacted = other.redacted) {ls others : List Line} (hrest : SameButKeys ls others) :
    SameButKeys (block.armorLines ++ ls) (other.armorLines ++ others) := by
  have hlabel : block.label = other.label := by
    rw [← block.label_redacted, h, other.label_redacted]
  by_cases hkey : privateKeyLabels.contains block.label = true
  · have hheaders : block.headers = other.headers := by
      rw [← block.headers_redacted, h, other.headers_redacted]
    have hlines := SameButKeys.key (hblock.isKeyFrame hkey) (writesBytes_bodyLines block.der)
      (writesBytes_bodyLines other.der) hrest
    simpa [Block.armorLines, Block.innerLines, Block.labelBytes, hlabel, hheaders] using hlines
  · have hother : ¬ privateKeyLabels.contains other.label = true := hlabel ▸ hkey
    rw [Block.redacted_of_not_key hkey, Block.redacted_of_not_key hother] at h
    rw [h]
    exact hrest.append_left other.armorLines

end PemBundle.Pem
