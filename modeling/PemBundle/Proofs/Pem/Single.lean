import PemBundle.Pem.Single
import PemBundle.Proofs.Outcome
import PemBundle.Proofs.Pem.Scanning

/-!
# Pulling blocks one at a time

A scan that is pulled for some blocks gives the first blocks of the whole scan, and shows why the
whole scan stops only when it was pulled for more blocks than there are. The first block is all that
the decoding of a single block looks at.
-/

namespace PemBundle.Pem

/-- The first block of a text; a text without bytes holds none. -/
def firstBlock? (text : CodeText) : Option Block :=
  text.utf8.toOption.bind fun octets => (scan octets).blocks.head?

theorem firstBlock?_of_utf8 {text : CodeText} {octets : List UInt8} (h : text.utf8 = .ok octets) :
    firstBlock? text = (scan octets).blocks.head? := by
  rw [firstBlock?, h]
  rfl

theorem firstBlock?_of_blocks {text : CodeText} {octets : List UInt8} {block : Block}
    {rest : List Block} (htext : text.utf8 = .ok octets) (h : (scan octets).blocks = block :: rest) :
    firstBlock? text = some block := by
  rw [firstBlock?_of_utf8 htext, h, List.head?_cons]

/-- Without bytes there is no block. -/
theorem scan_nil : scan [] = ⟨[], none⟩ := by
  rw [scan, lines_nil, scanLines_unopened (List.forall_mem_nil _)]

/-- A text that holds a block has bytes. -/
theorem exists_utf8_of_firstBlock? {text : CodeText} {block : Block}
    (h : firstBlock? text = some block) : ∃ octets, text.utf8 = .ok octets := by
  cases htext : text.utf8 with
  | ok octets => exact ⟨octets, rfl⟩
  | error run =>
      rw [firstBlock?, htext] at h
      exact nomatch h

/-- A text that holds a block is not empty. -/
theorem ne_empty_of_firstBlock? {text : CodeText} {block : Block}
    (h : firstBlock? text = some block) : text ≠ "" := by
  rintro rfl
  have hbytes : (CodeText.unicode "").utf8 = .ok [] := rfl
  rw [firstBlock?_of_utf8 hbytes, scan_nil] at h
  exact nomatch h

/-! ### Decoding bytes -/

/-- Of bytes, decoding sees what pulling one block from them gives. -/
theorem decodeSingle_congr {data other : List UInt8} (hdata : data ≠ []) (hother : other ≠ [])
    (h : pullBlocks 1 data = pullBlocks 1 other) (what : String) (rule : LabelRule) :
    decodeSingle (some data) what rule = decodeSingle (some other) what rule := by
  cases data with
  | nil => exact absurd rfl hdata
  | cons b data =>
      cases other with
      | nil => exact absurd rfl hother
      | cons c other => simp only [decodeSingle, h]

/-- Pulling one block from bytes that hold one gives the first block and reports nothing. -/
theorem pullBlocks_one {data : List UInt8} {block : Block}
    (h : (scan data).blocks.head? = some block) : pullBlocks 1 data = ⟨[block], none⟩ := by
  obtain ⟨rest, hblocks⟩ := List.head?_eq_some_iff.mp h
  rw [pullBlocks_eq, hblocks]
  rfl

/-- Bytes that hold a block are decoded to the first one, if its label is allowed; nothing is
reported. -/
theorem decodeSingle_of_head? {data : List UInt8} {block : Block}
    (h : (scan data).blocks.head? = some block) (what : String) (rule : LabelRule) :
    decodeSingle (some data) what rule =
      pure (if rule.allows block.label then .success block
        else .fail .malformedInput
          (what ++ " has unexpected PEM label " ++ Text.quoted block.label)) := by
  have hpull : (pullBlocks 1 data).logged = pure [block] := by
    rw [pullBlocks_one h]
    rfl
  cases data with
  | nil =>
      rw [scan_nil] at h
      exact nomatch h
  | cons b data =>
      simp only [decodeSingle, hpull, pure_bind]
      split <;> rfl

/-- Bytes that hold no block cannot be decoded. -/
theorem value_decodeSingle_of_no_blocks {data : List UInt8} (hne : data ≠ [])
    (h : (scan data).blocks = []) (what : String) (rule : LabelRule) :
    (decodeSingle (some data) what rule).value =
      .fail .malformedInput (what ++ " is not valid PEM data") := by
  have hpull : (pullBlocks 1 data).blocks = [] := by
    rw [pullBlocks_eq, h]
    rfl
  cases data with
  | nil => exact absurd rfl hne
  | cons b data => simp [decodeSingle, Scan.logged, hpull]

/-- What is decoded is the first block, and its label is allowed. -/
theorem head?_of_decodeSingle {data : List UInt8} {what : String} {rule : LabelRule}
    {block : Block} (h : (decodeSingle (some data) what rule).value = .success block) :
    (scan data).blocks.head? = some block ∧ rule.allows block.label = true := by
  by_cases hne : data = []
  · rw [hne] at h
    exact nomatch h
  · cases hhead : (scan data).blocks.head? with
    | none =>
        rw [value_decodeSingle_of_no_blocks hne (List.head?_eq_none_iff.mp hhead)] at h
        exact nomatch h
    | some first =>
        rw [decodeSingle_of_head? hhead, Logged.value_pure] at h
        split at h
        · rename_i hallowed
          injection h with h
          subst h
          exact ⟨rfl, hallowed⟩
        · exact nomatch h

/-! ### Decoding texts -/

/-- A text is decoded as its bytes. -/
theorem decodeRaw_text {text : CodeText} {octets : List UInt8} (h : text.utf8 = .ok octets)
    (what : String) (rule : LabelRule) :
    decodeRaw (some (.text text)) what rule = liftM (decodeSingle (some octets) what rule) := by
  have hdata : (RawData.text text).octets = .ok octets := h
  simp only [decodeRaw, Breaking.encode_of_octets hdata, pure_bind]

/-- A text without bytes breaks off. -/
theorem decodeRaw_of_run {text : CodeText} {run : SurrogateRun} (h : text.utf8 = .error run)
    (what : String) (rule : LabelRule) :
    decodeRaw (some (.text text)) what rule = throw (.notUtf8 run) := by
  have hdata : (RawData.text text).octets = .error run := h
  simp only [decodeRaw, Breaking.encode_of_run hdata]
  rfl

/-- A text that holds a block is decoded to the first one, if its label is allowed; nothing is
reported. -/
theorem decodeRaw_of_firstBlock? {text : CodeText} {block : Block}
    (h : firstBlock? text = some block) (what : String) (rule : LabelRule) :
    decodeRaw (some (.text text)) what rule =
      pure (if rule.allows block.label then .success block
        else .fail .malformedInput
          (what ++ " has unexpected PEM label " ++ Text.quoted block.label)) := by
  obtain ⟨octets, htext⟩ := exists_utf8_of_firstBlock? h
  rw [firstBlock?_of_utf8 htext] at h
  rw [decodeRaw_text htext, decodeSingle_of_head? h, liftM_pure]

end PemBundle.Pem
