import PemBundle.Proofs.Der.Number

/-!
# Written elements are read back

A reader reads bytes to a value if it gives the value from whatever starts with the bytes, and
leaves what follows them. Readers that are chained read what is written one after the other. So
every kind of element that keys are written with is read back, as long as its content is no longer
than a length of four bytes can tell.
-/

namespace PemBundle.Der

variable {α β : Type}

/-- The reader gives `value` from `bytes` in front of anything, and leaves what follows. -/
def Reads (reader : Reader α) (bytes : List UInt8) (value : α) : Prop :=
  ∀ rest, reader.run (bytes ++ rest) = some (value, rest)

/-- Content whose length can be written in four bytes. -/
def IsShort (content : List UInt8) : Prop := content.length < 256 ^ 4

instance : DecidablePred IsShort := fun _ => Nat.decLt _ _

theorem isShort_of_le {content : List UInt8} {bound : Nat} (h : content.length ≤ bound)
    (hbound : bound < 256 ^ 4) : IsShort content := Nat.lt_of_le_of_lt h hbound

theorem reads_pure (value : α) : Reads (pure value) [] value := fun _ => rfl

/-- After one reader the next one goes on. -/
theorem Reads.run_bind {reader : Reader α} {bytes : List UInt8} {value : α}
    (h : Reads reader bytes value) (next : α → Reader β) (rest : List UInt8) :
    (reader >>= next).run (bytes ++ rest) = (next value).run rest := by
  rw [StateT.run_bind, h rest]
  rfl

theorem Reads.bind {reader : Reader α} {first : List UInt8} {value : α}
    (h : Reads reader first value) {next : α → Reader β} {second : List UInt8} {result : β}
    (hnext : Reads (next value) second result) : Reads (reader >>= next) (first ++ second) result := by
  intro rest
  rw [List.append_assoc, h.run_bind]
  exact hnext rest

theorem Reads.map {reader : Reader α} {bytes : List UInt8} {value : α}
    (h : Reads reader bytes value) (f : α → β) : Reads (f <$> reader) bytes (f value) := by
  intro rest
  rw [StateT.run_map, h rest]
  rfl

/-- A reader that reads bytes gives their value when there is nothing else. -/
theorem Reads.all_eq {reader : Reader α} {bytes : List UInt8} {value : α}
    (h : Reads reader bytes value) : reader.all bytes = some value := by
  have hrun := h []
  rw [List.append_nil] at hrun
  rw [Reader.all, hrun]

theorem Reader.all_eq_none {reader : Reader α} {bytes : List UInt8} (h : reader.run bytes = none) :
    reader.all bytes = none := by
  rw [Reader.all, h]

/-- A reader that looks at nothing more after another one. -/
theorem Reads.bind_pure {reader : Reader α} {bytes : List UInt8} {value : α}
    (h : Reads reader bytes value) {next : α → Reader β} {result : β}
    (hnext : next value = pure result) : Reads (reader >>= next) bytes result := by
  intro rest
  rw [h.run_bind, hnext]
  rfl

/-! ### Parts of an element -/

theorem reads_byte (b : UInt8) : Reads byte [b] b := fun _ => rfl

theorem reads_take (content : List UInt8) : Reads (take content.length) content content := by
  intro rest
  change (if content.length ≤ (content ++ rest).length then _ else none) = _
  rw [if_pos (by simp), List.take_left, List.drop_left]

/-- An identifier of one byte. -/
theorem reads_tag {identifier : UInt8} (h : identifier.toNat % 32 < 31) :
    Reads tag [identifier] ⟨identifier &&& 0xe0, identifier.toNat % 32⟩ := by
  apply (reads_byte identifier).bind_pure
  exact if_pos h

theorem reads_length {n : Nat} (h : n < 256 ^ 4) : Reads length (writeLength n) n := by
  rw [writeLength]
  split
  · rename_i hsmall
    apply (reads_byte _).bind_pure
    have hvalue : (UInt8.ofNat n).toNat = n := by
      simp
      omega
    rw [hvalue, if_pos hsmall]
  · rename_i hlarge
    have hwidth := length_minimalBytes_le h
    have hpos : (minimalBytes n).length ≠ 0 := by
      intro hzero
      have hvalue := bigEndian_minimalBytes n
      rw [List.length_eq_zero_iff.mp hzero] at hvalue
      exact hlarge (hvalue ▸ by decide)
    have hmark : (UInt8.ofNat (128 + (minimalBytes n).length)).toNat =
        128 + (minimalBytes n).length := by
      simp
      omega
    apply (reads_byte _).bind
    have hlong : ¬ 128 + (minimalBytes n).length < 128 := by omega
    have hvalid : ¬ ((minimalBytes n).length = 0 ∨ 4 < (minimalBytes n).length) := by omega
    simp only [hmark, hlong, if_false, Nat.add_sub_cancel_left, hvalid]
    apply (reads_take (minimalBytes n)).bind_pure
    rw [bigEndian_minimalBytes, if_neg (not_or.mpr ⟨hlarge, head?_minimalBytes n⟩)]

/-! ### How long an element is -/

theorem length_writeLength_le {n : Nat} (h : n < 256 ^ 4) : (writeLength n).length ≤ 5 := by
  rw [writeLength]
  split
  · simp
  · exact Nat.succ_le_succ (length_minimalBytes_le h)

theorem length_write_le {content : List UInt8} (h : IsShort content) (identifier : UInt8) :
    (write identifier content).length ≤ content.length + 6 := by
  have hlength := length_writeLength_le h
  simp only [write, List.cons_append, List.length_cons, List.length_append]
  omega

/-- The content of a short element is short. -/
theorem IsShort.of_write {identifier : UInt8} {content : List UInt8}
    (h : IsShort (write identifier content)) : IsShort content := by
  simp only [IsShort, write, List.cons_append, List.length_cons, List.length_append] at h
  rw [IsShort]
  omega

/-- The parts of short bytes are short. -/
theorem IsShort.of_mem_flatten {parts : List (List UInt8)} (h : IsShort parts.flatten)
    {part : List UInt8} (hmem : part ∈ parts) : IsShort part :=
  Nat.lt_of_le_of_lt (List.sublist_flatten_of_mem hmem).length_le h

/-! ### Elements -/

/-- The identifier that one byte writes. -/
def Tag.ofByte (identifier : UInt8) : Tag := ⟨identifier &&& 0xe0, identifier.toNat % 32⟩

/-- An element that is written with an identifier of one byte. -/
theorem reads_element {identifier : UInt8} (h : identifier.toNat % 32 < 31) {content : List UInt8}
    (hcontent : IsShort content) :
    Reads element (write identifier content)
      ⟨.ofByte identifier, content, write identifier content⟩ := by
  have hparts : Reads (do
      let t ← tag
      let content ← take (← length)
      pure (t, content)) (write identifier content) (Tag.ofByte identifier, content) := by
    apply (reads_tag h).bind
    apply (reads_length hcontent).bind
    exact (reads_take content).bind_pure rfl
  intro rest
  change Option.bind (StateT.run _ _) _ = _
  rw [hparts rest]
  simp

/-- An element that is expected with its identifier gives its content. -/
theorem reads_expect (identifier : UInt8) (h : identifier.toNat % 32 < 31) {content : List UInt8}
    (hcontent : IsShort content) :
    Reads (expect (.ofByte identifier)) (write identifier content) content := by
  apply (reads_element h hcontent).bind_pure
  exact if_pos rfl

/-- An element with another identifier than the expected one. -/
theorem run_expect_of_ne {identifier : UInt8} (h : identifier.toNat % 32 < 31)
    {content : List UInt8} (hcontent : IsShort content) {t : Tag} (ht : Tag.ofByte identifier ≠ t)
    (rest : List UInt8) : (expect t).run (write identifier content ++ rest) = none := by
  rw [expect, (reads_element h hcontent).run_bind, if_neg ht]
  rfl

/-- An element all of whose content is read. -/
theorem run_within (identifier : UInt8) (h : identifier.toNat % 32 < 31) {content : List UInt8}
    (hcontent : IsShort content) (inner : Reader α) (rest : List UInt8) :
    (within (.ofByte identifier) inner).run (write identifier content ++ rest) =
      (inner.all content).map fun value => (value, rest) := by
  rw [within, (reads_expect identifier h hcontent).run_bind]
  cases inner.all content <;> rfl

theorem Reads.within {identifier : UInt8} (h : identifier.toNat % 32 < 31) {content : List UInt8}
    (hcontent : IsShort content) {inner : Reader α} {value : α} (hinner : Reads inner content value) :
    Reads (within (.ofByte identifier) inner) (write identifier content) value := by
  intro rest
  rw [run_within identifier h hcontent, hinner.all_eq]
  rfl

/-- Reading a sequence is reading all of its content. -/
theorem all_inSequence {parts : List (List UInt8)} (h : IsShort parts.flatten) (inner : Reader α) :
    (inSequence inner).all (writeSequence parts) = inner.all parts.flatten := by
  have hrun : (inSequence inner).run (writeSequence parts ++ []) =
      (inner.all parts.flatten).map fun value => (value, []) :=
    run_within 0x30 (by decide) h inner []
  rw [List.append_nil] at hrun
  rw [Reader.all, hrun]
  cases inner.all parts.flatten <;> rfl

/-- The identifier of the next element is seen and not read. -/
theorem run_peekTag (identifier : UInt8) (h : identifier.toNat % 32 < 31) (t : Tag)
    (rest : List UInt8) :
    (peekTag t).run (identifier :: rest) =
      some (decide (Tag.ofByte identifier = t), identifier :: rest) := by
  have htag : tag.run (identifier :: rest) = some (.ofByte identifier, rest) := reads_tag h rest
  rw [StateT.run, peekTag]
  simp only [htag]

/-- An optional element that is there. -/
theorem Reads.optional {identifier : UInt8} (h : identifier.toNat % 32 < 31) {bytes : List UInt8}
    {reader : Reader α} {value : α} (hreader : Reads reader (identifier :: bytes) value) :
    Reads (optional (.ofByte identifier) reader) (identifier :: bytes) (some value) := by
  intro rest
  rw [Der.optional, StateT.run_bind, List.cons_append, run_peekTag identifier h, decide_eq_true rfl]
  exact hreader.map some rest

/-! ### Values -/

/-- The content of a whole number, whose first byte leaves room for the sign. -/
def naturalContent (n : Nat) : List UInt8 :=
  if 0x80 ≤ (minimalBytes n).headD 0x80 then 0x00 :: minimalBytes n else minimalBytes n

theorem writeNatural_eq (n : Nat) : writeNatural n = write 0x02 (naturalContent n) := rfl

/-- The content of a whole number is the shortest one, and its first bit tells that the number is
not negative. -/
theorem naturalContent_spec (n : Nat) :
    isMinimalInteger (naturalContent n) = true ∧ bigEndian (naturalContent n) = n ∧
      (naturalContent n).headD 0 < 0x80 := by
  have hvalue := bigEndian_minimalBytes n
  have hhead := head?_minimalBytes n
  rw [naturalContent]
  cases hbytes : minimalBytes n with
  | nil =>
      rw [hbytes] at hvalue
      subst hvalue
      decide
  | cons b rest =>
      rw [hbytes] at hvalue hhead
      have hpos : b ≠ 0 := fun hzero => hhead (congrArg some hzero)
      rw [List.headD_cons]
      split
      · rename_i hsign
        refine ⟨?_, ?_, by simp⟩
        · simp [isMinimalInteger, hsign]
        · rw [← hvalue]
          simp [bigEndian]
      · rename_i hsign
        refine ⟨?_, hvalue, UInt8.not_le.mp hsign⟩
        cases rest with
        | nil => rfl
        | cons next rest =>
            have hfull : b ≠ 0xff := by
              rintro rfl
              exact hsign (by decide)
            simp [isMinimalInteger, hpos, hfull]

theorem reads_natural {n : Nat} (h : IsShort (naturalContent n)) :
    Reads natural (writeNatural n) n := by
  obtain ⟨hminimal, hvalue, hsign⟩ := naturalContent_spec n
  have hinteger : Reads integer (writeNatural n) n := by
    apply (reads_expect 0x02 (by decide) h).bind_pure
    simp only [hminimal, hvalue, if_neg (UInt8.not_le.mpr hsign)]
    rfl
  exact hinteger.bind_pure rfl

theorem reads_octetString {content : List UInt8} (h : IsShort content) :
    Reads octetString (writeOctetString content) content :=
  reads_expect 0x04 (by decide) h

theorem reads_bitString {content : List UInt8} (h : IsShort (0x00 :: content)) :
    Reads bitString (writeBitString content) content := by
  have hcontent : bitStringContent (0x00 :: content) = some content := by
    rw [bitStringContent]
    cases hlast : content.getLast? with
    | none =>
        rw [List.getLast?_eq_none_iff.mp hlast]
        rfl
    | some last => simp [Nat.mod_one]
  apply (reads_expect 0x03 (by decide) h).bind_pure
  simp only [hcontent]

/-- An object identifier is read back if its content is not too long and splits into numbers. -/
theorem reads_oid {found : Oid} (hne : found.content.isEmpty = false)
    (hlength : found.content.length ≤ Oid.maxLength)
    (harcs : ((many (base128 4 0)).all found.content).isSome = true) :
    Reads oid (writeOid found) found := by
  have hshort : IsShort found.content := isShort_of_le hlength (by decide)
  obtain ⟨arcs, harcs⟩ := Option.isSome_iff_exists.mp harcs
  apply (reads_expect 0x06 (by decide) hshort).bind_pure
  simp only [hne, Nat.not_lt.mpr hlength, Bool.false_eq_true, or_self, if_false, harcs]

end PemBundle.Der
