import Mathlib.Data.List.DropRight
import PemBundle.Text.Ascii
import PemBundle.Text.Blank
import PemBundle.Text.Quoted

/-!
# ASCII text as bytes, and trimming

On ASCII text the UTF-8 bytes are the character codes, one byte to a character, and reading the
codes back gives the text. Trimming is idempotent and takes away characters only.
-/

namespace PemBundle.Text

/-- The codes of ASCII characters. -/
def asciiBytes (cs : List Char) : List UInt8 := cs.map fun c => UInt8.ofNat c.toNat

@[simp] theorem asciiBytes_nil : asciiBytes [] = [] := rfl

@[simp] theorem asciiBytes_cons (c : Char) (cs : List Char) :
    asciiBytes (c :: cs) = UInt8.ofNat c.toNat :: asciiBytes cs := rfl

@[simp] theorem asciiBytes_append (first second : List Char) :
    asciiBytes (first ++ second) = asciiBytes first ++ asciiBytes second := List.map_append

theorem asciiBytes_flatMap {α : Type} (items : List α) (f : α → List Char) :
    asciiBytes (items.flatMap f) = items.flatMap fun a => asciiBytes (f a) := by
  simp [asciiBytes, List.map_flatMap]

theorem isEmpty_utf8 (text : String) : (utf8 text).isEmpty = (text == "") := by
  rw [Bool.eq_iff_iff, List.isEmpty_iff, beq_iff_eq, ← String.toList_eq_nil_iff]
  cases htext : text.toList with
  | nil => simp [utf8, htext]
  | cons c cs =>
      have hne : String.utf8EncodeChar c ≠ [] := by
        rw [← List.length_pos_iff, String.length_utf8EncodeChar]
        exact c.utf8Size_pos
      simp [utf8, htext, hne]

theorem utf8_join (texts : List String) : utf8 (String.join texts) = texts.flatMap utf8 := by
  rw [utf8, String.toList_join, List.flatMap_assoc]
  rfl

theorem isAscii_iff (c : Char) : isAscii c = true ↔ c.toNat < 128 := by
  simp [isAscii]

/-- The code of an ASCII character fits into a byte. -/
theorem toNat_code {c : Char} (h : isAscii c = true) : (UInt8.ofNat c.toNat).toNat = c.toNat := by
  rw [isAscii_iff] at h
  exact UInt8.toNat_ofNat_of_lt' (by change c.toNat < 256; omega)

/-- Reading the code of an ASCII character gives the character. -/
theorem ofNat_code {c : Char} (h : isAscii c = true) :
    Char.ofNat (UInt8.ofNat c.toNat).toNat = c := by
  rw [toNat_code h, Char.ofNat_toNat]

/-- Two ASCII characters with the same code are the same. -/
theorem code_inj {c d : Char} (hc : isAscii c = true) (hd : isAscii d = true)
    (h : UInt8.ofNat c.toNat = UInt8.ofNat d.toNat) : c = d := by
  rw [← ofNat_code hc, h, ofNat_code hd]

theorem utf8EncodeChar_ascii {c : Char} (h : isAscii c = true) :
    String.utf8EncodeChar c = [UInt8.ofNat c.toNat] := by
  rw [isAscii_iff] at h
  have hle : c.val.toNat ≤ 127 := Nat.le_of_lt_succ h
  simp only [String.utf8EncodeChar, if_pos hle]
  rfl

/-- The UTF-8 bytes of ASCII text are its character codes. -/
theorem utf8_ofList {cs : List Char} (h : ∀ c ∈ cs, isAscii c = true) :
    utf8 (String.ofList cs) = asciiBytes cs := by
  rw [utf8, String.toList_ofList]
  induction cs with
  | nil => rfl
  | cons c rest ih =>
      have hc := h c List.mem_cons_self
      have hrest := ih fun d hd => h d (List.mem_cons_of_mem _ hd)
      rw [List.flatMap_cons, utf8EncodeChar_ascii hc, hrest]
      rfl

/-- Reading the codes of ASCII text gives the text. -/
theorem ofAscii_asciiBytes {cs : List Char} (h : ∀ c ∈ cs, isAscii c = true) :
    ofAscii (asciiBytes cs) = String.ofList cs := by
  rw [ofAscii, asciiBytes, List.map_map]
  congr 1
  calc
    cs.map ((fun b : UInt8 => Char.ofNat b.toNat) ∘ fun c => UInt8.ofNat c.toNat)
        = cs.map id := List.map_congr_left fun c hc => ofNat_code (h c hc)
    _ = cs := List.map_id cs

theorem toNat_ofNat_ascii : ∀ n < 128, (Char.ofNat n).toNat = n := by decide

/-- The character of a code below 128 is an ASCII character of that code. -/
theorem code_ofNat {b : UInt8} (h : b < 0x80) :
    isAscii (Char.ofNat b.toNat) = true ∧ UInt8.ofNat (Char.ofNat b.toNat).toNat = b := by
  have hb : b.toNat < 128 := UInt8.lt_iff_toNat_lt.mp h
  rw [isAscii_iff, toNat_ofNat_ascii _ hb]
  exact ⟨hb, UInt8.ofNat_toNat⟩

theorem toList_ofAscii (bytes : List UInt8) :
    (ofAscii bytes).toList = bytes.map fun b => Char.ofNat b.toNat := by
  rw [ofAscii, String.toList_ofList]

/-- Text read from codes below 128 has these codes. -/
theorem asciiBytes_ofAscii {bytes : List UInt8} (h : ∀ b ∈ bytes, b < 0x80) :
    asciiBytes (ofAscii bytes).toList = bytes := by
  rw [toList_ofAscii, asciiBytes, List.map_map]
  calc
    bytes.map ((fun c : Char => UInt8.ofNat c.toNat) ∘ fun b => Char.ofNat b.toNat)
        = bytes.map id := List.map_congr_left fun b hb => (code_ofNat (h b hb)).2
    _ = bytes := List.map_id bytes

/-- A character of text that was read from codes below 128 is ASCII, and its code was read. -/
theorem mem_ofAscii {bytes : List UInt8} (h : ∀ b ∈ bytes, b < 0x80) {c : Char}
    (hc : c ∈ (ofAscii bytes).toList) :
    isAscii c = true ∧ UInt8.ofNat c.toNat ∈ bytes := by
  rw [toList_ofAscii, List.mem_map] at hc
  obtain ⟨b, hb, rfl⟩ := hc
  obtain ⟨hascii, hcode⟩ := code_ofNat (h b hb)
  exact ⟨hascii, hcode.symm ▸ hb⟩

/-- ASCII text holds an ASCII character exactly if its codes hold the code of the character. -/
theorem code_mem_asciiBytes {cs : List Char} (h : ∀ c ∈ cs, isAscii c = true) {c : Char}
    (hc : isAscii c = true) : UInt8.ofNat c.toNat ∈ asciiBytes cs ↔ c ∈ cs := by
  rw [asciiBytes, List.mem_map]
  constructor
  · rintro ⟨d, hd, heq⟩
    exact code_inj (h d hd) hc heq ▸ hd
  · intro hmem
    exact ⟨c, hmem, rfl⟩

/-- The codes of ASCII characters lie below 128. -/
theorem lt_of_mem_asciiBytes {cs : List Char} (h : ∀ c ∈ cs, isAscii c = true) {b : UInt8}
    (hb : b ∈ asciiBytes cs) : b < 0x80 := by
  obtain ⟨c, hc, rfl⟩ := List.mem_map.mp hb
  have hlt := (isAscii_iff c).mp (h c hc)
  rw [UInt8.lt_iff_toNat_lt, toNat_code (h c hc)]
  exact hlt

/-- ASCII text starts with ASCII text exactly if its codes start with the codes of that text. -/
theorem asciiBytes_prefix_iff {first cs : List Char} (hfirst : ∀ c ∈ first, isAscii c = true)
    (h : ∀ c ∈ cs, isAscii c = true) :
    asciiBytes first <+: asciiBytes cs ↔ first <+: cs := by
  constructor
  · intro hprefix
    have hmap := hprefix.map fun b : UInt8 => Char.ofNat b.toNat
    have hread : ∀ {ds : List Char}, (∀ c ∈ ds, isAscii c = true) →
        (asciiBytes ds).map (fun b : UInt8 => Char.ofNat b.toNat) = ds := by
      intro ds hds
      rw [← toList_ofAscii, ofAscii_asciiBytes hds, String.toList_ofList]
    rwa [hread hfirst, hread h] at hmap
  · intro hprefix
    exact hprefix.map _

/-- Hexadecimal digits are digit characters. -/
theorem mem_hexDigits {width n : Nat} {c : Char} (h : c ∈ hexDigits width n) :
    ∃ d < 16, c = Nat.digitChar d := by
  induction width generalizing n with
  | zero => exact absurd h List.not_mem_nil
  | succ width ih =>
      rw [hexDigits, List.mem_append, List.mem_singleton] at h
      rcases h with h | rfl
      · exact ih h
      · exact ⟨n % 16, Nat.mod_lt n (by decide), rfl⟩

theorem isAscii_of_mem_hexDigits {width n : Nat} {c : Char} (h : c ∈ hexDigits width n) :
    isAscii c = true := by
  have hdigit : ∀ d < 16, isAscii (Nat.digitChar d) = true := by decide
  obtain ⟨d, hd, rfl⟩ := mem_hexDigits h
  exact hdigit d hd

/-! ### Trimming -/

theorem trimRight_eq_rdropWhile (cs : List Char) : trimRight cs = cs.rdropWhile isBlank := rfl

/-- A blank in front does not count. -/
theorem trim_cons_blank {c : Char} (h : isBlank c = true) (cs : List Char) :
    trim (c :: cs) = trim cs := by
  rw [trim, trim, List.dropWhile_cons_of_pos h]

theorem mem_of_mem_trim {c : Char} {cs : List Char} (h : c ∈ trim cs) : c ∈ cs :=
  (List.dropWhile_sublist isBlank).subset ((List.rdropWhile_prefix isBlank _).subset h)

/-- What is left after trimming starts with no blank. -/
theorem dropWhile_trim (cs : List Char) : (trim cs).dropWhile isBlank = trim cs := by
  obtain ⟨suffix, hsuffix⟩ := List.rdropWhile_prefix isBlank (cs.dropWhile isBlank)
  rw [← trimRight_eq_rdropWhile] at hsuffix
  change trim cs ++ suffix = _ at hsuffix
  cases htrim : trim cs with
  | nil => rfl
  | cons c rest =>
      rw [htrim, List.cons_append] at hsuffix
      have hhead := List.head?_dropWhile_not isBlank cs
      rw [← hsuffix, List.head?_cons] at hhead
      exact List.dropWhile_cons_of_neg (by simpa using hhead)

/-- Text without blanks is trimmed. -/
theorem trim_of_forall {cs : List Char} (h : ∀ c ∈ cs, isBlank c = false) : trim cs = cs := by
  have hdrop : cs.dropWhile isBlank = cs := by
    cases cs with
    | nil => rfl
    | cons c rest => exact List.dropWhile_cons_of_neg (by simp [h c List.mem_cons_self])
  rw [trim, hdrop, trimRight_eq_rdropWhile, List.rdropWhile_eq_self_iff]
  intro hne
  simp [h _ (List.getLast_mem hne)]

/-- Trimming twice is trimming once. -/
@[simp] theorem trim_trim (cs : List Char) : trim (trim cs) = trim cs := by
  rw [trim, dropWhile_trim, trim, trimRight_eq_rdropWhile, trimRight_eq_rdropWhile,
    List.rdropWhile_idempotent]

end PemBundle.Text
