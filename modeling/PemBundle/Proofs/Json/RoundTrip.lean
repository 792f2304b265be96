import PemBundle.Proofs.Json.Escape

/-!
# Values are read back

Texts without pairing surrogates, and lists and objects of values that are read back, are read back
themselves, if the names in an object are such texts and distinct, and containers are not nested too
deep. Reading goes on right after the value.
-/

namespace PemBundle.Json

/-- A reader gives the value back from its characters, whatever follows; the value is a text, a list
or an object. -/
structure IsReadBack (item : Reader Json) (value : Json) : Prop where
  starts : ∃ c cs, chars value = c :: cs ∧ c ∈ ['"', '[', '{']
  reads : ∀ rest, item (chars value ++ rest) = .ok (value, rest)

theorem skipSpace_cons {c : Char} (h : isSpace c = false) (rest : List Char) :
    skipSpace (c :: rest) = c :: rest := by
  rw [skipSpace, List.dropWhile_cons_of_neg (by simp [h])]

variable {item : Reader Json}

/-- No white space is passed over in front of a value. -/
theorem IsReadBack.skipSpace_eq {value : Json} (h : IsReadBack item value) (rest : List Char) :
    skipSpace (chars value ++ rest) = chars value ++ rest := by
  obtain ⟨c, cs, hchars, hc⟩ := h.starts
  have hspace : isSpace c = false := by
    simp only [List.mem_cons, List.not_mem_nil, or_false] at hc
    rcases hc with rfl | rfl | rfl <;> rfl
  rw [hchars, List.cons_append]
  apply skipSpace_cons hspace

theorem setField_of_not_mem {name : CodeText} {fields : List (CodeText × Json)}
    (h : name ∉ fields.map Prod.fst) (value : Json) :
    setField name value fields = fields ++ [(name, value)] := by
  induction fields with
  | nil => rfl
  | cons field fields ih =>
      rw [List.map_cons, List.mem_cons, not_or] at h
      rw [setField, if_neg (Ne.symm h.1), ih h.2]
      rfl

/-- There is a character for each item but the last. -/
theorem length_le_itemChars (items : List Json) : items.length ≤ (itemChars items).length + 1 := by
  induction items with
  | nil => simp
  | cons v items ih =>
      cases items with
      | nil => simp
      | cons w items =>
          simp only [itemChars, List.length_append, List.length_cons] at ih ⊢
          omega

theorem length_le_fieldChars (fields : List (CodeText × Json)) :
    fields.length ≤ (fieldChars fields).length + 1 := by
  induction fields with
  | nil => simp
  | cons field fields ih =>
      cases fields with
      | nil => simp
      | cons second fields =>
          simp only [fieldChars, List.length_append, List.length_cons] at ih ⊢
          omega

/-! ### Lists -/

theorem readItems_last {cs rest : List Char} {value : Json}
    (h : item cs = .ok (value, ']' :: rest)) (fuel : Nat) (before : List Json) :
    readItems item (fuel + 1) before cs = .ok (.list (value :: before).reverse, rest) := by
  rw [readItems, h]
  rfl

theorem readItems_next {cs rest : List Char} {value : Json}
    (h : item cs = .ok (value, ',' :: ' ' :: rest)) (fuel : Nat) (before : List Json) :
    readItems item (fuel + 1) before cs =
      readItems item fuel (value :: before) (skipSpace rest) := by
  rw [readItems, h]
  rfl

/-- The first item stands in front. -/
theorem itemChars_cons (value : Json) (items : List Json) :
    ∃ tail, itemChars (value :: items) = chars value ++ tail := by
  cases items with
  | nil => exact ⟨[], by rw [itemChars, List.append_nil]⟩
  | cons w items => exact ⟨_, by rw [itemChars]; exact fun h => nomatch h⟩

/-- Written items, up to a closing bracket, are read back. -/
theorem readItems_written {items : List Json} (hne : items ≠ [])
    (h : ∀ v ∈ items, IsReadBack item v) {fuel : Nat} (hfuel : items.length ≤ fuel)
    (before : List Json) (rest : List Char) :
    readItems item fuel before (itemChars items ++ ']' :: rest) =
      .ok (.list (before.reverse ++ items), rest) := by
  induction items generalizing fuel before with
  | nil => exact absurd rfl hne
  | cons v items ih =>
      obtain ⟨fuel, rfl⟩ := Nat.exists_eq_add_one.mpr (Nat.zero_lt_of_lt hfuel)
      have hv := h v List.mem_cons_self
      cases items with
      | nil =>
          rw [itemChars, readItems_last (hv.reads (']' :: rest)), List.reverse_cons]
      | cons w items =>
          have hrest : ∀ u ∈ w :: items, IsReadBack item u := by
            intro u hu
            exact h u (List.mem_cons_of_mem v hu)
          have hread := ih (List.cons_ne_nil w items) hrest (Nat.le_of_succ_le_succ hfuel)
            (v :: before)
          obtain ⟨tail, htail⟩ := itemChars_cons w items
          have hskip : skipSpace (itemChars (w :: items) ++ ']' :: rest) =
              itemChars (w :: items) ++ ']' :: rest := by
            rw [htail, List.append_assoc]
            apply IsReadBack.skipSpace_eq
            exact hrest w List.mem_cons_self
          have hchars : itemChars (v :: w :: items) ++ ']' :: rest =
              chars v ++ ',' :: ' ' :: (itemChars (w :: items) ++ ']' :: rest) := by
            simp [itemChars]
          calc
            readItems item (fuel + 1) before (itemChars (v :: w :: items) ++ ']' :: rest)
                = readItems item fuel (v :: before)
                    (skipSpace (itemChars (w :: items) ++ ']' :: rest)) := by
              rw [hchars, readItems_next (hv.reads _)]
            _ = .ok (.list ((v :: before).reverse ++ w :: items), rest) := by rw [hskip, hread]
            _ = .ok (.list (before.reverse ++ v :: w :: items), rest) := by
              rw [List.reverse_cons, List.append_assoc, List.singleton_append]

/-! ### Objects -/

theorem textChars_append (name : CodeText) (rest : List Char) :
    textChars name ++ rest = '"' :: (name.points.flatMap escapePoint ++ '"' :: rest) := by
  simp [textChars]

theorem readFields_last {cs rest : List Char} {value : Json}
    (h : item (skipSpace cs) = .ok (value, '}' :: rest)) (fuel : Nat) {name : CodeText}
    (hname : name.IsJoined) (before : List (CodeText × Json)) :
    readFields item (fuel + 1) before (textChars name ++ ':' :: ' ' :: cs) =
      .ok (.object (setField name value before), rest) := by
  have hvalue : item (skipSpace (' ' :: cs)) = .ok (value, '}' :: rest) := h
  simp only [textChars_append, readFields, readText_written _ hname, bind, Except.bind,
    skipSpace_cons (c := ':') rfl, hvalue]
  rfl

theorem readFields_next {cs rest : List Char} {value : Json}
    (h : item (skipSpace cs) = .ok (value, ',' :: ' ' :: rest)) (fuel : Nat) {name : CodeText}
    (hname : name.IsJoined) (before : List (CodeText × Json)) :
    readFields item (fuel + 1) before (textChars name ++ ':' :: ' ' :: cs) =
      readFields item fuel (setField name value before) (skipSpace rest) := by
  have hvalue : item (skipSpace (' ' :: cs)) = .ok (value, ',' :: ' ' :: rest) := h
  simp only [textChars_append, readFields, readText_written _ hname, bind, Except.bind,
    skipSpace_cons (c := ':') rfl, hvalue]
  rfl

/-- The first name stands in front. -/
theorem fieldChars_cons (field : CodeText × Json) (fields : List (CodeText × Json)) :
    ∃ tail, fieldChars (field :: fields) = textChars field.1 ++ tail := by
  cases fields with
  | nil => exact ⟨_, by rw [fieldChars]⟩
  | cons second fields =>
      exact ⟨_, by rw [fieldChars, List.append_assoc]; exact fun h => nomatch h⟩

/-- Written fields of distinct names, up to a closing brace, are read back. -/
theorem readFields_written {fields : List (CodeText × Json)} (hne : fields ≠ [])
    (h : ∀ field ∈ fields, field.1.IsJoined ∧ IsReadBack item field.2) {before : List (CodeText × Json)}
    (hnames : ((before ++ fields).map Prod.fst).Nodup) {fuel : Nat} (hfuel : fields.length ≤ fuel)
    (rest : List Char) :
    readFields item fuel before (fieldChars fields ++ '}' :: rest) =
      .ok (.object (before ++ fields), rest) := by
  induction fields generalizing fuel before with
  | nil => exact absurd rfl hne
  | cons field fields ih =>
      obtain ⟨fuel, rfl⟩ := Nat.exists_eq_add_one.mpr (Nat.zero_lt_of_lt hfuel)
      obtain ⟨name, value⟩ := field
      obtain ⟨hname, hvalue⟩ := h (name, value) List.mem_cons_self
      have hread (next : List Char) :
          item (skipSpace (chars value ++ next)) = .ok (value, next) := by
        rw [hvalue.skipSpace_eq, hvalue.reads]
      have hset : setField name value before = before ++ [(name, value)] := by
        apply setField_of_not_mem
        rw [List.map_append, List.nodup_append] at hnames
        intro hmem
        exact hnames.2.2 name hmem name List.mem_cons_self rfl
      cases fields with
      | nil =>
          have hchars : fieldChars [(name, value)] ++ '}' :: rest =
              textChars name ++ ':' :: ' ' :: (chars value ++ '}' :: rest) := by
            simp [fieldChars]
          rw [hchars, readFields_last (hread _) fuel hname, hset]
      | cons second fields =>
          have hrest : ∀ other ∈ second :: fields,
              other.1.IsJoined ∧ IsReadBack item other.2 := by
            intro other hother
            exact h other (List.mem_cons_of_mem (name, value) hother)
          have hmore : ((before ++ [(name, value)] ++ second :: fields).map Prod.fst).Nodup := by
            rwa [List.append_assoc, List.singleton_append]
          have hnext := ih (List.cons_ne_nil second fields) hrest hmore
            (Nat.le_of_succ_le_succ hfuel)
          obtain ⟨tail, htail⟩ := fieldChars_cons second fields
          have hskip : skipSpace (fieldChars (second :: fields) ++ '}' :: rest) =
              fieldChars (second :: fields) ++ '}' :: rest := by
            rw [htail, List.append_assoc, textChars_append]
            apply skipSpace_cons
            rfl
          have hchars : fieldChars ((name, value) :: second :: fields) ++ '}' :: rest =
              textChars name ++ ':' :: ' ' ::
                (chars value ++ ',' :: ' ' :: (fieldChars (second :: fields) ++ '}' :: rest)) := by
            simp [fieldChars]
          calc
            readFields item (fuel + 1) before
                  (fieldChars ((name, value) :: second :: fields) ++ '}' :: rest)
                = readFields item fuel (setField name value before)
                    (skipSpace (fieldChars (second :: fields) ++ '}' :: rest)) := by
              rw [hchars, readFields_next (hread _) fuel hname]
            _ = .ok (.object (before ++ [(name, value)] ++ second :: fields), rest) := by
              rw [hskip, hset, hnext]
            _ = .ok (.object (before ++ (name, value) :: second :: fields), rest) := by
              rw [List.append_assoc, List.singleton_append]

/-! ### Values -/

theorem isReadBack_text (depth : Nat) {s : CodeText} (h : s.IsJoined) :
    IsReadBack (readValue depth) (.text s) := by
  constructor
  · exact ⟨'"', _, by rw [chars, textChars]; rfl, by decide⟩
  · intro rest
    rw [chars, textChars_append]
    cases depth with
    | zero => simp only [readValue, readWith, readText_written _ h]; rfl
    | succ depth => simp only [readValue, readWith, readText_written _ h]; rfl

theorem readArray_written {items : List Json} (h : ∀ v ∈ items, IsReadBack item v)
    (rest : List Char) :
    readArray item (itemChars items ++ ']' :: rest) = .ok (.list items, rest) := by
  cases items with
  | nil => rfl
  | cons v items =>
      have hv := h v List.mem_cons_self
      have hfuel : (v :: items).length ≤ (itemChars (v :: items) ++ ']' :: rest).length + 1 := by
        have hlength := length_le_itemChars (v :: items)
        rw [List.length_append]
        omega
      have hread := readItems_written (List.cons_ne_nil v items) h hfuel [] rest
      obtain ⟨tail, htail⟩ := itemChars_cons v items
      obtain ⟨c, cs, hchars, hc⟩ := hv.starts
      have hskip : skipSpace (itemChars (v :: items) ++ ']' :: rest) =
          itemChars (v :: items) ++ ']' :: rest := by
        rw [htail, List.append_assoc, hv.skipSpace_eq]
      rw [readArray, hskip]
      split
      · next heq =>
        rw [htail, hchars] at heq
        injection heq with heq
        exact absurd (heq ▸ hc) (by decide)
      · exact hread

theorem readObject_written {fields : List (CodeText × Json)}
    (h : ∀ field ∈ fields, field.1.IsJoined ∧ IsReadBack item field.2) (hnames : (fields.map Prod.fst).Nodup)
    (rest : List Char) :
    readObject item (fieldChars fields ++ '}' :: rest) = .ok (.object fields, rest) := by
  cases fields with
  | nil => rfl
  | cons field fields =>
      have hfuel : (field :: fields).length ≤
          (fieldChars (field :: fields) ++ '}' :: rest).length + 1 := by
        have hlength := length_le_fieldChars (field :: fields)
        rw [List.length_append]
        omega
      have hstart : (([] ++ field :: fields).map Prod.fst).Nodup := hnames
      have hread := readFields_written (List.cons_ne_nil field fields) h hstart hfuel rest
      obtain ⟨tail, htail⟩ := fieldChars_cons field fields
      have hquote : fieldChars (field :: fields) ++ '}' :: rest =
          '"' :: (field.1.points.flatMap escapePoint ++ '"' :: (tail ++ '}' :: rest)) := by
        rw [htail, List.append_assoc, textChars_append]
      rw [hquote] at hread ⊢
      rw [readObject, skipSpace_cons (c := '"') rfl]
      exact hread

theorem isReadBack_list {depth : Nat} {items : List Json}
    (h : ∀ v ∈ items, IsReadBack (readValue depth) v) :
    IsReadBack (readValue (depth + 1)) (.list items) := by
  constructor
  · exact ⟨'[', _, by rw [chars]; rfl, by decide⟩
  · intro rest
    have hchars : chars (.list items) ++ rest = '[' :: (itemChars items ++ ']' :: rest) := by
      simp [chars]
    rw [hchars]
    exact readArray_written h rest

theorem isReadBack_object {depth : Nat} {fields : List (CodeText × Json)}
    (h : ∀ field ∈ fields, field.1.IsJoined ∧ IsReadBack (readValue depth) field.2)
    (hnames : (fields.map Prod.fst).Nodup) :
    IsReadBack (readValue (depth + 1)) (.object fields) := by
  constructor
  · exact ⟨'{', _, by rw [chars]; rfl, by decide⟩
  · intro rest
    have hchars : chars (.object fields) ++ rest = '{' :: (fieldChars fields ++ '}' :: rest) := by
      simp [chars]
    rw [hchars]
    exact readObject_written h hnames rest

/-! ### Values that are written alike -/

theorem itemChars_congr {items others : List Json}
    (h : List.Forall₂ (fun v w => chars v = chars w) items others) :
    itemChars items = itemChars others := by
  induction h with
  | nil => rfl
  | cons hfirst hrest ih =>
      cases hrest with
      | nil => simpa only [itemChars] using hfirst
      | cons => simp only [itemChars, hfirst] at ih ⊢; rw [ih]

theorem fieldChars_congr {fields others : List (CodeText × Json)}
    (h : List.Forall₂ (fun f g => f.1 = g.1 ∧ chars f.2 = chars g.2) fields others) :
    fieldChars fields = fieldChars others := by
  induction h with
  | nil => rfl
  | cons hfirst hrest ih =>
      cases hrest with
      | nil => simp only [fieldChars, hfirst.1, hfirst.2]
      | cons => simp only [fieldChars, hfirst.1, hfirst.2] at ih ⊢; rw [ih]

/-! ### Whole texts -/

/-- The text that writes a value is read as the value, if it is not nested too deep. -/
theorem read_render {value : Json} (h : IsReadBack (readValue maxDepth) value) :
    read value.render = .ok value := by
  obtain ⟨c, cs, hchars, hc⟩ := h.starts
  have hvalue := h.reads []
  have hskip := h.skipSpace_eq []
  rw [List.append_nil] at hvalue hskip
  have hall : readAll (chars value) = .ok value := by
    rw [readAll]
    · rw [hskip, hvalue]
      rfl
    · intro rest heq
      rw [hchars] at heq
      injection heq with heq
      exact absurd (heq ▸ hc) (by decide)
  rw [read, render, String.toList_ofList, hall]

end PemBundle.Json
