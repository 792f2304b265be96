import PemBundle.PrivateKey.Reader
import PemBundle.PrivateKey.Writer
import PemBundle.Proofs.Der.RoundTrip

/-!
# Written keys are read back

A key with two prime factors and a key on a curve are each written in a structure of their own. The
bytes are no general wrapper, and they fit no structure that is tried before their own, so reading
them gives the key again, if its numbers belong together.
-/

namespace PemBundle

open Der X509

/-- The numbers of a key that exists. Two prime factors and what is derived from them belong
together, and a length of four bytes counts the bytes that write them; a number on a standard curve
has its own point there. Secret bytes of the other kinds are what they are. -/
def PrivateKey.IsGenuine : PrivateKey → Prop
  | .rsa numbers => numbers.consistent = true ∧ IsShort numbers.toDer
  | .ec numbers =>
      numbers.curve ∈ Curve.standard ∧
        numbers.curve.publicPoint? numbers.d = some (numbers.x, numbers.y)
  | _ => True

namespace PrivateKey

/-! ### What the structures are not -/

/-- An algorithm starts with the identifier of a sequence. -/
theorem run_algorithm_of_ne {identifier : UInt8} (h : identifier.toNat % 32 < 31)
    (hne : Tag.ofByte identifier ≠ .sequence) {content : List UInt8} (hcontent : IsShort content)
    (rest : List UInt8) : algorithm.run (write identifier content ++ rest) = none := by
  change (algorithmWithin (write identifier content ++ rest).length).run _ = none
  cases (write identifier content ++ rest).length with
  | zero => rfl
  | succ depth =>
      rw [algorithmWithin, Der.inSequence, within, StateT.run_bind,
        run_expect_of_ne h hcontent hne]
      rfl

/-- The version number zero. -/
theorem reads_zero : Reads (naturalBelow 1) (writeNatural 0) 0 :=
  (reads_natural (by decide)).bind_pure rfl

/-- A sequence whose second element is a whole number is no general wrapper. -/
theorem ofWrapper?_eq_none_of_natural {n : Nat} {parts : List (List UInt8)}
    (h : IsShort (writeNatural 0 :: writeNatural n :: parts).flatten)
    (hn : IsShort (naturalContent n)) :
    ofWrapper? (writeSequence (writeNatural 0 :: writeNatural n :: parts)) = none := by
  have hwrapper : wrapper.all (writeSequence (writeNatural 0 :: writeNatural n :: parts)) = none := by
    rw [wrapper, all_inSequence h]
    apply Reader.all_eq_none
    rw [List.flatten_cons, reads_zero.run_bind, StateT.run_bind, List.flatten_cons, writeNatural_eq,
      run_algorithm_of_ne (by decide) (by decide) hn]
    rfl
  rw [ofWrapper?, hwrapper]
  rfl

/-- A sequence that starts with one is no general wrapper. -/
theorem ofWrapper?_eq_none_of_one {parts : List (List UInt8)}
    (h : IsShort (writeNatural 1 :: parts).flatten) :
    ofWrapper? (writeSequence (writeNatural 1 :: parts)) = none := by
  have hwrapper : wrapper.all (writeSequence (writeNatural 1 :: parts)) = none := by
    rw [wrapper, all_inSequence h]
    apply Reader.all_eq_none
    have hone : (naturalBelow 1).run (writeNatural 1 ++ parts.flatten) = none := by
      rw [naturalBelow, (reads_natural (n := 1) (by decide)).run_bind]
      rfl
    rw [List.flatten_cons, StateT.run_bind, hone]
    rfl
  rw [ofWrapper?, hwrapper]
  rfl

/-- A sequence that starts with zero is no curve structure. -/
theorem ofEcStructure?_eq_none_of_zero {parts : List (List UInt8)}
    (h : IsShort (writeNatural 0 :: parts).flatten) (outer : Option CurveChoice) :
    ofEcStructure? outer (writeSequence (writeNatural 0 :: parts)) = none := by
  have hfields : ecFields.all (writeSequence (writeNatural 0 :: parts)) = none := by
    rw [ecFields, all_inSequence h]
    apply Reader.all_eq_none
    have hversion : ecVersion.run (writeNatural 0 ++ parts.flatten) = none := by
      rw [ecVersion, (reads_natural (n := 0) (by decide)).run_bind]
      rfl
    rw [List.flatten_cons, StateT.run_bind, hversion]
    rfl
  rw [ofEcStructure?, hfields]
  rfl

/-! ### Two prime factors -/

/-- The numbers of two prime factors are read back. -/
theorem rsaNumbers_all_toDer {k : RsaNumbers} (h : IsShort k.toDer) :
    rsaNumbers.all k.toDer = some k := by
  have hparts := h.of_write
  have hnatural : ∀ n ∈ [0, k.n, k.e, k.d, k.p, k.q, k.dmp1, k.dmq1, k.iqmp],
      Reads natural (writeNatural n) n := by
    intro n hmem
    apply reads_natural
    exact (hparts.of_mem_flatten (List.mem_map_of_mem hmem)).of_write
  rw [rsaNumbers, RsaNumbers.toDer, all_inSequence hparts]
  apply Reads.all_eq
  simp only [List.map_cons, List.map_nil, List.flatten_cons, List.flatten_nil]
  apply reads_zero.bind
  apply (hnatural k.n (by simp)).bind
  apply (hnatural k.e (by simp)).bind
  apply (hnatural k.d (by simp)).bind
  apply (hnatural k.p (by simp)).bind
  apply (hnatural k.q (by simp)).bind
  apply (hnatural k.dmp1 (by simp)).bind
  apply (hnatural k.dmq1 (by simp)).bind
  apply (hnatural k.iqmp (by simp)).bind
  exact reads_pure k

theorem ofStructure?_rsa {k : RsaNumbers} (h : IsShort k.toDer) :
    ofStructure? k.toDer = some (.rsa k) := by
  have hparts := h.of_write
  have hfirst : IsShort (writeNatural k.n) := hparts.of_mem_flatten (by simp)
  rw [ofStructure?, rsaNumbers_all_toDer h, RsaNumbers.toDer]
  simp only [List.map_cons] at hparts ⊢
  rw [ofWrapper?_eq_none_of_natural hparts hfirst.of_write, ofEcStructure?_eq_none_of_zero hparts]
  rfl

/-! ### Standard curves -/

/-- The name of the curve can be read and tells it apart from other curves, and its numbers are
written in a few bytes. -/
structure ReadableCurve (curve : Curve) : Prop where
  name_nonempty : curve.oid.content.isEmpty = false
  name_length : curve.oid.content.length ≤ Oid.maxLength
  name_arcs : ((many (base128 4 0)).all curve.oid.content).isSome = true
  ofOid? : Curve.ofOid? curve.oid = some curve
  scalarWidth_le : curve.scalarWidth ≤ 66
  fieldWidth_le : curve.fieldWidth ≤ 66

theorem readable_of_standard {curve : Curve} (h : curve ∈ Curve.standard) : ReadableCurve curve := by
  have hall : ∀ curve ∈ Curve.standard,
      curve.oid.content.isEmpty = false ∧ curve.oid.content.length ≤ Oid.maxLength ∧
        ((many (base128 4 0)).all curve.oid.content).isSome = true ∧
        Curve.ofOid? curve.oid = some curve ∧ curve.scalarWidth ≤ 66 ∧ curve.fieldWidth ≤ 66 := by
    decide +kernel
  obtain ⟨hnonempty, hlength, harcs, hname, hscalar, hfield⟩ := hall curve h
  exact ⟨hnonempty, hlength, harcs, hname, hscalar, hfield⟩

variable {k : EcNumbers}

theorem reads_curveChoice (h : k.curve ∈ Curve.standard) :
    Reads curveChoice (writeOid k.curve.oid) (.named k.curve.oid) := by
  have hreadable := readable_of_standard h
  intro rest
  have hpeek := run_peekTag 0x06 (by decide) .objectIdentifier
    (writeLength k.curve.oid.content.length ++ k.curve.oid.content ++ rest)
  change (peekTag .objectIdentifier).run (writeOid k.curve.oid ++ rest) =
    some (true, writeOid k.curve.oid ++ rest) at hpeek
  rw [curveChoice, StateT.run_bind, hpeek]
  exact (reads_oid hreadable.name_nonempty hreadable.name_length hreadable.name_arcs).map
    CurveChoice.named rest

/-- An explicit element that is there is read with the reader of its content. -/
theorem reads_explicit {α : Type} {number : UInt8} {t : Tag} (ht : Tag.ofByte (0xa0 + number) = t)
    (hnumber : (0xa0 + number).toNat % 32 < 31) {content : List UInt8} (hcontent : IsShort content)
    {reader : Der.Reader α} {value : α} (hreader : Reads reader content value) :
    Reads (optional t (within t reader)) (writeExplicit number content) (some value) := by
  subst ht
  apply Reads.optional hnumber
  exact hreader.within hnumber hcontent

/-- The contents of the elements of a curve structure are short. -/
theorem length_ecContent (h : k.curve ∈ Curve.standard) :
    (fixedBytes k.curve.scalarWidth k.d).length ≤ 66 ∧ (writeOid k.curve.oid).length ≤ 69 ∧
      (0x00 :: k.curve.writePoint k.x k.y).length ≤ 134 := by
  have hreadable := readable_of_standard h
  have hlength := hreadable.name_length
  have hfield := hreadable.fieldWidth_le
  refine ⟨?_, ?_, ?_⟩
  · rw [length_fixedBytes]
    exact hreadable.scalarWidth_le
  · calc
      (writeOid k.curve.oid).length ≤ k.curve.oid.content.length + 6 :=
        length_write_le (isShort_of_le hlength (by decide)) _
      _ ≤ 69 := Nat.add_le_add_right hlength 6
  · simp only [Curve.writePoint, List.length_cons, List.cons_append, List.length_append,
      length_fixedBytes]
    omega

/-- The elements of a curve structure are short, also taken together. -/
theorem isShort_ecParts (hcurve : k.curve ∈ Curve.standard) :
    IsShort (fixedBytes k.curve.scalarWidth k.d) ∧ IsShort (writeOid k.curve.oid) ∧
      IsShort (0x00 :: k.curve.writePoint k.x k.y) ∧
      IsShort (writeBitString (k.curve.writePoint k.x k.y)) ∧
      IsShort [writeNatural 1, writeOctetString (fixedBytes k.curve.scalarWidth k.d),
        writeExplicit 0 (writeOid k.curve.oid),
        writeExplicit 1 (writeBitString (k.curve.writePoint k.x k.y))].flatten := by
  obtain ⟨hscalar, hoid, hpoint⟩ := length_ecContent hcurve
  have hscalarShort := isShort_of_le hscalar (by decide)
  have hoidShort := isShort_of_le hoid (by decide)
  have hpointShort := isShort_of_le hpoint (by decide)
  have hbits : (writeBitString (k.curve.writePoint k.x k.y)).length ≤ 140 :=
    Nat.le_trans (length_write_le hpointShort _) (Nat.add_le_add_right hpoint 6)
  have hbitsShort := isShort_of_le hbits (by decide)
  have hone : (writeNatural 1).length = 3 := by decide
  have hfirst := length_write_le hscalarShort 0x04
  have hsecond := length_write_le hoidShort (0xa0 + 0)
  have hthird := length_write_le hbitsShort (0xa0 + 1)
  refine ⟨hscalarShort, hoidShort, hpointShort, hbitsShort, ?_⟩
  simp only [IsShort, List.flatten_cons, List.flatten_nil, List.length_append, List.length_nil, hone,
    writeOctetString, writeExplicit]
  omega

/-- The fields of a curve structure are read back. -/
theorem ecFields_all_toDer (hcurve : k.curve ∈ Curve.standard) (hd : k.d < k.curve.order) :
    ecFields.all (k.toDer true) =
      some (k.d, some (.named k.curve.oid), some (k.curve.writePoint k.x k.y)) := by
  obtain ⟨hscalar, hoid, hpoint, hbits, hparts⟩ := isShort_ecParts hcurve
  have hversion : Reads ecVersion (writeNatural 1) () := (reads_natural (by decide)).bind_pure rfl
  have hvalue : bigEndian (fixedBytes k.curve.scalarWidth k.d) = k.d :=
    bigEndian_fixedBytes (Nat.lt_trans hd (lt_pow_log2 k.curve.order))
  change ecFields.all (writeSequence [_, _, _, _]) = _
  rw [ecFields, all_inSequence hparts]
  apply Reads.all_eq
  simp only [List.flatten_cons, List.flatten_nil]
  apply hversion.bind
  apply (reads_octetString hscalar).bind
  apply (reads_explicit (by decide) (by decide) hoid (reads_curveChoice hcurve)).bind
  apply (reads_explicit (by decide) (by decide) hbits (reads_bitString hpoint)).bind
  rw [hvalue]
  exact reads_pure _

/-- A scalar with a point has it below the order. -/
theorem lt_order_of_publicPoint? {curve : Curve} {d : Nat} {point : Nat × Nat}
    (h : curve.publicPoint? d = some point) : d < curve.order := by
  rw [Curve.publicPoint?] at h
  split at h
  · next hrange => exact hrange.2
  · exact nomatch h

theorem ofStructure?_ec (hcurve : k.curve ∈ Curve.standard)
    (hpoint : k.curve.publicPoint? k.d = some (k.x, k.y)) :
    ofStructure? (k.toDer true) = some (.ec k) := by
  obtain ⟨-, -, -, -, hparts⟩ := isShort_ecParts hcurve
  have hname := (readable_of_standard hcurve).ofOid?
  have hwrapper : ofWrapper? (k.toDer true) = none := ofWrapper?_eq_none_of_one hparts
  have hstructure : ofEcStructure? none (k.toDer true) = some (.ec k) := by
    rw [ofEcStructure?, ecFields_all_toDer hcurve (lt_order_of_publicPoint? hpoint)]
    have hform : k.curve.writePoint k.x k.y ∈ k.curve.pointForms k.x k.y := List.mem_cons_self
    simp [chosenCurve?, hname, ofScalar?, hpoint, hform]
  rw [ofStructure?, hwrapper, hstructure]
  rfl

/-! ### Keys -/

theorem ofDer_of_ofStructure? {der : List UInt8} {key : PrivateKey}
    (h : ofStructure? der = some key) (husable : key.usable = true) : ofDer der = .ok key := by
  rw [ofDer, h]
  exact if_pos husable

/-- A genuine key is read back from the structure of its own kind. -/
theorem ofDer_toDer {key : PrivateKey} (h : key.IsGenuine)
    (hkind : key.kind = .rsa ∨ key.kind = .ec) : ofDer (key.toDer .traditional) = .ok key := by
  cases key with
  | rsa numbers =>
      obtain ⟨hconsistent, hshort⟩ := h
      exact ofDer_of_ofStructure? (ofStructure?_rsa hshort) hconsistent
  | ec numbers =>
      obtain ⟨hcurve, hpoint⟩ := h
      exact ofDer_of_ofStructure? (ofStructure?_ec hcurve hpoint) rfl
  | dsa | ed25519 | ed448 | x25519 | x448 => exact absurd hkind (by simp [kind])

end PrivateKey

end PemBundle
