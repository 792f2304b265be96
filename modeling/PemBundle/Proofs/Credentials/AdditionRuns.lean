import PemBundle.Proofs.Credentials.Additions
import PemBundle.Session

/-!
# Runs of additions

A run adds keys, certificates and signing requests to credentials, one after the other; an addition
that fails keeps the credentials as they are. One key and one signing request at most are added, the
chain only grows at its end, and the certificate stays.
-/

namespace PemBundle

open Credentials

variable {σ : Type}

/-- The calls of a run of additions, and the credentials at its end. -/
def Credentials.runAdditions (encode : KeyEncoder (StateT σ Logged)) :
    Credentials → σ → List Addition → List Call × Credentials
  | c, _, [] => ([], c)
  | c, state, addition :: rest =>
      let (call, next) := addition.call encode c state
      let (calls, final) := runAdditions encode call.after next rest
      (call :: calls, final)

/-- The same run as a session, with no record of the encoder's calls. -/
def Credentials.addInTurn (encode : KeyEncoder (StateT σ Logged)) (start : Credentials)
    (additions : List Addition) : StateT σ Logged (List Turn) :=
  Session.run (fun addition c => Reply.credentials <$> addition.run encode c) start additions

/-- The turn of a session that the call is. -/
def Call.turn (call : Call) : Turn := ⟨.credentials call.outcome, call.after⟩

/-! ### Texts that are written once -/

/-- A text of credentials that is written once, with what the calls of a run offer for it. -/
structure Slot where
  text : Credentials → Option CodeText
  offered? : Call → Option CodeText
  fills : Call → Bool

/-- The private key, for which encoded keys are offered. -/
def Slot.key : Slot := ⟨Credentials.privateKey, Call.encoded?, Call.addsKey⟩

/-- The signing request. -/
def Slot.csr : Slot :=
  ⟨Credentials.csr, fun call => call.addition.request?.map (·.toPem), Call.addsCsr⟩

/-- The call keeps the text of the slot if there is one, and else fills the slot with what it
offers. -/
structure Slot.KeptBy (slot : Slot) (call : Call) : Prop where
  after : slot.text call.after =
    if isPresent (slot.text call.before) then slot.text call.before
    else (slot.offered? call).or (slot.text call.before)
  offered_ne : ∀ text, slot.offered? call = some text → text ≠ ""
  fills : slot.fills call = true →
    isPresent (slot.text call.before) = false ∧ (slot.offered? call).isSome = true

/-- After a call a slot is filled if it was before or the call offers a text. -/
theorem Slot.KeptBy.isPresent_after {slot : Slot} {call : Call} (h : slot.KeptBy call) :
    isPresent (slot.text call.after) =
      (isPresent (slot.text call.before) || (slot.offered? call).isSome) := by
  rw [h.after]
  cases hpresent : isPresent (slot.text call.before) with
  | true => simp [hpresent]
  | false =>
      cases hoffered : slot.offered? call with
      | none => simp [hpresent]
      | some text => simp [isPresent, h.offered_ne text hoffered]

theorem SigningRequest.toPem_ne_empty (request : SigningRequest) : request.toPem ≠ "" := by
  intro hempty
  have hscan := request.scan_toPem
  have hnone : (Pem.scan (Text.utf8 "")).blocks = [] := by decide +kernel
  rw [hempty] at hscan
  rw [hscan] at hnone
  exact nomatch hnone

theorem Slot.keptBy_key {call : Call} (h : call.Lawful) : Slot.key.KeptBy call := by
  constructor
  · cases h with
    | duplicateKey hkey => exact (if_pos hkey).symm
    | missingKey hkey | refusedKey hkey | storedKey hkey =>
        exact (if_neg (Bool.eq_false_iff.mp hkey)).symm
    | _ => exact (ite_self _).symm
  · intro text htext
    cases h with
    | storedKey _ hne => exact Option.some.inj htext ▸ hne
    | _ => exact nomatch htext
  · intro hfills
    cases h with
    | storedKey hkey => exact ⟨hkey, rfl⟩
    | _ => exact nomatch hfills

theorem Slot.keptBy_csr {call : Call} (h : call.Lawful) : Slot.csr.KeptBy call := by
  constructor
  · cases h with
    | duplicateCsr hcsr => exact (if_pos hcsr).symm
    | missingCsr hcsr | storedCsr hcsr => exact (if_neg (Bool.eq_false_iff.mp hcsr)).symm
    | _ => exact (ite_self _).symm
  · intro text htext
    obtain ⟨request, -, rfl⟩ := Option.map_eq_some_iff.mp htext
    exact fun hempty => request.toPem_ne_empty (CodeText.unicode.inj hempty)
  · intro hfills
    cases h with
    | storedCsr hcsr => exact ⟨hcsr, rfl⟩
    | _ => exact nomatch hfills

/-! ### Runs -/

/-- Lawful calls, each on the credentials after the one before it. -/
inductive Chained : Credentials → List Call → Credentials → Prop
  | nil (c : Credentials) : Chained c [] c
  | cons {call : Call} {calls : List Call} {final : Credentials} (hcall : call.Lawful)
      (hrest : Chained call.after calls final) : Chained call.before (call :: calls) final

section

variable {start final : Credentials} {calls : List Call}

theorem Chained.certificate (h : Chained start calls final) :
    final.certificate = start.certificate := by
  induction h with
  | nil => rfl
  | cons hcall _ ih => exact ih.trans hcall.after_certificate

theorem Chained.chain (h : Chained start calls final) :
    final.chain =
      start.chain ++
        (calls.filterMap (·.addition.certificate?)).map fun c => .unicode c.toPem := by
  induction h with
  | nil => exact (List.append_nil _).symm
  | @cons call calls final hcall _ ih =>
      rw [ih, hcall.after_chain, List.append_assoc]
      cases hcertificate : call.addition.certificate? with
      | none => simp [hcertificate]
      | some certificate => simp [hcertificate]

variable {slot : Slot}

/-- A filled slot stays as it is; one that is not is filled by the first call that offers a text. -/
theorem Slot.text_final (hkept : ∀ {call : Call}, call.Lawful → slot.KeptBy call)
    (h : Chained start calls final) :
    slot.text final =
      if isPresent (slot.text start) then slot.text start
      else (calls.findSome? slot.offered?).or (slot.text start) := by
  induction h with
  | nil c => exact (ite_self _).symm
  | @cons call calls final hcall _ ih =>
      have hafter := (hkept hcall).after
      cases hpresent : isPresent (slot.text call.before) with
      | true =>
          rw [if_pos hpresent] at hafter
          rw [ih, hafter, if_pos hpresent]
          rfl
      | false =>
          rw [if_neg (Bool.eq_false_iff.mp hpresent)] at hafter
          rw [ih, hafter, List.findSome?_cons]
          cases hoffered : slot.offered? call with
          | none => simp [hpresent]
          | some text =>
              have hne := (hkept hcall).offered_ne text hoffered
              simp [isPresent, hne]

/-- Once a slot is filled, it is so before every later call. -/
theorem Slot.isPresent_before (hkept : ∀ {call : Call}, call.Lawful → slot.KeptBy call)
    (h : Chained start calls final) (hpresent : isPresent (slot.text start) = true) :
    ∀ call ∈ calls, isPresent (slot.text call.before) = true := by
  induction h with
  | nil => exact fun _ hmem => nomatch hmem
  | cons hcall _ ih =>
      have hafter := (hkept hcall).isPresent_after
      rw [hpresent, Bool.true_or] at hafter
      intro other hmem
      rcases List.mem_cons.mp hmem with rfl | hmem
      · exact hpresent
      · exact ih hafter other hmem

theorem Slot.pairwise_isPresent (hkept : ∀ {call : Call}, call.Lawful → slot.KeptBy call)
    (h : Chained start calls final) :
    calls.Pairwise fun earlier later =>
      isPresent (slot.text earlier.after) = true → isPresent (slot.text later.before) = true := by
  induction h with
  | nil => exact .nil
  | cons _ hrest ih =>
      refine .cons ?_ ih
      intro later hmem hpresent
      exact Slot.isPresent_before hkept hrest hpresent later hmem

/-- A slot is filled by one call at most, and by none if it was filled at the start. -/
theorem Slot.length_filter_fills (hkept : ∀ {call : Call}, call.Lawful → slot.KeptBy call)
    (h : Chained start calls final) :
    (calls.filter slot.fills).length ≤ if isPresent (slot.text start) then 0 else 1 := by
  induction h with
  | nil => exact Nat.zero_le _
  | @cons call calls final hcall _ ih =>
      have hafter := (hkept hcall).isPresent_after
      cases hfills : slot.fills call with
      | true =>
          obtain ⟨habsent, hoffered⟩ := (hkept hcall).fills hfills
          rw [habsent, hoffered, Bool.or_true] at hafter
          rw [hafter, if_pos rfl] at ih
          rw [List.filter_cons_of_pos hfills, List.length_cons, habsent]
          exact Nat.succ_le_succ ih
      | false =>
          rw [List.filter_cons_of_neg (Bool.eq_false_iff.mp hfills)]
          refine Nat.le_trans ih ?_
          rw [hafter]
          cases isPresent (slot.text call.before) with
          | true => exact Nat.le_refl 0
          | false =>
              cases (slot.offered? call).isSome with
              | true => exact Nat.zero_le 1
              | false => exact Nat.le_refl 1

end

/-- A run is a chain of lawful calls. -/
theorem chained_runAdditions {encode : KeyEncoder (StateT σ Logged)} (hencode : encode.WritesText)
    (start : Credentials) (state : σ) (additions : List Addition) :
    Chained start (runAdditions encode start state additions).1
      (runAdditions encode start state additions).2 := by
  induction additions generalizing start state with
  | nil => exact .nil start
  | cons addition additions ih =>
      exact .cons (addition.lawful_call hencode start state) (ih _ _)

theorem map_addition_runAdditions (encode : KeyEncoder (StateT σ Logged)) (start : Credentials)
    (state : σ) (additions : List Addition) :
    (runAdditions encode start state additions).1.map (·.addition) = additions := by
  induction additions generalizing start state with
  | nil => rfl
  | cons addition additions ih => exact congrArg (addition :: ·) (ih _ _)

/-- A session goes on with the credentials after the call. -/
theorem Addition.next_call (encode : KeyEncoder (StateT σ Logged)) (c : Credentials) (state : σ)
    (addition : Addition) :
    (Reply.credentials (addition.call encode c state).1.outcome).next c =
      (addition.call encode c state).1.after := by
  have hbefore : (addition.call encode c state).1.before = c := rfl
  rw [Call.after, hbefore]
  cases (addition.call encode c state).1.outcome <;> rfl

/-- The record changes nothing of a run. -/
theorem Credentials.addInTurn_eq (encode : KeyEncoder (StateT σ Logged)) (start : Credentials) (state : σ)
    (additions : List Addition) :
    ((start.addInTurn encode additions).run state).value.1 =
      (runAdditions encode start state additions).1.map Call.turn := by
  induction additions generalizing start state with
  | nil => rfl
  | cons addition rest ih =>
      have hreply : ((Reply.credentials <$> addition.run encode start).run state).value =
          (.credentials (addition.call encode start state).1.outcome,
            (addition.call encode start state).2) :=
        congrArg (fun answer : Outcome Credentials × σ => (Reply.credentials answer.1, answer.2))
          (addition.value_run_eq_call encode start state)
      change (fun answer : Reply × σ => ⟨answer.1, answer.1.next start⟩ ::
        (((answer.1.next start).addInTurn encode rest).run answer.2).value.1)
          ((Reply.credentials <$> addition.run encode start).run state).value = _
      rw [hreply]
      simp only [Addition.next_call, ih]
      rfl

/-- What holds of the calls of a run of additions and of the credentials at its end. -/
structure RunLaws (encode : KeyEncoder (StateT σ Logged)) (start : Credentials) (state : σ)
    (additions : List Addition) (calls : List Call) (final : Credentials) : Prop where
  /-- There is one call for each addition, in their order. -/
  inOrder : calls.map (·.addition) = additions
  /-- The calls are the turns of the run without a record. -/
  inTurn : ((start.addInTurn encode additions).run state).value.1 = calls.map Call.turn
  certificate : final.certificate = start.certificate
  /-- The chain grows at its end, by the certificates that are given. -/
  chain : final.chain =
    start.chain ++ (additions.filterMap Addition.certificate?).map fun c => .unicode c.toPem
  /-- The key is the first one that is encoded, if there was none. -/
  privateKey : final.privateKey =
    if start.hasPrivateKey then start.privateKey
    else (calls.findSome? Call.encoded?).or start.privateKey
  /-- The signing request is the first one that is given, if there was none. -/
  csr : final.csr =
    if start.hasCsr then start.csr
    else ((additions.findSome? Addition.request?).map fun r => .unicode r.toPem).or start.csr
  oneKey : (calls.filter Call.addsKey).length ≤ 1
  oneCsr : (calls.filter Call.addsCsr).length ≤ 1
  /-- A key that is there from the start is there before every call. -/
  startKey : start.hasPrivateKey = true → ∀ call ∈ calls, call.before.hasPrivateKey = true
  /-- A key that is there after a call is there before every later call. -/
  laterKey : calls.Pairwise fun earlier later =>
    earlier.after.hasPrivateKey = true → later.before.hasPrivateKey = true
  /-- Where there is a key, adding one fails before the encoder is called. -/
  duplicateKey : ∀ call ∈ calls, call.addition.isKey = true → call.before.hasPrivateKey = true →
    call.outcome = .failure Credentials.duplicateKey ∧ call.encodings = []
  /-- Where there is none, a key is encoded by one call of the encoder, whose answer decides. -/
  encodesOnce : ∀ call ∈ calls, ∀ key password format,
    call.addition = .key (some key) password format → call.before.hasPrivateKey = false →
      ∃ answer,
        call.encodings = [⟨some key, Password.nonVoid? password, some (format.getD ""), answer⟩] ∧
          call.outcome = answer.map fun text => { call.before with privateKey := some text }
  /-- Without a key to add, the encoder is not called. -/
  encodesNothing : ∀ call ∈ calls,
    (∀ key password format, call.addition ≠ .key (some key) password format) →
      call.encodings = []

theorem Chained.lawful {start final : Credentials} {calls : List Call}
    (h : Chained start calls final) : ∀ call ∈ calls, call.Lawful := by
  induction h with
  | nil => exact fun _ hmem => nomatch hmem
  | cons hcall _ ih => exact List.forall_mem_cons.mpr ⟨hcall, ih⟩

/-- Every run of additions keeps to the laws, whatever the encoder answers, as long as it gives no
empty text. -/
theorem additions_keep_laws {encode : KeyEncoder (StateT σ Logged)} (hencode : encode.WritesText)
    (start : Credentials) (state : σ) (additions : List Addition) :
    RunLaws encode start state additions (runAdditions encode start state additions).1
      (runAdditions encode start state additions).2 := by
  have hrun := chained_runAdditions hencode start state additions
  have hadditions := map_addition_runAdditions encode start state additions
  have hone {slot : Slot} (hkept : ∀ {call : Call}, call.Lawful → slot.KeptBy call) :
      ((runAdditions encode start state additions).1.filter slot.fills).length ≤ 1 :=
    Nat.le_trans (Slot.length_filter_fills hkept hrun) (by split <;> decide)
  constructor
  case inOrder => exact hadditions
  case inTurn => exact addInTurn_eq encode start state additions
  case certificate => exact hrun.certificate
  case chain =>
    rw [hrun.chain]
    conv => rhs; rw [← hadditions, List.filterMap_map]
    rfl
  case privateKey => exact Slot.text_final Slot.keptBy_key hrun
  case csr =>
    refine (Slot.text_final Slot.keptBy_csr hrun).trans ?_
    conv => rhs; rw [← hadditions, List.findSome?_map, List.map_findSome?]
    rfl
  case oneKey => exact hone Slot.keptBy_key
  case oneCsr => exact hone Slot.keptBy_csr
  case startKey => exact Slot.isPresent_before Slot.keptBy_key hrun
  case laterKey => exact Slot.pairwise_isPresent Slot.keptBy_key hrun
  case duplicateKey =>
    intro call hmem hadds hkey
    exact (hrun.lawful call hmem).refuses_key hadds hkey
  case encodesOnce =>
    intro call hmem key password format hadds hkey
    exact (hrun.lawful call hmem).encodes_key hadds hkey
  case encodesNothing =>
    intro call hmem hadds
    exact (hrun.lawful call hmem).encodings_eq_nil hadds

/-- An encoder that refuses the first key it is given and writes every later one. -/
def lateEncoder : KeyEncoder (StateT Nat Logged) := fun _ _ _ asked =>
  pure (if asked = 0 then .failure missingKey else .success (.unicode "key"), asked + 1)

theorem writesText_lateEncoder : lateEncoder.WritesText := by
  intro key password format asked text hanswer
  change (if asked = 0 then Outcome.failure missingKey else .success (.unicode "key")) = .success text
    at hanswer
  split at hanswer
  · exact nomatch hanswer
  · cases hanswer
    decide

/-- Additions some of which fail. -/
def mixedAdditions : List Addition :=
  [.key none none none, .key (some (.ed25519 [])) none none, .csr none, .csr (some ⟨[0]⟩),
    .key (some (.ed448 [])) (some (.bytes [1])) (some (.unicode "legacy-pem")),
    .chain (some ⟨smallDer, smallDer_accepted⟩), .chain none, .key none none none,
    .csr (some ⟨[1]⟩)]

theorem additions_keep_laws_mixed :
    lateEncoder.WritesText ∧
      RunLaws lateEncoder empty 0 mixedAdditions (runAdditions lateEncoder empty 0 mixedAdditions).1
        (runAdditions lateEncoder empty 0 mixedAdditions).2 ∧
      (runAdditions lateEncoder empty 0 mixedAdditions).2.privateKey = some (.unicode "key") ∧
      (runAdditions lateEncoder empty 0 mixedAdditions).1.map (·.outcome.isSuccess) =
        [false, false, false, true, true, true, false, false, false] :=
  ⟨writesText_lateEncoder, additions_keep_laws writesText_lateEncoder empty 0 mixedAdditions,
    by decide +kernel, by decide +kernel⟩

end PemBundle
