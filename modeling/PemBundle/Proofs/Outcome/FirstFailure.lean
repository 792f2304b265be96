import PemBundle.Outcome

/-!
# All values, or the first failure

The items of a sequence are produced one after the other, and producing one may depend on the world
and change it. Collecting their values produces the items up to the first failure and no others, as
the world shows if it records what was produced. It is compositional: to collect a sequence is to
collect its first part and then, if that succeeded, the rest.
-/

namespace PemBundle.Outcome

variable {α β γ ω : Type}

/-- Producing all the items, one after the other, leads from one world to another and gives these
outcomes. -/
inductive Produces : List (StateM ω (Outcome α)) → ω → List (Outcome α) → ω → Prop
  | nil (w : ω) : Produces [] w [] w
  | cons {item : StateM ω (Outcome α)} {rest : List (StateM ω (Outcome α))} {w next w' : ω}
      {o : Outcome α} {os : List (Outcome α)} (head : item.run w = (o, next))
      (tail : Produces rest next os w') : Produces (item :: rest) w (o :: os) w'

/-! ### Up to the first failure -/

theorem run_allOfM_cons_success {item : StateM ω (Outcome α)} {w next : ω} {v : α}
    (h : item.run w = (success v, next)) (rest : List (StateM ω (Outcome α))) :
    (allOfM (item :: rest)).run w =
      (((allOfM rest).run next).1.map (v :: ·), ((allOfM rest).run next).2) := by
  rw [allOfM, StateT.run_bind, h]
  rfl

/-- Nothing is produced after a failure. -/
theorem run_allOfM_cons_failure {item : StateM ω (Outcome α)} {w next : ω} {e : Failure}
    (h : item.run w = (failure e, next)) (rest : List (StateM ω (Outcome α))) :
    (allOfM (item :: rest)).run w = (failure e, next) := by
  rw [allOfM, StateT.run_bind, h]
  rfl

theorem Produces.run_allOfM_of_success {items : List (StateM ω (Outcome α))} {w w' : ω}
    {vs : List α} (h : Produces items w (vs.map success) w') :
    (allOfM items).run w = (success vs, w') := by
  induction vs generalizing items w with
  | nil =>
      cases h
      rfl
  | cons v vs ih =>
      cases h with
      | cons head tail => rw [run_allOfM_cons_success head, ih tail, map_success]

theorem Produces.run_allOfM_of_failure {before : List (StateM ω (Outcome α))} {w w' : ω}
    {vs : List α} {e : Failure} (h : Produces before w (vs.map success ++ [failure e]) w')
    (after : List (StateM ω (Outcome α))) :
    (allOfM (before ++ after)).run w = (failure e, w') := by
  induction vs generalizing before w with
  | nil =>
      cases h with
      | cons head tail =>
          cases tail
          exact run_allOfM_cons_failure head after
  | cons v vs ih =>
      cases h with
      | cons head tail =>
          rw [List.cons_append, run_allOfM_cons_success head, ih tail, map_failure]

/-- Either all items succeed, or one of them is the first that fails. -/
theorem exists_produces (items : List (StateM ω (Outcome α))) (w : ω) :
    ∃ vs w', Produces items w (List.map success vs) w' ∨
      ∃ before after e, items = before ++ after ∧
        Produces before w (vs.map success ++ [failure e]) w' := by
  induction items generalizing w with
  | nil => exact ⟨[], w, .inl (.nil w)⟩
  | cons item rest ih =>
      obtain ⟨o, next, head⟩ : ∃ o next, item.run w = (o, next) := ⟨_, _, rfl⟩
      cases o with
      | failure e => exact ⟨[], next, .inr ⟨[item], rest, e, rfl, .cons head (.nil next)⟩⟩
      | success v =>
          obtain ⟨vs, w', tail | ⟨before, after, e, rfl, tail⟩⟩ := ih next
          · exact ⟨v :: vs, w', .inl (.cons head tail)⟩
          · exact ⟨v :: vs, w', .inr ⟨item :: before, after, e, rfl, .cons head tail⟩⟩

/-! ### One part after the other -/

theorem map_map (f : α → β) (g : β → γ) (o : Outcome α) : (o.map f).map g = o.map (g ∘ f) := by
  cases o <;> rfl

theorem map_id_fun : (map fun v => v : Outcome α → Outcome α) = id := by
  funext o
  cases o <;> rfl

section Lawful

variable {m : Type → Type} [Monad m] [LawfulMonad m]

theorem bind_bindM (o : Outcome α) (f : α → m (Outcome β)) (g : β → m (Outcome γ)) :
    (o.bindM f >>= fun p => p.bindM g) = o.bindM fun v => f v >>= fun p => p.bindM g := by
  cases o with
  | success v => rfl
  | failure e => exact pure_bind (failure e) fun p => p.bindM g

theorem allOfM_cons (item : m (Outcome α)) (rest : List (m (Outcome α))) :
    allOfM (item :: rest) =
      item >>= fun o => o.bindM fun v => map (v :: ·) <$> allOfM rest := by
  simp only [allOfM, map_eq_pure_bind]

/-- What is collected behind a value goes behind it in the outcome as well. -/
theorem map_cons_bindM_append (v : α) (o : Outcome (List α)) (rest : m (Outcome (List α))) :
    map (v :: ·) <$> (o.bindM fun vs => map (vs ++ ·) <$> rest) =
      (o.map (v :: ·)).bindM fun vs => map (vs ++ ·) <$> rest := by
  cases o with
  | success vs =>
      change map (v :: ·) <$> (map (vs ++ ·) <$> rest) = map (v :: vs ++ ·) <$> rest
      rw [Functor.map_map]
      congr 1
      funext o
      exact map_map _ _ o
  | failure e => exact map_pure _ (failure e)

/-- To collect two sequences, one after the other, is to collect the first and, if it succeeds, the
second. -/
theorem allOfM_append (xs ys : List (m (Outcome α))) :
    allOfM (xs ++ ys) =
      allOfM xs >>= fun o => o.bindM fun vs => map (vs ++ ·) <$> allOfM ys := by
  induction xs with
  | nil =>
      rw [allOfM, pure_bind]
      change allOfM ys = map (fun vs => vs) <$> allOfM ys
      rw [map_id_fun, id_map]
  | cons item rest ih =>
      rw [List.cons_append, allOfM_cons, allOfM_cons, bind_assoc, ih]
      congr 1
      funext o
      rw [bind_bindM]
      congr 1
      funext v
      -- both sides collect the rest of the first part; what is left is to put values together
      rw [map_bind, bind_map_left]
      congr 1
      funext p
      exact map_cons_bindM_append v p (allOfM ys)

end Lawful

/-- A sequence whose items all succeed comes to their values, in order, and to the world after all of
them. Every other sequence comes to its first failure as it is, and to the world after the items up
to that one: what stands behind it is not produced. In any monad, a sequence in two parts comes to
what the first part comes to and, if that is a success, the second after it, from the same items in
the same order. -/
theorem allOfM_stops_at_failure :
    (∀ (items : List (StateM ω (Outcome α))) (w : ω) (vs : List α) (w' : ω),
      Produces items w (vs.map success) w' → (allOfM items).run w = (success vs, w')) ∧
    (∀ (before after : List (StateM ω (Outcome α))) (w : ω) (vs : List α) (e : Failure) (w' : ω),
      Produces before w (vs.map success ++ [failure e]) w' →
        (allOfM (before ++ after)).run w = (failure e, w')) ∧
    (∀ (items : List (StateM ω (Outcome α))) (w : ω),
      ∃ vs w', Produces items w (List.map success vs) w' ∨
        ∃ before after e, items = before ++ after ∧
          Produces before w (vs.map success ++ [failure e]) w') ∧
    ∀ {m : Type → Type} [Monad m] [LawfulMonad m] (xs ys : List (m (Outcome α))),
      allOfM (xs ++ ys) =
        allOfM xs >>= fun o => o.bindM fun vs => map (vs ++ ·) <$> allOfM ys :=
  ⟨fun _ _ _ _ h => h.run_allOfM_of_success,
    fun _ after _ _ _ _ h => h.run_allOfM_of_failure after, exists_produces, allOfM_append⟩

/-- An item that counts how often it was produced, and fails from the third time on. -/
def thirdFails : StateM Nat (Outcome Nat) := fun n =>
  (if n < 2 then success n else fail .invalidInput "again", n + 1)

theorem allOfM_stops_at_failure_third :
    (allOfM [thirdFails, thirdFails]).run 0 = (success [0, 1], 2) ∧
      (allOfM [thirdFails, thirdFails, thirdFails, thirdFails]).run 0 =
        (fail .invalidInput "again", 3) ∧
      allOfM [thirdFails, thirdFails, thirdFails] =
        allOfM [thirdFails, thirdFails] >>= fun o =>
          o.bindM fun vs => map (vs ++ ·) <$> allOfM [thirdFails] := by
  obtain ⟨hsuccess, hfailure, -, happend⟩ := allOfM_stops_at_failure (α := Nat) (ω := Nat)
  have hthree : Produces [thirdFails, thirdFails, thirdFails] 0
      ([0, 1].map success ++ [fail .invalidInput "again"]) 3 :=
    .cons rfl (.cons rfl (.cons rfl (.nil 3)))
  exact ⟨hsuccess _ 0 [0, 1] 2 (.cons rfl (.cons rfl (.nil 2))),
    hfailure _ [thirdFails] 0 [0, 1] _ 3 hthree,
    happend [thirdFails, thirdFails] [thirdFails]⟩

end PemBundle.Outcome
