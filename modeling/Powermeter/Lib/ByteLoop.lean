import Mathlib.Order.Basic

/-!
# `for` loops over an 8-bit counter

`loop cond body fuel i s` is `for (uint8_t i = ...; cond(i); i++) body`, run for at
most `fuel` tests of the condition: `none` is a loop that has not ended by then.
`loop_ends` and `loop_total` are the total-correctness rules for a counter that does
not wrap, `loop_inv` is the partial-correctness rule; `recorded` keeps the values of
the counter.
-/

namespace ByteLoop

variable {σ ε : Type*}

def loop (cond : UInt8 → Bool) (body : UInt8 → σ → Except ε σ) :
    Nat → UInt8 → σ → Option (Except ε σ)
  | 0, _, _ => none
  | fuel + 1, i, s =>
    if cond i then
      match body i s with
      | .error e => some (.error e)
      | .ok s' => loop cond body fuel (i + 1) s'
    else some (.ok s)

variable {cond : UInt8 → Bool} {body : UInt8 → σ → Except ε σ}

theorem loop_stop {fuel : Nat} {i : UInt8} {s : σ} (h : cond i = false) :
    loop cond body (fuel + 1) i s = some (.ok s) := by
  simp [loop, h]

theorem loop_next {fuel : Nat} {i : UInt8} {s s' : σ} (h : cond i = true)
    (hb : body i s = .ok s') : loop cond body (fuel + 1) i s = loop cond body fuel (i + 1) s' := by
  simp [loop, h, hb]

theorem ofNat_succ (a : Nat) : UInt8.ofNat a + 1 = UInt8.ofNat (a + 1) := by
  rw [UInt8.ofNat_add]; rfl

/-- **Total correctness with errors**: while the condition is `i < b` for a bound the counter can
reach, an invariant that every iteration keeps holds at the end, unless an iteration fails, and
`b - a` iterations suffice. -/
theorem loop_ends (cond : UInt8 → Bool) (body : UInt8 → σ → Except ε σ)
    {I : Nat → σ → Prop} {E : ε → Prop} {a b : Nat} (hab : a ≤ b) (hb : b ≤ 255)
    (hcond : ∀ i, i ≤ 255 → cond (UInt8.ofNat i) = decide (i < b))
    (hbody : ∀ i s, a ≤ i → i < b → I i s →
      (∃ e, body (UInt8.ofNat i) s = .error e ∧ E e) ∨
        ∃ s', body (UInt8.ofNat i) s = .ok s' ∧ I (i + 1) s')
    {fuel : Nat} (hf : b - a < fuel) {s : σ} (h : I a s) :
    (∃ e, loop cond body fuel (UInt8.ofNat a) s = some (.error e) ∧ E e) ∨
      ∃ s', loop cond body fuel (UInt8.ofNat a) s = some (.ok s') ∧ I b s' := by
  induction fuel generalizing a s with
  | zero => omega
  | succ fuel ih =>
    by_cases hlt : a < b
    · have hc : cond (UInt8.ofNat a) = true := by rw [hcond a (by omega)]; simpa using hlt
      rcases hbody a s (Nat.le_refl a) hlt h with ⟨e, he, hE⟩ | ⟨s1, hs1, hI1⟩
      · exact .inl ⟨e, by simp [loop, hc, he], hE⟩
      · rw [loop_next hc hs1, ofNat_succ]
        exact ih hlt (fun i s hi hib hIi => hbody i s (by omega) hib hIi) (by omega) hI1
    · have he : a = b := by omega
      subst he
      have hc : cond (UInt8.ofNat a) = false := by rw [hcond a hb]; simp
      exact .inr ⟨s, loop_stop hc, h⟩

/-- **Total correctness** of a loop whose body does not fail. -/
theorem loop_total (cond : UInt8 → Bool) (body : UInt8 → σ → Except ε σ)
    {I : Nat → σ → Prop} {a b : Nat} (hab : a ≤ b) (hb : b ≤ 255)
    (hcond : ∀ i, i ≤ 255 → cond (UInt8.ofNat i) = decide (i < b))
    (hbody : ∀ i s, a ≤ i → i < b → I i s →
      ∃ s', body (UInt8.ofNat i) s = .ok s' ∧ I (i + 1) s')
    {fuel : Nat} (hf : b - a < fuel) {s : σ} (h : I a s) :
    ∃ s', loop cond body fuel (UInt8.ofNat a) s = some (.ok s') ∧ I b s' := by
  rcases loop_ends (E := fun _ => False) cond body hab hb hcond
    (fun i s hi hib hIi => .inr (hbody i s hi hib hIi)) hf h with ⟨_, _, hE⟩ | hok
  · exact hE.elim
  · exact hok

/-- **Partial correctness**: what every iteration keeps holds whenever the loop ends, and it ends
in an error only through one of an iteration. -/
theorem loop_inv {I : σ → Prop} {E : ε → Prop}
    (hok : ∀ i s s', I s → body i s = .ok s' → I s')
    (herr : ∀ i s e, I s → body i s = .error e → E e)
    {fuel : Nat} {i : UInt8} {s : σ} (h : I s) :
    (∀ s', loop cond body fuel i s = some (.ok s') → I s') ∧
      ∀ e, loop cond body fuel i s = some (.error e) → E e := by
  induction fuel generalizing i s with
  | zero => exact ⟨nofun, nofun⟩
  | succ fuel ih =>
    by_cases hc : cond i = true
    · cases hb : body i s with
      | error e =>
        simp only [loop, hc, hb, if_true, Option.some.injEq]
        exact ⟨nofun, fun e' he => by cases he; exact herr i s e h hb⟩
      | ok s1 =>
        rw [loop_next hc hb]
        exact ih (hok i s s1 h hb)
    · rw [loop_stop (Bool.eq_false_iff.mpr hc)]
      exact ⟨fun s' he => by cases he; exact h, nofun⟩

/-- A loop whose condition cannot fail has no normal end. -/
theorem loop_never (hcond : ∀ i, cond i = true) (fuel : Nat) (i : UInt8) (s s' : σ) :
    loop cond body fuel i s ≠ some (.ok s') := by
  induction fuel generalizing i s with
  | zero => nofun
  | succ fuel ih =>
    cases hb : body i s with
    | error e => simp [loop, hcond, hb]
    | ok s1 =>
      rw [loop_next (hcond i) hb]
      exact ih (i + 1) s1

/-! ## The values of the counter -/

/-- The body, recording the values of the counter it is run for. -/
def recorded (body : UInt8 → σ → Except ε σ) (i : UInt8) (s : σ × List UInt8) :
    Except ε (σ × List UInt8) :=
  (body i s.1).map fun s' => (s', s.2 ++ [i])

theorem loop_recorded (fuel : Nat) (i : UInt8) (s : σ) (visited : List UInt8) :
    (loop cond (recorded body) fuel i (s, visited)).map (Except.map Prod.fst) =
      loop cond body fuel i s := by
  induction fuel generalizing i s visited with
  | zero => rfl
  | succ fuel ih =>
    unfold loop recorded
    by_cases hc : cond i = true
    · simp only [hc, if_true]
      cases hb : body i s with
      | error e => rfl
      | ok s1 => exact ih (i + 1) s1 (visited ++ [i])
    · simp only [hc]
      rfl

/-- **Each value once**: a loop from `a` up to a bound `b` the counter can reach runs its body for
`a`, ..., `b - 1` in turn, unless an iteration fails. -/
theorem recorded_ends (cond : UInt8 → Bool) (body : UInt8 → σ → Except ε σ)
    {I : Nat → σ → Prop} {E : ε → Prop} {a b : Nat} (hab : a ≤ b) (hb : b ≤ 255)
    (hcond : ∀ i, i ≤ 255 → cond (UInt8.ofNat i) = decide (i < b))
    (hbody : ∀ i s, a ≤ i → i < b → I i s →
      (∃ e, body (UInt8.ofNat i) s = .error e ∧ E e) ∨
        ∃ s', body (UInt8.ofNat i) s = .ok s' ∧ I (i + 1) s')
    {fuel : Nat} (hf : b - a < fuel) {s : σ} (h : I a s) :
    (∃ e, loop cond (recorded body) fuel (UInt8.ofNat a) (s, []) = some (.error e) ∧ E e) ∨
      ∃ s', loop cond (recorded body) fuel (UInt8.ofNat a) (s, []) =
        some (.ok (s', (List.range' a (b - a)).map UInt8.ofNat)) ∧ I b s' := by
  have hends := loop_ends cond (recorded body) (E := E)
    (I := fun i s => I i s.1 ∧ s.2 = (List.range' a (i - a)).map UInt8.ofNat)
    hab hb hcond ?_ hf (s := (s, [])) ⟨h, by simp⟩
  · rcases hends with herr | ⟨⟨s', visited⟩, hs', hI, rfl⟩
    · exact .inl herr
    · exact .inr ⟨s', hs', hI⟩
  · rintro i ⟨s, visited⟩ hai hib ⟨hI, rfl⟩
    unfold recorded
    rcases hbody i s hai hib hI with ⟨e, he, hE⟩ | ⟨s', hs', hI'⟩
    · exact .inl ⟨e, by simp only [he]; rfl, hE⟩
    · refine .inr ⟨_, by simp only [hs']; rfl, hI', ?_⟩
      have hlen : i + 1 - a = i - a + 1 := by omega
      have hlast : a + 1 * (i - a) = i := by omega
      simp only [hlen, List.range'_concat, hlast, List.map_append, List.map_singleton]

/-! ## Two programs side by side -/

variable {τ : Type*} {R : σ → τ → Prop}

/-- The same error, or results that `R` relates. -/
inductive SameOutcome (R : σ → τ → Prop) : Except ε σ → Except ε τ → Prop where
  | error (e : ε) : SameOutcome R (.error e) (.error e)
  | ok {s : σ} {t : τ} (h : R s t) : SameOutcome R (.ok s) (.ok t)

theorem SameOutcome.bind {ε σ τ σ' τ' : Type} {R : σ → τ → Prop} {R' : σ' → τ' → Prop}
    {x : Except ε σ} {y : Except ε τ} {f : σ → Except ε σ'} {g : τ → Except ε τ'}
    (h : SameOutcome R x y) (hfg : ∀ s t, R s t → SameOutcome R' (f s) (g t)) :
    SameOutcome R' (x >>= f) (y >>= g) := by
  cases h with
  | error e => exact .error e
  | ok h => exact hfg _ _ h

/-- **Loops whose bodies simulate each other** do so too. -/
theorem loop_sim {body' : UInt8 → τ → Except ε τ}
    (hbody : ∀ i s t, R s t → SameOutcome R (body i s) (body' i t)) (fuel : Nat) (i : UInt8)
    {s : σ} {t : τ} (h : R s t) :
    Option.Rel (SameOutcome R) (loop cond body fuel i s) (loop cond body' fuel i t) := by
  induction fuel generalizing i s t with
  | zero => exact .none
  | succ fuel ih =>
    unfold loop
    by_cases hc : cond i = true
    · simp only [hc, if_true]
      cases hb : body i s with
      | error e =>
        have hsame := hb ▸ hbody i s t h
        generalize body' i t = y at hsame
        cases hsame
        exact .some (.error e)
      | ok s' =>
        have hsame := hb ▸ hbody i s t h
        generalize body' i t = y at hsame
        cases hsame with
        | ok h' => exact ih (i + 1) h'
    · simp only [hc]
      exact .some (.ok h)

end ByteLoop
