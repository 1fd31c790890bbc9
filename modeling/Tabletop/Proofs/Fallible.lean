/-!
# Results of steps that may fail

A chain of steps succeeds exactly if every step does, each on the result of the
one before, and it fails with the error of one of its steps.
-/

namespace Except

variable {ε ε' α β : Type}

theorem ok_bind {a : α} {f : α → Except ε β} : ok a >>= f = f a := rfl

theorem error_bind {e : ε} {f : α → Except ε β} : error e >>= f = error e := rfl

theorem bind_eq_ok_iff {x : Except ε α} {f : α → Except ε β} {b : β} :
    x >>= f = .ok b ↔ ∃ a, x = .ok a ∧ f a = .ok b := by
  cases x with
  | error e => simp [bind, Except.bind]
  | ok a => simp [bind, Except.bind]

theorem map_bind {γ : Type} {x : Except ε α} {f : α → Except ε β} {g : β → γ} :
    (x >>= f).map g = x >>= fun a => (f a).map g := by
  cases x <;> rfl

theorem bind_map {γ : Type} {x : Except ε α} {f : α → β} {g : β → Except ε γ} :
    x.map f >>= g = x >>= fun a => g (f a) := by
  cases x <;> rfl

theorem mapError_map {x : Except ε α} {f : α → β} {g : ε → ε'} :
    (x.map f).mapError g = (x.mapError g).map f := by
  cases x <;> rfl

theorem map_eq_ok_iff {x : Except ε α} {f : α → β} {b : β} :
    x.map f = .ok b ↔ ∃ a, x = .ok a ∧ f a = b := by
  cases x with
  | error e => simp [Except.map]
  | ok a => simp [Except.map]

theorem map_eq_error_iff {x : Except ε α} {f : α → β} {e : ε} :
    x.map f = .error e ↔ x = .error e := by
  cases x with
  | error e => simp [Except.map]
  | ok a => simp [Except.map]

theorem mapError_eq_ok_iff {x : Except ε α} {f : ε → ε'} {a : α} :
    x.mapError f = .ok a ↔ x = .ok a := by
  cases x with
  | error e => exact ⟨nofun, nofun⟩
  | ok b =>
      constructor
      · intro h
        exact congrArg ok (ok.inj h)
      · intro h
        exact congrArg ok (ok.inj h)

theorem pure_eq_ok_iff {a b : α} : (pure a : Except ε α) = .ok b ↔ a = b := by
  simp [pure, Except.pure]

/-- What every step of a fold keeps holds in the end, if it does not fail. -/
theorem foldlM_preserves {p : β → Prop} {step : β → α → Except ε β} {items : List α}
    {start last : β} (hstep : ∀ b a b', a ∈ items → p b → step b a = .ok b' → p b')
    (hstart : p start) (hfold : items.foldlM step start = .ok last) : p last := by
  induction items generalizing start with
  | nil =>
      obtain rfl := ok.inj hfold
      exact hstart
  | cons item rest ih =>
      rw [List.foldlM_cons] at hfold
      obtain ⟨next, hnext, hrest⟩ := bind_eq_ok_iff.mp hfold
      exact ih (fun b a b' ha => hstep b a b' (List.mem_cons_of_mem item ha))
        (hstep start item next List.mem_cons_self hstart hnext) hrest

/-- Every error that a step may end in has a property. -/
def FailsOnly (p : ε → Prop) (x : Except ε α) : Prop := ∀ e, x = .error e → p e

theorem failsOnly_ok {p : ε → Prop} (a : α) : FailsOnly p (.ok a : Except ε α) := nofun

theorem failsOnly_error {p : ε → Prop} {e : ε} (h : p e) :
    FailsOnly p (.error e : Except ε α) := by
  rintro _ ⟨⟩
  exact h

theorem FailsOnly.bind {p : ε → Prop} {x : Except ε α} {f : α → Except ε β} (hx : FailsOnly p x)
    (hf : ∀ a, x = .ok a → FailsOnly p (f a)) : FailsOnly p (x >>= f) := by
  cases x with
  | error e => exact failsOnly_error (hx e rfl)
  | ok a => exact hf a rfl

theorem FailsOnly.map {p : ε → Prop} {x : Except ε α} (hx : FailsOnly p x) (f : α → β) :
    FailsOnly p (x.map f) := by
  cases x with
  | error e => exact failsOnly_error (hx e rfl)
  | ok a => exact failsOnly_ok (f a)

theorem FailsOnly.mono {p q : ε → Prop} {x : Except ε α} (hx : FailsOnly p x)
    (h : ∀ e, p e → q e) : FailsOnly q x := fun e he => h e (hx e he)

theorem FailsOnly.mapError {p : ε → Prop} {q : ε' → Prop} {f : ε → ε'} {x : Except ε α}
    (hx : FailsOnly p x) (h : ∀ e, p e → q (f e)) : FailsOnly q (x.mapError f) := by
  cases x with
  | error e => exact failsOnly_error (h e (hx e rfl))
  | ok a => exact failsOnly_ok a

theorem failsOnly_mapError {p : ε' → Prop} {f : ε → ε'} (h : ∀ e, p (f e)) (x : Except ε α) :
    FailsOnly p (x.mapError f) :=
  FailsOnly.mapError (p := fun _ => True) (fun _ _ => trivial) fun e _ => h e

end Except
