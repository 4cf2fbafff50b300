/-!
# Fallible methods

A `Fallible` method takes `&mut self` and returns a `Result`: it answers from a state,
and it leaves a state also when it fails.  A failure ends the method, with the
changes that were made up to there.

There are two groups of rules.

* A success is taken apart from the front: `bind_ok` gives the success of the
  first part and the success of the rest, and each primitive has its own lemma
  (`bind_failIf_ok`, `bind_okOr_ok` and the like).
* A failure is bounded.  `Within R x` says that `x` moves along the relation `R`
  whatever it answers, and `FailsWithin R x` says so of its failures only.  The
  changes before a failing check are the ones of the parts before it, so
  `FailsWithin.bind` asks the first part to be within `R` and the rest to fail
  within it.
-/

namespace LatencyDesk.Lib

/-- A method on states `σ` with errors `ε` and results `α`. -/
def Fallible (σ ε α : Type) := σ → Except ε α × σ

namespace Fallible

variable {σ ε α β : Type}

instance : Monad (Fallible σ ε) where
  pure a := fun s => (.ok a, s)
  bind x f := fun s =>
    match x s with
    | (.ok a, after) => f a after
    | (.error error, after) => (.error error, after)

def get : Fallible σ ε σ := fun s => (.ok s, s)

def modify (f : σ → σ) : Fallible σ ε Unit := fun s => (.ok (), f s)

/-- `result?` of a computation that does not see the state. -/
def ofExcept (result : Except ε α) : Fallible σ ε α := fun s => (result, s)

/-- `if p { return Err(error) }`. -/
def failIf (p : Prop) [Decidable p] (error : ε) : Fallible σ ε Unit :=
  ofExcept (if p then .error error else .ok ())

/-- `value.ok_or(error)?`. -/
def okOr (value : Option α) (error : ε) : Fallible σ ε α :=
  ofExcept (match value with
    | none => .error error
    | some a => .ok a)

/-! ## Successes -/

variable {x : Fallible σ ε α} {f : α → Fallible σ ε β} {s t : σ} {a : α} {b : β} {g : α → β}

/-- A sequence stops with the first error, or goes on with the value. -/
theorem bind_eq {r : Except ε β × σ} : (x >>= f) s = r ↔
    (∃ error, x s = (.error error, r.2) ∧ r.1 = .error error) ∨
      ∃ a mid, x s = (.ok a, mid) ∧ f a mid = r := by
  show (match x s with
    | (.ok a, after) => f a after
    | (.error error, after) => (.error error, after)) = r ↔ _
  rcases x s with ⟨error | a, mid⟩
  · rcases r with ⟨_, _⟩
    grind
  · grind

theorem bind_ok :
    (x >>= f) s = (.ok b, t) ↔ ∃ a mid, x s = (.ok a, mid) ∧ f a mid = (.ok b, t) := by
  simp [bind_eq]

theorem pure_ok {a' : α} : (pure a : Fallible σ ε α) s = (.ok a', t) ↔ a' = a ∧ t = s := by
  show ((.ok a, s) : Except ε α × σ) = _ ↔ _
  simp [eq_comm]

theorem map_ok : (g <$> x) s = (.ok b, t) ↔ ∃ a, x s = (.ok a, t) ∧ g a = b := by
  show (x >>= fun a => pure (g a)) s = _ ↔ _
  rw [bind_ok]
  constructor
  · intro ⟨a, mid, hx, hpure⟩
    obtain ⟨hb, ht⟩ := pure_ok.1 hpure
    exact ⟨a, by rw [ht]; exact hx, hb.symm⟩
  · intro ⟨a, hx, hb⟩
    exact ⟨a, t, hx, pure_ok.2 ⟨hb.symm, rfl⟩⟩

theorem modify_ok {f : σ → σ} {a : Unit} :
    (modify f : Fallible σ ε Unit) s = (.ok a, t) ↔ t = f s := by
  simp [modify, eq_comm]

variable {result : Except ε α}

theorem ofExcept_ok :
    (ofExcept result : Fallible σ ε α) s = (.ok a, t) ↔ result = .ok a ∧ t = s := by
  simp [ofExcept, eq_comm]

variable {value : Option α} {error : ε}

/-! A primitive at the front of a method leaves the state, so it is taken off without one. -/

theorem bind_get_ok {f : σ → Fallible σ ε β} :
    (get >>= f) s = (.ok b, t) ↔ f s s = (.ok b, t) := Iff.rfl

theorem bind_modify_ok {g : σ → σ} {f : Unit → Fallible σ ε β} :
    (modify g >>= f) s = (.ok b, t) ↔ f () (g s) = (.ok b, t) := Iff.rfl

theorem bind_ofExcept_ok :
    (ofExcept result >>= f) s = (.ok b, t) ↔ ∃ a, result = .ok a ∧ f a s = (.ok b, t) := by
  rw [bind_ok]
  constructor
  · intro ⟨a, mid, hres, h⟩
    obtain ⟨ha, rfl⟩ := ofExcept_ok.1 hres
    exact ⟨a, ha, h⟩
  · intro ⟨a, ha, h⟩
    exact ⟨a, s, ofExcept_ok.2 ⟨ha, rfl⟩, h⟩

theorem bind_okOr_ok :
    (okOr value error >>= f) s = (.ok b, t) ↔ ∃ a, value = some a ∧ f a s = (.ok b, t) := by
  unfold okOr
  rw [bind_ofExcept_ok]
  cases value <;> simp

theorem bind_failIf_ok {p : Prop} [Decidable p] {f : Unit → Fallible σ ε β} :
    (failIf p error >>= f) s = (.ok b, t) ↔ ¬p ∧ f () s = (.ok b, t) := by
  rw [failIf, bind_ofExcept_ok]
  constructor
  · intro ⟨_, hres, h⟩
    refine ⟨fun hp => ?_, h⟩
    rw [if_pos hp] at hres
    cases hres
  · intro ⟨hp, h⟩
    exact ⟨(), if_neg hp, h⟩

/-! ## Failures -/

variable {R : σ → σ → Prop}

/-- The method moves along the relation. -/
def Within (R : σ → σ → Prop) (x : Fallible σ ε α) : Prop := ∀ s, R s (x s).2

/-- The failures of the method move along the relation. -/
def FailsWithin (R : σ → σ → Prop) (x : Fallible σ ε α) : Prop :=
  ∀ s error t, x s = (.error error, t) → R s t

section

variable [Std.Refl R]

theorem Within.ofExcept : Within R (Fallible.ofExcept result : Fallible σ ε α) :=
  Std.Refl.refl

theorem Within.failIf {p : Prop} [Decidable p] : Within R (Fallible.failIf p error) :=
  Std.Refl.refl

theorem Within.okOr : Within R (Fallible.okOr value error) :=
  Std.Refl.refl

theorem Within.get : Within R (Fallible.get : Fallible σ ε σ) := Std.Refl.refl

theorem Within.pure : Within R (Pure.pure a : Fallible σ ε α) := Std.Refl.refl

end

theorem Within.bind [Trans R R R] (hx : Within R x) (hf : ∀ a, Within R (f a)) :
    Within R (x >>= f) := by
  intro s
  have hfirst := hx s
  show R s (match x s with
    | (.ok a, after) => f a after
    | (.error error, after) => (.error error, after)).2
  rcases hs : x s with ⟨_ | a, mid⟩ <;> rw [hs] at hfirst
  · exact hfirst
  · exact Trans.trans hfirst (hf a mid)

theorem Within.apply (hx : Within R x) (h : x s = (result, t)) : R s t := by
  have hs := hx s
  rwa [h] at hs

theorem Within.fails (hx : Within R x) : FailsWithin R x := fun _ _ _ h => hx.apply h

/-- A method that does not fail. -/
theorem FailsWithin.modify {f : σ → σ} : FailsWithin R (Fallible.modify f : Fallible σ ε Unit) := by
  exact nofun

theorem bind_error : (x >>= f) s = (.error error, t) ↔
    x s = (.error error, t) ∨ ∃ a mid, x s = (.ok a, mid) ∧ f a mid = (.error error, t) := by
  simp [bind_eq]

theorem FailsWithin.bind [Trans R R R] (hx : Within R x) (hf : ∀ a, FailsWithin R (f a)) :
    FailsWithin R (x >>= f) := by
  intro s error t h
  have hfirst := hx s
  rcases bind_error.1 h with hs | ⟨a, mid, hs, h⟩ <;> rw [hs] at hfirst
  · exact hfirst
  · exact Trans.trans hfirst (hf a mid error t h)

/-- Nothing fails after the first part. -/
theorem FailsWithin.bind_of_total (hx : FailsWithin R x)
    (hf : ∀ a s error t, f a s ≠ (.error error, t)) : FailsWithin R (x >>= f) := by
  intro s error t h
  rcases bind_error.1 h with hs | ⟨a, mid, _, h⟩
  · exact hx s error t hs
  · exact absurd h (hf a mid error t)

theorem FailsWithin.map (hx : FailsWithin R x) : FailsWithin R (g <$> x) :=
  FailsWithin.bind_of_total hx nofun

end Fallible

end LatencyDesk.Lib
