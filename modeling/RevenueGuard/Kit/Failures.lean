import RevenueGuard.Kit.Transaction

/-
How a transaction can fail: a predicate of all its errors, built up like the
transaction itself.
-/
namespace Tx

variable {S E A B : Type}

/-- Every error of a pure step satisfies `P`. -/
def Throws (x : Except E A) (P : E → Prop) : Prop := ∀ e, x = .error e → P e

theorem throws_ok (a : A) {P : E → Prop} : Throws (.ok a) P := by
  intro e h
  cases h

theorem throws_error {e : E} {P : E → Prop} (bad : P e) : Throws (.error e : Except E A) P := by
  intro e' h
  cases h
  exact bad

theorem throws_bind {x : Except E A} {f : A → Except E B} {P : E → Prop} (hx : Throws x P) (hf : ∀ a, Throws (f a) P) :
    Throws (x >>= f) P := by
  intro e h
  cases x with
  | error e' =>
    cases h
    exact hx e rfl
  | ok a => exact hf a e h

theorem ok_of_bind {x : Except E A} {f : A → Except E B} {b : B} (h : (x >>= f) = .ok b) :
    ∃ a, x = .ok a ∧ f a = .ok b := by
  cases x with
  | error e => cases h
  | ok a => exact ⟨a, rfl, h⟩

/-- Every failure of `x`, wherever it starts, satisfies `P`. -/
def Fails (x : Tx S E A) (P : E → Prop) : Prop := ∀ s e, x.run s = .error e → P e

theorem bind_error {x : Tx S E A} {f : A → Tx S E B} {s : S} {e : E} (h : (x >>= f).run s = .error e) :
    x.run s = .error e ∨ ∃ a t, x.run s = .ok (a, t) ∧ (f a).run t = .error e := by
  rw [run_bind] at h
  cases ran : x.run s with
  | error e' =>
    rw [ran] at h
    cases h
    exact .inl rfl
  | ok result =>
    rw [ran] at h
    exact .inr ⟨result.1, result.2, rfl, h⟩

namespace Fails

variable {P : E → Prop}

theorem pure (a : A) : Fails (Pure.pure a : Tx S E A) P := by
  intro s e h
  cases h

theorem read (f : S → A) : Fails (Tx.read f : Tx S E A) P := by
  intro s e h
  cases h

theorem write (f : S → S) : Fails (Tx.write f : Tx S E Unit) P := by
  intro s e h
  cases h

theorem check (c : Prop) [Decidable c] {e : E} (bad : P e) : Fails (Tx.check c e : Tx S E Unit) P := by
  intro s e' h
  rw [run_check] at h
  split at h
  · cases h
  · cases h
    exact bad

theorem found (o : Option A) {e : E} (bad : P e) : Fails (Tx.found o e : Tx S E A) P := by
  intro s e' h
  cases o with
  | some a => cases h
  | none =>
    cases h
    exact bad

theorem lift {x : Except E A} (bad : Throws x P) : Fails (Tx.lift x : Tx S E A) P := by
  intro s e h
  cases x with
  | ok a => cases h
  | error e' =>
    cases h
    exact bad e rfl

theorem bind {x : Tx S E A} {f : A → Tx S E B} (hx : Fails x P) (hf : ∀ a, Fails (f a) P) : Fails (x >>= f) P := by
  intro s e h
  rcases bind_error h with first | ⟨a, t, -, second⟩
  · exact hx s e first
  · exact hf a t e second

end Fails

end Tx
