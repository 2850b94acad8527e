import RevenueGuard.Kit.Transaction

/-
A part of a larger store, and transactions over the part as steps of transactions
over the whole: they commit and fail together, and other parts stay as they are.
-/

structure Lens (S T : Type) where
  get : S → T
  set : T → S → S
  get_set : ∀ t s, get (set t s) = t

namespace Tx

variable {S T U E E' A : Type}

/-- `x` on one part, with its error as the whole reports it. -/
def on (l : Lens S T) (report : E → E') (x : Tx T E A) : Tx S E' A := fun s => match x.run (l.get s) with
  | .ok (a, t) => .ok (a, l.set t s)
  | .error e => .error (report e)

variable {l : Lens S T} {report : E → E'} {x : Tx T E A} {s s' : S} {t : T} {a : A} {e : E} {e' : E'}

theorem on_ok (h : (on l report x).run s = .ok (a, s')) : ∃ t, x.run (l.get s) = .ok (a, t) ∧ s' = l.set t s := by
  cases ran : x.run (l.get s) with
  | error e =>
    simp only [Tx.run] at h ran
    simp only [on, Tx.run, ran] at h
    cases h
  | ok out =>
    obtain ⟨b, t⟩ := out
    simp only [Tx.run] at h ran
    simp only [on, Tx.run, ran] at h
    cases h
    exact ⟨t, rfl, rfl⟩

theorem on_of_ok (h : x.run (l.get s) = .ok (a, t)) : (on l report x).run s = .ok (a, l.set t s) := by
  simp only [Tx.run] at h
  simp only [on, Tx.run, h]

theorem on_of_error (h : x.run (l.get s) = .error e) : (on l report x).run s = .error (report e) := by
  simp only [Tx.run] at h
  simp only [on, Tx.run, h]

/-- What the part's transactions keep of the part, they keep of the whole. -/
theorem Keeps.on {R : T → T → Prop} {Q : S → S → Prop} (keeps : Keeps x R)
    (lifts : ∀ {s t}, R (l.get s) t → Q s (l.set t s)) : Keeps (on l report x) Q := by
  intro s a s' h
  obtain ⟨t, ran, rfl⟩ := on_ok h
  exact lifts (keeps _ _ _ ran)

end Tx
