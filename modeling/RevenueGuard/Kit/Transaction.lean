import Mathlib.Tactic.Common

/-
Transactions over a store: a computation reads and writes a private copy and
either commits it with a result or fails, which leaves the store as it was.
The rules below take a committed run apart step by step.
-/

def Tx (S E A : Type) : Type := S → Except E (A × S)

namespace Tx

variable {S E A B C : Type}

def run (x : Tx S E A) (s : S) : Except E (A × S) := x s

instance : Monad (Tx S E) where
  pure a := fun s => .ok (a, s)
  bind x f := fun s => match x s with
    | .ok (a, t) => (f a).run t
    | .error e => .error e

def read (f : S → A) : Tx S E A := fun s => .ok (f s, s)

def write (f : S → S) : Tx S E Unit := fun s => .ok ((), f s)

def fail (e : E) : Tx S E A := fun _ => .error e

def check (c : Prop) [Decidable c] (e : E) : Tx S E Unit := fun s => if c then .ok ((), s) else .error e

def found (o : Option A) (e : E) : Tx S E A := fun s => match o with
  | some a => .ok (a, s)
  | none => .error e

def lift (x : Except E A) : Tx S E A := fun s => x.map fun a => (a, s)

def each (f : A → Tx S E B) : List A → Tx S E (List B)
  | [] => pure []
  | a :: rest => do
    let b ← f a
    let bs ← each f rest
    pure (b :: bs)

/-- What a caller sees of the store afterwards: the commit, or the store as it was. -/
def commit (x : Tx S E A) (s : S) : S := match x.run s with
  | .ok (_, t) => t
  | .error _ => s

theorem run_bind (x : Tx S E A) (f : A → Tx S E B) (s : S) :
    (x >>= f).run s = match x.run s with
      | .ok (a, t) => (f a).run t
      | .error e => .error e := rfl

theorem bind_ok {x : Tx S E A} {f : A → Tx S E B} {s u : S} {b : B} (h : (x >>= f).run s = .ok (b, u)) :
    ∃ a t, x.run s = .ok (a, t) ∧ (f a).run t = .ok (b, u) := by
  rw [run_bind] at h
  split at h
  · rename_i a t hx
    exact ⟨a, t, hx, h⟩
  · cases h

theorem bind_of_ok {x : Tx S E A} {f : A → Tx S E B} {s t : S} {a : A} (h : x.run s = .ok (a, t)) :
    (x >>= f).run s = (f a).run t := by rw [run_bind, h]

theorem bind_of_error {x : Tx S E A} {f : A → Tx S E B} {s : S} {e : E} (h : x.run s = .error e) :
    (x >>= f).run s = .error e := by rw [run_bind, h]

/-- A conditional before a common continuation is a conditional first step. -/
theorem ite_bind (c : Prop) [Decidable c] (x y : Tx S E A) (f : A → Tx S E B) :
    (if c then x >>= f else y >>= f) = (if c then x else y) >>= f := by
  split <;> rfl

@[simp] theorem run_pure (a : A) (s : S) : (pure a : Tx S E A).run s = .ok (a, s) := rfl

@[simp] theorem run_read (f : S → A) (s : S) : (read f : Tx S E A).run s = .ok (f s, s) := rfl

@[simp] theorem run_write (f : S → S) (s : S) : (write f : Tx S E Unit).run s = .ok ((), f s) := rfl

@[simp] theorem run_fail (e : E) (s : S) : (fail e : Tx S E A).run s = .error e := rfl

theorem run_check {c : Prop} [Decidable c] (e : E) (s : S) :
    (check c e : Tx S E Unit).run s = if c then .ok ((), s) else .error e := rfl

theorem pure_ok {a b : A} {s t : S} (h : (pure a : Tx S E A).run s = .ok (b, t)) : a = b ∧ s = t := by
  cases h
  exact ⟨rfl, rfl⟩

theorem read_ok {f : S → A} {s t : S} {a : A} (h : (read f : Tx S E A).run s = .ok (a, t)) :
    a = f s ∧ s = t := by
  cases h
  exact ⟨rfl, rfl⟩

theorem write_ok {f : S → S} {s t : S} {u : Unit} (h : (write f : Tx S E Unit).run s = .ok (u, t)) :
    t = f s := by
  cases h
  rfl

theorem check_ok {c : Prop} [Decidable c] {e : E} {s t : S} {u : Unit}
    (h : (check c e : Tx S E Unit).run s = .ok (u, t)) : c ∧ s = t := by
  rw [run_check] at h
  split at h
  · cases h
    exact ⟨by assumption, rfl⟩
  · cases h

theorem check_of {c : Prop} [Decidable c] {e : E} {s : S} (h : c) :
    (check c e : Tx S E Unit).run s = .ok ((), s) := by rw [run_check, if_pos h]

theorem check_fails {c : Prop} [Decidable c] {e : E} {s : S} (h : ¬ c) : (check c e : Tx S E Unit).run s = .error e := by
  rw [run_check, if_neg h]

theorem found_ok {o : Option A} {e : E} {s t : S} {a : A} (h : (found o e : Tx S E A).run s = .ok (a, t)) :
    o = some a ∧ s = t := by
  cases o with
  | none => cases h
  | some b => cases h; exact ⟨rfl, rfl⟩

@[simp] theorem run_found_some (a : A) (e : E) (s : S) :
    (found (some a) e : Tx S E A).run s = .ok (a, s) := rfl

@[simp] theorem run_found_none (e : E) (s : S) : (found none e : Tx S E A).run s = .error e := rfl

theorem lift_ok {x : Except E A} {s t : S} {a : A} (h : (lift x : Tx S E A).run s = .ok (a, t)) :
    x = .ok a ∧ s = t := by
  cases x with
  | error e => cases h
  | ok b => cases h; exact ⟨rfl, rfl⟩

@[simp] theorem run_lift_ok (a : A) (s : S) : (lift (.ok a) : Tx S E A).run s = .ok (a, s) := rfl

@[simp] theorem run_lift_error (e : E) (s : S) : (lift (.error e) : Tx S E A).run s = .error e := rfl

theorem ok_of_map {x : Tx S E A} {s : S} {g : S → B} {b : B} (h : (x.run s).map (fun out => g out.2) = .ok b) :
    ∃ a t, x.run s = .ok (a, t) ∧ g t = b := by
  cases ran : x.run s with
  | error e => rw [ran] at h; cases h
  | ok out =>
    rw [ran] at h
    cases h
    exact ⟨out.1, out.2, rfl, rfl⟩

theorem commit_of_ok {x : Tx S E A} {s t : S} {a : A} (h : x.run s = .ok (a, t)) : x.commit s = t := by
  simp [commit, h]

theorem commit_of_error {x : Tx S E A} {s : S} {e : E} (h : x.run s = .error e) : x.commit s = s := by
  simp [commit, h]

/-- What holds of every committed run, and of a store left as it was, holds after a commit. -/
theorem commit_relates {x : Tx S E A} {R : S → S → Prop} {s : S} (failed : R s s)
    (committed : ∀ {a t}, x.run s = .ok (a, t) → R s t) : R s (x.commit s) := by
  cases ran : x.run s with
  | error e =>
    rw [commit_of_error ran]
    exact failed
  | ok result =>
    rw [commit_of_ok ran]
    exact committed ran

/-- A step relation that holds of every committed run of `x`. -/
def Keeps (x : Tx S E A) (R : S → S → Prop) : Prop := ∀ s a t, x.run s = .ok (a, t) → R s t

theorem Keeps.mono {x : Tx S E A} {R R' : S → S → Prop} (keeps : Keeps x R) (weaker : ∀ {s t}, R s t → R' s t) :
    Keeps x R' := fun _ _ _ h => weaker (keeps _ _ _ h)

theorem keeps_bind {x : Tx S E A} {f : A → Tx S E B} {R : S → S → Prop}
    (compose : ∀ {s t u}, R s t → R t u → R s u) (hx : Keeps x R) (hf : ∀ a, Keeps (f a) R) :
    Keeps (x >>= f) R := by
  intro s b u h
  obtain ⟨a, t, first, second⟩ := bind_ok h
  exact compose (hx _ _ _ first) (hf a _ _ _ second)

theorem keeps_each {f : A → Tx S E B} {R : S → S → Prop} (refl : ∀ s, R s s)
    (compose : ∀ {s t u}, R s t → R t u → R s u) {rows : List A} (body : ∀ a ∈ rows, Keeps (f a) R) :
    Keeps (each f rows) R := by
  induction rows with
  | nil =>
    intro s a t h
    obtain ⟨-, rfl⟩ := pure_ok h
    exact refl _
  | cons a rest ih =>
    intro s b t h
    obtain ⟨c, u, first, h⟩ := bind_ok h
    obtain ⟨cs, v, second, h⟩ := bind_ok h
    obtain ⟨-, rfl⟩ := pure_ok h
    exact compose (body a List.mem_cons_self _ _ _ first)
      (ih (fun b member => body b (List.mem_cons_of_mem _ member)) _ _ _ second)

/-- Relations that a run of several steps inherits from its steps. -/
structure Closed (R : S → S → Prop) : Prop where
  refl : ∀ s, R s s
  trans : ∀ {s t u}, R s t → R t u → R s u

namespace Closed

variable {R : S → S → Prop} (closed : Closed R)
include closed

theorem pure (a : A) : Keeps (Pure.pure a : Tx S E A) R := by
  intro s b t h
  obtain ⟨-, rfl⟩ := pure_ok h
  exact closed.refl _

theorem read (f : S → A) : Keeps (Tx.read f : Tx S E A) R := by
  intro s a t h
  obtain ⟨-, rfl⟩ := read_ok h
  exact closed.refl _

theorem check (c : Prop) [Decidable c] (e : E) : Keeps (Tx.check c e : Tx S E Unit) R := by
  intro s u t h
  obtain ⟨-, rfl⟩ := check_ok h
  exact closed.refl _

theorem found (o : Option A) (e : E) : Keeps (Tx.found o e : Tx S E A) R := by
  intro s a t h
  obtain ⟨-, rfl⟩ := found_ok h
  exact closed.refl _

theorem lift (x : Except E A) : Keeps (Tx.lift x : Tx S E A) R := by
  intro s a t h
  obtain ⟨-, rfl⟩ := lift_ok h
  exact closed.refl _

omit closed in
theorem write {f : S → S} (step : ∀ s, R s (f s)) : Keeps (Tx.write f : Tx S E Unit) R := by
  intro s u t h
  rw [write_ok h]
  exact step s

theorem bind {x : Tx S E A} {f : A → Tx S E B} (hx : Keeps x R) (hf : ∀ a, Keeps (f a) R) : Keeps (x >>= f) R :=
  keeps_bind closed.trans hx hf

theorem each {f : A → Tx S E B} (body : ∀ a, Keeps (f a) R) (rows : List A) : Keeps (Tx.each f rows) R :=
  keeps_each closed.refl closed.trans fun a _ => body a

theorem each_mem {f : A → Tx S E B} {rows : List A} (body : ∀ a ∈ rows, Keeps (f a) R) : Keeps (Tx.each f rows) R :=
  keeps_each closed.refl closed.trans body

theorem bind_found {o : Option A} {e : E} {f : A → Tx S E B} (hf : ∀ a, o = some a → Keeps (f a) R) :
    Keeps (Tx.found o e >>= f) R := by
  intro s b t h
  obtain ⟨a, _, got, h⟩ := bind_ok h
  obtain ⟨found, rfl⟩ := found_ok got
  exact hf a found _ _ _ h

theorem bind_lift {x : Except E A} {f : A → Tx S E B} (hf : ∀ a, x = .ok a → Keeps (f a) R) :
    Keeps (Tx.lift x >>= f) R := by
  intro s b t h
  obtain ⟨a, _, lifted, h⟩ := bind_ok h
  obtain ⟨done, rfl⟩ := lift_ok lifted
  exact hf a done _ _ _ h

end Closed

/-- A loop whose bodies always commit returns their results in order. -/
theorem each_returns {f : A → Tx S E B} {g : A → B} (body : ∀ a s, ∃ t, (f a).run s = .ok (g a, t)) :
    ∀ rows s, ∃ t, (each f rows).run s = .ok (rows.map g, t) := by
  intro rows
  induction rows with
  | nil => exact fun s => ⟨s, rfl⟩
  | cons a rest ih =>
    intro s
    obtain ⟨t, first⟩ := body a s
    obtain ⟨u, second⟩ := ih t
    exact ⟨u, (bind_of_ok first).trans (bind_of_ok second)⟩

/-- `P` of the result and the store, should `x` commit. -/
def After (x : Tx S E A) (P : A → S → Prop) (s : S) : Prop := ∀ a t, x.run s = .ok (a, t) → P a t

instance (x : Tx S E A) (P : A → S → Prop) [∀ a t, Decidable (P a t)] (s : S) : Decidable (After x P s) :=
  match h : x.run s with
  | .ok (a, t) => decidable_of_iff (P a t) ⟨fun p _ _ e => by rw [h] at e; cases e; exact p, fun p => p a t h⟩
  | .error _ => isTrue fun _ _ e => by rw [h] at e; cases e

/-- `P` holds at each body of the loop, in the store that body starts from. -/
def Along (f : A → Tx S E B) (P : A → S → Prop) : List A → S → Prop
  | [], _ => True
  | a :: rest, s => P a s ∧ After (f a) (fun _ t => Along f P rest t) s

instance decidableAlong (f : A → Tx S E B) (P : A → S → Prop) [∀ a t, Decidable (P a t)] :
    ∀ rows s, Decidable (Along f P rows s)
  | [], _ => isTrue trivial
  | a :: rest, s =>
    have : ∀ t, Decidable (Along f P rest t) := decidableAlong f P rest
    inferInstanceAs (Decidable (P a s ∧ After (f a) (fun _ t => Along f P rest t) s))

theorem along_of {f : A → Tx S E B} {P : A → S → Prop} (all : ∀ a s, P a s) : ∀ rows s, Along f P rows s
  | [], _ => trivial
  | a :: rest, s => ⟨all a s, fun _ t _ => along_of all rest t⟩

/-- A fact about every body that each of them keeps holds where they start. -/
theorem Along.and {f : A → Tx S E B} {P Q : A → S → Prop}
    (keeps : ∀ {a s t b}, P a s → Q a s → (f a).run s = .ok (b, t) → ∀ {c}, Q c s → Q c t) :
    ∀ {rows s}, (∀ a ∈ rows, Q a s) → Along f P rows s → Along f (fun a s => P a s ∧ Q a s) rows s := by
  intro rows
  induction rows with
  | nil => intro s _ _; trivial
  | cons a rest ih =>
    intro s start along
    have here := start a List.mem_cons_self
    refine ⟨⟨along.1, here⟩, fun b t ran => ih (fun c member => ?_) (along.2 b t ran)⟩
    exact keeps along.1 here ran (start c (List.mem_cons_of_mem _ member))

theorem each_along {f : A → Tx S E B} {P : A → S → Prop} {R : S → S → Prop} (refl : ∀ s, R s s)
    (compose : ∀ {s t u}, R s t → R t u → R s u)
    (body : ∀ {a s t b}, P a s → (f a).run s = .ok (b, t) → R s t) :
    ∀ {rows s t bs}, Along f P rows s → (each f rows).run s = .ok (bs, t) → R s t := by
  intro rows
  induction rows with
  | nil =>
    intro s t bs _ h
    obtain ⟨-, rfl⟩ := pure_ok h
    exact refl _
  | cons a rest ih =>
    intro s t bs along h
    obtain ⟨c, u, first, h⟩ := bind_ok h
    obtain ⟨cs, v, second, h⟩ := bind_ok h
    obtain ⟨-, rfl⟩ := pure_ok h
    exact compose (body along.1 first) (ih (along.2 c u first) second)

end Tx
