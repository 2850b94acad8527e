import Mathlib.Tactic.Common

/-
A register that each write may replace. `yields current next` tells whether the
stored value gives way; over a total preorder the register ends with a leader of
the writes, and delivery order shows exactly when two leaders differ.
-/
namespace Register

variable {R : Type} {yields : R → R → Bool} {current : Option R} {writes : List R} {r w : R}

structure Ranked (yields : R → R → Bool) : Prop where
  total : ∀ a b, yields a b = true ∨ yields b a = true
  trans : ∀ {a b c}, yields a b = true → yields b c = true → yields a c = true

theorem Ranked.refl (ranked : Ranked yields) (r : R) : yields r r = true := (ranked.total r r).elim id id

theorem Ranked.of_not (ranked : Ranked yields) {a b : R} (h : yields a b ≠ true) : yields b a = true :=
  (ranked.total a b).resolve_left h

def put (yields : R → R → Bool) (current : Option R) (r : R) : Option R := match current with
  | none => some r
  | some c => if yields c r then some r else some c

def puts (yields : R → R → Bool) (current : Option R) (writes : List R) : Option R := writes.foldl (put yields) current

/-- Everything the register has held or been offered gives way to `w`. -/
def Leads (yields : R → R → Bool) (current : Option R) (writes : List R) (w : R) : Prop :=
  (∀ c ∈ current, yields c w = true) ∧ ∀ r ∈ writes, yields r w = true

instance (yields : R → R → Bool) (current : Option R) (writes : List R) (w : R) :
    Decidable (Leads yields current writes w) := inferInstanceAs (Decidable (_ ∧ _))

theorem put_advances (ranked : Ranked yields) (current : Option R) (r : R) :
    ∃ w, put yields current r = some w ∧ ∀ c ∈ current, yields c w = true := by
  cases current with
  | none => exact ⟨r, rfl, fun _ none => by cases none⟩
  | some c =>
    by_cases gives : yields c r = true
    · exact ⟨r, if_pos gives, fun _ same => by cases same; exact gives⟩
    · exact ⟨c, if_neg gives, fun _ same => by cases same; exact ranked.refl c⟩

/-- Either no write was taken, or the register holds a leading write. -/
theorem puts_cases (ranked : Ranked yields) (writes : List R) (current : Option R) :
    (puts yields current writes = current ∧ ∀ r ∈ writes, ∃ c ∈ current, yields c r ≠ true) ∨
      ∃ w ∈ writes, puts yields current writes = some w ∧ Leads yields current writes w := by
  induction writes generalizing current with
  | nil => exact .inl ⟨rfl, fun _ none => by cases none⟩
  | cons r rest ih =>
    have taken : (∀ c ∈ current, yields c r = true) → put yields current r = some r →
        ∃ w ∈ r :: rest, puts yields current (r :: rest) = some w ∧ Leads yields current (r :: rest) w := by
      intro gives now
      have next : puts yields current (r :: rest) = puts yields (some r) rest := by rw [puts, List.foldl_cons, now]; rfl
      rcases ih (some r) with ⟨stays, refused⟩ | ⟨w, member, holds, held, leads⟩
      · refine ⟨r, List.mem_cons_self, next.trans stays, gives, fun x member => ?_⟩
        rcases List.mem_cons.mp member with rfl | later
        · exact ranked.refl x
        · obtain ⟨c, same, refuses⟩ := refused x later
          cases same
          exact ranked.of_not refuses
      · have before : yields r w = true := held r rfl
        refine ⟨w, List.mem_cons_of_mem r member, next.trans holds, fun c old => ranked.trans (gives c old) before, ?_⟩
        intro x here
        rcases List.mem_cons.mp here with rfl | later
        · exact before
        · exact leads x later
    cases current with
    | none => exact .inr (taken (fun _ none => by cases none) rfl)
    | some c =>
      by_cases gives : yields c r = true
      · exact .inr (taken (fun _ same => by cases same; exact gives) (if_pos gives))
      · have next : puts yields (some c) (r :: rest) = puts yields (some c) rest := by
          rw [puts, List.foldl_cons, put, if_neg gives]
          rfl
        rcases ih (some c) with ⟨stays, refused⟩ | ⟨w, member, holds, held, leads⟩
        · refine .inl ⟨next.trans stays, fun x here => ?_⟩
          rcases List.mem_cons.mp here with rfl | later
          · exact ⟨c, rfl, gives⟩
          · exact refused x later
        · refine .inr ⟨w, List.mem_cons_of_mem r member, next.trans holds, held, fun x here => ?_⟩
          rcases List.mem_cons.mp here with rfl | later
          · exact ranked.trans (ranked.of_not gives) (held c rfl)
          · exact leads x later

theorem puts_append (yields : R → R → Bool) (current : Option R) (writes : List R) (r : R) :
    puts yields current (writes ++ [r]) = put yields (puts yields current writes) r := by
  rw [puts, List.foldl_append]
  rfl

/-- A leading write that comes last is the one that stays. -/
theorem puts_last (ranked : Ranked yields) (leads : Leads yields current writes w) :
    puts yields current (writes ++ [w]) = some w := by
  rw [puts_append]
  rcases puts_cases ranked writes current with ⟨stays, -⟩ | ⟨v, member, holds, -⟩
  · rw [stays]
    cases current with
    | none => rfl
    | some c => exact if_pos (leads.1 c rfl)
  · rw [holds]
    exact if_pos (leads.2 v member)

/-- Two deliveries of the same writes: any order, any number of times. -/
def SameWrites (xs ys : List R) : Prop := ∀ r, r ∈ xs ↔ r ∈ ys

theorem Leads.same {xs ys : List R} (same : SameWrites xs ys) (h : Leads yields current xs w) : Leads yields current ys w :=
  ⟨h.1, fun r member => h.2 r ((same r).mpr member)⟩

/-- Delivery does not show in the register exactly when the writes have one leader at most. -/
theorem converges_iff (ranked : Ranked yields) (current : Option R) (writes : List R) :
    (∀ xs ys, SameWrites xs writes → SameWrites ys writes → puts yields current xs = puts yields current ys) ↔
      ∀ a ∈ writes, ∀ b ∈ writes, Leads yields current writes a → Leads yields current writes b → a = b := by
  constructor
  · intro converges a ha b hb aLeads bLeads
    have again : ∀ w ∈ writes, SameWrites (writes ++ [w]) writes := fun w member r => by
      rw [List.mem_append, List.mem_singleton]
      exact ⟨fun h => h.elim id fun same => same ▸ member, .inl⟩
    have ends := converges _ _ (again a ha) (again b hb)
    rw [puts_last ranked aLeads, puts_last ranked bLeads] at ends
    exact Option.some.inj ends
  · intro unique xs ys hx hy
    have kept : ∀ zs, SameWrites zs writes → (∀ r ∈ writes, ∃ c ∈ current, yields c r ≠ true) →
        puts yields current zs = current := by
      intro zs same refused
      rcases puts_cases ranked zs current with ⟨stays, -⟩ | ⟨w, member, -, leads⟩
      · exact stays
      · obtain ⟨c, here, refuses⟩ := refused w ((same w).mp member)
        exact absurd (leads.1 c here) refuses
    rcases puts_cases ranked xs current with ⟨stays, refused⟩ | ⟨w, member, holds, leads⟩
    · rw [stays, kept ys hy fun r member => refused r ((hx r).mpr member)]
    rcases puts_cases ranked ys current with ⟨stays, refused⟩ | ⟨v, member', holds', leads'⟩
    · rw [stays, kept xs hx fun r member => refused r ((hy r).mpr member)]
    rw [holds, holds', unique w ((hx w).mp member) v ((hy v).mp member') (leads.same hx) (leads'.same hy)]

end Register
