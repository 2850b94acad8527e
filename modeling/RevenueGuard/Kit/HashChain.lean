import Mathlib.Tactic.Common

/-
Hash-chained logs. Each entry carries its own hash and the hash of the entry
before it; a log's length and its last hash settle what all of its entries say.
-/
namespace HashChain

variable {A H : Type} (previous hash : A → H)

def Linked : H → List A → Prop
  | _, [] => True
  | h, a :: rest => previous a = h ∧ Linked (hash a) rest

def tip (start : H) (log : List A) : H := log.foldl (fun _ a => hash a) start

variable {previous hash}

theorem tip_append (start : H) (log : List A) (a : A) : tip hash start (log ++ [a]) = hash a := by
  simp [tip]

/-- The last hash is a matter of the hashes alone. -/
theorem tip_congr {log other : List A} (same : log.map hash = other.map hash) (start : H) :
    tip hash start log = tip hash start other := by
  have through : ∀ log : List A, tip hash start log = (log.map hash).foldl (fun _ h => h) start := by
    intro log
    rw [tip, List.foldl_map]
  rw [through, through, same]

/-- Where an equal hash means an equal entry, equal tips of equally long logs mean equal logs. -/
theorem forall₂_of_tip {R : A → A → Prop} {log other : List A} {start start' : H}
    (linked : Linked previous hash start log) (linked' : Linked previous hash start' other)
    (binding : ∀ a ∈ log, ∀ b ∈ other, hash a = hash b → R a b ∧ previous a = previous b)
    (length : log.length = other.length) (tips : tip hash start log = tip hash start' other) :
    List.Forall₂ R log other ∧ start = start' := by
  induction log generalizing start start' other with
  | nil =>
    cases other with
    | nil => exact ⟨.nil, tips⟩
    | cons b rest' => cases length
  | cons a rest ih =>
    cases other with
    | nil => cases length
    | cons b rest' =>
      obtain ⟨from', linked⟩ := linked
      obtain ⟨from'', linked'⟩ := linked'
      have deeper : ∀ x ∈ rest, ∀ y ∈ rest', hash x = hash y → R x y ∧ previous x = previous y := by
        intro x hx y hy
        exact binding x (.tail _ hx) y (.tail _ hy)
      obtain ⟨same, hashes⟩ := ih linked linked' deeper (Nat.succ.inj length) tips
      obtain ⟨here, before⟩ := binding a (.head _) b (.head _) hashes
      refine ⟨.cons here same, ?_⟩
      rw [← from', ← from'', before]

end HashChain
