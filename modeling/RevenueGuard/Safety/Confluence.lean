import Mathlib.Data.Int.ConditionallyCompleteOrder
import Mathlib.Data.Prod.Lex
import Mathlib.Data.String.Basic
import Mathlib.Order.Bounds.Basic
import RevenueGuard.Kit.HighWater
import RevenueGuard.Safety.Watermark

/-
Evidence in any order. An event is applied exactly when the provider's own truth
does not outrank it and it lies above the watermark by time, status and id, so
the events of a case lead to one watermark however they are delivered.
-/
namespace RevenueGuard
open HighWater

variable {facts : AuthoritativeFacts} {event : NormalizedEvent} {events order : List NormalizedEvent}

/-- What `order_evidence` compares an event with. -/
structure EvidenceMark where
  occurredAt : Option Instant
  eventId : Option Identifier
  status : Option String
deriving DecidableEq

def NormalizedEvent.evidence (event : NormalizedEvent) : EvidenceMark :=
  ⟨some event.occurredAt, some event.eventId, some (eventStatus event.eventType)⟩

def CaseRow.evidenceMark (row : CaseRow) (m : Identifier) (db : Database) : EvidenceMark :=
  ⟨row.latestEvidenceOccurredAt, row.latestEvidenceEventId,
    (row.latestEvidenceEventId.bind (db.event m)).map fun e => eventStatus e.eventType⟩

def orderedBy (facts : AuthoritativeFacts) (m : EvidenceMark) (event : NormalizedEvent) : EvidenceOrder :=
  orderEvidence event (eventStatus event.eventType) facts m.occurredAt m.eventId m.status

/-- An applied event becomes the watermark. -/
def present (facts : AuthoritativeFacts) (m : EvidenceMark) (event : NormalizedEvent) : EvidenceMark :=
  if (orderedBy facts m event).disposition = .applied then event.evidence else m

def presentAll (facts : AuthoritativeFacts) (m : EvidenceMark) (events : List NormalizedEvent) : EvidenceMark :=
  events.foldl (present facts) m

theorem orderForCase_orderedBy (row : CaseRow) (event : NormalizedEvent) (db : Database) :
    orderForCase row event db = orderedBy (authoritativeFacts event db) (row.evidenceMark event.merchantId db) event := rfl

/-- Time, then rank, then id; a missing time lies below every other, a missing id below every id. -/
abbrev EvidenceKey := WithBot (Int ×ₗ Nat ×ₗ WithBot String)

def idKey : Option Identifier → WithBot String
  | none => ⊥
  | some id => (id.val : WithBot String)

def EvidenceMark.key (m : EvidenceMark) : EvidenceKey :=
  match m.occurredAt with
  | none => ⊥
  | some t => ((toLex (t, toLex (statusRank m.status, idKey m.eventId)) : Int ×ₗ Nat ×ₗ WithBot String) : EvidenceKey)

/-- Not older than the authoritative facts, nor of lower rank at the same time. -/
def AdmittedBy (facts : AuthoritativeFacts) (event : NormalizedEvent) : Prop :=
  ∀ t ∈ facts.providerUpdatedAt,
    t < event.occurredAt ∨ (t = event.occurredAt ∧ statusRank facts.status ≤ event.rank)

instance decidableAdmittedBy (facts : AuthoritativeFacts) (event : NormalizedEvent) : Decidable (AdmittedBy facts event) :=
  inferInstanceAs (Decidable (∀ t ∈ facts.providerUpdatedAt, _))

theorem idKey_lt (id : Option Identifier) (other : Identifier) :
    idKey id < idKey (some other) ↔ ∀ i ∈ id, i.val < other.val := by
  cases id with
  | none => simp [idKey]
  | some i => simp [idKey]

theorem key_lt_unset {m : EvidenceMark} (unset : m.occurredAt = none) : m.key < event.evidence.key := by
  unfold EvidenceMark.key
  rw [unset]
  exact WithBot.bot_lt_coe _

theorem key_lt_iff {m : EvidenceMark} {t : Instant} (set_ : m.occurredAt = some t) :
    m.key < event.evidence.key ↔ t < event.occurredAt ∨ (t = event.occurredAt ∧ (statusRank m.status < event.rank ∨
      (statusRank m.status = event.rank ∧ ∀ i ∈ m.eventId, i.val < event.eventId.val))) := by
  unfold EvidenceMark.key
  rw [set_]
  simp only [NormalizedEvent.evidence, WithBot.coe_lt_coe, Prod.Lex.toLex_lt_toLex, idKey_lt, NormalizedEvent.rank]

theorem admitted_iff (facts : AuthoritativeFacts) (event : NormalizedEvent) : AdmittedBy facts event ↔
    (¬ ∃ t ∈ facts.providerUpdatedAt, event.occurredAt < t) ∧
      ¬ (facts.providerUpdatedAt = some event.occurredAt ∧ event.rank < statusRank facts.status) := by
  unfold AdmittedBy
  cases facts.providerUpdatedAt with
  | none => simp
  | some t =>
    simp only [Option.mem_some_iff, forall_eq', exists_eq_left', Option.some.injEq, not_lt, not_and]
    constructor
    · rintro (before | ⟨same, level⟩)
      · exact ⟨before.le, fun same => absurd same before.ne⟩
      · exact ⟨same.le, fun _ => level⟩
    · rintro ⟨older, level⟩
      rcases older.lt_or_eq with before | same
      · exact .inl before
      · exact .inr ⟨same, level same⟩

theorem above_iff (m : EvidenceMark) (event : NormalizedEvent) : m.key < event.evidence.key ↔
    (¬ ∃ t ∈ m.occurredAt, event.occurredAt < t) ∧
      ¬ (m.occurredAt = some event.occurredAt ∧ event.rank < statusRank m.status) ∧
      ¬ (m.occurredAt = some event.occurredAt ∧ event.rank = statusRank m.status ∧
        ∃ id ∈ m.eventId, event.eventId.val ≤ id.val) := by
  cases at_ : m.occurredAt with
  | none => simp [key_lt_unset at_]
  | some t =>
    rw [key_lt_iff at_]
    simp only [Option.mem_some_iff, exists_eq_left', Option.some.injEq, not_lt, not_and, not_exists, String.not_le]
    constructor
    · rintro (before | ⟨same, lower | ⟨level, newer⟩⟩)
      · exact ⟨before.le, fun same => absurd same before.ne, fun same => absurd same before.ne⟩
      · exact ⟨same.le, fun _ => lower.le, fun _ level => absurd level lower.ne'⟩
      · exact ⟨same.le, fun _ => level.le, fun _ _ => newer⟩
    · rintro ⟨older, level, newer⟩
      rcases older.lt_or_eq with before | same
      · exact .inl before
      · rcases (level same).lt_or_eq with lower | equal
        · exact .inr ⟨same, .inl lower⟩
        · exact .inr ⟨same, .inr ⟨equal, newer same equal.symm⟩⟩

/-- The three comparisons of the source are one comparison of keys, behind the provider's truth. -/
theorem applied_iff (facts : AuthoritativeFacts) (m : EvidenceMark) (event : NormalizedEvent) :
    (orderedBy facts m event).disposition = .applied ↔ AdmittedBy facts event ∧ m.key < event.evidence.key := by
  rw [admitted_iff, above_iff]
  unfold orderedBy orderEvidence
  dsimp only
  split
  · rename_i older
    exact iff_of_false (by simp) fun h => h.1.1 older
  rename_i recent
  split
  · rename_i older
    exact iff_of_false (by simp) fun h => h.2.1 older
  rename_i newer
  split
  · rename_i lower
    exact iff_of_false (by simp) fun h => h.1.2 lower
  rename_i level
  split
  · rename_i lower
    exact iff_of_false (by simp) fun h => h.2.2.1 lower
  rename_i ranked
  split
  · rename_i tied
    exact iff_of_false (by simp) fun h => h.2.2.2 tied
  · rename_i untied
    exact ⟨fun _ => ⟨⟨recent, level⟩, newer, ranked, untied⟩, fun _ => rfl⟩

def evidenceRule (facts : AuthoritativeFacts) : Rule NormalizedEvent EvidenceMark EvidenceKey :=
  { admits := fun event => decide (AdmittedBy facts event), mark := NormalizedEvent.evidence, key := EvidenceMark.key }

theorem present_advance (facts : AuthoritativeFacts) : present facts = advance (evidenceRule facts) := by
  funext m event
  unfold present advance evidenceRule
  simp only [applied_iff, decide_eq_true_eq]

theorem presentAll_advance (facts : AuthoritativeFacts) (m : EvidenceMark) (events : List NormalizedEvent) :
    presentAll facts m events = advanceAll (evidenceRule facts) m events := by
  rw [presentAll, present_advance]
  rfl

theorem evidence_key_id {e f : NormalizedEvent} (same : e.evidence.key = f.evidence.key) : e.eventId = f.eventId := by
  simp only [EvidenceMark.key, NormalizedEvent.evidence, idKey, WithBot.coe_inj, EmbeddingLike.apply_eq_iff_eq,
    Prod.mk.injEq] at same
  exact Subtype.ext same.2.2

/-- The highest of the initial watermark and the admitted events. -/
structure HighestEvidence (facts : AuthoritativeFacts) (initial : EvidenceMark) (events : List NormalizedEvent)
    (final : EvidenceMark) : Prop where
  greatest : IsGreatest {k | k = initial.key ∨ ∃ event ∈ events, AdmittedBy facts event ∧ k = event.evidence.key} final.key
  source : final = initial ∨ ∃ event ∈ events, AdmittedBy facts event ∧ final = event.evidence

theorem presentAll_highest (facts : AuthoritativeFacts) (initial : EvidenceMark) (events : List NormalizedEvent) :
    HighestEvidence facts initial events (presentAll facts initial events) := by
  rw [presentAll_advance]
  have source : advanceAll (evidenceRule facts) initial events = initial ∨
      ∃ event ∈ events, AdmittedBy facts event ∧ advanceAll (evidenceRule facts) initial events = event.evidence := by
    rcases advanceAll_source (evidenceRule facts) initial events with stays | ⟨event, member, admitted, stands, -⟩
    · exact .inl stays
    · exact .inr ⟨event, member, of_decide_eq_true admitted, stands⟩
  refine ⟨⟨?_, ?_⟩, source⟩
  · rcases source with stays | ⟨event, member, admitted, stands⟩
    · exact .inl (by rw [stays])
    · exact .inr ⟨event, member, admitted, by rw [stands]⟩
  · rintro k (rfl | ⟨event, member, admitted, rfl⟩)
    · exact advanceAll_le (evidenceRule facts) initial events
    · exact advanceAll_reaches (evidenceRule facts) initial member (decide_eq_true admitted)

theorem presentAll_perm (facts : AuthoritativeFacts) (initial : EvidenceMark) (distinct : (events.map (·.eventId)).Nodup)
    (perm : order.Perm events) : presentAll facts initial order = presentAll facts initial events := by
  rw [presentAll_advance, presentAll_advance]
  refine (advanceAll_same initial (fun event => perm.symm.mem_iff) fun e he f hf same => ?_).symm
  exact List.inj_on_of_nodup_map distinct he hf (evidence_key_id same)

theorem present_increases (facts : AuthoritativeFacts) (m : EvidenceMark) (event : NormalizedEvent)
    (applied : (orderedBy facts m event).disposition = .applied) : m.key < (present facts m event).key := by
  rw [present, if_pos applied]
  exact ((applied_iff facts m event).mp applied).2

theorem present_again (facts : AuthoritativeFacts) (initial : EvidenceMark) (seen : List NormalizedEvent) :
    ∀ event ∈ seen, present facts (presentAll facts initial seen) event = presentAll facts initial seen := by
  intro event member
  rw [presentAll_advance, present_advance]
  exact advance_again initial member

theorem evidence_confluent (facts : AuthoritativeFacts) (initial : EvidenceMark) (events : List NormalizedEvent)
    (distinct : (events.map (·.eventId)).Nodup) :
    (∀ order : List NormalizedEvent, order.Perm events →
        presentAll facts initial order = presentAll facts initial events) ∧
      HighestEvidence facts initial events (presentAll facts initial events) ∧
      (∀ m event, (orderedBy facts m event).disposition = .applied → m.key < (present facts m event).key) ∧
      ∀ seen, ∀ event ∈ seen, present facts (presentAll facts initial seen) event = presentAll facts initial seen :=
  ⟨fun _ perm => presentAll_perm facts initial distinct perm, presentAll_highest facts initial events,
    present_increases facts, present_again facts initial⟩

/-- Two failures of one payment at the same instant, delivered either way. -/
theorem evidence_confluent_pair : presentAll ⟨none, none, none⟩ ⟨none, none, none⟩
      [expiredCard (ident "event-2") (ident "pay-1") 5, expiredCard (ident "event-1") (ident "pay-1") 5] =
    presentAll ⟨none, none, none⟩ ⟨none, none, none⟩
      [expiredCard (ident "event-1") (ident "pay-1") 5, expiredCard (ident "event-2") (ident "pay-1") 5] :=
  (evidence_confluent ⟨none, none, none⟩ ⟨none, none, none⟩ _ (by decide)).1 _ (.swap _ _ _)

end RevenueGuard
