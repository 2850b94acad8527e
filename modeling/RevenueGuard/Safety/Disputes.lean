import RevenueGuard.Safety.PaidOrders

/-
Disputed payments. A dispute that finds its case where it is decided on at once
stops the case for good; one that finds it elsewhere is only written down.
-/
namespace RevenueGuard

variable {db db' d e : Database} {rt : Runtime} {excluded : Kind → Prop} {k : CaseKey} {v v' : CaseView} {link : CaseEventRow}

/-- Applied evidence is stored, and a disputed case is stopped. -/
def DisputesHeard (db : Database) : Prop :=
  ∀ k, ∀ link ∈ (view k db).links, link.Known db ∧ (link.Disputes db → (view k db).state = some .stopped)

/-- Where evidence is stored, more events do not change what it says. -/
theorem disputes_before {m : List NormalizedEvent} (events : e.events = d.events ++ m) (known : link.Known d)
    (disputes : link.Disputes e) : link.Disputes d := by
  obtain ⟨applied, event, diagnosis, stored, diagnosed⟩ := disputes
  obtain ⟨event', found⟩ := known applied
  have same : e.event link.merchantId link.normalizedEventId = some event' := by
    simp only [Database.event, Table.lookup, events, List.find?_append] at found ⊢
    rw [found]
    rfl
  rw [same, Option.some.injEq] at stored
  subst stored
  exact ⟨applied, event', diagnosis, found, diagnosed⟩

theorem known_after (events : ∀ m id event, d.event m id = some event → e.event m id = some event) (known : link.Known d) :
    link.Known e := fun applied => by
  obtain ⟨event, found⟩ := known applied
  exact ⟨event, events _ _ _ found⟩

/-- A step links no dispute but by stopping the case. -/
theorem Change.hears (h : Change excluded db k v v') (unheard : excluded .unheardDispute)
    (inv : ∀ link ∈ v.links, link.Known db ∧ (link.Disputes db → v.state = some .stopped)) :
    ∀ link ∈ v'.links, link.Known db ∧ (link.Disputes db → v'.state = some .stopped) := by
  have kept (same : v'.links = v.links) : ∀ link ∈ v'.links, link.Known db ∧ (link.Disputes db → v'.state = some .stopped) :=
    fun link member => by
      obtain ⟨known, heard⟩ := inv link (same ▸ member)
      exact ⟨known, fun disputes => h.terminal (heard disputes) (by decide)⟩
  cases h with
  | linked link key known heard =>
    intro other member
    rcases List.mem_append.mp member with before | new
    · exact inv other before
    · rw [List.mem_singleton] at new
      subst new
      exact ⟨known, fun disputes => absurd unheard (heard disputes)⟩
  | heard row' link receipt _ _ _ stopped known =>
    intro other member
    rcases List.mem_append.mp member with before | new
    · exact ⟨(inv other before).1, fun _ => congrArg some stopped⟩
    · rw [List.mem_singleton] at new
      subst new
      exact ⟨known, fun _ => congrArg some stopped⟩
  | _ => exact kept rfl

theorem disputesHeard_invariant (reach : ReachableUnder rt (Command.Avoids rt excluded) db) (unheard : excluded .unheardDispute) :
    DisputesHeard db := by
  refine (reach.invariant DisputesHeard (fun _ _ none => absurd none List.not_mem_nil)
    (fun {d e} _ step before k link member => ?_) fun {d e} _ changed before k link member => ?_).2
  · obtain ⟨known, heard⟩ := (step.change k).hears unheard (before k) link member
    have same := step.kept.events
    refine ⟨known_after (fun m id event found => by rw [step.kept.event]; exact found) known, fun disputes => heard ?_⟩
    exact disputes_before (show e.events = d.events ++ [] by rw [List.append_nil]; exact same) known disputes
  · have links : (view k e).links = (view k d).links := by simp only [view, changed.caseEvents]
    rw [links] at member
    obtain ⟨known, heard⟩ := before k link member
    obtain ⟨more, events⟩ := changed.events
    refine ⟨known_after (fun m id event found => changed.event found) known, fun disputes => ?_⟩
    rw [changed.state]
    exact heard (disputes_before events known disputes)

/-- Nothing is authorized or called for a stopped case, and it stays stopped. -/
theorem Steps.stopped (steps : Steps excluded d e) (stopped : (view k d).state = some .stopped) :
    Halted (view k d) (view k e) ∧ (view k e).state = some .stopped := by
  refine steps.invariant (fun e => Halted (view k d) (view k e) ∧ (view k e).state = some .stopped) ⟨.refl _, stopped⟩
    fun {b c} step before => ?_
  refine ⟨before.1.trans ((step.change k).halts fun row here state => ?_), (step.change k).terminal before.2 (by decide)⟩
  exact (terminal_of here before.2 (by decide) state (by decide)).elim

theorem exec_stopped (reach : Reachable rt db) (stopped : (view k db).state = some .stopped) (c : Command) :
    Halted (view k db) (view k (exec rt c db)) ∧ (view k (exec rt c db)).state = some .stopped := by
  rcases exec_simulated reach.under.keyed c (c.avoids_nothing rt db) with steps | changed
  · exact steps.stopped stopped
  · refine ⟨⟨?_, ?_⟩, by rw [changed.state]; exact stopped⟩
    · simp only [CaseView.proceeds, view, changed.receipts]
    · simp only [CaseView.calls, view, changed.actions]

theorem execAll_stopped (cs : List Command) (reach : Reachable rt db) (stopped : (view k db).state = some .stopped) :
    Halted (view k db) (view k (execAll rt cs db)) := by
  induction cs generalizing db with
  | nil => exact .refl _
  | cons c rest ih =>
    obtain ⟨halted, still⟩ := exec_stopped reach stopped c
    exact halted.trans (ih (Runs.Reaches.step c reach trivial) still)

/-- Once a dispute is linked as applied evidence, whatever comes next proceeds with the case or calls for it no more. -/
theorem disputed_case_halts (reach : ReachableUnder rt (Command.Avoids rt (· = .unheardDispute)) db)
    (member : link ∈ (view k db).links) (disputes : link.Disputes db) (later : List Command) :
    Halted (view k db) (view k (execAll rt later db)) :=
  execAll_stopped later reach.reachable ((disputesHeard_invariant reach rfl k link member).2 disputes)

section runs

/-- The customer disputes the payment. -/
def disputedPayment (event payment : Identifier) (at_ : Instant) : NormalizedEvent :=
  { expiredCard event payment at_ with
    normalizedFailureCategory := .dispute, subject := expiredCard_subject event payment at_ }

/-- A payment link is authorized, and then the payment is disputed. -/
def disputedReady : List Command :=
  linkAuthorized linksOnly ++ ingested (disputedPayment (ident "event-2") (ident "pay-1") 15) ++
    [.processEvent (drawn "receipt-2") acme (ident "event-2") (ident "case-2") 16, .claimDueActions (fun _ => "lease-1") 20 1000 5]

/-- The dispute comes first. -/
def disputedFirst : List Command :=
  [.registerMerchant acme, .publishPolicy acme linksOnly] ++
    ingested (disputedPayment (ident "event-1") (ident "pay-1") 5) ++
    [.processEvent (drawn "receipt-1") acme (ident "event-1") (ident "case-1") 10]

theorem disputes_of (applied : link.disposition = .applied) {event : NormalizedEvent} {d : Diagnosis}
    (stored : event ∈ db.event link.merchantId link.normalizedEventId) (diagnosed : d ∈ diagnoseEvent event)
    (code : d.code = paymentDisputed) : link.Disputes db := ⟨applied, event, d, stored, diagnosed, code⟩

set_option maxRecDepth 100000 in
theorem disputed_case_halts_first : Halted (view case1 (execAll {} disputedFirst {}))
    (view case1 (execAll {} [.processEvent (drawn "receipt-2") acme (ident "event-1") (ident "case-1") 20]
      (execAll {} disputedFirst {}))) := by
  obtain ⟨link, member, applied, event, stored, d, diagnosed, code⟩ :
      ∃ l ∈ (view case1 (execAll {} disputedFirst {})).links, l.disposition = .applied ∧
        ∃ e ∈ (execAll {} disputedFirst {}).event l.merchantId l.normalizedEventId,
          ∃ d ∈ diagnoseEvent e, d.code = paymentDisputed := by decide +kernel
  exact disputed_case_halts (reaches_runAvoids (by decide +kernel)) member (disputes_of applied stored diagnosed code) _

set_option maxRecDepth 100000 in
theorem disputed_case_called : ¬ ∀ (rt : Runtime) (db : Database), Reachable rt db →
    ∀ (k : CaseKey), ∀ link ∈ (view k db).links, link.Disputes db → ∀ later,
      Halted (view k db) (view k (execAll rt later db)) := by
  intro halted
  obtain ⟨link, member, applied, event, stored, d, diagnosed, code⟩ :
      ∃ l ∈ (view case1 (execAll {} disputedReady {})).links, l.disposition = .applied ∧
        ∃ e ∈ (execAll {} disputedReady {}).event l.merchantId l.normalizedEventId,
          ∃ d ∈ diagnoseEvent e, d.code = paymentDisputed := by decide +kernel
  have kept := (halted {} _ (reachable_execAll {} disputedReady) case1 link member (disputes_of applied stored diagnosed code)
    [.prepareExecution link1 "lease-1" 25]).calls
  have before : (view case1 (execAll {} disputedReady {})).calls = [(link1, 0)] := by decide +kernel
  have after : (view case1 (execAll {} [.prepareExecution link1 "lease-1" 25] (execAll {} disputedReady {}))).calls =
      [(link1, 1)] := by decide +kernel
  rw [before, after] at kept
  exact absurd kept (by decide)

end runs

end RevenueGuard
