import RevenueGuard.Kit.Origins
import RevenueGuard.Protocol.Tasks

/-
The deployed system refines its parts. Whatever the gateway, the workers and the
simulated checkouts do, the services' tables are what some run of the services'
commands reaches, each command issued by a task or by a webhook the gateway took
in, and the inbox is what some run of the inbox reaches.
-/
namespace RevenueGuard

variable {site : Site} {s t : Deployment} {task : Task}

section steps

/-- Webhooks are added, never changed or taken away. -/
def Deployment.Grows (s t : Deployment) : Prop := ∃ more, t.accepted = s.accepted ++ more

theorem TaskStep.grows (step : TaskStep site s task t) : s.Grows t := by
  have same (kept : t.accepted = s.accepted) : s.Grows t := ⟨[], by rw [kept, List.append_nil]⟩
  cases step with
  | ingested request visit answer t case =>
    cases case with
    | accepted a payload w answer => exact ⟨[w], rfl⟩
    | _ => exact same rfl
  | simulated task w => exact ⟨[w], rfl⟩
  | processed inputs dispatchId m id d w event u dispatched found read ran =>
    refine same ?_
    rw [ran.rest]
  | _ => exact same rfl

theorem perform_grows (site : Site) (task : Task) (s : Deployment) : s.Grows (perform site task s) := (perform_step site task s).grows

theorem performAll_grows (site : Site) (tasks : List Task) (s : Deployment) : s.Grows (performAll site tasks s) := by
  refine Runs.fold_relates (f := perform site) (R := Deployment.Grows) (fun s => ⟨[], (List.append_nil _).symm⟩) ?_
    (perform_grows site) tasks s
  rintro s t u ⟨more, first⟩ ⟨more', second⟩
  exact ⟨more ++ more', by rw [second, first, List.append_assoc]⟩

theorem deployed_snoc (site : Site) (tasks : List Task) (task : Task) :
    deployed site (tasks ++ [task]) = perform site task (deployed site tasks) := List.foldl_append

theorem deployed_append (site : Site) (tasks later : List Task) :
    deployed site (tasks ++ later) = performAll site later (deployed site tasks) := List.foldl_append

end steps

section refinement

/-- Where a command of the services comes from: a task that asks for it, or a stored webhook that the reader takes. -/
inductive Issued (site : Site) (tasks : List Task) (s : Deployment) : Command → Prop
  | service (c : Command) (standalone : c.Standalone) (taken : .service c standalone ∈ tasks) : Issued site tasks s c
  | merchant (m : Identifier) (status : String) (taken : .upsertMerchant m status ∈ tasks) :
      Issued site tasks s (.registerMerchant m)
  | webhook (w : AcceptedWebhook) (event : RevenueRiskEvent) (c : Command) (stored : w ∈ s.accepted)
      (read : w.normalized site.worker.depth = .ok event) (own : OfWebhook site.worker s.observations w event c) :
      Issued site tasks s c

theorem Issued.mono {tasks later : List Task} {c : Command} (issued : Issued site tasks s c) (accepted : s.accepted <+: t.accepted)
    (recorded : s.observations <+: t.observations) (more : ∀ task ∈ tasks, task ∈ later) : Issued site later t c := by
  cases issued with
  | service c standalone taken => exact .service c standalone (more _ taken)
  | merchant m status taken => exact .merchant m status (more _ taken)
  | webhook w event c stored read own => exact .webhook w event c (accepted.subset stored) read (own.mono recorded)

/-- The services' commands of one task. -/
theorem TaskStep.commands (step : TaskStep site s task t) : ∃ cs : List Command,
    (∀ c ∈ cs, Issued site [task] t c) ∧ t.database = execAll site.worker.runtime cs s.database := by
  have none (same : t.database = s.database) : ∃ cs : List Command,
      (∀ c ∈ cs, Issued site [task] t c) ∧ t.database = execAll site.worker.runtime cs s.database :=
    ⟨[], fun c absent => absurd absent List.not_mem_nil, same⟩
  have one {c : Command} (issued : Issued site [task] t c)
      (same : t.database = exec site.worker.runtime c s.database) : ∃ cs : List Command,
        (∀ c ∈ cs, Issued site [task] t c) ∧ t.database = execAll site.worker.runtime cs s.database := by
    refine ⟨[c], fun d member => ?_, same⟩
    rw [List.mem_singleton.mp member]
    exact issued
  cases step with
  | idle task => exact none rfl
  | registered m status => exact one (.merchant m status List.mem_cons_self) rfl
  | ingested request visit answer t case => cases case <;> exact none rfl
  | maintained task c upkeep => exact none rfl
  | processed inputs dispatchId m id d w event u dispatched found read ran =>
    obtain ⟨cs, own, database⟩ := ran.database
    refine ⟨cs, fun c member => .webhook w event c ?_ read (own c member), database⟩
    change w ∈ u.accepted
    rw [ran.rest]
    exact (webhook_mem found).1
  | noted task => exact none rfl
  | simulated task w => exact none rfl
  | served c standalone => exact one (.service c standalone List.mem_cons_self) rfl

/-- No task takes an observation back. -/
theorem TaskStep.recorded (step : TaskStep site s task t) : s.observations <+: t.observations := by
  cases step with
  | ingested request visit answer t case => cases case <;> exact List.prefix_rfl
  | processed inputs dispatchId m id d w event u dispatched found read ran => exact ran.recorded
  | _ => exact List.prefix_rfl

/-- The inbox's command of one task. -/
theorem TaskStep.inbox (step : TaskStep site s task t) : ∃ cs : List InboxCommand, t.inbox = InboxCommand.execAll cs s.inbox := by
  have received {w : WebhookDelivery} (unknown : ¬ s.inbox.Knows w.provider w.merchantId w.providerEventId)
      (fresh : w.Fresh s.inbox) : s.inbox.receive w = InboxCommand.execAll [.recordWebhook w] s.inbox :=
    (Tx.commit_of_ok (recordWebhook_new unknown fresh)).symm
  cases step with
  | ingested request visit answer t case =>
    cases case with
    | accepted a payload w answer examined unknown fresh => exact ⟨[.recordWebhook (w.visited _ visit)], received unknown fresh⟩
    | _ => exact ⟨[], rfl⟩
  | simulated task w d sessions delivers simulates provider unknown fresh =>
    obtain ⟨dispatchId, createdAt, rfl⟩ := delivers
    exact ⟨[.recordWebhook (w.delivery dispatchId createdAt 5)], received unknown fresh⟩
  | maintained task c upkeep => exact ⟨[c], rfl⟩
  | processed inputs dispatchId m id => exact ⟨[.markDispatchSucceeded dispatchId inputs.completedAt], rfl⟩
  | _ => exact ⟨[], rfl⟩

theorem inbox_reaches (cs : List InboxCommand) (box : Inbox) :
    Runs.Reaches InboxCommand.exec (fun _ _ => True) box (InboxCommand.execAll cs box) := by
  induction cs generalizing box with
  | nil => exact .start
  | cons c rest ih => exact (Runs.Reaches.step c .start trivial).trans (ih (c.exec box))

/-- What a deployment's parts have been through. -/
structure Refines (site : Site) (tasks : List Task) (s : Deployment) : Prop where
  issued : ∃ cs : List Command, (∀ c ∈ cs, Issued site tasks s c) ∧ s.database = execAll site.worker.runtime cs {}
  inbox : InboxReachable (fun _ _ => True) s.inbox

theorem Refines.reachable {tasks : List Task} (refines : Refines site tasks s) : Reachable site.worker.runtime s.database := by
  obtain ⟨cs, -, same⟩ := refines.issued
  rw [same]
  exact reachable_execAll _ cs

theorem Refines.step {tasks : List Task} (refines : Refines site tasks s) (step : TaskStep site s task t) :
    Refines site (tasks ++ [task]) t := by
  obtain ⟨more, grown⟩ := step.grows
  obtain ⟨cs, issued, ran⟩ := refines.issued
  obtain ⟨cs', issued', ran'⟩ := step.commands
  obtain ⟨boxes, ranBox⟩ := step.inbox
  constructor
  · refine ⟨cs ++ cs', fun c member => ?_, ?_⟩
    · rcases List.mem_append.mp member with old | new
      · exact (issued c old).mono ⟨more, grown.symm⟩ step.recorded fun _ => List.mem_append_left _
      · exact (issued' c new).mono List.prefix_rfl List.prefix_rfl fun _ => List.mem_append_right _
    · rw [execAll_append, ← ran, ran']
  · rw [ranBox]
    exact Runs.Reaches.trans refines.inbox (inbox_reaches boxes s.inbox)

/-- Every run of the deployed system is a run of the services, each command accounted for, and a run of the inbox. -/
theorem deployed_refines (site : Site) (tasks : List Task) : Refines site tasks (deployed site tasks) := by
  refine Runs.fold_history (f := perform site) (I := Refines site) (s := {}) ?_ (fun before task refines => ?_) tasks
  · exact ⟨⟨[], fun c none => absurd none List.not_mem_nil, rfl⟩, .start⟩
  · exact refines.step (perform_step site task _)

end refinement

end RevenueGuard
