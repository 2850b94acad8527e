import RevenueGuard.Store.Recovery

/-
Portfolio incidents: a degraded dimension opens or extends one, clear windows
close it, and its cases are attached to it and resumed after it one by one.
-/
namespace RevenueGuard

def dimensionKey (a : DegradationAssessment) : String :=
  "|".intercalate [a.paymentMethod.val, a.issuerFamily.val, a.errorFamily.val]

def mentions (word : String) (text : Identifier) : Bool := decide (word.toList <:+: (upper text.val).toList)

def scopeFor (errorFamily : Identifier) : IncidentScope :=
  if mentions "ISSUER" errorFamily || mentions "BANK" errorFamily then .issuer
  else if mentions "GATEWAY" errorFamily then .gateway
  else .paymentRail

theorem scopeFor_channel (errorFamily : Identifier) : scopeFor errorFamily ≠ .contactChannel := by
  unfold scopeFor
  split
  · simp
  · split <;> simp

def diagnosisTokens (errorFamily : Identifier) : List String :=
  if mentions "ISSUER" errorFamily || mentions "BANK" errorFamily then ["ISSUER_TEMPORARILY_UNAVAILABLE"]
  else if mentions "GATEWAY" errorFamily then ["GATEWAY_TEMPORARILY_UNAVAILABLE"]
  else ["ISSUER_TEMPORARILY_UNAVAILABLE", "GATEWAY_TEMPORARILY_UNAVAILABLE", "UNKNOWN_PAYMENT_FAILURE"]

def CaseRow.affectedBy (a : DegradationAssessment) (r : CaseRow) : Bool :=
  decide (r.case.merchantId = a.merchantId ∧ ¬ r.case.state.Terminal
    ∧ ∃ code ∈ r.case.diagnosis, code.val ∈ diagnosisTokens a.errorFamily)

def attachAffectedCases (rt : Runtime) (incident : IncidentConstraint) (a : DegradationAssessment) : Transaction Unit :=
  Tx.write fun db =>
    let affected := db.cases.filter (CaseRow.affectedBy a)
    let new := affected.filter fun r => !db.incidentLinks.any fun l =>
      l.merchantId == a.merchantId && l.incidentId == incident.incidentId && l.caseId == r.case.caseId
    { db with
      incidentLinks := db.incidentLinks ++
        new.map fun r => ⟨a.merchantId, incident.incidentId, r.case.caseId, a.evaluatedAt, none⟩
      cases := db.cases.map fun r => if r.affectedBy a then
        (r.attach incident).flushed rt a.evaluatedAt r.case.activeIncidentId else r }

def setIncident (row : IncidentRow) : Transaction Unit :=
  Tx.write fun db => { db with incidents := db.incidents.map fun r =>
    if r.merchantId = row.merchantId ∧ r.incident.incidentId = row.incident.incidentId then row else r }

/-- The incident with another end; a window that would be empty violates its check. -/
def IncidentConstraint.extend (i : IncidentConstraint) (endsAt : Instant) : Except Failure IncidentConstraint :=
  if window : i.startsAt < endsAt then .ok { i with endsAt := endsAt, window := window }
  else .error (.integrity "ck_portfolio_incidents_window")

/-- Case ids of the incident's links, in the order the cases resume. -/
def resumeOrder (merchantId incidentId : Identifier) (db : Database) : List Identifier :=
  ((db.incidentLinks.filter fun l => decide (l.merchantId = merchantId ∧ l.incidentId = incidentId)).map
    (·.caseId)).insertionSort fun a b => a.val ≤ b.val

def resumeAt (order : List Identifier) (resolvedAt : Instant) (caseId : Identifier) : Instant :=
  resolvedAt + seconds (30 * (order.idxOf caseId : Int))

def CaseRow.resume (incidentId : Identifier) (resume : Instant) (r : CaseRow) : CaseRow :=
  if r.case.activeIncidentId = some incidentId then
    { r with case := { r.case with
      activeIncidentId := none
      nextEvaluationAt := if r.case.state = .deferred then some resume else r.case.nextEvaluationAt } }
  else r

def resolveIncident (rt : Runtime) (row : IncidentRow) (resolvedAt : Instant) : Transaction Unit := do
  let order ← Tx.read (resumeOrder row.merchantId row.incident.incidentId)
  let incident ← Tx.lift (row.incident.extend (max (row.incident.startsAt + 1) resolvedAt))
  setIncident { row with incident := incident, status := .resolved, resolvedAt := some resolvedAt }
  Tx.write fun db => { db with
    incidentLinks := db.incidentLinks.map fun l =>
      if l.merchantId = row.merchantId ∧ l.incidentId = row.incident.incidentId then
        { l with resumeAfter := some (resumeAt order resolvedAt l.caseId) } else l
    cases := db.cases.map fun r =>
      if r.case.merchantId = row.merchantId ∧ r.case.caseId ∈ order then
        (r.resume row.incident.incidentId (resumeAt order resolvedAt r.case.caseId)).flushed rt resolvedAt
          r.case.activeIncidentId
      else r }

def openIncident (a : DegradationAssessment) (policy : DegradationPolicy) (incidentId : Identifier) : IncidentRow :=
  { merchantId := a.merchantId
    incident :=
      { incidentId := incidentId
        scope := scopeFor a.errorFamily
        startsAt := a.evaluatedAt
        endsAt := a.evaluatedAt + policy.incidentTtl
        window := Int.lt_add_of_pos_right _ policy.ttl_pos
        channel_iff := by simp [scopeFor_channel] }
    status := .active
    dimensionKey := dimensionKey a
    updatedAt := a.evaluatedAt }

def clearWindow (rt : Runtime) (a : DegradationAssessment) (policy : DegradationPolicy) (row : IncidentRow) :
    Transaction Unit := do
  if a.evaluatedAt < row.updatedAt + policy.currentWindow then pure ()
  else
    let cleared := { row with clearWindowCount := row.clearWindowCount + 1, updatedAt := a.evaluatedAt }
    if policy.clearConsecutiveWindows ≤ cleared.clearWindowCount then resolveIncident rt cleared a.evaluatedAt
    else do
      let incident ← Tx.lift (row.incident.extend (a.evaluatedAt + policy.incidentTtl))
      setIncident { cleared with incident := incident }

def extendIncident (rt : Runtime) (a : DegradationAssessment) (policy : DegradationPolicy) (row : IncidentRow) :
    Transaction Unit := do
  let incident ← Tx.lift (row.incident.extend (a.evaluatedAt + policy.incidentTtl))
  setIncident { row with incident := incident, clearWindowCount := 0, updatedAt := a.evaluatedAt }
  attachAffectedCases rt incident a

/-- The incident an assessment falls on. -/
def activeIncident (a : DegradationAssessment) (db : Database) : Option IncidentRow :=
  db.incidents.find? fun r =>
    decide (r.merchantId = a.merchantId ∧ r.dimensionKey = dimensionKey a ∧ r.status = .active)

def applyDegradationAssessment (rt : Runtime) (a : DegradationAssessment) (policy : DegradationPolicy)
    (incidentId : Identifier) : Transaction Unit := do
  let active ← Tx.read (activeIncident a)
  match active with
  | some row => if a.degraded then extendIncident rt a policy row else clearWindow rt a policy row
  | none =>
    if a.degraded then do
      let row := openIncident a policy incidentId
      let present ← Tx.read fun db => db.incidents.any fun r =>
        decide (r.merchantId = a.merchantId ∧ r.incident.incidentId = incidentId)
      Tx.check (present = false) (.integrity "portfolio_incidents_pkey")
      Tx.write fun db => { db with incidents := db.incidents ++ [row] }
      attachAffectedCases rt row.incident a
    else pure ()

end RevenueGuard
