import GeoDuels.Contracts
import GeoDuels.Lib.Collect
import Mathlib.Data.List.Dedup

/-!
# Moderation cases and the reputation of reporters

`CreateModerationReport`, `AddModerationCaseAction` and what `BanPlayerForCheating` does to the cases of a
player (`pkg/persistence/store.go`), with one step for each SQL statement and for each row that a statement
changes after it has read which ones.  A report is known by its match, its reporter and the reported player,
which are unique, and the partial unique index of the open cases has a row for each target.  The reports
that the counters of a reporter have counted are noted in `counted`, which is no column.  Left out are the
weights of reports and reporters, the columns of a case other than its target and its status, and the
tables of events and actions, which nothing here reads; the users and the match of a report are looked up
elsewhere.
-/

namespace GeoDuels.Moderation

open ReadCommitted (view update collect)

abbrev CaseID := ℕ

/-! ## Rows -/

inductive CaseStatus where
  | new | triaged | reviewing | watching | actioned | dismissed | duplicate
  deriving DecidableEq

/-- `status in ('new', 'triaged', 'reviewing', 'watching')`. -/
def CaseStatus.isOpen : CaseStatus → Bool
  | .new | .triaged | .reviewing | .watching => true
  | .actioned | .dismissed | .duplicate => false

structure Report where
  matchID : MatchID
  reporter : UserID
  reported : UserID
  deriving DecidableEq

inductive Outcome where
  | confirmed | dismissed | inconclusive | abusive
  deriving DecidableEq

structure CaseRow where
  target : UserID
  status : CaseStatus
  deriving DecidableEq

structure Reputation where
  submitted : ℕ := 0
  confirmed : ℕ := 0
  dismissed : ℕ := 0
  inconclusive : ℕ := 0
  abusive : ℕ := 0
  mutedUntil : Option ℕ := none
  counted : List (Report × Outcome) := []
  deriving DecidableEq

inductive RowKey where
  | case (id : CaseID)
  | openCase (target : UserID)
  | report (r : Report)
  | reputation (userID : UserID)
  deriving DecidableEq

/-- A report knows its case. -/
@[reducible] def Row : RowKey → Type
  | .case _ => CaseRow
  | .openCase _ => Option CaseID
  | .report _ => CaseID
  | .reputation _ => Reputation

abbrev DB := AList Row

/-- The reading of the clock, and the id that the sequence gives a new case. -/
structure Moment where
  now : ℕ := 0
  newCase : CaseID := 0

/-! ## Queries -/

/-- The case of the target that the index of the open cases knows. -/
def openCaseOf (db : DB) (target : UserID) : Option CaseID := (db.lookup (.openCase target)).join

def reportOfCase (caseID : CaseID) : Sigma Row → List Report
  | ⟨.report r, id⟩ => if id = caseID then [r] else []
  | _ => []

/-- `select reporter_user_id from moderation_reports where case_id = $1`, with the reports. -/
def reportsOf (db : DB) (caseID : CaseID) : List Report := collect (reportOfCase caseID) db

/-- `count(*)` of the reports is added to the column of the outcome. -/
def Reputation.add (rep : Reputation) (outcome : Outcome) (reports : List Report) : Reputation :=
  let counted := rep.counted ++ reports.map fun r => (r, outcome)
  match outcome with
  | .confirmed => { rep with confirmed := rep.confirmed + reports.length, counted := counted }
  | .dismissed => { rep with dismissed := rep.dismissed + reports.length, counted := counted }
  | .inconclusive => { rep with inconclusive := rep.inconclusive + reports.length, counted := counted }
  | .abusive => { rep with abusive := rep.abusive + reports.length, counted := counted }

/-- The row that an insert with `on conflict (user_id) do update` writes. -/
def upsertReputation (seen : DB) (userID : UserID) (f : Reputation → Reputation) : DB :=
  AList.insert (.reputation userID) (f ((seen.lookup (.reputation userID)).getD ({} : Reputation))) ∅

/-! ## Calls -/

/-- The action types; `other` are those that change neither cases nor reputations. -/
inductive CaseAction where
  | status (status : CaseStatus)
  | dismiss (status : Option CaseStatus)
  | markInconclusive
  | abusiveReports
  | assign
  | reportMute (muteUserID : Option UserID) (muteUntil : Option ℕ)
  | other
  deriving DecidableEq

inductive ModerationCall where
  | createReport (report : Report)
  | addCaseAction (caseID : CaseID) (action : CaseAction)
  | banPlayerForCheating (userID : UserID)

inductive Stmt where
  | readCase (action : CaseAction)
  | setStatus (status : CaseStatus)
  /-- The first part of `updateReporterReputationForCase`, which reads and groups the reports. -/
  | findReports (outcome : Outcome)
  | addOutcome (reporter : UserID) (reports : List Report) (outcome : Outcome)
  | findReporters
  | muteReporter (reporter : UserID)
  | reportMute (userID : UserID) (muteUntil : Option ℕ)
  | upsertCase (target : UserID)
  | insertReport (report : Report)
  | submit (reporter : UserID)
  | closeOpen (target : UserID)
  deriving DecidableEq

/-- A transaction about a case with the statements that are left; `outcome` is the one that it counts. -/
structure ModerationTx where
  caseID : CaseID
  todo : List Stmt
  outcome : Option Outcome := none
  own : DB := ∅

def ModerationCall.begin : ModerationCall → ModerationTx
  | .createReport r =>
      { caseID := 0, todo := [.upsertCase r.reported, .insertReport r, .submit r.reporter] }
  | .addCaseAction caseID action => { caseID := caseID, todo := [.readCase action] }
  | .banPlayerForCheating userID => { caseID := 0, todo := [.closeOpen userID] }

/-- The outcome that an action counts, if the case has not been closed. -/
def CaseAction.outcome : CaseAction → Option Outcome
  | .status .actioned | .dismiss (some .actioned) => some .confirmed
  | .status .dismissed | .dismiss none | .dismiss (some .dismissed) => some .dismissed
  | .markInconclusive => some .inconclusive
  | .abusiveReports => some .abusive
  | _ => none

/-- The statements of an action on a case; `outcome` is what it counts. -/
def CaseAction.stmts (action : CaseAction) (target : UserID) (outcome : Option Outcome) : List Stmt :=
  let count := (outcome.map Stmt.findReports).toList
  match action with
  | .status s => .setStatus s :: count
  | .dismiss s => .setStatus (s.getD .dismissed) :: count
  | .markInconclusive => count ++ [.setStatus .dismissed]
  | .abusiveReports =>
      count ++ .setStatus .dismissed :: (if outcome.isSome then [.findReporters] else [])
  | .assign => [.setStatus .reviewing]
  | .reportMute user muteUntil => [.reportMute (user.getD target) muteUntil]
  | .other => []

namespace ModerationTx

variable (t : ModerationTx)

/-- The transaction goes on with `rest` after it has written `rows`. -/
def goOn (rest : List Stmt) (rows : DB) : ModerationTx := { t with todo := rest, own := view rows t.own }

def week : ℕ := 7 * 24 * 60 * 60

/-- The transaction after a statement, or `none` when it fails. -/
def step (seen : DB) (m : Moment) : Stmt → List Stmt → Option ModerationTx
  | .readCase action, rest =>
      (seen.lookup (.case t.caseID)).map fun row : CaseRow =>
        let outcome := if row.status.isOpen then action.outcome else none
        { t.goOn (action.stmts row.target outcome ++ rest) ∅ with outcome := outcome }
  | .setStatus status, rest =>
      (seen.lookup (.case t.caseID)).bind fun row : CaseRow =>
        let rows : DB := AList.insert (.case t.caseID) { row with status := status } ∅
        match status.isOpen, openCaseOf seen row.target with
        | true, some id => if id = t.caseID then some (t.goOn rest rows) else none
        | true, none =>
            some (t.goOn rest (AList.insert (.openCase row.target) (some t.caseID) rows))
        | false, some id =>
            some (t.goOn rest (if id = t.caseID then AList.insert (.openCase row.target) none rows else rows))
        | false, none => some (t.goOn rest rows)
  | .findReports outcome, rest =>
      let reports := reportsOf seen t.caseID
      let adds := (reports.map Report.reporter).dedup.map fun u =>
        Stmt.addOutcome u (reports.filter fun r => r.reporter = u) outcome
      some (t.goOn (adds ++ rest) ∅)
  | .addOutcome u reports outcome, rest =>
      some (t.goOn rest (upsertReputation seen u fun rep => rep.add outcome reports))
  | .findReporters, rest =>
      let reporters := ((reportsOf seen t.caseID).map Report.reporter).dedup
      some (t.goOn (reporters.map Stmt.muteReporter ++ rest) ∅)
  | .muteReporter u, rest =>
      some (t.goOn rest (update seen (.reputation u) fun rep : Reputation =>
        some { rep with mutedUntil := some (max (rep.mutedUntil.getD m.now) (m.now + week)) }))
  | .reportMute u muteUntil, rest =>
      some (t.goOn rest (upsertReputation seen u fun rep =>
        { rep with mutedUntil := some (muteUntil.getD (m.now + week)) }))
  | .upsertCase target, rest =>
      match openCaseOf seen target with
      | some id =>
          (seen.lookup (.case id)).map fun row : CaseRow =>
            { t.goOn rest (AList.insert (.case id) row ∅) with caseID := id }
      | none =>
          if .case m.newCase ∈ seen then none
          else
            some
              { t.goOn rest (AList.insert (.openCase target) (some m.newCase)
                  (AList.insert (.case m.newCase) ({ target := target, status := .new } : CaseRow) ∅)) with
                caseID := m.newCase }
  | .insertReport r, rest =>
      -- the other statements of a duplicate are left out
      if .report r ∈ seen then some (t.goOn [] ∅)
      else some (t.goOn rest (AList.insert (.report r) t.caseID ∅))
  | .submit u, rest =>
      some (t.goOn rest (upsertReputation seen u fun rep => { rep with submitted := rep.submitted + 1 }))
  | .closeOpen target, rest =>
      match openCaseOf seen target with
      | none => some (t.goOn rest ∅)
      | some id =>
          match (seen.lookup (.case id) : Option CaseRow) with
          | some row =>
              if row.target = target ∧ row.status.isOpen then
                some
                  { t.goOn (.findReports .confirmed :: rest) (AList.insert (.openCase target) none
                      (AList.insert (.case id) ({ row with status := .actioned } : CaseRow) ∅)) with
                    caseID := id, outcome := some .confirmed }
              else some (t.goOn rest ∅)
          | none => some (t.goOn rest ∅)

/-- A transaction that has no statement left commits. -/
def run (t : ModerationTx) (db : DB) (m : Moment) : DB × Option ModerationTx :=
  match t.todo with
  | [] => (t.own, none)
  | s :: rest => (∅, t.step (view t.own db) m s rest)

end ModerationTx

def moderationProgram : ReadCommitted.Program Row where
  Call := ModerationCall
  Proc := ModerationTx
  Env := Moment
  begin := ModerationCall.begin
  own := ModerationTx.own
  own_begin := by rintro (r | ⟨caseID, action⟩ | userID) <;> rfl
  run := ModerationTx.run

abbrev ModerationWorld := ReadCommitted.World moderationProgram

abbrev ModerationAct := ReadCommitted.Act moderationProgram

end GeoDuels.Moderation

