import GeoDuels.Reports.Weights
import Mathlib.Algebra.BigOperators.Group.List.Basic

/-!
# Moderation cases

`CreateModerationReport` adds a report to the open case of its target, `refreshModerationCaseSummary`
computes the projection of a case from its reports and from the recent matches and guesses of its target,
and `RecomputeModerationProjections` refreshes the open cases with the latest activity.  The texts of a report
and of its events are left out, and display names: nothing here reads them.
-/

namespace GeoDuels.Reports

open Moderation (CaseID)

variable {K : Type*} [Field K] [LinearOrder K] (P : Power K)

/-! ## `CreateModerationReport` -/

structure CreateModerationReportParams where
  matchID : MatchID
  reporterUserID : UserID
  reportedUserID : UserID
  category : String

def normalizeReportCategory (category : String) : String :=
  let lower := (trimmed category).map Char.toLower
  if lower ∈ ["cheating", "profile", "harassment", "boosting", "other"] then lower else "cheating"

/-- The reporter, where he is no guest and both have played the match. -/
def DB.reporterOf (db : DB K) (matchID : MatchID) (reporter reported : UserID) : Option UserRow :=
  if db.players.any (fun p => p.matchID = matchID ∧ p.userID = reporter) ∧
      db.players.any (fun p => p.matchID = matchID ∧ p.userID = reported) ∧
      db.users.any (·.id = reported) then
    db.users.find? fun u => u.id = reporter ∧ u.guest = false
  else none

def DB.openCase? (db : DB K) (target : UserID) : Option (Sigma fun _ : CaseID => CaseRow K) :=
  db.cases.entries.find? fun c => c.2.targetUserID = target ∧ c.2.status.isOpen = true

/-- The upsert of the open case of a player. -/
def DB.upsertCase (db : DB K) (now : ℕ) (target : UserID) : CaseID × DB K :=
  match db.openCase? target with
  | some ⟨id, row⟩ => (id, { db with cases := db.cases.insert id { row with latestActivityAt := now } })
  | none =>
      (db.nextCaseID,
        { db with
          cases := db.cases.insert db.nextCaseID { targetUserID := target, score := 0, latestActivityAt := now }
          nextCaseID := db.nextCaseID + 1 })

/-- `insert into moderation_reports`; a player reports another one once in a match. -/
def DB.insertReport (db : DB K) (r : ReportRow K) : Option (DB K) :=
  if db.reports.any fun r' => r'.matchID = r.matchID ∧ r'.reporterUserID = r.reporterUserID ∧
      r'.reportedUserID = r.reportedUserID then none
  else some { db with reports := db.reports ++ [r] }

def DB.countSubmitted (db : DB K) (reporter : UserID) (weight : K) : DB K :=
  match db.reporter? reporter with
  | none =>
      { db with
        reporters := db.reporters ++ [{ userID := reporter, reportsSubmitted := 1, reportWeight := weight }] }
  | some _ =>
      { db with
        reporters := db.reporters.map fun rep =>
          if rep.userID = reporter then
            { rep with reportsSubmitted := rep.reportsSubmitted + 1, reportWeight := weight }
          else rep }

inductive ReportStatus
  | created | duplicate
  deriving DecidableEq

def DB.createModerationReport (db : DB K) (now : ℕ) (params : CreateModerationReportParams) :
    Except String (CaseID × ReportStatus × DB K) :=
  let matchID := trimmed params.matchID
  let reporter := trimmed params.reporterUserID
  let reported := trimmed params.reportedUserID
  if matchID = "" ∨ reporter = "" ∨ reported = "" then
    .error "matchID, reporter, and reported user are required"
  else if reporter = reported then .error "self reports are not allowed"
  else
    match db.reporterOf matchID reporter reported with
    | none => .error "report target not found"
    | some u =>
        let reporterWeight := db.reporterWeight P now u
        let (caseID, db) := db.upsertCase now reported
        match db.insertReport ⟨caseID, matchID, reporter, reported, normalizeReportCategory params.category,
            reporterWeight, now⟩ with
        | none => .ok (caseID, .duplicate, db)
        | some db => .ok (caseID, .created, db.countSubmitted reporter reporterWeight)

/-! ## `moderationRecentReportPressure` -/

/-- `order by h.ended_at desc, h.match_id desc`. -/
def HistoryRow.Before (h h' : HistoryRow) : Prop :=
  h'.endedAt < h.endedAt ∨ h'.endedAt = h.endedAt ∧ h'.matchID ≤ h.matchID

instance : DecidableRel HistoryRow.Before := fun h h' =>
  inferInstanceAs (Decidable (h'.endedAt < h.endedAt ∨ h'.endedAt = h.endedAt ∧ h'.matchID ≤ h.matchID))

/-- `recent_matches`. -/
def DB.recentMatches (db : DB K) (userID : UserID) : List MatchID :=
  let played := (db.players.filter (·.userID = userID)).flatMap fun p =>
    db.history.filter (·.matchID = p.matchID)
  ((played.insertionSort HistoryRow.Before).take 10).map (·.matchID)

/-- The reports against a player on one of his matches. -/
def DB.reportsOn (db : DB K) (userID : UserID) (matchID : MatchID) : List (ReportRow K) :=
  db.reports.filter fun r => r.matchID = matchID ∧ r.reportedUserID = userID

/-- The rows of the left join for one match: one for each report, or one without. -/
def DB.joinedReports (db : DB K) (userID : UserID) (matchID : MatchID) : List (Option (ReportRow K)) :=
  match db.reportsOn userID matchID with
  | [] => [none]
  | rows => rows.map some

/-- `count(*)` and `count(distinct r.match_id)`. -/
def DB.recentReportCounts (db : DB K) (userID : UserID) : RecentReportCounts :=
  let rows := (db.recentMatches userID).flatMap (db.joinedReports userID)
  ⟨rows.length, ((rows.filterMap id).map (·.matchID)).dedup.length⟩

def DB.moderationRecentReportPressure (db : DB K) (targetUserID : UserID) : K :=
  let targetUserID := trimmed targetUserID
  if targetUserID = "" then 0 else (db.recentReportCounts targetUserID).pressure P

/-! ## `refreshModerationCaseSummary` -/

/-- The columns that a refresh computes. -/
structure Projection (K : Type*) where
  score : K
  reportCount : ℕ
  uniqueReporterCount : ℕ
  categories : List (String × ℕ)
  priority : Priority

def DB.reportsOfCase (db : DB K) (caseID : CaseID) : List (ReportRow K) :=
  db.reports.filter (·.caseID = caseID)

def reporterScore (rows : List (ReportRow K)) : K :=
  ∑ matchID ∈ (rows.map (·.matchID)).toFinset, matchScore rows matchID

/-- `coalesce(max(reported_user_id), '')`. -/
def reportedTarget : List (ReportRow K) → UserID
  | [] => ""
  | r :: rows =>
      rows.foldl (fun target r => if target < r.reportedUserID then r.reportedUserID else target)
        r.reportedUserID

def categoryCounts (rows : List (ReportRow K)) : List (String × ℕ) :=
  (rows.map (·.category)).dedup.map fun category =>
    (category, (rows.filter (·.category = category)).length)

def DB.projection (db : DB K) (caseID : CaseID) : Projection K :=
  let rows := db.reportsOfCase caseID
  let targetUserID := reportedTarget rows
  let score := reporterScore rows + db.moderationRecentReportPressure P targetUserID +
    db.moderationGameplayEvidence targetUserID
  { score
    reportCount := rows.length
    uniqueReporterCount := (rows.map (·.reporterUserID)).dedup.length
    categories := categoryCounts rows
    priority := moderationPriority score }

/-- The columns of a row that a refresh computes. -/
def CaseRow.projection (row : CaseRow K) : Projection K :=
  ⟨row.score, row.reportCount, row.uniqueReporterCount, row.categories, row.priority⟩

def DB.refreshModerationCaseSummary (db : DB K) (now : ℕ) (caseID : CaseID) : Option (DB K × Bool) :=
  let p := db.projection P caseID
  match db.cases.lookup caseID with
  | none => none
  | some row =>
      let shouldNotify := decide ((p.priority = .high ∨ p.priority = .urgent) ∧ row.notificationSentAt = none)
      some ({ db with
        cases := db.cases.insert caseID
          { row with
            score := p.score
            reportCount := p.reportCount
            uniqueReporterCount := p.uniqueReporterCount
            categories := p.categories
            priority := p.priority
            notificationSentAt := if shouldNotify then some now else row.notificationSentAt
            latestActivityAt := now } }, shouldNotify)

/-! ## `RecomputeModerationProjections` -/

/-- `order by latest_activity_at desc, id asc`. -/
def CaseRow.Before (c c' : Sigma fun _ : CaseID => CaseRow K) : Prop :=
  c'.2.latestActivityAt < c.2.latestActivityAt ∨
    c'.2.latestActivityAt = c.2.latestActivityAt ∧ c.1 ≤ c'.1

instance : DecidableRel (CaseRow.Before (K := K)) := fun c c' =>
  inferInstanceAs (Decidable (c'.2.latestActivityAt < c.2.latestActivityAt ∨
    c'.2.latestActivityAt = c.2.latestActivityAt ∧ c.1 ≤ c'.1))

def DB.openCases (db : DB K) : List (Sigma fun _ : CaseID => CaseRow K) :=
  db.cases.entries.filter (·.2.status.isOpen)

def projectionLimit (limit : ℤ) : ℕ :=
  let limit := if limit ≤ 0 then 50 else limit
  (if limit > 500 then 500 else limit).toNat

def DB.selectedCases (db : DB K) (limit : ℤ) : List CaseID :=
  ((db.openCases.insertionSort CaseRow.Before).take (projectionLimit limit)).map (·.1)

/-- `enqueueNotificationOutbox`. -/
def DB.enqueueNotificationOutbox (db : DB K) (dedupeKey : String) : DB K :=
  if dedupeKey ∈ db.outbox then db else { db with outbox := db.outbox ++ [dedupeKey] }

def notificationKey (caseID : CaseID) : String := "moderation_case:" ++ toString caseID ++ ":threshold"

structure PassResult (K : Type*) where
  recomputed : ℕ
  failed : Bool
  db : DB K

/-- The loop over the selected cases from the `i`-th on; each is refreshed in its own transaction. -/
def DB.recomputeFrom (clk : Clock) (i : ℕ) : List CaseID → DB K → PassResult K
  | [], db => ⟨i, false, db⟩
  | caseID :: caseIDs, db =>
      match db.refreshModerationCaseSummary P (clk.read i) caseID with
      | none => ⟨i, true, db⟩
      | some (db', notify) =>
          DB.recomputeFrom clk (i + 1) caseIDs
            (if notify then db'.enqueueNotificationOutbox (notificationKey caseID) else db')

def DB.recomputeModerationProjections (db : DB K) (clk : Clock) (limit : ℤ) : PassResult K :=
  DB.recomputeFrom P clk 0 (db.selectedCases limit) db

end GeoDuels.Reports
