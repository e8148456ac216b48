import GeoDuels.Coordinator.Store
import GeoDuels.Moderation.Store
import Mathlib.Algebra.BigOperators.Group.Finset.Basic
import Mathlib.Algebra.Field.Defs
import Mathlib.Data.List.Sort
import Mathlib.Algebra.Order.Ring.Defs

/-!
# The numbers of the moderation tables

The tables behind `pkg/persistence/store.go`'s report weights and case scores, with the columns that these
read and each transaction as one step.  A `double precision` column holds an element of an ordered field
`K`, so that the formulas run over `ℚ` and can be read over `ℝ`; `math.Pow` is the parameter `Power`.
-/

namespace GeoDuels.Reports

open Moderation (CaseID CaseStatus)

/-- `math.Pow`, with what its documentation promises of it for a positive exponent. -/
structure Power (K : Type*) [Field K] [LinearOrder K] where
  pow : K → K → K
  pow_pos : ∀ x p, 0 < x → 0 < pow x p
  pow_le_pow : ∀ x y p, 0 ≤ x → x ≤ y → 0 < p → pow x p ≤ pow y p

/-! ## Rows -/

/-- `users`. -/
structure UserRow where
  id : UserID
  guest : Bool := false
  createdAt : ℕ

/-- `moderation_reporter_reputation`. -/
structure ReporterRow (K : Type*) where
  userID : UserID
  reportsSubmitted : ℕ := 0
  reportsConfirmed : ℕ := 0
  reportsDismissed : ℕ := 0
  reportsInconclusive : ℕ := 0
  reportsAbusive : ℕ := 0
  reportWeight : K
  mutedUntil : Option ℕ := none

/-- `moderation_reports`. -/
structure ReportRow (K : Type*) where
  caseID : CaseID
  matchID : MatchID
  reporterUserID : UserID
  reportedUserID : UserID
  category : String
  reporterWeight : K
  createdAt : ℕ

/-- `match_history`. -/
structure HistoryRow where
  matchID : MatchID
  endedAt : ℕ
  deriving DecidableEq

/-- `match_players`. -/
structure PlayerRow where
  matchID : MatchID
  userID : UserID

/-- `ranked_guess_events`. -/
structure GuessRow (K : Type*) where
  id : ℕ
  userID : UserID
  occurredAt : ℕ
  evidence : K

inductive Priority
  | low | medium | high | urgent
  deriving DecidableEq

/-- `moderation_cases`. -/
structure CaseRow (K : Type*) where
  targetUserID : UserID
  status : CaseStatus := .new
  priority : Priority := .low
  score : K
  reportCount : ℕ := 0
  uniqueReporterCount : ℕ := 0
  categories : List (String × ℕ) := []
  notificationSentAt : Option ℕ := none
  latestActivityAt : ℕ

/-- The moderation tables, and those that the moderation functions join them with. -/
structure DB (K : Type*) where
  users : List UserRow := []
  history : List HistoryRow := []
  players : List PlayerRow := []
  guesses : List (GuessRow K) := []
  reporters : List (ReporterRow K) := []
  reports : List (ReportRow K) := []
  cases : AList (fun _ : CaseID => CaseRow K) := ∅
  nextCaseID : CaseID := 1
  /-- The dedupe keys of `notification_outbox`. -/
  outbox : List String := []

/-- `strings.TrimSpace`. -/
def trimmed (s : String) : String := String.ofList (Coordinator.trimSpace s)

end GeoDuels.Reports
