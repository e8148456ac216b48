import Mathlib.Data.Int.Notation
import Mathlib.Data.Nat.Notation
import Mathlib.Logic.Basic
import Mathlib.Tactic.SplitIfs

/-!
# The matchmaking state

`matchmakingReducer` (`apps/web/lib/matchmaking.ts`).
-/

namespace GeoDuels.MatchPage

inductive MatchmakingStatus where
  | idle | ready | queueing | matchedConnecting | inMatch | recovering | abandoned
  deriving DecidableEq

inductive RecoverOutcome where
  | ready | queueing | matched | abandoned
  deriving DecidableEq

structure MatchmakingState where
  status : MatchmakingStatus := .idle
  intentVersion : ℕ := 0
  activeRecoverRequestID : Option ℕ := none
  queueStartedAt : Option ℤ := none
  deriving DecidableEq

inductive MatchmakingAction where
  | setStatus (status : MatchmakingStatus) (bumpIntent : Bool)
  | joinRequested (startedAt : Option ℤ)
  | leaveRequested
  | queueStatus (status : String) (queuedAt : Option ℤ)
  | matchFound
  | gameConnected
  | queueError
  | wsClosed
  | recoverStarted (requestID : ℕ)
  | recoverResolved (requestID intentVersionAtStart : ℕ) (outcome : RecoverOutcome) (hasSnapshot : Bool)
  | recoverFailed (requestID : ℕ)

/-- The status that `queue_status` sets, by the word of the server. -/
def queueStatusOf (status : String) : Option MatchmakingStatus :=
  match status with
  | "left" | "ready" => some .ready
  | "matched" => some .matchedConnecting
  | "queued" | "queueing" => some .queueing
  | "idle" => some .idle
  | "recovering" => some .recovering
  | "abandoned" => some .abandoned
  | _ => none

def matchmakingReducer (state : MatchmakingState) : MatchmakingAction → MatchmakingState
  | .setStatus status bumpIntent =>
      { state with
        status := status
        queueStartedAt := if status = .queueing then state.queueStartedAt else none
        intentVersion := if bumpIntent then state.intentVersion + 1 else state.intentVersion }
  | .joinRequested startedAt =>
      { state with
        status := .queueing
        queueStartedAt := startedAt
        intentVersion := state.intentVersion + 1 }
  | .leaveRequested =>
      { state with status := .ready, queueStartedAt := none, intentVersion := state.intentVersion + 1 }
  | .queueStatus status queuedAt =>
      match queueStatusOf status with
      | some .queueing =>
          { state with status := .queueing, queueStartedAt := queuedAt.or state.queueStartedAt }
      | some next => { state with status := next, queueStartedAt := none }
      | none => state
  | .matchFound => { state with status := .matchedConnecting, queueStartedAt := none }
  | .gameConnected => { state with status := .inMatch, queueStartedAt := none }
  | .queueError =>
      if state.status = .queueing then { state with status := .ready, queueStartedAt := none } else state
  | .wsClosed =>
      if state.status = .queueing ∨ state.status = .matchedConnecting ∨ state.status = .inMatch then
        { state with status := .recovering }
      else state
  | .recoverStarted requestID => { state with activeRecoverRequestID := some requestID }
  | .recoverResolved requestID intentVersionAtStart outcome hasSnapshot =>
      if state.activeRecoverRequestID ≠ some requestID then state
      else
        let next := { state with activeRecoverRequestID := none }
        match outcome with
        | .matched => { next with status := .matchedConnecting }
        | .abandoned => { next with status := .abandoned }
        | .ready =>
            if intentVersionAtStart ≠ state.intentVersion then next
            else if hasSnapshot then next
            else { next with status := .ready }
        | .queueing =>
            if intentVersionAtStart ≠ state.intentVersion then next
            else { next with status := .queueing }
  | .recoverFailed requestID =>
      if state.activeRecoverRequestID ≠ some requestID then state
      else { state with activeRecoverRequestID := none }

/-- The action is not one of a recovery. -/
def MatchmakingAction.quiet : MatchmakingAction → Bool
  | .recoverStarted _ | .recoverResolved .. | .recoverFailed _ => false
  | _ => true

/-- Only a recovery says which request is active. -/
theorem activeRecoverRequestID_of_quiet {action : MatchmakingAction} (h : action.quiet = true)
    (state : MatchmakingState) :
    (matchmakingReducer state action).activeRecoverRequestID = state.activeRecoverRequestID := by
  cases action with
  | setStatus | joinRequested | leaveRequested | matchFound | gameConnected => rfl
  | queueError | wsClosed =>
      unfold matchmakingReducer
      dsimp only
      split <;> rfl
  | queueStatus =>
      unfold matchmakingReducer
      dsimp only
      split <;> rfl
  | recoverStarted | recoverResolved | recoverFailed => cases h

/-! ## The end of a recovery -/

section Recovery

variable {state : MatchmakingState} {requestID : ℕ}

theorem activeRecoverRequestID_recoverResolved (h : state.activeRecoverRequestID = some requestID)
    (intentVersionAtStart : ℕ) (outcome : RecoverOutcome) (hasSnapshot : Bool) :
    (matchmakingReducer state (.recoverResolved requestID intentVersionAtStart outcome
      hasSnapshot)).activeRecoverRequestID = none := by
  unfold matchmakingReducer
  dsimp only
  rw [if_neg (not_not.2 h)]
  cases outcome <;> dsimp only <;> split_ifs <;> rfl

theorem activeRecoverRequestID_recoverFailed (h : state.activeRecoverRequestID = some requestID) :
    (matchmakingReducer state (.recoverFailed requestID)).activeRecoverRequestID = none := by
  unfold matchmakingReducer
  dsimp only
  rw [if_neg (not_not.2 h)]

theorem status_recoverAbandoned (h : state.activeRecoverRequestID = some requestID)
    (intentVersionAtStart : ℕ) (hasSnapshot : Bool) :
    (matchmakingReducer state (.recoverResolved requestID intentVersionAtStart .abandoned
      hasSnapshot)).status = .abandoned := by
  unfold matchmakingReducer
  dsimp only
  rw [if_neg (not_not.2 h)]

/-- A recovery that finds nothing to connect to leaves the status, when there is a snapshot. -/
theorem status_recoverReady (state : MatchmakingState) (requestID intentVersionAtStart : ℕ) :
    (matchmakingReducer state (.recoverResolved requestID intentVersionAtStart .ready true)).status =
      state.status := by
  unfold matchmakingReducer
  dsimp only
  rw [if_pos (rfl : true = true)]
  split_ifs <;> rfl

theorem status_recoverFailed (state : MatchmakingState) (requestID : ℕ) :
    (matchmakingReducer state (.recoverFailed requestID)).status = state.status := by
  unfold matchmakingReducer
  dsimp only
  split_ifs <;> rfl

end Recovery

end GeoDuels.MatchPage
