import GeoDuels.MatchStore.Matchmaking

/-!
# IsQueued and the lifetimes of keys

`IsQueued` looks at the ticket and at the pool with separate commands and cleans up after what it has
seen with separate commands again; it is a process like those of `Matchmaking`, and `Call` is a call of
either kind.  Tickets, matches and the lock of the matcher have a lifetime: the last section says what
is left of a queue when one of them has run out.
-/

namespace GeoDuels.MatchStore

/-! ## IsQueued -/

inductive IsQueuedAt where
  | exists_ | remPool | remJoined | score | del
  deriving DecidableEq

/-- A call of `IsQueued`; the first of its rulesets is the one that it is looking at. -/
structure IsQueued where
  userID : UserID
  rulesets : List GameRuleset
  at_ : IsQueuedAt := .exists_
  queued : Bool := false

def startIsQueued (rulesets : List GameRuleset) (userID : UserID) : IsQueued :=
  { userID := userID, rulesets := normalizedRulesets rulesets }

variable (pool : QueuePool)

/-- The next command of the call. -/
def IsQueued.run (s : Store) (c : IsQueued) : (IsQueued ⊕ Bool) × Store :=
  match c.rulesets with
  | [] => (.inr c.queued, s)
  | ruleset :: rulesets =>
      let q := s.queue pool ruleset
      match c.at_ with
      | .exists_ => (.inl { c with at_ := if c.userID ∈ q.ticket then .score else .remPool }, s)
      | .remPool =>
          (.inl { c with at_ := .remJoined },
            s.update pool ruleset fun q => { q with pool := q.pool.erase c.userID })
      | .remJoined =>
          (.inl { c with rulesets := rulesets, at_ := .exists_ },
            s.update pool ruleset fun q => { q with joined := q.joined.erase c.userID })
      | .score =>
          if c.userID ∈ q.pool then
            (.inl { c with rulesets := rulesets, at_ := .exists_, queued := true }, s)
          else (.inl { c with at_ := .del }, s)
      | .del =>
          (.inl { c with at_ := .remJoined },
            s.update pool ruleset fun q => { q with ticket := q.ticket.erase c.userID })

/-! ## Calls -/

inductive Call where
  | proc (p : Proc)
  | isQueued (c : IsQueued)

/-- The next command of the call, with the call as it goes on if it does. -/
def Call.run (s : Store) (now : ℤ) : Call → Option Call × Store
  | .proc p => ((p.run pool s now).1.getLeft?.map .proc, (p.run pool s now).2)
  | .isQueued c => ((c.run pool s).1.getLeft?.map .isQueued, (c.run pool s).2)

/-- What is asked of the store that takes more than one command. -/
inductive Request where
  | heartbeat (rulesets : List GameRuleset) (userID : UserID)
  | isQueued (rulesets : List GameRuleset) (userID : UserID)
  | poll (rulesets : List GameRuleset) (userID : UserID)
  | runMatchmaking (ruleset : GameRuleset) (limit now : ℤ)

def Request.start : Request → Call
  | .heartbeat rulesets userID => .proc (startHeartbeat rulesets userID)
  | .isQueued rulesets userID => .isQueued (startIsQueued rulesets userID)
  | .poll rulesets userID => .proc (startPoll rulesets userID)
  | .runMatchmaking ruleset limit now => .proc (startMatchmaking ruleset limit now)

/-! ## Lifetimes -/

namespace Queue

def expireTicket (q : Queue) (userID : UserID) : Queue := { q with ticket := q.ticket.erase userID }

def expireMatch (q : Queue) (userID : UserID) : Queue :=
  { q with matched := q.matched.erase userID }

def expireLock (q : Queue) : Queue := { q with matcherLock := none }

end Queue

end GeoDuels.MatchStore
