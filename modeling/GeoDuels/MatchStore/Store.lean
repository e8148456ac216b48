import GeoDuels.Contracts
import GeoDuels.Decimal
import Mathlib.Data.List.Sort

/-!
# The queue store

The keys that `pkg/matchstore` keeps in Redis and what each of its commands, scripts and
`MULTI`/`EXEC` pipelines does to them.  A `Queue` holds the keys of one pool and one ruleset; a
sorted set is the map from its members to their scores.  Tickets and matches are stored as values
and not as JSON, and times are Unix milliseconds.
-/

namespace GeoDuels.MatchStore

inductive QueuePool where
  | guest | registered
  deriving DecidableEq

def allQueuePools : List QueuePool := [.guest, .registered]

def allQueueRulesets : List GameRuleset := [.moving, .nmpz]

def poolForGuest (isGuest : Bool) : QueuePool := if isGuest then .guest else .registered

def baseMatchWindowMMR : ℤ := 150
def matchExpandEveryMS : ℤ := 2 * 1000
def matchExpandStepMMR : ℤ := 75
def maxMatchWindowMMR : ℤ := 500
def mutualMatchWaitMS : ℤ := 1 * 1000

inductive QueuePresence where
  | missing | queueing | matched
  deriving DecidableEq

structure QueueJoinRequest where
  userID : UserID
  displayName : String := ""
  avatarURL : String := ""
  mmr : ℤ := 0
  ratingRD : ℚ := 0
  seasonID : String := ""
  rankedGamesPlayed : ℤ := 0
  isGuest : Bool := false
  isAdmin : Bool := false
  selectedBadge : Option PlayerBadge := none
  deriving DecidableEq

structure QueueJoinResponse where
  ticketID : String
  status : String
  deriving DecidableEq

structure Ticket where
  id : String
  userID : UserID
  displayName : String
  avatarURL : String
  mmr : ℤ
  ratingRD : ℚ
  seasonID : String
  rankedGamesPlayed : ℤ
  isGuest : Bool
  isAdmin : Bool
  selectedBadge : Option PlayerBadge
  ruleset : GameRuleset
  joinedAtUnixMS : ℤ
  deriving DecidableEq

def ticketID (userID : UserID) (now : ℤ) : String := userID ++ "-" ++ intStr now

/-- The rulesets of a call: normalized, each once, and `moving` when there are none. -/
def normalizedRulesets (rulesets : List GameRuleset) : List GameRuleset :=
  if rulesets = [] then [.moving]
  else (rulesets.map normalizeRuleset).foldl (fun out r => if r ∈ out then out else out ++ [r]) []

/-! ## Keys and commands -/

/-- The keys of one pool and one ruleset: the sorted sets `:pool` and `:joined`, the keys `:ticket:`
and `:match:` of each user, and the lock of the matcher. -/
structure Queue where
  pool : Assoc UserID ℤ := ∅
  joined : Assoc UserID ℤ := ∅
  ticket : Assoc UserID Ticket := ∅
  matched : Assoc UserID MatchFound := ∅
  matcherLock : Option String := none

/-- `ZRANGEBYSCORE`: the members with a score from `min` (`none` is `-inf`) to `max`, by score and
then by name. -/
def zrangeByScore (z : Assoc UserID ℤ) (min : Option ℤ) (max : ℤ) : List UserID :=
  ((z.entries.filter fun e => min.all (· ≤ e.2) && e.2 ≤ max).insertionSort
    fun a b => a.2 < b.2 ∨ a.2 = b.2 ∧ a.1 ≤ b.1).map Sigma.fst

namespace Queue

/-- What `Join` writes into the queue that is joined. -/
def join (q : Queue) (t : Ticket) : Queue :=
  { q with
    ticket := q.ticket.insert t.userID t
    pool := q.pool.insert t.userID t.mmr
    joined := q.joined.insert t.userID t.joinedAtUnixMS }

/-- Remove every key of the user. -/
def leave (q : Queue) (userID : UserID) : Queue :=
  { q with
    pool := q.pool.erase userID
    joined := q.joined.erase userID
    ticket := q.ticket.erase userID
    matched := q.matched.erase userID }

/-- `queueHeartbeatScript`, without the expiry of the ticket that it extends. -/
def heartbeat (q : Queue) (user : UserID) : QueuePresence × Queue :=
  if user ∈ q.matched then (.matched, q)
  else if user ∉ q.pool then
    (.missing, { q with ticket := q.ticket.erase user, joined := q.joined.erase user })
  else if user ∉ q.ticket then
    (.missing, { q with pool := q.pool.erase user, joined := q.joined.erase user })
  else (.queueing, q)

/-- `GETDEL` of the match key. -/
def getDelMatch (q : Queue) (userID : UserID) : Option MatchFound × Queue :=
  (q.matched.lookup userID, { q with matched := q.matched.erase userID })

/-- The best candidate that the loop of `atomicMatchScript` has found; the user is empty and there is
no ticket when there is none. -/
structure Best where
  user : UserID := ""
  ticket : Option Ticket := none
  diff : ℤ := maxMatchWindowMMR + 1

/-- The difference in MMR that is allowed after a wait. -/
def allowedDiff (waitMS : ℤ) : ℤ :=
  let allowed :=
    if 0 < matchExpandEveryMS then
      baseMatchWindowMMR + waitMS / matchExpandEveryMS * matchExpandStepMMR
    else baseMatchWindowMMR
  if maxMatchWindowMMR < allowed then maxMatchWindowMMR else allowed

/-- One candidate of `atomicMatchScript`: a member of the pool without a ticket is dropped from it. -/
def considerCandidate (self : UserID) (selfMMR selfJoined now : ℤ) (qb : Queue × Best)
    (c : UserID) : Queue × Best :=
  let (q, best) := qb
  if c = self then (q, best)
  else
    match q.pool.lookup c, q.ticket.lookup c with
    | none, _ => (q, best)
    | some _, none => ({ q with pool := q.pool.erase c }, best)
    | some score, some t =>
        let selfWait := max 0 (now - selfJoined)
        let candidateWait := max 0 (now - t.joinedAtUnixMS)
        let diff := |score - selfMMR|
        if mutualMatchWaitMS ≤ selfWait ∧ mutualMatchWaitMS ≤ candidateWait ∧
            diff ≤ allowedDiff (max selfWait candidateWait) ∧ diff < best.diff then
          (q, { user := c, ticket := some t, diff := diff })
        else (q, best)

/-- `atomicMatchScript`, called with the bounds `selfMMR ± maxMatchWindowMMR`. -/
def atomicMatch (q : Queue) (self : UserID) (selfMMR now : ℤ) : Option Ticket × Queue :=
  let selfJoined :=
    match q.ticket.lookup self with
    | some t => t.joinedAtUnixMS
    | none => now
  let candidates :=
    zrangeByScore q.pool (some (selfMMR - maxMatchWindowMMR)) (selfMMR + maxMatchWindowMMR)
  let (q, best) := candidates.foldl (considerCandidate self selfMMR selfJoined now) (q, {})
  if best.user = "" then (none, q)
  else
    let removed :=
      (if self ∈ q.pool then 1 else 0) + (if best.user ∈ q.pool.erase self then 1 else 0)
    -- the two are removed from the pool also when only one of them was in it
    let q := { q with pool := (q.pool.erase self).erase best.user }
    if removed = 2 then
      (best.ticket,
        { q with
          ticket := (q.ticket.erase self).erase best.user
          joined := (q.joined.erase self).erase best.user })
    else (none, q)

/-- What the result pipeline of `tryMatch` removes of a matched user, in the ruleset of the match and
(`other`) in the others. -/
def clearMatched (q : Queue) (other : Bool) (userID : UserID) : Queue :=
  { q with
    pool := q.pool.erase userID
    joined := q.joined.erase userID
    ticket := q.ticket.erase userID
    matched := if other then q.matched.erase userID else q.matched }

end Queue

/-! ## The store -/

structure Store where
  queues : QueuePool → GameRuleset → Queue

namespace Store

def empty : Store := ⟨fun _ _ => {}⟩

/-- The keys under `queuePrefix(pool, ruleset)`. -/
def queue (s : Store) (pool : QueuePool) (ruleset : GameRuleset) : Queue :=
  s.queues pool (normalizeRuleset ruleset)

def update (s : Store) (pool : QueuePool) (ruleset : GameRuleset) (f : Queue → Queue) : Store :=
  ⟨fun p r => if p = pool ∧ r = normalizeRuleset ruleset then f (s.queues p r) else s.queues p r⟩

/-- The ticket that `Join` writes. -/
def joinTicket (ruleset : GameRuleset) (req : QueueJoinRequest) (now : ℤ) : Ticket where
  id := ticketID req.userID now
  userID := req.userID
  displayName := if req.displayName = "" then req.userID else req.displayName
  avatarURL := req.avatarURL
  mmr := req.mmr
  ratingRD := req.ratingRD
  seasonID := req.seasonID
  rankedGamesPlayed := req.rankedGamesPlayed
  isGuest := req.isGuest
  isAdmin := req.isAdmin
  selectedBadge := req.selectedBadge
  ruleset := normalizeRuleset ruleset
  joinedAtUnixMS := now

/-- `Join`: one pipeline that also removes the user's keys of the other pools. -/
def join (s : Store) (pool : QueuePool) (ruleset : GameRuleset) (req : QueueJoinRequest) (now : ℤ) :
    QueueJoinResponse × Store :=
  let t := joinTicket ruleset req now
  let others := (allQueuePools.filter (· ≠ pool)) ×ˢ allQueueRulesets
  let s := others.foldl (fun s o => s.update o.1 o.2 (·.leave req.userID)) s
  (⟨t.id, "queued"⟩, s.update pool ruleset (·.join t))

/-- `Leave`: one pipeline. -/
def leave (s : Store) (pool : QueuePool) (rulesets : List GameRuleset) (userID : UserID) : Store :=
  (normalizedRulesets rulesets).foldl (fun s r => s.update pool r (·.leave userID)) s

def leaveAllRulesets (s : Store) (pool : QueuePool) (userID : UserID) : Store :=
  s.leave pool allQueueRulesets userID

/-- The result pipeline of `tryMatch`: the match is written for both users, who leave the queues of
all rulesets and lose their match keys of the others. -/
def recordMatch (s : Store) (pool : QueuePool) (ruleset : GameRuleset) (userID opponent : UserID)
    (m : MatchFound) : Store :=
  let s := s.update pool ruleset fun q =>
    { q with matched := (q.matched.insert userID m).insert opponent m }
  (allQueueRulesets ×ˢ [userID, opponent]).foldl
    (fun s c => s.update pool c.1 (·.clearMatched (c.1 ≠ ruleset) c.2)) s

end Store

/-! ## The match of two tickets -/

def profileFromTicket (t : Ticket) : PlayerProfile where
  userID := t.userID
  displayName := t.displayName
  mmr := t.mmr
  ratingRD := t.ratingRD
  rankedGamesPlayed := t.rankedGamesPlayed
  avatarURL := t.avatarURL
  isGuest := t.isGuest
  isAdmin := t.isAdmin
  selectedBadge := t.selectedBadge

def matchFromTickets (opponent self : Ticket) (now : ℤ) : MatchFound :=
  let ruleset := normalizeRuleset self.ruleset
  { matchID := "m-" ++ intStr now
    mode := .duel
    seasonID := if self.seasonID = "" then opponent.seasonID else self.seasonID
    config := normalizeMatchConfig { ruleset := ruleset, mapKey := mapKeyForRuleset ruleset }
    players := [opponent.userID, self.userID]
    profiles := (AList.insert opponent.userID (profileFromTicket opponent) ∅).insert self.userID
      (profileFromTicket self)
    mapScope := "world" }

end GeoDuels.MatchStore
