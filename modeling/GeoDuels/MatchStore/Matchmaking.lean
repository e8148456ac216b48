import GeoDuels.Lib.Matching
import GeoDuels.Lib.Run
import GeoDuels.MatchStore.Store

/-!
# Runs of the queue

`Join` is one pipeline, so it happens in one step.  `Heartbeat`, `Poll` and `RunMatchmaking` send
several commands, between which others may act: a call in progress is a `Proc`, which holds what the
Go code has read so far, and `Proc.run` is its next command.  A `World` is the store of one pool with
the calls in progress, of any number of coordinators, and a record of the joins and of the matches
that `Poll` has returned.
-/

namespace GeoDuels.MatchStore

/-- Where a pass of `RunMatchmaking` is: the commands of the pass and of the `tryMatch` it is in, with
the users it has still to try and the number of matches it has made. -/
inductive PassAt where
  | lock
  | list
  | get (userID : UserID) (users : List UserID) (matched : ℕ)
  | dropPool (userID : UserID) (users : List UserID) (matched : ℕ)
  | dropJoined (userID : UserID) (users : List UserID) (matched : ℕ)
  | script (userID : UserID) (self : Ticket) (users : List UserID) (matched : ℕ)
  | record (userID : UserID) (self opponent : Ticket) (users : List UserID) (matched : ℕ)
  | release (matched : ℕ)

/-- The head of the loop over the users. -/
def PassAt.loop (limit : ℤ) (matched : ℕ) : List UserID → PassAt
  | [] => .release matched
  | userID :: users => if limit ≤ matched then .release matched else .get userID users matched

inductive Proc where
  | heartbeat (userID : UserID) (rulesets : List GameRuleset) (anyQueueing : Bool)
  | poll (userID : UserID) (rulesets : List GameRuleset)
  | pass (ruleset : GameRuleset) (limit : ℤ) (owner : String) (at_ : PassAt)

inductive Reply where
  | presence (p : QueuePresence)
  | polled (userID : UserID) (m : Option MatchFound)
  | matched (n : ℕ)

/-- A call goes on as a process or returns. -/
abbrev Outcome := Proc ⊕ Reply

def startHeartbeat (rulesets : List GameRuleset) (userID : UserID) : Proc :=
  .heartbeat userID (normalizedRulesets rulesets) false

def startPoll (rulesets : List GameRuleset) (userID : UserID) : Proc :=
  .poll userID (normalizedRulesets rulesets)

def startMatchmaking (ruleset : GameRuleset) (limit now : ℤ) : Proc :=
  .pass (normalizeRuleset ruleset) (if limit ≤ 0 then 50 else limit) (ticketID "matcher" now) .lock

variable (pool : QueuePool)

/-- The next command of a pass of `RunMatchmaking`. -/
def runPass (s : Store) (ruleset : GameRuleset) (limit : ℤ) (owner : String) (now : ℤ) :
    PassAt → Outcome × Store
  | .lock =>
      match (s.queue pool ruleset).matcherLock with
      | some _ => (.inr (.matched 0), s)
      | none =>
          (.inl (.pass ruleset limit owner .list),
            s.update pool ruleset fun q => { q with matcherLock := some owner })
  | .list =>
      let users := zrangeByScore (s.queue pool ruleset).joined none (now - mutualMatchWaitMS)
      (.inl (.pass ruleset limit owner (.loop limit 0 users)), s)
  | .get userID users matched =>
      match (s.queue pool ruleset).ticket.lookup userID with
      | none => (.inl (.pass ruleset limit owner (.dropPool userID users matched)), s)
      | some self => (.inl (.pass ruleset limit owner (.script userID self users matched)), s)
  | .dropPool userID users matched =>
      (.inl (.pass ruleset limit owner (.dropJoined userID users matched)),
        s.update pool ruleset fun q => { q with pool := q.pool.erase userID })
  | .dropJoined userID users matched =>
      (.inl (.pass ruleset limit owner (.loop limit matched users)),
        s.update pool ruleset fun q => { q with joined := q.joined.erase userID })
  | .script userID self users matched =>
      let q := (s.queue pool ruleset).atomicMatch userID self.mmr now
      let s := s.update pool ruleset fun _ => q.2
      match q.1 with
      | none => (.inl (.pass ruleset limit owner (.loop limit matched users)), s)
      | some opponent =>
          if opponent.userID = "" then
            (.inl (.pass ruleset limit owner (.loop limit matched users)), s)
          else (.inl (.pass ruleset limit owner (.record userID self opponent users matched)), s)
  | .record userID self opponent users matched =>
      (.inl (.pass ruleset limit owner (.loop limit (matched + 1) users)),
        s.recordMatch pool ruleset userID opponent.userID (matchFromTickets opponent self now))
  | .release matched =>
      (.inr (.matched matched),
        s.update pool ruleset fun q =>
          if q.matcherLock = some owner then { q with matcherLock := none } else q)

/-- The next command of a call. -/
def Proc.run (s : Store) (now : ℤ) : Proc → Outcome × Store
  | .heartbeat _ [] anyQueueing =>
      (.inr (.presence (if anyQueueing then .queueing else .missing)), s)
  | .heartbeat userID (ruleset :: rulesets) anyQueueing =>
      let q := (s.queue pool ruleset).heartbeat userID
      let s := s.update pool ruleset fun _ => q.2
      match q.1 with
      | .matched => (.inr (.presence .matched), s)
      | .queueing => (.inl (.heartbeat userID rulesets true), s)
      | .missing => (.inl (.heartbeat userID rulesets anyQueueing), s)
  | .poll userID [] => (.inr (.polled userID none), s)
  | .poll userID (ruleset :: rulesets) =>
      let q := (s.queue pool ruleset).getDelMatch userID
      let s := s.update pool ruleset fun _ => q.2
      match q.1 with
      | none => (.inl (.poll userID rulesets), s)
      | some m =>
          (.inr (.polled userID (some { m with config := normalizeMatchConfig m.config })), s)
  | .pass ruleset limit owner at_ => runPass pool s ruleset limit owner now at_

/-! ## The world -/

abbrev Event := Matching.Event UserID MatchFound

structure World where
  store : Store
  procs : Assoc ℕ Proc
  /-- The joins and the matches returned by `Poll`, the last one first. -/
  history : List Event

def World.init : World := ⟨.empty, ∅, []⟩

inductive Op where
  | join (ruleset : GameRuleset) (req : QueueJoinRequest) (now : ℤ)
  | heartbeat (id : ℕ) (rulesets : List GameRuleset) (userID : UserID)
  | poll (id : ℕ) (rulesets : List GameRuleset) (userID : UserID)
  | runMatchmaking (id : ℕ) (ruleset : GameRuleset) (limit now : ℤ)
  | run (id : ℕ) (now : ℤ)

/-- A call starts under a new id. -/
def World.start (w : World) (id : ℕ) (p : Proc) : Option World :=
  if id ∈ w.procs then none else some { w with procs := w.procs.insert id p }

/-- What the outcome of a command of the call `id` makes of the calls and of the record. -/
def World.settle (w : World) (id : ℕ) (s : Store) : Outcome → World
  | .inl p => { w with store := s, procs := w.procs.insert id p }
  | .inr (.polled userID (some m)) =>
      ⟨s, w.procs.erase id, .collected userID m :: w.history⟩
  | .inr _ => { w with store := s, procs := w.procs.erase id }

def World.step (w : World) : Op → Option World
  | .join ruleset req now =>
      some { w with
        store := (w.store.join pool ruleset req now).2
        history := .joined req.userID :: w.history }
  | .heartbeat id rulesets userID => w.start id (startHeartbeat rulesets userID)
  | .poll id rulesets userID => w.start id (startPoll rulesets userID)
  | .runMatchmaking id ruleset limit now => w.start id (startMatchmaking ruleset limit now)
  | .run id now =>
      (w.procs.lookup id).map fun p =>
        let r := p.run pool w.store now
        w.settle id r.2 r.1

end GeoDuels.MatchStore
