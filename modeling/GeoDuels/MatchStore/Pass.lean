import GeoDuels.MatchStore.Script

/-!
# A pass on its own

`RunMatchmaking` and `tryMatch` as the functions they are when nothing else runs, with Redis calls that
may fail without an effect.  `runMatchmaking_steps` connects them to the processes of `Matchmaking`:
without failures, a pass that runs by itself does the same and returns the same number.
-/

namespace GeoDuels.MatchStore

/-- The Redis calls of `tryMatch`. -/
inductive TryCall where
  | get | remPool | remJoined | script | result
  deriving DecidableEq

/-- What a call of `tryMatch` meets: the clock and the Redis calls that fail. -/
structure Meets where
  now : ℤ
  fails : TryCall → Bool := fun _ => false

/-- What a pass meets, with what its call of `tryMatch` for each user does. -/
structure PassMeets where
  now : ℤ
  lockFails : Bool := false
  listFails : Bool := false
  releaseFails : Bool := false
  tries : UserID → Meets

/-- The error of a pass. -/
inductive PassError where
  | lock | list
  | tryMatch (c : TryCall)
  deriving DecidableEq

/-- The effective limit of a pass. -/
def passLimit (limit : ℤ) : ℤ := if limit ≤ 0 then 50 else limit

variable (pool : QueuePool) (ruleset : GameRuleset)

def tryMatch (env : Meets) (userID : UserID) (s : Store) : Except TryCall Bool × Store :=
  if env.fails .get then (.error .get, s)
  else
    match (s.queue pool ruleset).ticket.lookup userID with
    | none =>
        if env.fails .remPool then (.error .remPool, s)
        else
          let s := s.update pool ruleset fun q => { q with pool := q.pool.erase userID }
          if env.fails .remJoined then (.error .remJoined, s)
          else (.ok false, s.update pool ruleset fun q => { q with joined := q.joined.erase userID })
    | some self =>
        if env.fails .script then (.error .script, s)
        else
          let q := (s.queue pool ruleset).atomicMatch userID self.mmr env.now
          let s := s.update pool ruleset fun _ => q.2
          match q.1 with
          | none => (.ok false, s)
          | some opponent =>
              if opponent.userID = "" then (.ok false, s)
              else if env.fails .result then (.error .result, s)
              else
                (.ok true, s.recordMatch pool ruleset userID opponent.userID
                  (matchFromTickets opponent self env.now))

/-- The loop of a pass over the users, with the number of matches so far. -/
def tryAll (limit : ℤ) (env : UserID → Meets) : List UserID → ℕ → Store →
    ℕ × Option TryCall × Store
  | [], matched, s => (matched, none, s)
  | userID :: users, matched, s =>
      if limit ≤ matched then (matched, none, s)
      else
        match tryMatch pool ruleset (env userID) userID s with
        | (.error err, s) => (matched, some err, s)
        | (.ok ok, s) => tryAll limit env users (if ok then matched + 1 else matched) s

structure PassResult where
  matched : ℕ
  err : Option PassError
  store : Store

/-- `releaseMatcherLockScript`, which is deferred; its error is not looked at. -/
def releaseMatcherLock (owner : String) (fails : Bool) (s : Store) : Store :=
  if fails then s
  else
    s.update pool ruleset fun q =>
      if q.matcherLock = some owner then { q with matcherLock := none } else q

def runMatchmaking (env : PassMeets) (limit : ℤ) (s : Store) : PassResult :=
  let limit := passLimit limit
  let ruleset := normalizeRuleset ruleset
  let owner := ticketID "matcher" env.now
  if env.lockFails then ⟨0, some .lock, s⟩
  else
    match (s.queue pool ruleset).matcherLock with
    | some _ => ⟨0, none, s⟩
    | none =>
        let s := s.update pool ruleset fun q => { q with matcherLock := some owner }
        if env.listFails then
          ⟨0, some .list, releaseMatcherLock pool ruleset owner env.releaseFails s⟩
        else
          let users := zrangeByScore (s.queue pool ruleset).joined none (env.now - mutualMatchWaitMS)
          let r := tryAll pool ruleset limit env.tries users 0 s
          ⟨r.1, r.2.1.map .tryMatch,
            releaseMatcherLock pool ruleset owner env.releaseFails r.2.2⟩

/-! ## What a call of tryMatch comes to -/

/-- The queue without the candidates that have no ticket. -/
def Queue.sweep (q : Queue) (self : UserID) (selfMMR : ℤ) : Queue :=
  { q with pool := q.swept self (q.candidates selfMMR) }

/-- The queue after the script has removed the caller and `c` from the pool. -/
def Queue.unpool (q : Queue) (self c : UserID) (selfMMR : ℤ) : Queue :=
  { q with pool := ((q.swept self (q.candidates selfMMR)).erase self).erase c }

/-- The queue after the script has taken the caller and `c`. -/
def Queue.take (q : Queue) (self c : UserID) (selfMMR : ℤ) : Queue :=
  { q.unpool self c selfMMR with
    ticket := (q.ticket.erase self).erase c
    joined := (q.joined.erase self).erase c }

/-- The script runs for `userID`, whose ticket is `mine`, and finds `c`, whose ticket is `t`. -/
structure Finds (env : Meets) (userID : UserID) (s : Store) (mine : Ticket) (c : UserID) (t : Ticket) :
    Prop where
  get : ¬ env.fails .get
  script : ¬ env.fails .script
  own : (s.queue pool ruleset).ticket.lookup userID = some mine
  partner : (s.queue pool ruleset).partner userID mine.mmr env.now = some c
  ne : c ≠ ""
  ticket : (s.queue pool ruleset).ticket.lookup c = some t

/-- The ways in which a call of `tryMatch` ends. -/
inductive Tried (env : Meets) (userID : UserID) (s : Store) : Except TryCall Bool × Store → Prop
  | failed (err : TryCall)
      (early : env.fails .get ∨ userID ∉ (s.queue pool ruleset).ticket ∧ env.fails .remPool ∨
        env.fails .script) : Tried env userID s (.error err, s)
  | half (stale : userID ∉ (s.queue pool ruleset).ticket) (fails : env.fails .remJoined) :
      Tried env userID s (.error .remJoined,
        s.update pool ruleset fun q => { q with pool := q.pool.erase userID })
  | stale (stale : userID ∉ (s.queue pool ruleset).ticket) : Tried env userID s (.ok false,
      (s.update pool ruleset fun q => { q with pool := q.pool.erase userID }).update pool ruleset
        fun q => { q with joined := q.joined.erase userID })
  | alone (self : Ticket) (found : (s.queue pool ruleset).ticket.lookup userID = some self)
      (none : ∀ c, (s.queue pool ruleset).partner userID self.mmr env.now = some c → c = "") :
      Tried env userID s (.ok false, s.update pool ruleset (·.sweep userID self.mmr))
  | dropped (self : Ticket) (c : UserID) (t : Ticket) (finds : Finds pool ruleset env userID s self c t)
      (out : userID ∉ (s.queue pool ruleset).pool) :
      Tried env userID s (.ok false, s.update pool ruleset (·.unpool userID c self.mmr))
  | unnamed (self : Ticket) (c : UserID) (t : Ticket) (finds : Finds pool ruleset env userID s self c t)
      (name : t.userID = "") :
      Tried env userID s (.ok false, s.update pool ruleset (·.take userID c self.mmr))
  | lost (self : Ticket) (c : UserID) (t : Ticket) (finds : Finds pool ruleset env userID s self c t)
      (mem : userID ∈ (s.queue pool ruleset).pool) (name : t.userID ≠ "") (fails : env.fails .result) :
      Tried env userID s (.error .result, s.update pool ruleset (·.take userID c self.mmr))
  | paired (self : Ticket) (c : UserID) (t : Ticket) (finds : Finds pool ruleset env userID s self c t)
      (mem : userID ∈ (s.queue pool ruleset).pool) (name : t.userID ≠ "")
      (done : ¬ env.fails .result) :
      Tried env userID s (.ok true,
        (s.update pool ruleset (·.take userID c self.mmr)).recordMatch pool ruleset userID t.userID
          (matchFromTickets t self env.now))

variable {pool ruleset} in
theorem update_const (s : Store) (f : Queue → Queue) :
    (s.update pool ruleset fun _ => f (s.queue pool ruleset)) = s.update pool ruleset f := by
  unfold Store.update Store.queue
  congr 1
  funext p r
  by_cases h : p = pool ∧ r = normalizeRuleset ruleset
  · rw [if_pos h, if_pos h, h.1, h.2]
  · rw [if_neg h, if_neg h]

/-- A call of `tryMatch` ends in one of these ways. -/
theorem tried (env : Meets) (userID : UserID) (s : Store) :
    Tried pool ruleset env userID s (tryMatch pool ruleset env userID s) := by
  unfold tryMatch
  by_cases hget : env.fails .get
  · rw [if_pos hget]
    exact .failed .get (.inl hget)
  · rw [if_neg hget]
    cases hself : (s.queue pool ruleset).ticket.lookup userID with
    | none =>
        have hstale := AList.lookup_eq_none.1 hself
        dsimp only
        split_ifs with hpool hjoined
        · exact .failed .remPool (.inr (.inl ⟨hstale, hpool⟩))
        · exact .half hstale hjoined
        · exact .stale hstale
    | some self =>
        dsimp only
        by_cases hscript : env.fails .script
        · rw [if_pos hscript]
          exact .failed .script (.inr (.inr hscript))
        · rw [if_neg hscript, Queue.atomicMatch_eq]
          have halone : (∀ c, (s.queue pool ruleset).partner userID self.mmr env.now = some c →
              c = "") → Tried pool ruleset env userID s (.ok false, s.update pool ruleset fun _ =>
                (s.queue pool ruleset).sweep userID self.mmr) := by
            intro h
            rw [update_const s (·.sweep userID self.mmr)]
            exact .alone self hself h
          cases hp : (s.queue pool ruleset).partner userID self.mmr env.now with
          | none => exact halone fun c hc => by rw [hp] at hc; cases hc
          | some c =>
              dsimp only
              by_cases hc : c = ""
              · rw [if_pos hc]
                exact halone fun d hd => by rwa [← Option.some.inj (hp.symm.trans hd)]
              · obtain ⟨-, -, t, ht, -⟩ := Queue.eligible_of_partner hp
                have hfinds : Finds pool ruleset env userID s self c t :=
                  ⟨hget, hscript, hself, hp, hc, ht⟩
                rw [if_neg hc]
                by_cases hin : userID ∈ (s.queue pool ruleset).pool
                · rw [if_pos hin, ht]
                  have htake := @update_const pool ruleset s (·.take userID c self.mmr)
                  dsimp only
                  split_ifs with hname hresult
                  · have h := Tried.unnamed self c t hfinds hname
                    rwa [← htake] at h
                  · have h := Tried.lost self c t hfinds hin hname hresult
                    rwa [← htake] at h
                  · have h := Tried.paired self c t hfinds hin hname hresult
                    rwa [← htake] at h
                · rw [if_neg hin]
                  have h := Tried.dropped self c t hfinds hin
                  rwa [← @update_const pool ruleset s (·.unpool userID c self.mmr)] at h

/-! ## The pass as a process -/

/-- The next commands of a call when nothing else runs, at a fixed clock reading. -/
def steps (now : ℤ) : ℕ → Outcome × Store → Outcome × Store
  | 0, x => x
  | _ + 1, (.inr r, s) => (.inr r, s)
  | k + 1, (.inl p, s) => steps now k (p.run pool s now)

variable {pool ruleset} {now : ℤ}

theorem steps_inr (k : ℕ) (r : Reply) (s : Store) : steps pool now k (.inr r, s) = (.inr r, s) := by
  cases k <;> rfl

theorem steps_add (k l : ℕ) (x : Outcome × Store) :
    steps pool now (k + l) x = steps pool now l (steps pool now k x) := by
  induction k generalizing x with
  | zero => rw [Nat.zero_add, steps]
  | succ k ih =>
      obtain ⟨o, s⟩ := x
      cases o with
      | inl p => rw [Nat.add_right_comm, steps, steps, ih]
      | inr r => rw [steps_inr, steps_inr, steps_inr]

/-- A call of `tryMatch` without failures. -/
theorem tryMatch_steps (r : GameRuleset) (limit : ℤ) (owner : String) (u : UserID)
    (users : List UserID) (n : ℕ) (s : Store) :
    ∃ k ok s', tryMatch pool r { now := now } u s = (.ok ok, s') ∧
      steps pool now k (.inl (.pass r limit owner (.get u users n)), s) =
        (.inl (.pass r limit owner (.loop limit (if ok then n + 1 else n) users)), s') := by
  unfold tryMatch
  cases ht : (s.queue pool r).ticket.lookup u with
  | none =>
      refine ⟨3, false, _, rfl, ?_⟩
      simp only [steps, Proc.run, runPass, ht, Bool.false_eq_true, if_false]
  | some self =>
      simp only [Bool.false_eq_true, if_false]
      cases hm : ((s.queue pool r).atomicMatch u self.mmr now).1 with
      | none =>
          refine ⟨2, false, _, rfl, ?_⟩
          simp only [steps, Proc.run, runPass, ht, hm, Bool.false_eq_true, if_false]
      | some t =>
          by_cases hempty : t.userID = ""
          · refine ⟨2, false, _, if_pos hempty, ?_⟩
            simp only [steps, Proc.run, runPass, ht, hm, hempty, if_true, Bool.false_eq_true, if_false]
          · refine ⟨3, true, _, if_neg hempty, ?_⟩
            simp only [steps, Proc.run, runPass, ht, hm, hempty, if_true, if_false]

/-- The loop of a pass without failures. -/
theorem tryAll_steps (r : GameRuleset) (limit : ℤ) (owner : String) (users : List UserID) (n : ℕ)
    (s : Store) : ∃ k n' s', tryAll pool r limit (fun _ => { now := now }) users n s = (n', none, s') ∧
      steps pool now k (.inl (.pass r limit owner (.loop limit n users)), s) =
        (.inl (.pass r limit owner (.release n')), s') := by
  induction users generalizing n s with
  | nil => exact ⟨0, n, s, rfl, rfl⟩
  | cons u users ih =>
      unfold tryAll PassAt.loop
      by_cases hlimit : limit ≤ n
      · simp only [hlimit, if_true]
        exact ⟨0, n, s, rfl, rfl⟩
      · simp only [hlimit, if_false]
        obtain ⟨k, ok, s₁, htry, hsteps⟩ := @tryMatch_steps pool now r limit owner u users n s
        obtain ⟨k', n', s', hall, hrest⟩ := ih (if ok then n + 1 else n) s₁
        rw [htry]
        exact ⟨k + k', n', s', hall, by rw [steps_add, hsteps, hrest]⟩

/-- A pass that runs by itself, without failures and at a fixed clock reading, is `runMatchmaking`. -/
theorem runMatchmaking_steps (ruleset : GameRuleset) (limit : ℤ) (s : Store) :
    ∃ k, let r := runMatchmaking pool ruleset { now := now, tries := fun _ => { now := now } } limit s
      r.err = none ∧ steps pool now k (.inl (startMatchmaking ruleset limit now), s) =
        (.inr (.matched r.matched), r.store) := by
  unfold runMatchmaking startMatchmaking passLimit
  dsimp only
  generalize normalizeRuleset ruleset = r
  generalize (if limit ≤ 0 then 50 else limit) = limit
  cases hlock : (s.queue pool r).matcherLock with
  | some owner =>
      refine ⟨1, rfl, ?_⟩
      simp [steps, Proc.run, runPass, hlock]
  | none =>
      simp only [Bool.false_eq_true, if_false]
      generalize hs : s.update pool r
        (fun q => { q with matcherLock := some (ticketID "matcher" now) }) = s₁
      obtain ⟨k, n, s₂, hall, hsteps⟩ := @tryAll_steps pool now r limit (ticketID "matcher" now)
        (zrangeByScore (s₁.queue pool r).joined none (now - mutualMatchWaitMS)) 0 s₁
      rw [hall]
      refine ⟨2 + k + 1, rfl, ?_⟩
      rw [steps_add, steps_add]
      have hstart : steps pool now 2
          (.inl (.pass r limit (ticketID "matcher" now) .lock), s) =
            (.inl (.pass r limit (ticketID "matcher" now) (.loop limit 0
              (zrangeByScore (s₁.queue pool r).joined none (now - mutualMatchWaitMS)))), s₁) := by
        simp only [steps, Proc.run, runPass, hlock, hs]
      rw [hstart, hsteps]
      simp [steps, Proc.run, runPass, releaseMatcherLock]

end GeoDuels.MatchStore
