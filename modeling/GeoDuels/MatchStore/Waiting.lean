import GeoDuels.MatchStore.Calls
import GeoDuels.MatchStore.Script
import GeoDuels.MatchStore.Spec

/-!
# Nobody is dropped from a queue

The queue of one pool and one ruleset with all its calls, in which tickets, matches and the lock of
the matcher may expire at any time.  Who has a ticket is a member of the pool and of the joined set,
and stays one until he leaves, his ticket expires or a match script takes him, as long as no command
that was decided on before he joined again is sent after it (`kept_of_clean`): the clean-ups of
`tryMatch` and `IsQueued` and the result pipeline remove a user without looking again.
-/

namespace GeoDuels.MatchStore.Waiting

inductive Event where
  | joined (userID : UserID)
  | expired (userID : UserID)
  | left (userID : UserID)
  | paired (users : List UserID)

structure World where
  store : Store
  calls : Assoc ℕ Call
  /-- What has happened to the users, the last event first. -/
  history : List Event

def World.init : World := ⟨.empty, ∅, []⟩

inductive Op where
  | join (req : QueueJoinRequest) (now : ℤ)
  | leave (userID : UserID)
  | expireTicket (userID : UserID)
  | expireMatch (userID : UserID)
  | expireLock
  | heartbeat (id : ℕ) (userID : UserID)
  | isQueued (id : ℕ) (userID : UserID)
  | poll (id : ℕ) (userID : UserID)
  | runMatchmaking (id : ℕ) (limit now : ℤ)
  | run (id : ℕ) (now : ℤ)

/-- The two users of a call that has still to run its result pipeline. -/
def pair : Call → List UserID
  | .proc p => p.pair
  | .isQueued _ => []

variable (pool : QueuePool) (ruleset : GameRuleset)

namespace World

def queue (w : World) : Queue := w.store.queue pool ruleset

def start (w : World) (id : ℕ) (r : Request) : Option World :=
  if id ∈ w.calls then none else some { w with calls := w.calls.insert id r.start }

/-- The next command of the call `id`; the call is at its result pipeline when its match script has
returned a pair. -/
def run (w : World) (id : ℕ) (now : ℤ) (c : Call) : World :=
  let r := c.run pool w.store now
  { store := r.2
    calls :=
      match r.1 with
      | some c => w.calls.insert id c
      | none => w.calls.erase id
    history := .paired (r.1.elim [] pair) :: w.history }

def step (w : World) : Op → Option World
  | .join req now =>
      some { w with
        store := (w.store.join pool ruleset req now).2
        history := .joined req.userID :: w.history }
  | .leave userID =>
      some { w with
        store := w.store.leave pool [ruleset] userID
        history := .left userID :: w.history }
  | .expireTicket userID =>
      some { w with
        store := w.store.update pool ruleset (·.expireTicket userID)
        history := .expired userID :: w.history }
  | .expireMatch userID =>
      some { w with store := w.store.update pool ruleset (·.expireMatch userID) }
  | .expireLock => some { w with store := w.store.update pool ruleset (·.expireLock) }
  | .heartbeat id userID => w.start id (.heartbeat [ruleset] userID)
  | .isQueued id userID => w.start id (.isQueued [ruleset] userID)
  | .poll id userID => w.start id (.poll [ruleset] userID)
  | .runMatchmaking id limit now => w.start id (.runMatchmaking ruleset limit now)
  | .run id now => (w.calls.lookup id).map fun c => w.run pool id now c

end World

/-! ## What is to be kept -/

/-- The last join of the user came after his last expiry, and he has not left nor been paired since. -/
def waiting (u : UserID) : List Event → Bool
  | [] => false
  | .joined v :: es => v = u || waiting u es
  | .expired v :: es | .left v :: es => v ≠ u && waiting u es
  | .paired vs :: es => u ∉ vs && waiting u es

/-- The user has a ticket and is a member of both sets. -/
def InQueue (q : Queue) (u : UserID) : Prop := u ∈ q.ticket ∧ u ∈ q.pool ∧ u ∈ q.joined

instance (q : Queue) (u : UserID) : Decidable (InQueue q u) :=
  inferInstanceAs (Decidable (_ ∧ _ ∧ _))

/-- When no call is in progress, everybody who waits is in the queue. -/
def Kept (w : World) : Prop :=
  w.calls.keys = [] → ∀ u, waiting u w.history → InQueue (w.queue pool ruleset) u

/-- The next command of the call is the match script. -/
def isScript : Call → Bool
  | .proc (.pass _ _ _ (.script ..)) => true
  | _ => false

/-- A match script that returns nobody removes nobody who has a ticket. -/
def ScriptSpares (w : World) (op : Op) (w' : World) : Prop :=
  ∀ id now c, op = .run id now → w.calls.lookup id = some c → isScript c →
    (c.run pool w.store now).1.elim [] pair = [] →
      ∀ u ∈ (w.queue pool ruleset).ticket, u ∈ (w'.queue pool ruleset).ticket ∧
        (u ∈ (w.queue pool ruleset).pool → u ∈ (w'.queue pool ruleset).pool) ∧
        (u ∈ (w.queue pool ruleset).joined → u ∈ (w'.queue pool ruleset).joined)

/-! ## The condition -/

/-- The users whom the next command of the call removes without looking at their tickets: a clean-up
of `tryMatch` or `IsQueued`, or the result pipeline. -/
def drops : Call → List UserID
  | .proc (.pass _ _ _ (.dropPool userID _ _)) | .proc (.pass _ _ _ (.dropJoined userID _ _)) =>
      [userID]
  | .proc (.pass _ _ _ (.record userID _ opponent _ _)) => [userID, opponent.userID]
  | .isQueued ⟨userID, _, .remPool, _⟩ | .isQueued ⟨userID, _, .remJoined, _⟩
  | .isQueued ⟨userID, _, .del, _⟩ => [userID]
  | _ => []

/-- No clean-up and no result pipeline is sent for a user who has a ticket. -/
def Clean (w : World) : Op → Prop
  | .run id _ => ∀ c ∈ w.calls.lookup id, ∀ u ∈ drops c, u ∉ (w.queue pool ruleset).ticket
  | _ => True

instance (w : World) (op : Op) : Decidable (Clean pool ruleset w op) :=
  match op with
  | .run id _ => inferInstanceAs (Decidable (∀ c ∈ w.calls.lookup id, ∀ u ∈ drops c,
      u ∉ (w.queue pool ruleset).ticket))
  | .join .. | .leave .. | .expireTicket .. | .expireMatch .. | .expireLock | .heartbeat ..
  | .isQueued .. | .poll .. | .runMatchmaking .. => .isTrue trivial

/-! ## Commands on the queue -/

/-- Who has a ticket is a member of both sets, and the ticket is his. -/
structure Full (q : Queue) : Prop where
  named : ∀ u t, q.ticket.lookup u = some t → t.userID = u
  pool : ∀ u ∈ q.ticket, u ∈ q.pool
  joined : ∀ u ∈ q.ticket, u ∈ q.joined

/-- Nobody who has a ticket loses anything, but for the users of a list. -/
structure Spares (q q' : Queue) (gone : List UserID) : Prop where
  ticket : ∀ u t, q'.ticket.lookup u = some t → q.ticket.lookup u = some t
  kept : ∀ u ∈ q.ticket, u ∉ gone → u ∈ q'.ticket
  pool : ∀ u ∈ q'.ticket, u ∈ q.pool → u ∈ q'.pool
  joined : ∀ u ∈ q'.ticket, u ∈ q.joined → u ∈ q'.joined

variable {pool ruleset} {q q' : Queue}

theorem Spares.refl (q : Queue) (gone : List UserID) : Spares q q gone :=
  ⟨fun _ _ h => h, fun _ h _ => h, fun _ _ h => h, fun _ _ h => h⟩

theorem spares_of_same (ht : q'.ticket = q.ticket) (hp : q'.pool = q.pool)
    (hj : q'.joined = q.joined) : Spares q q' [] :=
  ⟨fun _ _ h => by rwa [ht] at h, fun _ h _ => by rwa [ht], fun _ _ h => by rwa [hp],
    fun _ _ h => by rwa [hj]⟩

theorem Spares.trans {q'' : Queue} (h : Spares q q' []) (h' : Spares q' q'' []) :
    Spares q q'' [] where
  ticket u t ht := h.ticket u t (h'.ticket u t ht)
  kept u hu hgone := h'.kept u (h.kept u hu hgone) hgone
  pool u hu hp := by
    obtain ⟨t, ht⟩ := Assoc.mem_iff_exists.1 hu
    exact h'.pool u hu (h.pool u (Assoc.mem_iff_exists.2 ⟨t, h'.ticket u t ht⟩) hp)
  joined u hu hj := by
    obtain ⟨t, ht⟩ := Assoc.mem_iff_exists.1 hu
    exact h'.joined u hu (h.joined u (Assoc.mem_iff_exists.2 ⟨t, h'.ticket u t ht⟩) hj)

theorem Spares.mem (h : Spares q q' []) {u : UserID} (hu : u ∈ q.ticket) : u ∈ q'.ticket :=
  h.kept u hu List.not_mem_nil

theorem Spares.mem_of_mem {gone : List UserID} (h : Spares q q' gone) {u : UserID}
    (hu : u ∈ q'.ticket) : u ∈ q.ticket := by
  obtain ⟨t, ht⟩ := Assoc.mem_iff_exists.1 hu
  exact Assoc.mem_iff_exists.2 ⟨t, h.ticket u t ht⟩

theorem Full.of_spares (hq : Full q) {gone : List UserID} (h : Spares q q' gone) : Full q' where
  named u t ht := hq.named u t (h.ticket u t ht)
  pool u hu := h.pool u hu (hq.pool u (h.mem_of_mem hu))
  joined u hu := h.joined u hu (hq.joined u (h.mem_of_mem hu))

/-- A command that removes keys of a user without a ticket. -/
theorem spares_of_erase {u : UserID} (hu : u ∉ q.ticket)
    (ht : q'.ticket = q.ticket ∨ q'.ticket = q.ticket.erase u)
    (hp : q'.pool = q.pool ∨ q'.pool = q.pool.erase u)
    (hj : q'.joined = q.joined ∨ q'.joined = q.joined.erase u) : Spares q q' [] := by
  have hticket : q'.ticket = q.ticket := by
    rcases ht with ht | ht
    · exact ht
    · rw [ht, Assoc.erase_of_lookup_none (AList.lookup_eq_none.2 hu)]
  have hne : ∀ v ∈ q'.ticket, v ≠ u := by
    rintro v hv rfl
    rw [hticket] at hv
    exact hu hv
  refine ⟨fun v t h => by rwa [hticket] at h, fun v hv _ => by rwa [hticket], fun v hv hm => ?_,
    fun v hv hm => ?_⟩
  · rcases hp with hp | hp
    · rwa [hp]
    · rw [hp, AList.mem_erase]
      exact ⟨hne v hv, hm⟩
  · rcases hj with hj | hj
    · rwa [hj]
    · rw [hj, AList.mem_erase]
      exact ⟨hne v hv, hm⟩

theorem heartbeat_spares (hq : Full q) (u : UserID) : Spares q (q.heartbeat u).2 [] := by
  unfold Queue.heartbeat
  by_cases hm : u ∈ q.matched
  · rw [if_pos hm]
    exact .refl q []
  · rw [if_neg hm]
    by_cases hp : u ∈ q.pool
    · rw [if_neg (not_not.2 hp)]
      by_cases ht : u ∈ q.ticket
      · rw [if_neg (not_not.2 ht)]
        exact .refl q []
      · rw [if_pos ht]
        exact spares_of_erase ht (.inl rfl) (.inr rfl) (.inr rfl)
    · rw [if_pos hp]
      exact spares_of_erase (fun ht => hp (hq.pool u ht)) (.inr rfl) (.inl rfl) (.inr rfl)

/-- A user without a ticket has not waited. -/
theorem partner_of_notMem {self : UserID} (hself : self ∉ q.ticket) (selfMMR now : ℤ) :
    q.partner self selfMMR now = none := by
  rw [Queue.partner_eq_none_iff]
  rintro c ⟨-, -, t, -, hwait, -⟩
  have hnow : q.joinedAt self now = now := by
    unfold Queue.joinedAt
    rw [AList.lookup_eq_none.2 hself]
  rw [hnow] at hwait
  simp [mutualMatchWaitMS] at hwait

/-- The match script. -/
theorem atomicMatch_spares (hq : Full q) (self : UserID) (selfMMR now : ℤ) :
    match (q.atomicMatch self selfMMR now).1 with
    | none => Spares q (q.atomicMatch self selfMMR now).2 []
    | some t => t.userID ≠ "" ∧ Spares q (q.atomicMatch self selfMMR now).2 [self, t.userID] := by
  have hswept : Spares q { q with pool := q.swept self (q.candidates selfMMR) } [] := by
    refine ⟨fun _ _ h => h, fun _ h _ => h, fun u hu hp => ?_, fun _ _ h => h⟩
    have hmem : u ∈ q.ticket := hu
    rw [← AList.lookup_isSome] at hp ⊢
    rwa [Queue.lookup_swept_of_mem _ hmem]
  rw [Queue.atomicMatch_eq]
  cases hp : q.partner self selfMMR now with
  | none => exact hswept
  | some c =>
      dsimp only
      by_cases hc : c = ""
      · rw [if_pos hc]
        exact hswept
      · rw [if_neg hc]
        have hself : self ∈ q.pool := by
          by_contra hnot
          have := partner_of_notMem (fun ht => hnot (hq.pool self ht)) selfMMR now
          rw [hp] at this
          cases this
        rw [if_pos hself]
        obtain ⟨-, -, t, ht, -⟩ := Queue.eligible_of_partner hp
        rw [ht]
        dsimp only
        rw [hq.named c t ht]
        refine ⟨hc, fun u t' h => ?_, fun u hu hgone => ?_, fun u hu hmem => ?_,
          fun u hu hmem => ?_⟩
        · exact Queue.lookup_of_lookup_erase (Queue.lookup_of_lookup_erase h)
        · rw [List.mem_pair, not_or] at hgone
          simp only [AList.mem_erase]
          exact ⟨hgone.2, hgone.1, hu⟩
        · simp only [AList.mem_erase] at hu ⊢
          refine ⟨hu.1, hu.2.1, ?_⟩
          have hin := hswept.pool u hu.2.2 hmem
          exact hin
        · simp only [AList.mem_erase] at hu ⊢
          exact ⟨hu.1, hu.2.1, hmem⟩

/-! ## The commands of a call -/

/-- The call works on the queue of the ruleset. -/
def On (ruleset : GameRuleset) : Call → Prop
  | .proc (.pass r _ _ _) => r = normalizeRuleset ruleset
  | .proc (.heartbeat _ rulesets _) | .proc (.poll _ rulesets) | .isQueued ⟨_, rulesets, _, _⟩ =>
      ∀ r ∈ rulesets, r = normalizeRuleset ruleset

variable {s : Store}

theorem queue_normalizeRuleset (s : Store) (pool : QueuePool) (ruleset : GameRuleset) :
    s.queue pool (normalizeRuleset ruleset) = s.queue pool ruleset := by
  unfold Store.queue
  rw [normalizeRuleset_normalizeRuleset]

theorem queue_update_normalizeRuleset (s : Store) (pool : QueuePool) (ruleset : GameRuleset)
    (f : Queue → Queue) :
    (s.update pool (normalizeRuleset ruleset) f).queue pool ruleset = f (s.queue pool ruleset) := by
  rw [Store.queue_update, if_pos ⟨rfl, (normalizeRuleset_normalizeRuleset ruleset).symm⟩]

theorem pair_loop (r : GameRuleset) (limit : ℤ) (owner : String) (n : ℕ) (users : List UserID) :
    pair (.proc (.pass r limit owner (.loop limit n users))) = [] := loop_pair ..

/-- A command of a pass. -/
theorem runPass_spares (hq : Full (s.queue pool ruleset)) (limit : ℤ) (owner : String) (now : ℤ)
    (at_ : PassAt) (hclean : ∀ u ∈ drops (.proc (.pass (normalizeRuleset ruleset) limit owner at_)),
      u ∉ (s.queue pool ruleset).ticket) :
    let r := runPass pool s (normalizeRuleset ruleset) limit owner now at_
    Spares (s.queue pool ruleset) (r.2.queue pool ruleset)
      ((r.1.getLeft?.map Call.proc).elim [] pair) := by
  cases at_ with
  | lock =>
      unfold runPass
      dsimp only
      rw [queue_normalizeRuleset]
      cases (s.queue pool ruleset).matcherLock with
      | some _ => exact .refl _ _
      | none =>
          dsimp only
          rw [queue_update_normalizeRuleset]
          exact spares_of_same rfl rfl rfl
  | list => exact .refl _ _
  | get u users n =>
      unfold runPass
      dsimp only
      cases (s.queue pool (normalizeRuleset ruleset)).ticket.lookup u with
      | none => exact .refl _ _
      | some self => exact .refl _ _
  | dropPool u users n =>
      unfold runPass
      dsimp only
      rw [queue_update_normalizeRuleset]
      exact spares_of_erase (hclean u List.mem_cons_self) (.inl rfl) (.inr rfl) (.inl rfl)
  | dropJoined u users n =>
      unfold runPass
      dsimp only
      rw [queue_update_normalizeRuleset, Sum.getLeft?_inl, Option.map_some, Option.elim_some, pair_loop]
      exact spares_of_erase (hclean u List.mem_cons_self) (.inl rfl) (.inl rfl) (.inr rfl)
  | script u self users n =>
      have hscript := atomicMatch_spares hq u self.mmr now
      unfold runPass
      dsimp only
      rw [queue_normalizeRuleset]
      cases ht : ((s.queue pool ruleset).atomicMatch u self.mmr now).1 with
      | none =>
          rw [ht] at hscript
          dsimp only
          rw [Sum.getLeft?_inl, Option.map_some, Option.elim_some, pair_loop,
            queue_update_normalizeRuleset]
          exact hscript
      | some t =>
          rw [ht] at hscript
          dsimp only
          rw [if_neg hscript.1, queue_update_normalizeRuleset]
          exact hscript.2
  | record u self t users n =>
      have hr := normalizeRuleset_mem ruleset
      unfold runPass
      dsimp only
      rw [Sum.getLeft?_inl, Option.map_some, Option.elim_some, pair_loop,
        ← queue_normalizeRuleset (s.recordMatch ..), Store.queue_recordMatch hr hr,
        queue_normalizeRuleset]
      have hu := hclean u List.mem_cons_self
      have ht := hclean t.userID (List.mem_cons_of_mem _ List.mem_cons_self)
      have hfirst : Spares (s.queue pool ruleset)
          { s.queue pool ruleset with
            pool := (s.queue pool ruleset).pool.erase u
            joined := (s.queue pool ruleset).joined.erase u
            ticket := (s.queue pool ruleset).ticket.erase u } [] :=
        spares_of_erase hu (.inr rfl) (.inr rfl) (.inr rfl)
      refine hfirst.trans (spares_of_erase (fun hmem => ht ?_) (.inr rfl) (.inr rfl) (.inr rfl))
      exact Queue.mem_of_mem_erase hmem
  | release n =>
      unfold runPass
      dsimp only
      rw [queue_update_normalizeRuleset]
      split_ifs
      · exact spares_of_same rfl rfl rfl
      · exact .refl _ _

/-- A command of `Heartbeat` or `Poll`. -/
theorem runProc_spares {p : Proc} (hp : On ruleset (.proc p)) (hq : Full (s.queue pool ruleset))
    (hclean : ∀ u ∈ drops (.proc p), u ∉ (s.queue pool ruleset).ticket) (now : ℤ) :
    Spares (s.queue pool ruleset) ((p.run pool s now).2.queue pool ruleset)
        (((p.run pool s now).1.getLeft?.map Call.proc).elim [] pair) ∧
      ∀ d, (p.run pool s now).1.getLeft? = some d → On ruleset (.proc d) := by
  cases p with
  | pass r limit owner at_ =>
      obtain rfl : r = normalizeRuleset ruleset := hp
      refine ⟨runPass_spares hq limit owner now at_ hclean, fun d hd => ?_⟩
      obtain ⟨at', rfl⟩ := runPass_goesOn (Sum.getLeft?_eq_some_iff.1 hd)
      rfl
  | heartbeat u rulesets queueing =>
      cases rulesets with
      | nil => exact ⟨.refl _ _, fun d hd => by cases hd⟩
      | cons r rulesets =>
          obtain rfl : r = normalizeRuleset ruleset := hp r List.mem_cons_self
          have hrest : ∀ x ∈ rulesets, x = normalizeRuleset ruleset := fun x hx =>
            hp x (List.mem_cons_of_mem _ hx)
          have hspares := heartbeat_spares hq u
          unfold Proc.run
          dsimp only
          rw [queue_normalizeRuleset]
          cases ((s.queue pool ruleset).heartbeat u).1 with
          | matched =>
              dsimp only
              rw [queue_update_normalizeRuleset]
              exact ⟨hspares, fun d hd => by cases hd⟩
          | queueing | missing =>
              dsimp only
              rw [queue_update_normalizeRuleset]
              refine ⟨hspares, fun d hd => ?_⟩
              obtain rfl := Option.some.inj hd
              exact hrest
  | poll u rulesets =>
      cases rulesets with
      | nil => exact ⟨.refl _ _, fun d hd => by cases hd⟩
      | cons r rulesets =>
          obtain rfl : r = normalizeRuleset ruleset := hp r List.mem_cons_self
          have hrest : ∀ x ∈ rulesets, x = normalizeRuleset ruleset := fun x hx =>
            hp x (List.mem_cons_of_mem _ hx)
          have hspares : Spares (s.queue pool ruleset) ((s.queue pool ruleset).getDelMatch u).2 [] :=
            spares_of_same rfl rfl rfl
          unfold Proc.run
          dsimp only
          rw [queue_normalizeRuleset]
          cases ((s.queue pool ruleset).getDelMatch u).1 with
          | none =>
              dsimp only
              rw [queue_update_normalizeRuleset]
              refine ⟨hspares, fun d hd => ?_⟩
              obtain rfl := Option.some.inj hd
              exact hrest
          | some m =>
              dsimp only
              rw [queue_update_normalizeRuleset]
              exact ⟨hspares, fun d hd => by cases hd⟩

/-- A command of `IsQueued`. -/
theorem runIsQueued_spares {c : IsQueued} (hc : On ruleset (.isQueued c))
    (hclean : ∀ u ∈ drops (.isQueued c), u ∉ (s.queue pool ruleset).ticket) :
    Spares (s.queue pool ruleset) ((c.run pool s).2.queue pool ruleset) [] ∧
      ∀ d, (c.run pool s).1.getLeft? = some d → On ruleset (.isQueued d) := by
  obtain ⟨u, rulesets, at_, queued⟩ := c
  cases rulesets with
  | nil => exact ⟨.refl _ _, fun d hd => by cases hd⟩
  | cons r rulesets =>
      have hrest : ∀ x ∈ rulesets, x = normalizeRuleset ruleset := fun x hx =>
        hc x (List.mem_cons_of_mem _ hx)
      obtain rfl : r = normalizeRuleset ruleset := hc r List.mem_cons_self
      cases at_ with
      | exists_ =>
          refine ⟨.refl _ _, fun d hd => ?_⟩
          obtain rfl := Option.some.inj hd
          exact hc
      | remPool =>
          unfold IsQueued.run
          dsimp only
          rw [queue_update_normalizeRuleset]
          refine ⟨spares_of_erase (hclean u List.mem_cons_self) (.inl rfl) (.inr rfl) (.inl rfl),
            fun d hd => ?_⟩
          obtain rfl := Option.some.inj hd
          exact hc
      | remJoined =>
          unfold IsQueued.run
          dsimp only
          rw [queue_update_normalizeRuleset]
          refine ⟨spares_of_erase (hclean u List.mem_cons_self) (.inl rfl) (.inl rfl) (.inr rfl),
            fun d hd => ?_⟩
          obtain rfl := Option.some.inj hd
          exact hrest
      | score =>
          unfold IsQueued.run
          dsimp only
          split_ifs
          · refine ⟨.refl _ _, fun d hd => ?_⟩
            obtain rfl := Option.some.inj hd
            exact hrest
          · refine ⟨.refl _ _, fun d hd => ?_⟩
            obtain rfl := Option.some.inj hd
            exact hc
      | del =>
          unfold IsQueued.run
          dsimp only
          rw [queue_update_normalizeRuleset]
          refine ⟨spares_of_erase (hclean u List.mem_cons_self) (.inr rfl) (.inl rfl) (.inl rfl),
            fun d hd => ?_⟩
          obtain rfl := Option.some.inj hd
          exact hc

/-- A command of a call removes nobody who has a ticket, but for the pair that it returns. -/
theorem run_spares {c : Call} (hc : On ruleset c) (hq : Full (s.queue pool ruleset))
    (hclean : ∀ u ∈ drops c, u ∉ (s.queue pool ruleset).ticket) (now : ℤ) :
    Spares (s.queue pool ruleset) ((c.run pool s now).2.queue pool ruleset)
        ((c.run pool s now).1.elim [] pair) ∧
      ∀ d, (c.run pool s now).1 = some d → On ruleset d := by
  cases c with
  | proc p =>
      obtain ⟨hspares, hon⟩ := runProc_spares hc hq hclean now
      refine ⟨hspares, fun d hd => ?_⟩
      obtain ⟨p', hp', rfl⟩ := Option.map_eq_some_iff.1 hd
      exact hon p' hp'
  | isQueued c =>
      obtain ⟨hspares, hon⟩ := runIsQueued_spares hc hclean
      refine ⟨?_, fun d hd => ?_⟩
      · have hpair : (((c.run pool s).1.getLeft?.map Call.isQueued).elim [] pair) = [] := by
          cases (c.run pool s).1.getLeft? <;> rfl
        show Spares _ _ (((c.run pool s).1.getLeft?.map Call.isQueued).elim [] pair)
        rw [hpair]
        exact hspares
      · obtain ⟨c', hc', rfl⟩ := Option.map_eq_some_iff.1 hd
        exact hon c' hc'

/-! ## The run -/

structure Inv (pool : QueuePool) (ruleset : GameRuleset) (w : World) : Prop where
  full : Full (w.queue pool ruleset)
  waiting : ∀ u, waiting u w.history → u ∈ (w.queue pool ruleset).ticket
  calls : ∀ id c, w.calls.lookup id = some c → On ruleset c

variable {w w' : World}

theorem Inv.init : Inv pool ruleset World.init where
  full := ⟨fun _ _ h => (by cases h), fun _ h => (by cases h), fun _ h => (by cases h)⟩
  waiting := fun _ h => by cases h
  calls := fun _ _ h => by cases h

theorem Inv.kept (h : Inv pool ruleset w) : Kept pool ruleset w := by
  intro _ u hu
  have ht := h.waiting u hu
  exact ⟨ht, h.full.pool u ht, h.full.joined u ht⟩

theorem normalizedRulesets_singleton (r : GameRuleset) :
    normalizedRulesets [r] = [normalizeRuleset r] := by
  simp [normalizedRulesets]

theorem mem_normalizedRulesets_singleton :
    ∀ r ∈ normalizedRulesets [ruleset], r = normalizeRuleset ruleset := by
  simp [normalizedRulesets_singleton]

theorem Inv.start (h : Inv pool ruleset w) {id : ℕ} {r : Request} (hr : On ruleset r.start)
    (hs : w.start id r = some w') : Inv pool ruleset w' := by
  unfold World.start at hs
  split_ifs at hs
  obtain rfl := Option.some.inj hs
  refine ⟨h.full, h.waiting, fun i c hi => ?_⟩
  rcases Assoc.of_lookup_insert hi with ⟨-, rfl⟩ | ⟨-, hi⟩
  · exact hr
  · exact h.calls i c hi

theorem Inv.join (h : Inv pool ruleset w) (req : QueueJoinRequest) (now : ℤ) :
    Inv pool ruleset { w with
      store := (w.store.join pool ruleset req now).2
      history := .joined req.userID :: w.history } := by
  have hqueue : World.queue pool ruleset { w with
      store := (w.store.join pool ruleset req now).2
      history := .joined req.userID :: w.history } =
        (w.queue pool ruleset).join (Store.joinTicket ruleset req now) := by
    unfold World.queue
    rw [Store.queue_join, if_pos rfl]
  refine ⟨?_, fun u hu => ?_, h.calls⟩
  · rw [hqueue]
    refine ⟨fun u t ht => ?_, fun u hu => ?_, fun u hu => ?_⟩
    · rcases Assoc.of_lookup_insert ht with ⟨rfl, rfl⟩ | ⟨-, ht⟩
      · rfl
      · exact h.full.named u t ht
    · exact (AList.mem_insert _).2 (((AList.mem_insert _).1 hu).imp_right (h.full.pool u))
    · exact (AList.mem_insert _).2 (((AList.mem_insert _).1 hu).imp_right (h.full.joined u))
  · rw [hqueue]
    refine (AList.mem_insert _).2 ?_
    rw [Waiting.waiting, Bool.or_eq_true, decide_eq_true_eq] at hu
    exact hu.imp Eq.symm (h.waiting u)

/-- A user whose ticket goes, and with it all that he has in the queue or nothing. -/
theorem Inv.drop (h : Inv pool ruleset w) {s : Store} {e : Event} (u : UserID)
    (ht : (s.queue pool ruleset).ticket = (w.queue pool ruleset).ticket.erase u)
    (hp : ∀ v, v ≠ u → v ∈ (w.queue pool ruleset).pool → v ∈ (s.queue pool ruleset).pool)
    (hj : ∀ v, v ≠ u → v ∈ (w.queue pool ruleset).joined → v ∈ (s.queue pool ruleset).joined)
    (he : ∀ v, Waiting.waiting v (e :: w.history) → v ≠ u ∧ Waiting.waiting v w.history) :
    Inv pool ruleset { w with store := s, history := e :: w.history } := by
  have hmem : ∀ v, v ∈ (s.queue pool ruleset).ticket ↔ v ≠ u ∧ v ∈ (w.queue pool ruleset).ticket := by
    intro v
    rw [ht, AList.mem_erase]
  refine ⟨⟨fun v t hv => ?_, fun v hv => ?_, fun v hv => ?_⟩, fun v hv => ?_, h.calls⟩
  · change (s.queue pool ruleset).ticket.lookup v = some t at hv
    rw [ht] at hv
    exact h.full.named v t (Assoc.of_lookup_erase hv).2
  · obtain ⟨hne, hin⟩ := (hmem v).1 hv
    exact hp v hne (h.full.pool v hin)
  · obtain ⟨hne, hin⟩ := (hmem v).1 hv
    exact hj v hne (h.full.joined v hin)
  · obtain ⟨hne, hwait⟩ := he v hv
    exact (hmem v).2 ⟨hne, h.waiting v hwait⟩

theorem queue_leave (s : Store) (pool : QueuePool) (ruleset : GameRuleset) (u : UserID) :
    (s.leave pool [ruleset] u).queue pool ruleset = (s.queue pool ruleset).leave u := by
  unfold Store.leave
  rw [normalizedRulesets_singleton, List.foldl_cons, List.foldl_nil, queue_update_normalizeRuleset]

theorem queue_update_self (s : Store) (pool : QueuePool) (ruleset : GameRuleset)
    (f : Queue → Queue) : (s.update pool ruleset f).queue pool ruleset = f (s.queue pool ruleset) := by
  rw [Store.queue_update, if_pos ⟨rfl, rfl⟩]

/-- Commands that leave the tickets and the two sets alone. -/
theorem Inv.other (h : Inv pool ruleset w) (f : Queue → Queue)
    (hf : ∀ q, (f q).ticket = q.ticket ∧ (f q).pool = q.pool ∧ (f q).joined = q.joined) :
    Inv pool ruleset { w with store := w.store.update pool ruleset f } := by
  have hqueue : World.queue pool ruleset { w with store := w.store.update pool ruleset f } =
      f (w.queue pool ruleset) := queue_update_self ..
  obtain ⟨ht, hp, hj⟩ := hf (w.queue pool ruleset)
  refine ⟨?_, fun u hu => ?_, h.calls⟩
  · rw [hqueue]
    exact h.full.of_spares (spares_of_same ht hp hj)
  · rw [hqueue, ht]
    exact h.waiting u hu

theorem waiting_of_dropped {u v : UserID} {es : List Event}
    (h : (decide (u ≠ v) && waiting v es) = true) : v ≠ u ∧ waiting v es := by
  rw [Bool.and_eq_true, decide_eq_true_eq] at h
  exact ⟨h.1.symm, h.2⟩

theorem Inv.run (h : Inv pool ruleset w) {id : ℕ} {now : ℤ} {c : Call}
    (hc : w.calls.lookup id = some c) (hC : Clean pool ruleset w (.run id now)) :
    Inv pool ruleset (w.run pool id now c) := by
  obtain ⟨hspares, hon⟩ := run_spares (h.calls id c hc) h.full (hC c hc) now
  refine ⟨h.full.of_spares hspares, fun u hu => ?_, fun i d hi => ?_⟩
  · have hu' : u ∉ (c.run pool w.store now).1.elim [] pair ∧ Waiting.waiting u w.history := by
      simpa [World.run, Waiting.waiting] using hu
    exact hspares.kept u (h.waiting u hu'.2) hu'.1
  · unfold World.run at hi
    dsimp only at hi
    cases hd : (c.run pool w.store now).1 with
    | none =>
        rw [hd] at hi
        exact h.calls i d (Assoc.of_lookup_erase hi).2
    | some c' =>
        rw [hd] at hi
        rcases Assoc.of_lookup_insert hi with ⟨-, rfl⟩ | ⟨-, hi⟩
        · exact hon _ hd
        · exact h.calls i d hi

theorem Inv.step (h : Inv pool ruleset w) {op : Op} (hC : Clean pool ruleset w op)
    (hs : w.step pool ruleset op = some w') : Inv pool ruleset w' := by
  cases op with
  | join req now =>
      obtain rfl := Option.some.inj hs
      exact h.join req now
  | leave u =>
      obtain rfl := Option.some.inj hs
      refine h.drop u ?_ ?_ ?_ fun v hv => ?_
      · rw [queue_leave]
        rfl
      · intro v hv hin
        rw [queue_leave]
        exact AList.mem_erase.2 ⟨hv, hin⟩
      · intro v hv hin
        rw [queue_leave]
        exact AList.mem_erase.2 ⟨hv, hin⟩
      · exact waiting_of_dropped hv
  | expireTicket u =>
      obtain rfl := Option.some.inj hs
      refine h.drop u ?_ ?_ ?_ fun v hv => ?_
      · rw [queue_update_self]
        rfl
      · intro v _ hin
        rwa [queue_update_self]
      · intro v _ hin
        rwa [queue_update_self]
      · exact waiting_of_dropped hv
  | expireMatch u =>
      obtain rfl := Option.some.inj hs
      exact h.other (fun q => q.expireMatch u) fun _ => ⟨rfl, rfl, rfl⟩
  | expireLock =>
      obtain rfl := Option.some.inj hs
      exact h.other Queue.expireLock fun _ => ⟨rfl, rfl, rfl⟩
  | heartbeat id u =>
      refine h.start ?_ hs
      exact mem_normalizedRulesets_singleton
  | isQueued id u =>
      refine h.start ?_ hs
      exact mem_normalizedRulesets_singleton
  | poll id u =>
      refine h.start ?_ hs
      exact mem_normalizedRulesets_singleton
  | runMatchmaking id limit now =>
      refine h.start ?_ hs
      rfl
  | run id now =>
      obtain ⟨c, hc, rfl⟩ := Option.map_eq_some_iff.1 hs
      exact h.run hc hC

theorem Inv.scriptSpares (h : Inv pool ruleset w) {op : Op} (hC : Clean pool ruleset w op)
    (hs : w.step pool ruleset op = some w') : ScriptSpares pool ruleset w op w' := by
  rintro id now c rfl hc - hnone u hu
  obtain ⟨c', hc', rfl⟩ := Option.map_eq_some_iff.1 hs
  obtain rfl : c = c' := Option.some.inj (hc.symm.trans hc')
  obtain ⟨hspares, -⟩ := run_spares (h.calls id c hc) h.full (hC c hc) now
  rw [hnone] at hspares
  have hkept := hspares.mem hu
  exact ⟨hkept, hspares.pool u hkept, hspares.joined u hkept⟩

/-- In every run in which no clean-up and no result pipeline is sent for a user who has a ticket,
everybody who waits is in the queue whenever no call is in progress, and no match script that returns
nobody removes a user who has a ticket. -/
theorem kept_of_clean (pool : QueuePool) (ruleset : GameRuleset) (ops : List Op)
    (h : Run.Guarded (World.step pool ruleset) (Clean pool ruleset) World.init ops) :
    Run.Always (World.step pool ruleset) (Kept pool ruleset) World.init ops ∧
      Run.Along (World.step pool ruleset) (ScriptSpares pool ruleset) World.init ops :=
  have hinv : Run.Always (World.step pool ruleset) (Inv pool ruleset) World.init ops :=
    Run.always_of_invariant (fun _ _ _ hw hC hs => Inv.step hw hC hs) Inv.init h
  ⟨hinv.mono fun _ hw => hw.kept,
    Run.along_of_invariant (fun _ _ _ hw hC hs => ⟨Inv.step hw hC hs, Inv.scriptSpares hw hC hs⟩)
      Inv.init h⟩

/-- The ticket of `u1` expires, `IsQueued` cleans up and he joins again; a pass then finds nobody for
him, and pairs him with `u2` later. -/
def cleanedRun : List Op :=
  [.join { userID := "u1", mmr := 1000 } 1000, .expireTicket "u1",
    .isQueued 1 "u1", .run 1 0, .run 1 0, .run 1 0, .run 1 0,
    .join { userID := "u1", mmr := 1000 } 40000,
    .runMatchmaking 2 50 42000,
    .run 2 42000, .run 2 42000, .run 2 42000, .run 2 42000, .run 2 42000,
    .join { userID := "u2", mmr := 1010 } 43000,
    .runMatchmaking 3 50 45000,
    .run 3 45000, .run 3 45000, .run 3 45000, .run 3 45000, .run 3 45000]

theorem kept_cleanedRun :
    Run.Guarded (World.step .registered .moving) (Clean .registered .moving) World.init cleanedRun ∧
      Run.Always (World.step .registered .moving) (Kept .registered .moving) World.init cleanedRun :=
  ⟨by decide +kernel, (kept_of_clean .registered .moving cleanedRun (by decide +kernel)).1⟩

/-! ### Clean-ups that come too late -/

/-- `IsQueued` finds no ticket, the user joins again, and the clean-up goes on. -/
def lateCleanUpRun : List Op :=
  [.join { userID := "u1", mmr := 1000 } 1000, .expireTicket "u1",
    .isQueued 1 "u1", .run 1 0,
    .join { userID := "u1", mmr := 1000 } 40000,
    .run 1 0, .run 1 0, .run 1 0]

/-- The match script has paired `u1` and `u2`, `u1` joins again, and the result pipeline removes
him. -/
def lateResultRun : List Op :=
  [.join { userID := "u1", mmr := 1000 } 1000, .join { userID := "u2", mmr := 1010 } 1001,
    .runMatchmaking 1 50 5000, .run 1 5000, .run 1 5000, .run 1 5000, .run 1 5000,
    .join { userID := "u1", mmr := 1000 } 5001,
    .run 1 5002, .run 1 5002, .run 1 5002, .run 1 5002, .run 1 5002]

theorem not_kept_lateRuns :
    ¬ Run.Always (World.step .registered .moving) (Kept .registered .moving) World.init
        lateCleanUpRun ∧
      ¬ Run.Always (World.step .registered .moving) (Kept .registered .moving) World.init
        lateResultRun := by
  have hcleanUp : ∃ w ∈ Run.exec (World.step .registered .moving) World.init lateCleanUpRun,
      w.calls.keys = [] ∧ waiting "u1" w.history ∧ ¬ InQueue (w.queue .registered .moving) "u1" := by
    decide +kernel
  have hresult : ∃ w ∈ Run.exec (World.step .registered .moving) World.init lateResultRun,
      w.calls.keys = [] ∧ waiting "u1" w.history ∧ ¬ InQueue (w.queue .registered .moving) "u1" := by
    decide +kernel
  constructor
  · obtain ⟨w, hw, hidle, hwait, hbad⟩ := hcleanUp
    exact fun h => hbad (h.exec hw hidle "u1" hwait)
  · obtain ⟨w, hw, hidle, hwait, hbad⟩ := hresult
    exact fun h => hbad (h.exec hw hidle "u1" hwait)

end GeoDuels.MatchStore.Waiting
