import GeoDuels.GameplayNode.Lifecycle
import GeoDuels.MatchLaunch.Spec
import GeoDuels.MatchStore.Calls
import GeoDuels.MatchStore.Spec

/-!
# Distinct ids of matches

The store, with passes over all pools and rulesets, the calls of `EnsureAssignment` for the matches
that the passes have made, and the nodes that answer them.  The id of a match is the millisecond in
which `matchFromTickets` reads the clock, so two matches differ exactly when they are made in
different milliseconds (`distinct_iff`); a pass makes its pairs in a loop, and nothing there waits.
-/

namespace GeoDuels.MatchLaunch.DistinctIds

open Coordinator
open GameplayNode (Runtime CreateStatus)
open MatchStore (QueuePool QueueJoinRequest Ticket matchFromTickets)

/-- The match that the next command of the call makes. -/
def forming (now : ℤ) : MatchStore.Call → Option MatchFound
  | .proc (.pass _ _ _ (.record _ self opponent _ _)) => some (matchFromTickets opponent self now)
  | _ => none

/-- `createMatch` of a node, on the runtime of the match's mode; `stored` says whether the match can be
recorded as live. -/
def createMatch (F : FloatMath) (clk : Clock) (provider : Duel.RoundProvider) (stored : Bool)
    (found : MatchFound) (r : Runtime) : CreateStatus × Runtime :=
  if found.matchID = "" ∨ found.players = [] then (.failed, r)
  else
    match r.getSnapshot clk found.matchID with
    | .ok _ => (.exists_, r)
    | .error _ =>
        let answer : CreateStatus := if stored then .ok else .failed
        match r.createMatch F clk provider
            { found with config := normalizeMatchConfig found.config } with
        | .ok r' => (answer, r')
        | .error err =>
            if "already exists".toList <:+: err.toList then (answer, r) else (.failed, r)

structure World where
  store : MatchStore.Store
  calls : Assoc ℕ (QueuePool × MatchStore.Call)
  /-- The matches of the successful calls of `tryMatch`, with the clock readings of their ids. -/
  formed : List (ℤ × MatchFound)
  coord : Store
  launches : Assoc ℕ Call
  /-- The assignments that `EnsureAssignment` has returned, with the matches it was called for. -/
  returned : List (MatchFound × Assignment)
  /-- The runtime of each node for the mode of these matches. -/
  runtimes : Assoc NodeID Runtime
  /-- The create requests that a node has accepted. -/
  served : List (NodeID × MatchFound)

def World.init : World := ⟨.empty, ∅, [], {}, ∅, [], ∅, []⟩

inductive Op where
  | join (pool : QueuePool) (ruleset : GameRuleset) (req : QueueJoinRequest) (now : ℤ)
  | leave (pool : QueuePool) (rulesets : List GameRuleset) (userID : UserID)
  | expireTicket (pool : QueuePool) (ruleset : GameRuleset) (userID : UserID)
  | expireMatch (pool : QueuePool) (ruleset : GameRuleset) (userID : UserID)
  | expireLock (pool : QueuePool) (ruleset : GameRuleset)
  | request (id : ℕ) (pool : QueuePool) (r : MatchStore.Request)
  | run (id : ℕ) (now : ℤ)
  | register (rec : NodeRecord) (now : ℤ)
  | clear (matchID : MatchID)
  | ensure (id : ℕ) (found : MatchFound) (suffix : String)
  | launch (id : ℕ) (now : ℤ) (clk : Clock) (provider : Duel.RoundProvider) (stored : Bool)
  | call (nodeID : NodeID) (c : GameplayNode.Call)
  | tick (nodeID : NodeID) (clk : TickClock MatchID) (provider : Duel.RoundProvider)

namespace World

def runtime (w : World) (nodeID : NodeID) : Runtime :=
  (w.runtimes.lookup nodeID).getD (.duel .duel .new)

def setRuntime (w : World) (nodeID : NodeID) (r : Runtime) : World :=
  { w with runtimes := w.runtimes.insert nodeID r }

/-- The next command of a call of the store; `tryMatch` succeeds with its result pipeline. -/
def run (w : World) (id : ℕ) (now : ℤ) (pool : QueuePool) (c : MatchStore.Call) : World :=
  let r := c.run pool w.store now
  { w with
    store := r.2
    calls :=
      match r.1 with
      | some c => w.calls.insert id (pool, c)
      | none => w.calls.erase id
    formed := (forming now c).toList.map (Prod.mk now) ++ w.formed }

variable (F : FloatMath) (singleTTL : ℤ)

/-- The next command of a call of `EnsureAssignment`; `accepted` is the answer of the node to a create
request. -/
def settle (w : World) (id : ℕ) (now : ℤ) (c : Call) (accepted : Bool) : World :=
  let r := c.run w.coord singleTTL now accepted
  { w with
    coord := r.store
    launches :=
      match r.next with
      | .inl c => w.launches.insert id c
      | .inr _ => w.launches.erase id
    returned :=
      match r.next with
      | .inr (.ok assigned) => (c.found, assigned) :: w.returned
      | _ => w.returned }

/-- A command of a call of `EnsureAssignment`, with what the node does when it is a create request. -/
def launch (w : World) (id : ℕ) (now : ℤ) (clk : Clock) (provider : Duel.RoundProvider)
    (stored : Bool) (c : Call) : World :=
  match c.at_ with
  | .create target =>
      let a := createMatch F clk provider stored c.found (w.runtime target.nodeID)
      let w := w.setRuntime target.nodeID a.2
      if a.1 = .failed then w.settle singleTTL id now c false
      else
        { w with served := (target.nodeID, c.found) :: w.served }.settle singleTTL id now c true
  | _ => w.settle singleTTL id now c true

def step (w : World) : Op → Option World
  | .join pool ruleset req now => some { w with store := (w.store.join pool ruleset req now).2 }
  | .leave pool rulesets userID => some { w with store := w.store.leave pool rulesets userID }
  | .expireTicket pool ruleset userID =>
      some { w with store := w.store.update pool ruleset (·.expireTicket userID) }
  | .expireMatch pool ruleset userID =>
      some { w with store := w.store.update pool ruleset (·.expireMatch userID) }
  | .expireLock pool ruleset => some { w with store := w.store.update pool ruleset (·.expireLock) }
  | .request id pool r =>
      if id ∈ w.calls then none else some { w with calls := w.calls.insert id (pool, r.start) }
  | .run id now => (w.calls.lookup id).map fun c => w.run id now c.1 c.2
  | .register rec now =>
      some { w with coord := w.coord.registerNode (w.coord.getNodeByID rec.nodeID) rec now }
  | .clear matchID =>
      (w.coord.getAssignmentByMatch matchID).map fun assigned =>
        { w with coord := w.coord.clearAssignment assigned }
  | .ensure id found suffix =>
      if id ∈ w.launches ∨ found ∉ w.formed.map Prod.snd then none
      else some { w with launches := w.launches.insert id (Call.start found suffix) }
  | .launch id now clk provider stored =>
      (w.launches.lookup id).map fun c => w.launch F singleTTL id now clk provider stored c
  | .call nodeID c => some (w.setRuntime nodeID ((w.runtime nodeID).call F c).2)
  | .tick nodeID clk provider =>
      some (w.setRuntime nodeID ((w.runtime nodeID).tick F clk provider).2)

end World

/-! ## What is to hold -/

/-- Any two matches have different ids; what `EnsureAssignment` returns for a match is an assignment
of its players, and the create requests that reach one match of one node are for the same players. -/
structure Distinct (w : World) : Prop where
  ids : w.formed.Pairwise fun e e' => e.2.matchID ≠ e'.2.matchID
  assignments : ∀ r ∈ w.returned, r.2.players = r.1.players
  engines : ∀ x ∈ w.served, ∀ y ∈ w.served, x.1 = y.1 → x.2.matchID = y.2.matchID →
    x.2.players = y.2.players

/-- No result pipeline has the clock reading of another one. -/
def FreshClock (w : World) : Op → Prop
  | .run id now => ∀ c ∈ w.calls.lookup id, (forming now c.2).isSome → now ∉ w.formed.map Prod.fst
  | _ => True

instance (w : World) (op : Op) : Decidable (FreshClock w op) :=
  match op with
  | .run id now => inferInstanceAs (Decidable (∀ c ∈ w.calls.lookup id,
      (forming now c.2).isSome → now ∉ w.formed.map Prod.fst))
  | .join .. | .leave .. | .expireTicket .. | .expireMatch .. | .expireLock .. | .request ..
  | .register .. | .clear .. | .ensure .. | .launch .. | .call .. | .tick .. => .isTrue trivial

/-! ## The invariant -/

structure Inv (w : World) : Prop where
  made : ∀ e ∈ w.formed, ∃ opponent self, e.2 = matchFromTickets opponent self e.1
  times : (w.formed.map Prod.fst).Nodup
  launches : ∀ id c, w.launches.lookup id = some c → (∃ t, (t, c.found) ∈ w.formed) ∧ c.at_.Sound ∧
    ∀ a, c.at_ = .unlock (.ok a) → a.players = c.found.players
  assigned : ∀ i a, w.coord.getAssignmentByMatch i = some a →
    ∃ e ∈ w.formed, e.2.matchID = i ∧ a.players = e.2.players
  returned : ∀ r ∈ w.returned, r.2.players = r.1.players
  served : ∀ x ∈ w.served, ∃ t, (t, x.2) ∈ w.formed

variable {F : FloatMath} {singleTTL : ℤ} {w w' : World}

theorem Inv.init : Inv World.init where
  made := by simp [World.init]
  times := by simp [World.init]
  launches := fun _ _ h => by cases h
  assigned := fun _ _ h => by cases h
  returned := by simp [World.init]
  served := by simp [World.init]

theorem matchID_matchFromTickets (opponent self : Ticket) (now : ℤ) :
    (matchFromTickets opponent self now).matchID = "m-" ++ intStr now := rfl

/-- The id of a match tells its clock reading. -/
theorem Inv.fst_eq (h : Inv w) {e e' : ℤ × MatchFound} (he : e ∈ w.formed) (he' : e' ∈ w.formed)
    (hid : e.2.matchID = e'.2.matchID) : e.1 = e'.1 := by
  obtain ⟨o, t, hm⟩ := h.made e he
  obtain ⟨o', t', hm'⟩ := h.made e' he'
  rw [hm, hm', matchID_matchFromTickets, matchID_matchFromTickets] at hid
  have hl := congrArg String.toList hid
  simp only [String.toList_append, List.append_cancel_left_eq, String.toList_inj] at hl
  exact intStr_injective hl

/-- There is one match for each id. -/
theorem Inv.eq_of_matchID (h : Inv w) {e e' : ℤ × MatchFound} (he : e ∈ w.formed)
    (he' : e' ∈ w.formed) (hid : e.2.matchID = e'.2.matchID) : e = e' :=
  List.inj_on_of_nodup_map h.times he he' (h.fst_eq he he' hid)

theorem Inv.distinct (h : Inv w) : Distinct w where
  ids := by
    have htimes : w.formed.Pairwise fun e e' => e.1 ≠ e'.1 := List.pairwise_map.1 h.times
    refine htimes.imp_of_mem fun he he' hne hid => ?_
    exact hne (h.fst_eq he he' hid)
  assignments := h.returned
  engines x hx y hy _ hid := by
    obtain ⟨t, ht⟩ := h.served x hx
    obtain ⟨t', ht'⟩ := h.served y hy
    have heq := h.eq_of_matchID ht ht' hid
    rw [congrArg Prod.snd heq]

/-! ## Steps -/

/-- The next command of a call of the store. -/
theorem Inv.run (h : Inv w) {id : ℕ} {now : ℤ} {pool : QueuePool} {c : MatchStore.Call}
    (hfresh : (forming now c).isSome → now ∉ w.formed.map Prod.fst) :
    Inv (w.run id now pool c) := by
  have hgrow : ∀ e ∈ w.formed, e ∈ (w.run id now pool c).formed := fun e he =>
    List.mem_append_right _ he
  refine ⟨fun e he => ?_, ?_, fun i d hd => ?_, fun i a ha => ?_, h.returned, fun x hx => ?_⟩
  · rcases List.mem_append.1 he with he | he
    · obtain ⟨m, hm, rfl⟩ := List.mem_map.1 he
      rw [Option.mem_toList] at hm
      unfold forming at hm
      split at hm
      · exact ⟨_, _, (Option.some.inj hm).symm⟩
      · cases hm
    · exact h.made e he
  · show (((forming now c).toList.map (Prod.mk now) ++ w.formed).map Prod.fst).Nodup
    cases hm : forming now c with
    | none => exact h.times
    | some m =>
        have hnow : now ∉ w.formed.map Prod.fst := hfresh (by rw [hm]; rfl)
        simpa using ⟨by simpa using hnow, h.times⟩
  · obtain ⟨⟨t, ht⟩, hrest⟩ := h.launches i d hd
    exact ⟨⟨t, hgrow _ ht⟩, hrest⟩
  · obtain ⟨e, he, hrest⟩ := h.assigned i a ha
    exact ⟨e, hgrow e he, hrest⟩
  · obtain ⟨t, ht⟩ := h.served x hx
    exact ⟨t, hgrow _ ht⟩

/-- The next command of a call of `EnsureAssignment`. -/
theorem Inv.settle (h : Inv w) {id : ℕ} {c : Call} (hc : w.launches.lookup id = some c) (now : ℤ)
    (accepted : Bool) : Inv (w.settle singleTTL id now c accepted) := by
  obtain ⟨⟨t, ht⟩, hsound, hunlock⟩ := h.launches id c hc
  obtain ⟨o, self, hm⟩ := h.made _ ht
  have hid : c.found.matchID ≠ "" := by
    rw [show c.found = _ from hm, matchID_matchFromTickets]
    simp
  have hplayers : c.found.players ≠ [] := by
    rw [show c.found = _ from hm]
    simp [matchFromTickets]
  have hran := Call.run_spec hsound hid hplayers w.coord singleTTL now accepted
  have hnext : ∀ d, (c.run w.coord singleTTL now accepted).next = .inl d →
      d.found = c.found ∧ d.at_.Sound := by
    intro d hd
    cases hran with
    | quiet idle same sent next => exact ⟨(next d hd).1, (next d hd).2.1⟩
    | post target idle store sound next =>
        rw [next] at hd
        obtain rfl := Sum.inl.inj hd
        exact ⟨rfl, sound⟩
    | save a saving saved matchID mode players sent next =>
        obtain ⟨returned, hret⟩ := next
        rw [hret] at hd
        obtain rfl := Sum.inl.inj hd
        exact ⟨rfl, trivial⟩
  have hassigned : ∀ i a, (c.run w.coord singleTTL now accepted).store.getAssignmentByMatch i = some a →
      ∃ e ∈ w.formed, e.2.matchID = i ∧ a.players = e.2.players := by
    intro i a ha
    cases hran with
    | quiet idle same sent next =>
        rw [same.byMatch] at ha
        exact h.assigned i a ha
    | post target idle store sound next =>
        rw [store] at ha
        exact h.assigned i a ha
    | save b saving saved matchID mode players sent next =>
        rw [saved.byMatch] at ha
        split_ifs at ha with hi
        · obtain rfl := Option.some.inj ha
          exact ⟨_, ht, by rw [hi, matchID], players⟩
        · exact h.assigned i a ha
  refine ⟨h.made, h.times, fun i d hd => ?_, hassigned, fun r hr => ?_, h.served⟩
  · have hlookup : (w.settle singleTTL id now c accepted).launches.lookup i =
        if i = id then (c.run w.coord singleTTL now accepted).next.getLeft? else w.launches.lookup i := by
      unfold World.settle
      dsimp only
      cases (c.run w.coord singleTTL now accepted).next with
      | inl d => exact Assoc.lookup_insert ..
      | inr _ => exact Assoc.lookup_erase ..
    rw [hlookup] at hd
    split_ifs at hd with hi
    · have hd := Sum.getLeft?_eq_some_iff.1 hd
      obtain ⟨hfound, hs⟩ := hnext d hd
      refine ⟨⟨t, by rwa [hfound]⟩, hs, fun a ha => ?_⟩
      rw [hfound]
      obtain ⟨target, -, rfl⟩ := Call.run_unlock hd ha
      rfl
    · exact h.launches i d hd
  · unfold World.settle at hr
    dsimp only at hr
    split at hr
    · rename_i a hret
      rcases List.mem_cons.1 hr with rfl | hr
      · rcases Call.run_returns hret with ⟨-, ha⟩ | ha
        · obtain ⟨e, he, hi, hp⟩ := h.assigned _ a ha
          rw [h.eq_of_matchID he ht hi] at hp
          exact hp
        · exact hunlock a ha
      · exact h.returned r hr
    · exact h.returned r hr

/-- A command of a call of `EnsureAssignment`, with the node. -/
theorem Inv.launch (h : Inv w) {id : ℕ} {c : Call} (hc : w.launches.lookup id = some c) (now : ℤ)
    (clk : Clock) (provider : Duel.RoundProvider) (stored : Bool) :
    Inv (w.launch F singleTTL id now clk provider stored c) := by
  obtain ⟨t, ht⟩ := (h.launches id c hc).1
  unfold World.launch
  split
  · rename_i target _
    dsimp only
    generalize createMatch F clk provider stored c.found (w.runtime target.nodeID) = a
    have hanswered : Inv (w.setRuntime target.nodeID a.2) :=
      ⟨h.made, h.times, h.launches, h.assigned, h.returned, h.served⟩
    split_ifs
    · exact hanswered.settle hc now false
    · have hserved : Inv { w.setRuntime target.nodeID a.2 with
          served := (target.nodeID, c.found) :: w.served } := by
        refine ⟨h.made, h.times, h.launches, h.assigned, h.returned, fun x hx => ?_⟩
        rcases List.mem_cons.1 hx with rfl | hx
        · exact ⟨t, ht⟩
        · exact h.served x hx
      exact hserved.settle hc now true
  · exact h.settle hc now true

/-- The match of a pass is normalized already. -/
theorem normalizeFound_matchFromTickets (opponent self : Ticket) (now : ℤ) :
    normalizeFound (matchFromTickets opponent self now) = matchFromTickets opponent self now := by
  unfold normalizeFound
  rw [MatchStore.config_matchFromTickets]
  rfl

theorem Inv.ensure (h : Inv w) {id : ℕ} {found : MatchFound} (hfound : found ∈ w.formed.map Prod.snd)
    (suffix : String) : Inv { w with launches := w.launches.insert id (Call.start found suffix) } := by
  refine ⟨h.made, h.times, fun i d hd => ?_, h.assigned, h.returned, h.served⟩
  rcases Assoc.of_lookup_insert hd with ⟨-, rfl⟩ | ⟨-, hd⟩
  · obtain ⟨e, he, rfl⟩ := List.mem_map.1 hfound
    obtain ⟨o, self, hm⟩ := h.made e he
    refine ⟨⟨e.1, ?_⟩, trivial, fun a ha => by cases ha⟩
    show (e.1, normalizeFound e.2) ∈ w.formed
    rw [hm, normalizeFound_matchFromTickets, ← hm]
    exact he
  · exact h.launches i d hd

theorem Inv.clear (h : Inv w) {i : MatchID} {a : Assignment}
    (ha : w.coord.getAssignmentByMatch i = some a) :
    Inv { w with coord := w.coord.clearAssignment a } := by
  have hcleared := w.coord.clearAssignment_cleared (Store.matchID_ne_of_getAssignment ha)
  refine ⟨h.made, h.times, h.launches, fun j b hb => ?_, h.returned, h.served⟩
  rw [hcleared.byMatch] at hb
  split_ifs at hb
  exact h.assigned j b hb

theorem Inv.step (h : Inv w) {op : Op} (hC : FreshClock w op) (hs : w.step F singleTTL op = some w') :
    Inv w' := by
  cases op with
  | run id now =>
      obtain ⟨c, hc, rfl⟩ := Option.map_eq_some_iff.1 hs
      exact h.run (hC c hc)
  | clear i =>
      obtain ⟨a, ha, rfl⟩ := Option.map_eq_some_iff.1 hs
      exact h.clear ha
  | ensure id found suffix =>
      unfold World.step at hs
      dsimp only at hs
      split_ifs at hs with hguard
      obtain rfl := Option.some.inj hs
      exact h.ensure (not_not.1 fun hne => hguard (.inr hne)) suffix
  | launch id now clk provider stored =>
      obtain ⟨c, hc, rfl⟩ := Option.map_eq_some_iff.1 hs
      exact h.launch hc now clk provider stored
  | request id pool r =>
      unfold World.step at hs
      dsimp only at hs
      split_ifs at hs
      obtain rfl := Option.some.inj hs
      exact ⟨h.made, h.times, h.launches, h.assigned, h.returned, h.served⟩
  | join | leave | expireTicket | expireMatch | expireLock | register | call | tick =>
      obtain rfl := Option.some.inj hs
      exact ⟨h.made, h.times, h.launches, h.assigned, h.returned, h.served⟩

/-- Two matches of one clock reading have the same id. -/
theorem not_distinct_of_not_freshClock (h : Inv w) {op : Op} (hC : ¬ FreshClock w op)
    (hs : w.step F singleTTL op = some w') : ¬ Distinct w' := by
  cases op with
  | run id now =>
      obtain ⟨c, hc, rfl⟩ := Option.map_eq_some_iff.1 hs
      intro hdistinct
      refine hC fun d hd hsome hmem => ?_
      obtain rfl : c = d := Option.some.inj (hc.symm.trans hd)
      obtain ⟨m, hm⟩ := Option.isSome_iff_exists.1 hsome
      obtain ⟨e, he, hnow⟩ := List.mem_map.1 hmem
      have hids : ((now, m) :: w.formed).Pairwise fun e e' => e.2.matchID ≠ e'.2.matchID := by
        have hids := hdistinct.ids
        rw [World.run] at hids
        simpa [hm] using hids
      obtain ⟨o, self, hmade⟩ := h.made e he
      refine (List.pairwise_cons.1 hids).1 e he ?_
      rw [hmade, matchID_matchFromTickets, hnow]
      unfold forming at hm
      split at hm
      · rw [← Option.some.inj hm]
        rfl
      · cases hm
  | _ => exact absurd trivial hC

/-- The matches of a run are distinct, and so are what they are launched as, exactly when no two of
their result pipelines have the same clock reading. -/
theorem distinct_iff (F : FloatMath) (singleTTL : ℤ) (ops : List Op) :
    Run.Always (World.step F singleTTL) Distinct World.init ops ↔
      Run.Guarded (World.step F singleTTL) FreshClock World.init ops :=
  Run.always_iff_guarded Inv (fun _ _ _ h hC hs => h.step hC hs) (fun _ h => h.distinct)
    (fun _ _ _ h hC hs => not_distinct_of_not_freshClock h hC hs) Inv.init

/-! ### Two pairs of one pass -/

/-- Two users near 1000 and two near 2000 wait, and one pass makes both pairs in one millisecond. -/
def twoPairsRun : List Op :=
  [.join .registered .moving { userID := "u1", mmr := 1000 } 1000,
    .join .registered .moving { userID := "u2", mmr := 1010 } 1001,
    .join .registered .moving { userID := "u3", mmr := 2000 } 1002,
    .join .registered .moving { userID := "u4", mmr := 2010 } 1003,
    .request 1 .registered (.runMatchmaking .moving 50 5000),
    .run 1 5000, .run 1 5000, .run 1 5000, .run 1 5000, .run 1 5000,
    -- `u2` has no ticket any more
    .run 1 5000, .run 1 5000, .run 1 5000,
    .run 1 5000, .run 1 5000, .run 1 5000]

theorem not_distinct_twoPairsRun :
    ¬ Run.Always (World.step .coarse 0) Distinct World.init twoPairsRun := by
  have hrun : ∃ w ∈ Run.exec (World.step .coarse 0) World.init twoPairsRun,
      ¬ w.formed.Pairwise fun e e' => e.2.matchID ≠ e'.2.matchID := by
    decide +kernel
  obtain ⟨w, hw, hbad⟩ := hrun
  exact fun h => hbad (h.exec hw).ids

end GeoDuels.MatchLaunch.DistinctIds
