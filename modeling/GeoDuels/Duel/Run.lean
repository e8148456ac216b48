import GeoDuels.Lib.Run
import GeoDuels.Duel.Engine

/-!
# Runs of the duel engine

An operation of the engine with the clock readings and the answers of the round provider it meets
is an `Op`; the operations that reach one match are its `MatchOp`s.  A `World` is an engine with the
clock, which never runs backwards.  `lookup_step_of_some` says what one operation does to each
match, so that a property of all matches follows from what the `MatchOp`s preserve (`Sound.step`).
-/

namespace GeoDuels.Duel

inductive Op where
  | createMatch (clk : Clock) (provider : Option RoundProvider) (matchID : MatchID)
      (playerIDs : List UserID) (profiles : Assoc UserID PlayerProfile) (opts : MatchOptions)
  | submitGuess (clk : Clock) (g : GuessPayload)
  | tick (clk : TickClock MatchID) (provider : RoundProvider)
  | markDisconnected (clk : Clock) (matchID : MatchID) (userID : UserID)
  | markResumed (clk : Clock) (matchID : MatchID) (userID : UserID)
  | forfeit (clk : Clock) (matchID : MatchID) (userID : UserID)

namespace Op

/-- The first clock reading of the operation. -/
def start : Op → ℕ
  | createMatch clk .. | submitGuess clk .. | markDisconnected clk .. | markResumed clk ..
  | forfeit clk .. => clk.start
  | tick clk _ => clk.now

/-- A time that the operation's clock readings do not exceed. -/
def stop : Op → ℕ
  | createMatch clk .. | submitGuess clk .. | markDisconnected clk .. | markResumed clk ..
  | forfeit clk .. => clk.stop
  | tick clk _ => clk.stop

end Op

/-- If the operation creates a match, the list of its players satisfies `Q`. -/
def Op.Creates (Q : List UserID → Prop) : Op → Prop
  | .createMatch _ _ _ playerIDs _ _ => Q playerIDs
  | _ => True

/-- An operation as one match meets it. -/
inductive MatchOp where
  | submitGuess (clk : Clock) (g : GuessPayload)
  | tick (now : ℕ) (clk : Clock) (le : now ≤ clk.start) (next : Except String LocationPoint)
  | markDisconnected (clk : Clock) (userID : UserID)
  | markResumed (clk : Clock) (userID : UserID)
  | forfeit (clk : Clock) (userID : UserID)

/-- The match after an operation; an error leaves it as it was. -/
def Match.step (F : FloatMath) (m : Match) : MatchOp → Match
  | .submitGuess clk g => (m.submitGuess F clk g).toOption.getD m
  | .tick now clk _ next => m.tick F now clk next
  | .markDisconnected clk userID => (m.markDisconnected clk userID).toOption.getD m
  | .markResumed clk userID => (m.markResumed clk userID).toOption.getD m
  | .forfeit clk userID => (m.forfeit clk userID).toOption.getD m

/-- The first clock reading that the step makes. -/
def MatchOp.start : MatchOp → ℕ
  | .submitGuess clk _ | .markDisconnected clk _ | .markResumed clk _ | .forfeit clk _ => clk.start
  | .tick now .. => now

/-- What the operation is for the match `m` stored under `id`, if it reaches it. -/
def Op.on (id : MatchID) (m : Match) : Op → Option MatchOp
  | .createMatch .. => none
  | .submitGuess clk g => if g.matchID = id then some (.submitGuess clk g) else none
  | .tick clk provider =>
      some (.tick clk.now (clk.later id) (clk.now_le id) (provider m.id (m.currentIndex + 1)))
  | .markDisconnected clk matchID userID =>
      if matchID = id then some (.markDisconnected clk userID) else none
  | .markResumed clk matchID userID =>
      if matchID = id then some (.markResumed clk userID) else none
  | .forfeit clk matchID userID => if matchID = id then some (.forfeit clk userID) else none

variable (F : FloatMath)

/-- The match that the operation stores under `id` when there is none. -/
def Op.creation (id : MatchID) : Op → Option Match
  | .createMatch clk provider matchID playerIDs profiles opts =>
      if matchID = id then
        (Engine.new.createMatchWithOptions F clk provider matchID playerIDs profiles
          opts).toOption.map Prod.fst
      else none
  | _ => none

/-- The engine after an operation. -/
def Engine.step (e : Engine) : Op → Engine
  | .createMatch clk provider matchID playerIDs profiles opts =>
      match e.createMatchWithOptions F clk provider matchID playerIDs profiles opts with
      | .ok (_, e') => e'
      | .error _ => e
  | .submitGuess clk g => (e.submitGuess F clk g).2
  | .tick clk provider => (e.tick F clk provider).2
  | .markDisconnected clk matchID userID => (e.markDisconnected clk matchID userID).2
  | .markResumed clk matchID userID => (e.markResumed clk matchID userID).2
  | .forfeit clk matchID userID => (e.forfeit clk matchID userID).2

/-- An engine and the time its clock has reached. -/
structure World where
  engine : Engine
  clock : ℕ

/-- A new engine, `t` nanoseconds into the Unix era. -/
def World.init (t : ℕ) : World := ⟨.new, Time.unixEpoch + t⟩

/-- An operation is possible when it starts no earlier than the clock. -/
def World.step (w : World) (op : Op) : Option World :=
  if w.clock ≤ op.start then some ⟨w.engine.step F op, op.stop⟩ else none

/-- The match stored under `id`. -/
def World.find (w : World) (id : MatchID) : Option Match := w.engine.allMatches.lookup id

/-- `m` is a match that `CreateMatchWithOptions` makes under `id` for the players `playerIDs`, in an
engine of any kind. -/
def Created (id : MatchID) (playerIDs : List UserID) (m : Match) : Prop :=
  ∃ clk provider profiles opts e e',
    Engine.createMatchWithOptions F clk provider id playerIDs profiles opts e = .ok (m, e')

variable {F}

theorem Op.start_le_stop (op : Op) : op.start ≤ op.stop := by
  cases op with
  | tick clk _ => exact clk.now_le_stop
  | createMatch clk | submitGuess clk | markDisconnected clk | markResumed clk | forfeit clk =>
      exact clk.start_le_stop

theorem World.step_eq_some {w w' : World} {op : Op} (h : w.step F op = some w') :
    w.clock ≤ op.start ∧ w' = ⟨w.engine.step F op, op.stop⟩ := by
  unfold World.step at h
  split_ifs at h with hle
  exact ⟨hle, by simpa [eq_comm] using h⟩

/-! ## What an operation does to one match -/

theorem lookup_onMatch (clk : Clock) (matchID id : MatchID) (f : Match → Except String Match)
    (e : Engine) : (e.onMatch clk matchID f).2.allMatches.lookup id =
      (e.allMatches.lookup id).map fun m => if matchID = id then (f m).toOption.getD m else m := by
  unfold Engine.onMatch
  by_cases hid : matchID = id
  · subst hid
    rcases hm : e.allMatches.lookup matchID with _ | m
    · simp [hm]
    · rcases hf : f m with err | m'
      · simp [hm, hf, Except.toOption]
      · simp [hm, hf, Except.toOption]
  · have hne : id ≠ matchID := fun h => hid h.symm
    simp only [if_neg hid, Option.map_id']
    split
    · rfl
    · split
      · rfl
      · exact Assoc.lookup_modify_ne hne _ _

/-- A successful creation passed every check of the source and stored a new match. -/
theorem createMatchWithOptions_ok {clk : Clock} {provider : Option RoundProvider} {id : MatchID}
    {playerIDs : List UserID} {profiles : Assoc UserID PlayerProfile} {opts : MatchOptions}
    {e e' : Engine} {m : Match}
    (h : e.createMatchWithOptions F clk provider id playerIDs profiles opts = .ok (m, e')) :
    ∃ mode firstRound, checkMode opts.mode playerIDs.length = .ok mode ∧ id ∉ e.allMatches ∧
      e' = ⟨e.allMatches.insert id m⟩ ∧
      let built := buildTeams mode playerIDs
        (playerIDs.foldl (fun ps u => ps.insert u (newPlayer mode profiles opts.teams u)) ∅)
      ¬ (mode = .teamDuel ∧ built.1.keys.length ≠ 2) ∧
      m = newMatch F clk mode id playerIDs opts firstRound built.1 built.2 := by
  unfold Engine.createMatchWithOptions at h
  rcases hmode : checkMode opts.mode playerIDs.length with err | mode
  · simp [hmode] at h
  rcases provider with _ | provider
  · simp [hmode] at h
  rcases hround : provider id 0 with err | firstRound
  · simp [hmode, hround] at h
  by_cases hid : id ∈ e.allMatches
  · simp [hmode, hround, hid] at h
  simp only [hmode, hround, if_neg hid] at h
  split_ifs at h with hteams
  simp only [Except.ok.injEq, Prod.mk.injEq] at h
  obtain ⟨rfl, rfl⟩ := h
  exact ⟨mode, firstRound, rfl, hid, rfl, hteams, rfl⟩

/-- What the operation makes of the match `m` stored under `id`. -/
def Match.after (F : FloatMath) (id : MatchID) (m : Match) (op : Op) : Match :=
  match op.on id m with
  | none => m
  | some mop => m.step F mop

/-- A match in the engine goes through the steps that reach it. -/
theorem Engine.lookup_step_of_some {e : Engine} {id : MatchID} {m : Match}
    (hm : e.allMatches.lookup id = some m) (op : Op) :
    (e.step F op).allMatches.lookup id = some (m.after F id op) := by
  cases op with
  | createMatch clk provider matchID playerIDs profiles opts =>
      rcases hc : e.createMatchWithOptions F clk provider matchID playerIDs profiles opts with
        err | ⟨m', e'⟩
      · simpa [Engine.step, hc, Match.after, Op.on] using hm
      · obtain ⟨_, _, _, hid, rfl, _⟩ := createMatchWithOptions_ok hc
        have hne : id ≠ matchID := by
          rintro rfl
          exact hid (Assoc.mem_iff_exists.2 ⟨m, hm⟩)
        simpa [Engine.step, hc, Match.after, Op.on, AList.lookup_insert_ne hne] using hm
  | tick clk provider => simp [Engine.step, Engine.tick, hm, Match.after, Op.on, Match.step]
  | submitGuess clk g =>
      rw [Engine.step, Engine.submitGuess, lookup_onMatch, hm, Option.map_some, Match.after, Op.on]
      split_ifs <;> rfl
  | markDisconnected clk matchID userID =>
      rw [Engine.step, Engine.markDisconnected, lookup_onMatch, hm, Option.map_some, Match.after,
        Op.on]
      split_ifs <;> rfl
  | markResumed clk matchID userID =>
      rw [Engine.step, Engine.markResumed, lookup_onMatch, hm, Option.map_some, Match.after, Op.on]
      split_ifs <;> rfl
  | forfeit clk matchID userID =>
      rw [Engine.step, Engine.forfeit, lookup_onMatch, hm, Option.map_some, Match.after, Op.on]
      split_ifs <;> rfl

/-- Where no match is stored yet, a new one is looked for in no other match of the engine. -/
theorem Engine.createMatchWithOptions_new {e : Engine} {matchID : MatchID}
    (h : matchID ∉ e.allMatches) (clk : Clock) (provider : Option RoundProvider)
    (playerIDs : List UserID) (profiles : Assoc UserID PlayerProfile) (opts : MatchOptions) :
    (e.createMatchWithOptions F clk provider matchID playerIDs profiles opts).toOption =
      (Engine.new.createMatchWithOptions F clk provider matchID playerIDs profiles
        opts).toOption.map fun created => (created.1, ⟨e.allMatches.insert matchID created.1⟩) := by
  unfold Engine.createMatchWithOptions
  cases checkMode opts.mode playerIDs.length with
  | error err => rfl
  | ok mode =>
      cases provider with
      | none => rfl
      | some roundProvider =>
          cases hround : roundProvider matchID 0 with
          | error err => simp [hround, Except.toOption]
          | ok firstRound =>
              simp only [hround, if_neg h, Engine.new, AList.notMem_empty, if_false]
              split_ifs <;> rfl

/-- Where no match is stored, there is one after an operation only if the operation creates it. -/
theorem Engine.lookup_step_of_none {e : Engine} {id : MatchID}
    (hnone : e.allMatches.lookup id = none) (op : Op) :
    (e.step F op).allMatches.lookup id = op.creation F id := by
  cases op with
  | createMatch clk provider matchID playerIDs profiles opts =>
      by_cases hid : matchID = id
      · subst hid
        have hnew := Engine.createMatchWithOptions_new (F := F) (AList.lookup_eq_none.1 hnone) clk
          provider playerIDs profiles opts
        rw [Op.creation, if_pos rfl, Engine.step]
        cases hc : e.createMatchWithOptions F clk provider matchID playerIDs profiles opts with
        | error err =>
            rw [hc] at hnew
            simp [Option.map_eq_none_iff.1 hnew.symm, hnone]
        | ok created =>
            obtain ⟨_, _, _, _, he', _⟩ := createMatchWithOptions_ok hc
            rw [hc] at hnew
            obtain ⟨created', hc', rfl⟩ := Option.map_eq_some_iff.1 hnew.symm
            simp [hc']
      · have hne : id ≠ matchID := fun h => hid h.symm
        rw [Op.creation, if_neg hid, Engine.step]
        cases hc : e.createMatchWithOptions F clk provider matchID playerIDs profiles opts with
        | error err => exact hnone
        | ok created =>
            obtain ⟨m, e'⟩ := created
            obtain ⟨_, _, _, _, rfl, _⟩ := createMatchWithOptions_ok hc
            rw [AList.lookup_insert_ne hne]
            exact hnone
  | tick clk provider => simp [Engine.step, Engine.tick, Op.creation, hnone]
  | submitGuess clk g =>
      simp [Engine.step, Engine.submitGuess, lookup_onMatch, Op.creation, hnone]
  | markDisconnected clk matchID userID =>
      simp [Engine.step, Engine.markDisconnected, lookup_onMatch, Op.creation, hnone]
  | markResumed clk matchID userID =>
      simp [Engine.step, Engine.markResumed, lookup_onMatch, Op.creation, hnone]
  | forfeit clk matchID userID =>
      simp [Engine.step, Engine.forfeit, lookup_onMatch, Op.creation, hnone]

/-- A match that is new in the engine has just been created. -/
theorem Engine.created_of_lookup_step {e : Engine} {id : MatchID} {m : Match} {op : Op}
    (hnone : e.allMatches.lookup id = none)
    (hm : (e.step F op).allMatches.lookup id = some m) {Q : List UserID → Prop}
    (hQ : op.Creates Q) : ∃ playerIDs, Q playerIDs ∧ Created F id playerIDs m := by
  cases op with
  | createMatch clk provider matchID playerIDs profiles opts =>
      rcases hc : e.createMatchWithOptions F clk provider matchID playerIDs profiles opts with
        err | ⟨m', e'⟩
      · simp [Engine.step, hc, hnone] at hm
      · obtain ⟨_, _, _, _, he', _⟩ := createMatchWithOptions_ok hc
        simp only [Engine.step, hc, he'] at hm
        by_cases hid : id = matchID
        · subst hid
          rw [AList.lookup_insert, Option.some.injEq] at hm
          subst hm
          exact ⟨playerIDs, hQ, clk, provider, profiles, opts, e, e', hc⟩
        · rw [AList.lookup_insert_ne hid, hnone] at hm
          cases hm
  | tick clk provider => simp [Engine.step, Engine.tick, hnone] at hm
  | submitGuess clk g =>
      simp [Engine.step, Engine.submitGuess, lookup_onMatch, hnone] at hm
  | markDisconnected clk matchID userID =>
      simp [Engine.step, Engine.markDisconnected, lookup_onMatch, hnone] at hm
  | markResumed clk matchID userID =>
      simp [Engine.step, Engine.markResumed, lookup_onMatch, hnone] at hm
  | forfeit clk matchID userID =>
      simp [Engine.step, Engine.forfeit, lookup_onMatch, hnone] at hm

theorem Op.start_on {id : MatchID} {m : Match} {op : Op} {mop : MatchOp}
    (h : op.on id m = some mop) : mop.start = op.start := by
  cases op with
  | createMatch => simp [Op.on] at h
  | tick clk provider =>
      simp only [Op.on, Option.some.injEq] at h
      subst h
      rfl
  | submitGuess clk g | markDisconnected clk _ _ | markResumed clk _ _ | forfeit clk _ _ =>
      simp only [Op.on] at h
      split_ifs at h
      simp only [Option.some.injEq] at h
      subst h
      rfl

/-! ## Properties of all matches -/

/-- Every match of the world satisfies `P` under its identity. -/
def AllMatches (P : MatchID → Match → Prop) (w : World) : Prop :=
  ∀ id m, w.find id = some m → P id m

/-- Every step that the operation makes on a match meets the condition `C`. -/
def EachStep (C : Match → MatchOp → Prop) (w : World) (op : Op) : Prop :=
  ∀ id m, w.find id = some m → ∀ mop ∈ op.on id m, C m mop

instance {Q : List UserID → Prop} [DecidablePred Q] : DecidablePred (Op.Creates Q)
  | .createMatch _ _ _ playerIDs _ _ => inferInstanceAs (Decidable (Q playerIDs))
  | .submitGuess .. | .tick .. | .markDisconnected .. | .markResumed .. | .forfeit .. =>
      .isTrue trivial

instance {P : MatchID → Match → Prop} [∀ id m, Decidable (P id m)] :
    DecidablePred (AllMatches P) := fun w =>
  inferInstanceAs (Decidable (∀ id m, w.engine.allMatches.lookup id = some m → P id m))

instance {C : Match → MatchOp → Prop} [∀ m mop, Decidable (C m mop)] (w : World) (op : Op) :
    Decidable (EachStep C w op) :=
  inferInstanceAs (Decidable (∀ id m, w.engine.allMatches.lookup id = some m →
    ∀ mop ∈ op.on id m, C m mop))

/-- The clock of the world has reached the Unix era and every match satisfies `I`. -/
def Sound (I : MatchID → Match → Prop) (w : World) : Prop :=
  Time.unixEpoch ≤ w.clock ∧ AllMatches I w

theorem sound_init (I : MatchID → Match → Prop) (t : ℕ) : Sound I (World.init t) := by
  refine ⟨Nat.le_add_right _ _, fun id m hm => ?_⟩
  simp [World.init, World.find, Engine.new] at hm

/-- What an operation makes of the match under `id`. -/
theorem World.find_step_of_some {w w' : World} {op : Op} (hw : w.step F op = some w')
    {id : MatchID} {m : Match} (hm : w.find id = some m) :
    w'.find id = some (m.after F id op) := by
  obtain ⟨-, rfl⟩ := World.step_eq_some hw
  exact Engine.lookup_step_of_some hm op

/-- The step rule for one match: what creation establishes and every permitted step preserves holds
of all matches after an operation. -/
theorem Sound.step {I : MatchID → Match → Prop} {Q : List UserID → Prop}
    {C : Match → MatchOp → Prop}
    (hcreate : ∀ id playerIDs m, Q playerIDs → Created F id playerIDs m → I id m)
    (hstep : ∀ id m mop, Time.unixEpoch ≤ mop.start → I id m → C m mop → I id (m.step F mop))
    {w w' : World} {op : Op} (hI : Sound I w) (hQ : op.Creates Q) (hC : EachStep C w op)
    (hw : w.step F op = some w') : Sound I w' := by
  obtain ⟨hle, hw'⟩ := World.step_eq_some hw
  constructor
  · rw [hw']
    exact hI.1.trans (hle.trans op.start_le_stop)
  intro id m' hm'
  rcases hm : w.find id with _ | m
  · rw [hw'] at hm'
    obtain ⟨playerIDs, hplayers, hcreated⟩ := Engine.created_of_lookup_step hm hm' hQ
    exact hcreate id playerIDs m' hplayers hcreated
  · rw [World.find_step_of_some hw hm, Option.some.injEq] at hm'
    subst hm'
    rcases hop : op.on id m with _ | mop
    · simpa [Match.after, hop] using hI.2 id m hm
    · have hstart : Time.unixEpoch ≤ mop.start := by
        rw [Op.start_on hop]
        exact hI.1.trans hle
      simpa [Match.after, hop] using hstep id m mop hstart (hI.2 id m hm) (hC id m hm mop hop)

/-- The run rule for one match. -/
theorem always_of_matchInvariant {I P : MatchID → Match → Prop} {Q : List UserID → Prop}
    {C : Match → MatchOp → Prop}
    (hcreate : ∀ id playerIDs m, Q playerIDs → Created F id playerIDs m → I id m)
    (hstep : ∀ id m mop, Time.unixEpoch ≤ mop.start → I id m → C m mop → I id (m.step F mop))
    (hP : ∀ id m, I id m → P id m) {t : ℕ} {ops : List Op} (hQ : ∀ op ∈ ops, op.Creates Q)
    (hC : Run.Guarded (World.step F) (EachStep C) (World.init t) ops) :
    Run.Always (World.step F) (AllMatches P) (World.init t) ops :=
  (Run.always_of_invariant (fun _ _ _ hI hC hw => Sound.step hcreate hstep hI hC.1 hC.2 hw)
    (sound_init I t) (hC.and_forall hQ)).mono fun _ hI id m hm => hP id m (hI.2 id m hm)

theorem Op.creates_true (op : Op) : op.Creates fun _ => True := by
  cases op <;> trivial

/-- The run rule for one match, with the exact condition: `P` holds of all matches throughout a run
exactly when every step on a match meets `C`. -/
theorem always_allMatches_iff {I P : MatchID → Match → Prop} {C : Match → MatchOp → Prop}
    (hcreate : ∀ id playerIDs m, Created F id playerIDs m → I id m)
    (hstep : ∀ id m mop, Time.unixEpoch ≤ mop.start → I id m → C m mop → I id (m.step F mop))
    (hP : ∀ id m, I id m → P id m)
    (hbad : ∀ id m mop, I id m → ¬ C m mop → ¬ P id (m.step F mop)) (t : ℕ) (ops : List Op) :
    Run.Always (World.step F) (AllMatches P) (World.init t) ops ↔
      Run.Guarded (World.step F) (EachStep C) (World.init t) ops := by
  refine Run.always_iff_guarded (Sound I)
    (fun _ op _ hI hC hw => Sound.step (fun id playerIDs m _ => hcreate id playerIDs m) hstep hI
      op.creates_true hC hw)
    (fun w hI id m hm => hP id m (hI.2 id m hm)) ?_ (sound_init I t)
  intro w op w' hI hC hw hall
  simp only [EachStep, not_forall] at hC
  obtain ⟨id, m, hm, mop, hop, hnot⟩ := hC
  have hafter := World.find_step_of_some hw hm
  rw [Option.mem_def] at hop
  simp only [Match.after, hop] at hafter
  exact hbad id m mop (hI.2 id m hm) hnot (hall id _ hafter)

/-! ## Operations at a given second

The runs on fixed inputs below are made of these: every location and every guess is the origin, and
the clock stands still during an operation. -/

def second (n : ℕ) : Clock := .still (Time.unixEpoch + n * Time.second)

def originProvider : RoundProvider := fun _ _ => .ok { lat := 0, lng := 0 }

/-- The match `m` of `u1` and `u2` (and more players, in the other modes). -/
def createAt (n : ℕ) (opts : MatchOptions := {}) (playerIDs : List UserID := ["u1", "u2"]) : Op :=
  .createMatch (second n) (some originProvider) "m" playerIDs ∅ opts

/-- A finalized guess for the given round. -/
def guessAt (n : ℕ) (userID : UserID) (round : ℕ) : Op :=
  .submitGuess (second n)
    { userID := userID, matchID := "m", roundID := roundID "m" round, lat := 0, lng := 0,
      finalize := true }

def tickAt (n : ℕ) : Op := .tick (.still (Time.unixEpoch + n * Time.second)) originProvider

end GeoDuels.Duel
