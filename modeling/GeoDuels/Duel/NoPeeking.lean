import GeoDuels.Duel.Creation
import GeoDuels.Duel.Veil

/-!
# No peeking at the current round

Two runs of the engine take the same operations at the same times; they differ only in the points of
guesses that others than `u` submit for rounds that are not resolved yet, and in the places of the
locations of such rounds.  Until the round is resolved `u` is sent the same snapshots in both.

The matches of the two runs are `Alike`: they are the same before the round begins, the same under
the veil while it is open, and once it is resolved nothing is claimed.
-/

namespace GeoDuels.Duel

/-! ## Runs that differ in what `u` must not know -/

/-- The guesses are the same, or they differ in the point only and come from another player than `u`
for none of the first `round` rounds of the match. -/
def GuessesAlike (u : UserID) (round : MatchID → ℕ) (g g' : GuessPayload) : Prop :=
  g = g' ∨ (g.veil u = g'.veil u ∧ ∀ i < round g.matchID, g.roundID ≠ roundID g.matchID (i + 1))

/-- The providers answer the same, but for the places of locations after the first `round` rounds of
a match. -/
def AnswersAlike (round : MatchID → ℕ) (p p' : RoundProvider) : Prop :=
  ∀ id i, (p id i).map LocationPoint.veil = (p' id i).map LocationPoint.veil ∧
    (i < round id → p id i = p' id i)

/-- The same operation at the same times; `round id` is the round of the match `id` whose guesses
and location may differ. -/
inductive Op.Alike (u : UserID) (round : MatchID → ℕ) : Op → Op → Prop
  | createMatch {p p' : Option RoundProvider} (h : Option.Rel (AnswersAlike round) p p') (clk : Clock)
      (matchID : MatchID) (playerIDs : List UserID) (profiles : Assoc UserID PlayerProfile)
      (opts : MatchOptions) :
      Alike u round (.createMatch clk p matchID playerIDs profiles opts)
        (.createMatch clk p' matchID playerIDs profiles opts)
  | submitGuess {g g' : GuessPayload} (h : GuessesAlike u round g g') (clk : Clock) :
      Alike u round (.submitGuess clk g) (.submitGuess clk g')
  | tick {p p' : RoundProvider} (h : AnswersAlike round p p') (clk : TickClock MatchID) :
      Alike u round (.tick clk p) (.tick clk p')
  | markDisconnected (clk : Clock) (matchID : MatchID) (userID : UserID) :
      Alike u round (.markDisconnected clk matchID userID) (.markDisconnected clk matchID userID)
  | markResumed (clk : Clock) (matchID : MatchID) (userID : UserID) :
      Alike u round (.markResumed clk matchID userID) (.markResumed clk matchID userID)
  | forfeit (clk : Clock) (matchID : MatchID) (userID : UserID) :
      Alike u round (.forfeit clk matchID userID) (.forfeit clk matchID userID)

/-- The match of the engine as `u` is sent it. -/
def Engine.clientSnapshot (clk : Clock) (id : MatchID) (u : UserID) (e : Engine) :
    Except String ClientMatchSnapshot :=
  (e.getSnapshot clk id).map fun snap => clientSnapshotForPlayer snap u

/-- As long as the round of a match is not resolved, `u` is sent the same snapshot of it. -/
def SameViews (u : UserID) (round : MatchID → ℕ) (w w' : World) : Prop :=
  ∀ id, (∀ m, w.find id = some m → ¬ m.Resolved (round id)) →
    ∀ clk, w.engine.clientSnapshot clk id u = w'.engine.clientSnapshot clk id u

/-! ## Matches that differ in what `u` must not know -/

/-- The match is stored under its identity and its round has the identity that its number gives. -/
structure Labelled (id : MatchID) (m : Match) : Prop where
  id_eq : m.id = id
  roundID_eq : m.roundID = roundID id (m.currentIndex + 1)

/-- The matches of two runs, before the round, while it is open and once it is resolved. -/
inductive Match.Alike (u : UserID) (id : MatchID) (round : ℕ) : Match → Match → Prop
  | before {m : Match} (h : Labelled id m) (hlt : m.currentIndex < round) : Alike u id round m m
  | during {m m' : Match} (hround : m.currentIndex = round) (hopen : m.pendingAdvance = false)
      (hveil : m.veil u = m'.veil u) : Alike u id round m m'
  | resolved {m m' : Match} (h : m.Resolved round) (h' : m'.Resolved round) : Alike u id round m m'

variable {F : FloatMath} {u : UserID} {round : MatchID → ℕ}

theorem KeepsRound.labelled {id : MatchID} {m m' : Match} (h : KeepsRound m m')
    (hm : Labelled id m) : Labelled id m' := by
  refine ⟨h.id_eq.trans hm.id_eq, ?_⟩
  rw [h.roundID_eq, h.index_eq]
  exact hm.roundID_eq

/-! ### Before the round -/

theorem Match.Alike.of_keepsRound {id : MatchID} {m m' : Match} (hm : Labelled id m)
    (hlt : m.currentIndex < round id) (h : KeepsRound m m') :
    Match.Alike u id (round id) m' m' :=
  .before (h.labelled hm) (h.index_eq ▸ hlt)

/-- Answers that agree but for the place are the same error or two such locations. -/
theorem cases_of_map_veil {a a' : Except String LocationPoint}
    (h : a.map LocationPoint.veil = a'.map LocationPoint.veil) :
    (∃ err, a = .error err ∧ a' = .error err) ∨
      ∃ loc loc', a = .ok loc ∧ a' = .ok loc' ∧ loc.veil = loc'.veil := by
  cases a with
  | error err =>
      cases a' with
      | error err' => exact .inl ⟨err, rfl, by simpa [Except.map, eq_comm] using h⟩
      | ok loc' => cases h
  | ok loc =>
      cases a' with
      | error err' => cases h
      | ok loc' => exact .inr ⟨loc, loc', rfl, rfl, by simpa [Except.map] using h⟩

theorem advanceRound_veil (m : Match) (clk : Clock) {loc loc' : LocationPoint}
    (h : loc.veil = loc'.veil) :
    (m.advanceRound clk (.ok loc)).veil u = (m.advanceRound clk (.ok loc')).veil u := by
  unfold Match.advanceRound startRoundTimer
  dsimp only
  split_ifs
  · rfl
  · simp [Match.veil, h]
  · simp [Match.veil, h]

/-- Without a location the match ends in the round it is in. -/
theorem advanceRound_error {m : Match} (hpending : m.pendingAdvance = true) (clk : Clock)
    (err : String) : KeepsRound m (m.advanceRound clk (.error err)) := by
  unfold Match.advanceRound
  simp only [hpending, Bool.not_true, Bool.false_eq_true, if_false]
  exact ⟨rfl, rfl, rfl, List.prefix_rfl⟩

/-- With a location the next round is open. -/
theorem advanceRound_ok {m : Match} (hpending : m.pendingAdvance = true) (clk : Clock)
    (loc : LocationPoint) :
    (m.advanceRound clk (.ok loc)).id = m.id ∧
      (m.advanceRound clk (.ok loc)).roundID = roundID m.id (m.currentIndex + 2) ∧
      (m.advanceRound clk (.ok loc)).currentIndex = m.currentIndex + 1 ∧
      (m.advanceRound clk (.ok loc)).pendingAdvance = false := by
  unfold Match.advanceRound startRoundTimer
  simp only [hpending, Bool.not_true, Bool.false_eq_true, if_false]
  split_ifs
  · simp
  · simp

/-- The advance to the next round, whose place differs only when it is the round in question. -/
theorem alike_advanceRound {id : MatchID} {m : Match} (hm : Labelled id m)
    (hlt : m.currentIndex < round id) (hpending : m.pendingAdvance = true) (clk : Clock)
    {p p' : RoundProvider} (h : AnswersAlike round p p') :
    Match.Alike u id (round id) (m.advanceRound clk (p m.id (m.currentIndex + 1)))
      (m.advanceRound clk (p' m.id (m.currentIndex + 1))) := by
  obtain ⟨hveil, hsame⟩ := h m.id (m.currentIndex + 1)
  rw [hm.id_eq] at hsame
  rcases cases_of_map_veil hveil with ⟨err, hp, hp'⟩ | ⟨loc, loc', hp, hp', hloc⟩
  · rw [hp, hp']
    exact .of_keepsRound hm hlt (advanceRound_error hpending clk err)
  · obtain ⟨hid, hround, hindex, hopen⟩ := advanceRound_ok hpending clk loc
    by_cases hnext : m.currentIndex + 1 < round id
    · have heq := hsame hnext
      rw [← hm.id_eq] at heq
      rw [← heq, hp]
      refine .before ⟨hid.trans hm.id_eq, ?_⟩ (by omega)
      rw [hround, hindex, hm.id_eq]
    · rw [hp, hp']
      exact .during (by omega) hopen (advanceRound_veil m clk hloc)

theorem GuessesAlike.veil_eq {g g' : GuessPayload} (h : GuessesAlike u round g g') :
    g.veil u = g'.veil u := by
  rcases h with rfl | ⟨h, -⟩
  · rfl
  · exact h

theorem GuessesAlike.matchID_eq {g g' : GuessPayload} (h : GuessesAlike u round g g') :
    g'.matchID = g.matchID := by
  rw [← guessPayload_veil_matchID u g', ← h.veil_eq, guessPayload_veil_matchID]

/-- A guess for another round than the match's is rejected. -/
theorem step_submitGuess_of_ne {m : Match} {g : GuessPayload} (h : g.roundID ≠ m.roundID)
    (clk : Clock) : m.step F (.submitGuess clk g) = m := by
  have hadmits : ¬ m.Admits clk g := fun hadmits => h hadmits.2.1
  rw [step_submitGuess, if_neg fun hexp => hadmits hexp.1, if_neg fun hrec => hadmits hrec.1]

/-- An operation on a match whose round has not begun. -/
theorem alike_after_before {id : MatchID} {m : Match} {op op' : Op} (hm : Labelled id m)
    (hlt : m.currentIndex < round id) (hop : op.Alike u round op') :
    Match.Alike u id (round id) (m.after F id op) (m.after F id op') := by
  have hstill : Match.Alike u id (round id) m m := .before hm hlt
  have hkeep (mop : MatchOp) (hno : ∀ now clk hle next, mop ≠ .tick now clk hle next) :
      Match.Alike u id (round id) (m.step F mop) (m.step F mop) := by
    rcases keepsRound_step (F := F) mop m with h | ⟨now, clk, hle, next, heq, -⟩
    · exact .of_keepsRound hm hlt h
    · exact absurd heq (hno now clk hle next)
  unfold Match.after
  cases hop with
  | createMatch => exact hstill
  | submitGuess h clk =>
      rename_i g g'
      simp only [Op.on, h.matchID_eq]
      by_cases hid : g.matchID = id
      · simp only [hid, if_true]
        rcases h with rfl | ⟨hveil, hother⟩
        · exact hkeep _ (by simp)
        · -- the guess differs, so it is for another round than the match's
          have hne : g.roundID ≠ m.roundID := by
            rw [hm.roundID_eq, ← hid]
            exact hother m.currentIndex (by rw [hid]; exact hlt)
          have hne' : g'.roundID ≠ m.roundID := by
            rwa [← guessPayload_veil_roundID u g', ← hveil, guessPayload_veil_roundID]
          rw [step_submitGuess_of_ne hne, step_submitGuess_of_ne hne']
          exact hstill
      · simp only [hid, if_false]
        exact hstill
  | tick h clk =>
      rename_i p p'
      simp only [Op.on]
      by_cases hadv : m.state = .live ∧ m.pendingAdvance = true ∧ m.intermissionUntil < clk.now
      · obtain ⟨hlive, hpending, hover⟩ := hadv
        rw [step_tick, step_tick]
        simp only [hlive, ne_eq, not_true, if_false, hpending, if_true, hover]
        exact alike_advanceRound hm hlt hpending _ h
      · have hsame : m.step F (.tick clk.now (clk.later id) (clk.now_le id)
            (p' m.id (m.currentIndex + 1))) = m.step F (.tick clk.now (clk.later id)
              (clk.now_le id) (p m.id (m.currentIndex + 1))) := by
          rw [step_tick, step_tick]
          split_ifs with hlive hpending hover
          · rfl
          · exact absurd ⟨not_not.1 hlive, hpending, hover⟩ hadv
          · rfl
          · rfl
        rw [hsame]
        rcases keepsRound_step (F := F) (.tick clk.now (clk.later id) (clk.now_le id)
          (p m.id (m.currentIndex + 1))) m with hkeeps | ⟨now, _, _, _, heq, hguard⟩
        · exact .of_keepsRound hm hlt hkeeps
        · cases heq
          exact absurd hguard hadv
  | markDisconnected clk matchID userID =>
      simp only [Op.on]
      split_ifs
      · exact hkeep _ (by simp)
      · exact hstill
  | markResumed clk matchID userID =>
      simp only [Op.on]
      split_ifs
      · exact hkeep _ (by simp)
      · exact hstill
  | forfeit clk matchID userID =>
      simp only [Op.on]
      split_ifs
      · exact hkeep _ (by simp)
      · exact hstill

/-! ### While the round is open -/

/-- Alike operations reach the matches of the two runs as the same operation under the veil. -/
theorem on_veil (id : MatchID) {m m' : Match} {op op' : Op} (hop : op.Alike u round op')
    (hveil : m.veil u = m'.veil u) :
    (op.on id m).map (MatchOp.veil u) = (op'.on id m').map (MatchOp.veil u) := by
  have hid : (m.veil u).id = (m'.veil u).id := congrArg Match.id hveil
  have hindex : (m.veil u).currentIndex = (m'.veil u).currentIndex :=
    congrArg Match.currentIndex hveil
  change m.id = m'.id at hid
  change m.currentIndex = m'.currentIndex at hindex
  cases hop with
  | createMatch => rfl
  | submitGuess h clk =>
      simp only [Op.on, h.matchID_eq]
      split_ifs
      · simp only [Option.map_some, MatchOp.veil, h.veil_eq]
      · rfl
  | tick h clk =>
      simp only [Op.on, Option.map_some, MatchOp.veil, hid, hindex]
      rw [(h m'.id (m'.currentIndex + 1)).1]
  | markDisconnected | markResumed | forfeit => simp only [Op.on]

theorem alike_step_during {id : MatchID} {m m' : Match} {mop mop' : MatchOp}
    (hround : m.currentIndex = round id) (hopen : m.pendingAdvance = false)
    (hveil : m.veil u = m'.veil u) (hop : mop.veil u = mop'.veil u) :
    Match.Alike u id (round id) (m.step F mop) (m'.step F mop') := by
  have hround' : m'.currentIndex = round id := by
    rw [← hround]
    exact (congrArg Match.currentIndex hveil).symm
  have hopen' : m'.pendingAdvance = false := by
    rw [← hopen]
    exact (congrArg Match.pendingAdvance hveil).symm
  have h := step_veil F u hopen mop
  have h' := step_veil F u hopen' mop'
  rw [← hveil, ← hop] at h'
  rw [hround] at h
  rw [hround'] at h'
  rcases h with ⟨hres, hresVeil⟩ | ⟨heq, hpending, hindex⟩
  · rcases h' with ⟨hres', -⟩ | ⟨heq', -, -⟩
    · exact .resolved hres hres'
    · rw [heq', resolved_veil] at hresVeil
      exact .resolved hres hresVeil
  · rcases h' with ⟨hres', hresVeil⟩ | ⟨heq', -, -⟩
    · rw [heq, resolved_veil] at hresVeil
      exact .resolved hresVeil hres'
    · exact .during hindex hpending (heq.symm.trans heq')

theorem resolved_after {k : ℕ} {m : Match} (h : m.Resolved k) (id : MatchID) (op : Op) :
    (m.after F id op).Resolved k := by
  unfold Match.after
  split
  · exact h
  · exact resolved_step h _

/-- An operation that meets alike matches leaves alike matches. -/
theorem Match.Alike.after {id : MatchID} {m m' : Match} {op op' : Op}
    (h : Match.Alike u id (round id) m m') (hop : op.Alike u round op') :
    Match.Alike u id (round id) (m.after F id op) (m'.after F id op') := by
  cases h with
  | before hm hlt => exact alike_after_before hm hlt hop
  | during hround hopen hveil =>
      have hon := on_veil id hop hveil
      unfold Match.after
      cases hmop : op.on id m with
      | none =>
          cases hmop' : op'.on id m' with
          | none => exact .during hround hopen hveil
          | some mop' => rw [hmop, hmop'] at hon; cases hon
      | some mop =>
          cases hmop' : op'.on id m' with
          | none => rw [hmop, hmop'] at hon; cases hon
          | some mop' =>
              rw [hmop, hmop', Option.map_some, Option.map_some, Option.some.injEq] at hon
              exact alike_step_during hround hopen hveil hon
  | resolved h h' => exact .resolved (resolved_after h id op) (resolved_after h' id op')

/-! ### The creation of a match -/

theorem startRoundTimer_eq (m : Match) :
    ∃ config deadline, startRoundTimer m = { m with config := config, roundDeadline := deadline } := by
  unfold startRoundTimer
  dsimp only
  split_ifs
  · exact ⟨_, _, rfl⟩
  · exact ⟨_, _, rfl⟩

theorem startRoundTimer_veil (m : Match) :
    (startRoundTimer m).veil u = startRoundTimer (m.veil u) := by
  unfold startRoundTimer
  show _ = if (normalizeMatchConfig m.config).roundTimerMode ≠ .fixed then _ else _
  dsimp only
  split_ifs <;> rfl

section

variable (F : FloatMath) (clk : Clock) (mode : MatchMode) (matchID : MatchID)
  (playerIDs : List UserID) (opts : MatchOptions) (teams : Assoc TeamID TeamState)
  (players : Assoc UserID PlayerState)

theorem newMatch_fields (loc : LocationPoint) :
    Labelled matchID (newMatch F clk mode matchID playerIDs opts loc teams players) ∧
      (newMatch F clk mode matchID playerIDs opts loc teams players).currentIndex = 0 ∧
      (newMatch F clk mode matchID playerIDs opts loc teams players).pendingAdvance = false := by
  unfold newMatch
  obtain ⟨_, _, heq⟩ := startRoundTimer_eq _
  rw [heq]
  exact ⟨⟨rfl, rfl⟩, rfl, rfl⟩

theorem newMatch_veil {loc loc' : LocationPoint} (h : loc.veil = loc'.veil) :
    (newMatch F clk mode matchID playerIDs opts loc teams players).veil u =
      (newMatch F clk mode matchID playerIDs opts loc' teams players).veil u := by
  unfold newMatch
  rw [startRoundTimer_veil, startRoundTimer_veil]
  simp only [Match.veil, h]

end

/-- An operation that creates a match in one run creates an alike one in the other. -/
theorem alike_creation (id : MatchID) {op op' : Op} (hop : op.Alike u round op') :
    Option.Rel (Match.Alike u id (round id)) (op.creation F id) (op'.creation F id) := by
  cases hop with
  | createMatch h clk matchID playerIDs profiles opts =>
      simp only [Op.creation]
      split_ifs with hid
      · subst hid
        unfold Engine.createMatchWithOptions
        cases checkMode opts.mode playerIDs.length with
        | error err => exact .none
        | ok mode =>
            cases h with
            | none => exact .none
            | some h =>
                obtain ⟨hveil, hsame⟩ := h matchID 0
                rcases cases_of_map_veil hveil with ⟨err, hp, hp'⟩ | ⟨loc, loc', hp, hp', hloc⟩
                · simp only [hp, hp']
                  exact .none
                · simp only [hp, hp']
                  split_ifs
                  · exact .none
                  · exact .none
                  · obtain ⟨hlabel, hindex, hopen⟩ := newMatch_fields F clk mode matchID playerIDs
                      opts _ _ loc
                    refine .some ?_
                    by_cases hlt : 0 < round matchID
                    · rw [hp, hp', Except.ok.injEq] at hsame
                      obtain rfl := hsame hlt
                      exact .before hlabel (by rw [hindex]; exact hlt)
                    · have hzero : 0 = round matchID := by omega
                      exact .during (hindex.trans hzero) hopen
                        (newMatch_veil F clk mode matchID playerIDs opts _ _ hloc)
      · exact .none
  | submitGuess | tick | markDisconnected | markResumed | forfeit => exact .none

/-! ## Runs -/

/-- The clocks agree and so do the matches, as far as `u` may know them. -/
structure World.Alike (u : UserID) (round : MatchID → ℕ) (w w' : World) : Prop where
  clock : w.clock = w'.clock
  matches_alike : ∀ id, Option.Rel (Match.Alike u id (round id)) (w.find id) (w'.find id)

theorem World.Alike.step {w w' : World} {op op' : Op} (h : w.Alike u round w')
    (hop : op.Alike u round op') :
    Option.Rel (World.Alike u round) (w.step F op) (w'.step F op') := by
  have hstart : op.start = op'.start := by cases hop <;> rfl
  have hstop : op.stop = op'.stop := by cases hop <;> rfl
  unfold World.step
  rw [← h.clock, ← hstart]
  split_ifs
  · refine .some ⟨hstop, fun id => ?_⟩
    have hrel := h.matches_alike id
    show Option.Rel _ ((w.engine.step F op).allMatches.lookup id)
      ((w'.engine.step F op').allMatches.lookup id)
    cases hm : w.find id with
    | none =>
        cases hm' : w'.find id with
        | none =>
            rw [Engine.lookup_step_of_none hm, Engine.lookup_step_of_none hm']
            exact alike_creation id hop
        | some m' => rw [hm, hm'] at hrel; cases hrel
    | some m =>
        cases hm' : w'.find id with
        | none => rw [hm, hm'] at hrel; cases hrel
        | some m' =>
            rw [hm, hm', Option.rel_some_some] at hrel
            rw [Engine.lookup_step_of_some hm, Engine.lookup_step_of_some hm']
            exact .some (hrel.after hop)
  · exact .none

theorem World.Alike.sameViews {w w' : World} (h : w.Alike u round w') : SameViews u round w w' := by
  intro id hopen clk
  have hrel := h.matches_alike id
  unfold Engine.clientSnapshot Engine.getSnapshot
  unfold World.find at hopen hrel
  cases hm : w.engine.allMatches.lookup id with
  | none =>
      cases hm' : w'.engine.allMatches.lookup id with
      | none => rfl
      | some m' => rw [hm, hm'] at hrel; cases hrel
  | some m =>
      cases hm' : w'.engine.allMatches.lookup id with
      | none => rw [hm, hm'] at hrel; cases hrel
      | some m' =>
          rw [hm, hm', Option.rel_some_some] at hrel
          cases hrel with
          | before _ _ => rfl
          | during _ _ hveil =>
              have hview := clientSnapshot_veil u clk m
              rw [hveil, clientSnapshot_veil] at hview
              exact congrArg Except.ok hview.symm
          | resolved hres _ => exact absurd hres (hopen m hm)

/-- In two runs that differ only in what others guess for rounds that are not resolved and in where
these rounds are, every player is sent the same in both until the round is resolved. -/
theorem no_peeking (F : FloatMath) (u : UserID) (round : MatchID → ℕ) (t : ℕ) {ops ops' : List Op}
    (h : List.Forall₂ (Op.Alike u round) ops ops') (n : ℕ) :
    Option.Rel (SameViews u round) (Run.exec (World.step F) (World.init t) (ops.take n))
      (Run.exec (World.step F) (World.init t) (ops'.take n)) := by
  have hstart : World.Alike u round (World.init t) (World.init t) := ⟨rfl, fun _ => .none⟩
  have hstep (w w' : World) (op op' : Op) (hw : w.Alike u round w') (hop : op.Alike u round op') :
      Option.Rel (World.Alike u round) (w.step F op) (w'.step F op') := hw.step hop
  exact Run.exec_rel hstep (fun _ _ hw => hw.sameViews) hstart (List.forall₂_take n h)

/-- `u2` guesses the place of the first round, loses his connection and gives up. -/
def secretRun (lat lng : ℚ) (country : String) : List Op :=
  [.createMatch (second 0) (some fun _ _ => .ok { lat := lat, lng := lng, country := country }) "m"
      ["u1", "u2"] ∅ {},
    .submitGuess (second 5)
      { userID := "u2", matchID := "m", roundID := roundID "m" 1, lat := lat, lng := lng,
        finalize := true },
    tickAt 6, .markDisconnected (second 7) "m" "u2", .forfeit (second 8) "m" "u2"]

theorem secretRun_alike (lat lng lat' lng' : ℚ) (country country' : String) :
    List.Forall₂ (Op.Alike "u1" fun _ => 0) (secretRun lat lng country)
      (secretRun lat' lng' country') := by
  have hplace : AnswersAlike (fun _ => 0)
      (fun _ _ => .ok { lat := lat, lng := lng, country := country })
      (fun _ _ => .ok { lat := lat', lng := lng', country := country' }) :=
    fun _ _ => ⟨rfl, fun h => absurd h (Nat.not_lt_zero _)⟩
  have hguess : GuessesAlike "u1" (fun _ => 0)
      ⟨"u2", "m", roundID "m" 1, lat, lng, true⟩ ⟨"u2", "m", roundID "m" 1, lat', lng', true⟩ :=
    .inr ⟨rfl, fun _ h => absurd h (Nat.not_lt_zero _)⟩
  exact .cons (.createMatch (.some hplace) _ _ _ _ _) (.cons (.submitGuess hguess _)
    (.cons (.tick (fun _ _ => ⟨rfl, fun _ => rfl⟩) _)
      (.cons (.markDisconnected _ _ _) (.cons (.forfeit _ _ _) .nil))))

theorem no_peeking_secretRun :
    (Run.exec (World.step .coarse) (World.init 0) (secretRun 0 0 "")).isSome = true ∧
      Option.Rel (SameViews "u1" fun _ => 0)
        (Run.exec (World.step .coarse) (World.init 0) ((secretRun 0 0 "").take 5))
        (Run.exec (World.step .coarse) (World.init 0) ((secretRun 10 20 "FR").take 5)) :=
  ⟨by decide +kernel, no_peeking .coarse "u1" (fun _ => 0) 0 (secretRun_alike 0 0 10 20 "" "FR") 5⟩

end GeoDuels.Duel
