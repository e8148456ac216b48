import GeoDuels.Duel.Creation
import GeoDuels.LocationSampler.MatchRounds

/-!
# The rounds of a duel

The round provider of the duel engine is `NextRound`.  A match keeps the location of a round until its next
round, and writes it into the result; so the results of different rounds show different locations.
-/

namespace GeoDuels.Duel

open LocationSampler (NextRound.World NextRound.Act NextRound.LastDrawFresh NextRound.NoRowTwice)

variable {F : FloatMath} {id : MatchID} {Q : ℕ → LocationPoint → Prop} {m m' : Match}

/-! ## Where a match has its locations from -/

/-- The location of each round so far is one that `Q` allows for it. -/
structure Located (id : MatchID) (Q : ℕ → LocationPoint → Prop) (m : Match) : Prop where
  id_eq : m.id = id
  rounds : ∃ location : ℕ → LocationPoint, (∀ k ≤ m.currentIndex, Q k (location k)) ∧
    m.currentLocation = location m.currentIndex ∧
      ∀ r ∈ m.roundResults, ∃ k ≤ m.currentIndex, r.roundNumber = k + 1 ∧ r.actualLocation = location k

/-- A write that leaves the round and the results alone. -/
theorem Located.frame (h : Located id Q m) (hid : m'.id = m.id) (hindex : m'.currentIndex = m.currentIndex)
    (hlocation : m'.currentLocation = m.currentLocation) (hresults : m'.roundResults = m.roundResults) :
    Located id Q m' := by
  refine ⟨hid.trans h.id_eq, ?_⟩
  rw [hindex, hlocation, hresults]
  exact h.rounds

theorem Located.announceLive (h : Located id Q m) (now : ℕ) : Located id Q (m.announceLive now) := by
  rcases announceLive_cases now m with heq | heq
  · rwa [heq]
  · rw [heq]
    exact h.frame rfl rfl rfl rfl

theorem Located.sweep (h : Located id Q m) (now : ℕ) : Located id Q (m.sweep now) := by
  rcases sweep_eq now m with heq | ⟨out, activity, seq, -, heq⟩
  · rwa [heq]
  · rw [heq]
    exact h.frame rfl rfl rfl rfl

theorem Located.resolveRound (h : Located id Q m) (clk : Clock) : Located id Q (m.resolveRound F clk) := by
  by_cases hlive : m.state = .live
  · obtain ⟨intermission, activity, seq, -, -, heq⟩ := resolveRound_live (F := F) hlive clk
    rw [heq]
    obtain ⟨hid, location, hQ, hcurrent, hresults⟩ := h
    refine ⟨hid, location, hQ, hcurrent, fun r hr => ?_⟩
    rcases List.mem_append.1 hr with hr | hr
    · exact hresults r hr
    · rw [List.mem_singleton.1 hr]
      exact ⟨m.currentIndex, le_rfl, resolution_roundNumber m, (resolution_actualLocation m).trans hcurrent⟩
  · rwa [resolveRound_of_not_live hlive]

theorem Located.tickRound (h : Located id Q m) (now : ℕ) (clk : Clock) :
    Located id Q (m.tickRound F now clk) := by
  unfold Match.tickRound
  split_ifs
  · exact (h.announceLive now).resolveRound clk
  · exact h.announceLive now

/-- The next round. -/
theorem Located.next (h : Located id Q m) {loc : LocationPoint} (hid : m'.id = m.id)
    (hloc : Q (m.currentIndex + 1) loc) (hindex : m'.currentIndex = m.currentIndex + 1)
    (hlocation : m'.currentLocation = loc) (hresults : m'.roundResults = m.roundResults) : Located id Q m' := by
  obtain ⟨hm, location, hQ, -, hold⟩ := h
  refine ⟨hid.trans hm, Function.update location (m.currentIndex + 1) loc, fun k hk => ?_, ?_, fun r hr => ?_⟩
  · rw [hindex] at hk
    rcases Nat.le_succ_iff.1 hk with hk | rfl
    · rw [Function.update_of_ne (Nat.ne_of_lt (Nat.lt_succ_of_le hk))]
      exact hQ k hk
    · rwa [Function.update_self]
  · rw [hlocation, hindex, Function.update_self]
  · rw [hresults] at hr
    obtain ⟨k, hk, hnumber, hr⟩ := hold r hr
    refine ⟨k, by omega, hnumber, ?_⟩
    rwa [Function.update_of_ne (Nat.ne_of_lt (Nat.lt_succ_of_le hk))]

theorem Located.advanceRound (h : Located id Q m) (clk : Clock) {next : Except String LocationPoint}
    (hnext : ∀ loc, next = .ok loc → Q (m.currentIndex + 1) loc) : Located id Q (m.advanceRound clk next) := by
  unfold Match.advanceRound
  split_ifs
  · exact h
  · cases next with
    | error err => exact h.frame rfl rfl rfl rfl
    | ok loc =>
        unfold startRoundTimer
        dsimp only
        split_ifs <;> exact h.next rfl (hnext loc rfl) rfl rfl rfl

/-- The answer of the round provider that the step asks for. -/
def MatchOp.Next (Q : ℕ → LocationPoint → Prop) (m : Match) : MatchOp → Prop
  | .tick _ _ _ next => ∀ loc, next = .ok loc → Q (m.currentIndex + 1) loc
  | _ => True

theorem Located.step {mop : MatchOp} (h : Located id Q m) (hnext : mop.Next Q m) : Located id Q (m.step F mop) := by
  cases mop with
  | submitGuess clk g =>
      rw [step_submitGuess]
      have hrecorded : Located id Q (m.recordGuess (clk.read 1) g) := h.frame rfl rfl rfl rfl
      split_ifs
      · exact h.resolveRound _
      · exact hrecorded.resolveRound _
      · exact hrecorded
      · exact h
  | tick now clk hle next =>
      rw [step_tick]
      split_ifs
      · exact h
      · exact h.advanceRound clk hnext
      · exact h
      · exact (h.tickRound now clk).sweep now
  | markDisconnected clk u =>
      rw [step_markDisconnected]
      split_ifs
      · exact h.frame rfl rfl rfl rfl
      · exact h
  | markResumed clk u =>
      rw [step_markResumed]
      split_ifs
      · exact h.frame rfl rfl rfl rfl
      · exact h
  | forfeit clk u =>
      rw [step_forfeit]
      split_ifs
      · exact h.frame rfl rfl rfl rfl
      · exact h

/-! ## The matches of an engine -/

/-- What the round provider of the operation answers for the match is allowed by `Q`. -/
def Op.Provides (id : MatchID) (Q : ℕ → LocationPoint → Prop) : Op → Prop
  | .createMatch _ provider _ _ _ _ => ∀ f ∈ provider, ∀ k loc, f id k = .ok loc → Q k loc
  | .tick _ provider => ∀ k loc, provider id k = .ok loc → Q k loc
  | _ => True

theorem Located.after {op : Op} (h : Located id Q m) (hop : op.Provides id Q) :
    Located id Q (m.after F id op) := by
  have hnext : ∀ mop ∈ op.on id m, mop.Next Q m := by
    intro mop hmop
    cases op with
    | tick clk provider =>
        obtain rfl := Option.some.inj hmop
        intro loc hloc
        rw [h.id_eq] at hloc
        exact hop _ _ hloc
    | createMatch => cases hmop
    | submitGuess | markDisconnected | markResumed | forfeit =>
        simp only [Op.on, Option.mem_def, Option.ite_none_right_eq_some, Option.some.injEq] at hmop
        obtain ⟨-, rfl⟩ := hmop
        trivial
  unfold Match.after
  cases hon : op.on id m with
  | none => exact h
  | some mop => exact h.step (hnext mop hon)

/-- A match is created with the location of the round 0. -/
theorem createMatchWithOptions_location {clk : Clock} {provider : Option RoundProvider}
    {playerIDs : List UserID} {profiles : Assoc UserID PlayerProfile} {opts : MatchOptions} {e e' : Engine}
    (h : e.createMatchWithOptions F clk provider id playerIDs profiles opts = .ok (m, e')) :
    ∃ f ∈ provider, f id 0 = .ok m.currentLocation := by
  unfold Engine.createMatchWithOptions at h
  rcases hmode : checkMode opts.mode playerIDs.length with err | mode
  · simp [hmode] at h
  rcases provider with _ | f
  · simp [hmode] at h
  rcases hround : f id 0 with err | firstRound
  · simp [hmode, hround] at h
  simp only [hmode, hround] at h
  split_ifs at h
  simp only [Except.ok.injEq, Prod.mk.injEq] at h
  obtain ⟨rfl, -⟩ := h
  refine ⟨f, rfl, ?_⟩
  unfold newMatch startRoundTimer
  dsimp only
  split_ifs <;> exact hround

theorem located_of_creation {op : Op} (hop : op.Provides id Q) (h : op.creation F id = some m) :
    Located id Q m := by
  cases op with
  | createMatch clk provider matchID playerIDs profiles opts =>
      rw [Op.creation] at h
      split_ifs at h with hid
      subst hid
      obtain ⟨⟨m', e'⟩, hc, rfl⟩ := Option.map_eq_some_iff.1 h
      have hok : Engine.new.createMatchWithOptions F clk provider matchID playerIDs profiles opts =
          .ok (m', e') := by
        cases hres : Engine.new.createMatchWithOptions F clk provider matchID playerIDs profiles opts with
        | error err => rw [hres] at hc; cases hc
        | ok created => rw [hres] at hc; exact congrArg Except.ok (Option.some.inj hc)
      have hnew := isNew_of_created ⟨clk, provider, profiles, opts, _, _, hok⟩
      obtain ⟨f, hf, hround⟩ := createMatchWithOptions_location hok
      refine ⟨hnew.id_eq, fun _ => m'.currentLocation, fun k hk => ?_, rfl, fun r hr => ?_⟩
      · rw [hnew.first] at hk
        rw [Nat.le_zero.1 hk]
        exact hop f hf 0 _ hround
      · rw [hnew.noResults] at hr
        cases hr
  | submitGuess | tick | markDisconnected | markResumed | forfeit => cases h

theorem located_step {w w' : World} {op : Op} (h : ∀ m, w.find id = some m → Located id Q m)
    (hop : op.Provides id Q) (hs : w.step F op = some w') (m : Match) (hm : w'.find id = some m) :
    Located id Q m := by
  cases hw : w.find id with
  | some m₀ =>
      obtain rfl := Option.some.inj ((World.find_step_of_some hs hw).symm.trans hm)
      exact (h m₀ hw).after hop
  | none =>
      obtain ⟨-, rfl⟩ := World.step_eq_some hs
      exact located_of_creation hop ((Engine.lookup_step_of_none hw op).symm.trans hm)

/-- The results of a match show one location for each round, and no location for two; and so does the round
that it is in. -/
structure ShowsEachOnce (m : Match) : Prop where
  results : ∀ r ∈ m.roundResults, ∀ r' ∈ m.roundResults,
    r.actualLocation = r'.actualLocation ↔ r.roundNumber = r'.roundNumber
  current : ∀ r ∈ m.roundResults, r.actualLocation = m.currentLocation ↔ r.roundNumber = m.currentIndex + 1

theorem Located.showsOnce (h : Located id Q m) (hQ : ∀ j k loc, Q j loc → Q k loc → j = k) :
    ShowsEachOnce m := by
  obtain ⟨-, location, hallowed, hcurrent, hresults⟩ := h
  have hinj : ∀ j ≤ m.currentIndex, ∀ k ≤ m.currentIndex, location j = location k ↔ j + 1 = k + 1 := by
    intro j hj k hk
    constructor
    · intro heq
      rw [hQ j k _ (heq ▸ hallowed j hj) (hallowed k hk)]
    · intro heq
      rw [Nat.succ.inj heq]
  refine ⟨fun r hr r' hr' => ?_, fun r hr => ?_⟩
  · obtain ⟨j, hj, hnumber, hlocation⟩ := hresults r hr
    obtain ⟨k, hk, hnumber', hlocation'⟩ := hresults r' hr'
    rw [hnumber, hnumber', hlocation, hlocation']
    exact hinj j hj k hk
  · obtain ⟨j, hj, hnumber, hlocation⟩ := hresults r hr
    rw [hnumber, hlocation, hcurrent]
    exact hinj j hj _ le_rfl

/-! ## The answers of `NextRound` -/

/-- What the round provider of the operation answers for the match is an answer of `NextRound`. -/
def Op.AnsweredIn (w : NextRound.World) (id : MatchID) (op : Op) : Prop :=
  op.Provides id fun k loc => ⟨id, k, .ok loc⟩ ∈ w.answers

/-- No match of the duel engine shows a location twice, whatever its players do and when: the nodes run their
calls of `NextRound` in any order, fail and crash, and of all rows that are drawn no two have the same
location. -/
theorem showsEachOnce (F : FloatMath) (as : List NextRound.Act) (w : NextRound.World) (id : MatchID)
    (hfresh : Run.Guarded NextRound.World.step (NextRound.LastDrawFresh id) {} as)
    (hrun : Run.exec NextRound.World.step {} as = some w)
    (hrows : ∀ row ∈ w.drawn, ∀ row' ∈ w.drawn, row.point = row'.point → row.id = row'.id)
    (t : ℕ) (ops : List Op) (hops : ∀ op ∈ ops, op.AnsweredIn w id) :
    Run.Always (World.step F) (fun v => ∀ m, v.find id = some m → ShowsEachOnce m) (World.init t) ops := by
  obtain ⟨roundOf, hround⟩ := ((LocationSampler.NextRound.always_rowsInv hfresh).exec hrun).rowOnce
  have hQ (j k : ℕ) (loc : LocationPoint) (hj : ⟨id, j, .ok loc⟩ ∈ w.answers)
      (hk : ⟨id, k, .ok loc⟩ ∈ w.answers) : j = k := by
    obtain ⟨row, hrow, hp, hr⟩ := hround j loc hj
    obtain ⟨row', hrow', hp', hr'⟩ := hround k loc hk
    rw [hrows row hrow row' hrow' (hp.trans hp'.symm), hr'] at hr
    exact Int.ofNat.inj hr.symm
  have hlocated : Run.Always (World.step F) (fun v => ∀ m, v.find id = some m →
      Located id (fun k loc => ⟨id, k, .ok loc⟩ ∈ w.answers) m) (World.init t) ops := by
    refine Run.always_of_invariant (fun v op v' hv hop hs => located_step hv hop hs) ?_ ?_
    · intro m hm
      simp [World.init, World.find, Engine.new] at hm
    · exact (Run.guarded_true _ ops).and_forall hops |>.mono fun _ _ _ h => h.1
  exact hlocated.mono fun v hv m hm => (hv m hm).showsOnce hQ

/-- The round provider that answers what `NextRound` has answered. -/
def answersOf (w : NextRound.World) : RoundProvider := fun id k =>
  match w.answers.findSome? fun (a : LocationSampler.NextRound.Answer) =>
    if a.matchID = id ∧ a.roundIndex = (k : ℤ) then a.result.toOption else none with
  | some loc => .ok loc
  | none => .error "location pool is empty"

theorem mem_answers_of_answersOf {w : NextRound.World} {k : ℕ} {loc : LocationPoint}
    (h : answersOf w id k = .ok loc) : ⟨id, k, .ok loc⟩ ∈ w.answers := by
  unfold answersOf at h
  split at h
  · next loc' hsome =>
    obtain rfl := Except.ok.inj h
    obtain ⟨a, ha, hresult⟩ := List.exists_of_findSome?_eq_some hsome
    obtain ⟨matchID, roundIndex, result⟩ := a
    split_ifs at hresult with hround
    obtain ⟨rfl, rfl⟩ := hround
    cases result with
    | error err => cases hresult
    | ok p =>
        obtain rfl := Option.some.inj hresult
        exact ha
  · cases h

/-- The nodes after the two calls of `twoRounds`. -/
def twoLocations : NextRound.World :=
  (Run.exec NextRound.World.step {} LocationSampler.NextRound.twoRounds).getD {}

/-- A match that resolves two rounds. -/
def twoLocationsRun : List Op :=
  [.createMatch (second 0) (some (answersOf twoLocations)) "m" ["u1", "u2"] ∅ {}, guessAt 3 "u1" 1,
    guessAt 4 "u2" 1, .tick (.still (Time.unixEpoch + 12 * Time.second)) (answersOf twoLocations),
    guessAt 16 "u1" 2, guessAt 17 "u2" 2]

theorem showsEachOnce_twoLocations :
    ((Run.exec (World.step .coarse) (World.init 0) twoLocationsRun).bind fun v => v.find "m").map
        (fun m => m.roundResults.map fun r => r.roundNumber) = some [1, 2] ∧
      Run.Always (World.step .coarse) (fun v => ∀ m, v.find "m" = some m → ShowsEachOnce m) (World.init 0)
        twoLocationsRun := by
  have hrun : Run.exec NextRound.World.step {} LocationSampler.NextRound.twoRounds = some twoLocations := by
    have hsome : (Run.exec NextRound.World.step {} LocationSampler.NextRound.twoRounds).isSome = true := by
      decide +kernel
    obtain ⟨w, hw⟩ := Option.isSome_iff_exists.1 hsome
    rw [twoLocations, hw, Option.getD_some]
  have hlat : ∀ row ∈ twoLocations.drawn, ∀ row' ∈ twoLocations.drawn,
      row.point.lat = row'.point.lat → row.id = row'.id := by decide +kernel
  refine ⟨by decide +kernel, showsEachOnce .coarse LocationSampler.NextRound.twoRounds twoLocations "m"
    (by decide +kernel) hrun
    (fun row hrow row' hrow' hp => hlat row hrow row' hrow' (congrArg LocationPoint.lat hp)) 0
    twoLocationsRun fun op hop => ?_⟩
  simp only [twoLocationsRun, List.mem_cons, List.not_mem_nil, or_false] at hop
  rcases hop with rfl | rfl | rfl | rfl | rfl | rfl
  · rintro f ⟨⟩ k loc hloc
    exact mem_answers_of_answersOf hloc
  · trivial
  · trivial
  · exact fun k loc hloc => mem_answers_of_answersOf hloc
  · trivial
  · trivial

end GeoDuels.Duel
