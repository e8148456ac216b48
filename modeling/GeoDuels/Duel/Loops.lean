import GeoDuels.Duel.Outcome

/-!
# The loops of a resolution

`resolveRound` ranges over its maps five times, in an order that may be another one each time.  Here
every such loop runs over a list of keys of its own (`Orders`), and `sameOutcome_resolveRoundIn` says
that the resolution comes out the same for all of them.
-/

namespace GeoDuels.Duel

variable {F : FloatMath}

/-! ## The orders -/

/-- The orders in which a resolution meets the entries of its maps: the players that it scores, those
whose scores it adds up and those it looks for hit points at, and the teams that it finds the best
guess of and those that it gives their hit points to. -/
structure Orders where
  scored : List UserID
  added : List UserID
  settled : List UserID
  represented : List TeamID
  damaged : List TeamID

/-- Every loop meets each entry of its map once. -/
structure Orders.Of (m : Match) (o : Orders) : Prop where
  scored : o.scored.Perm m.players.keys
  added : o.added.Perm m.players.keys
  settled : o.settled.Perm m.players.keys
  represented : o.represented.Perm m.teams.keys
  damaged : o.damaged.Perm m.teams.keys

/-! ## The bodies of the loops -/

/-- A player gets his row of the result and is no longer finalized. -/
def scorePlayer (F : FloatMath) (m : Match)
    (acc : Assoc UserID PlayerState × Assoc UserID RoundPlayerResult) (userID : UserID) :
    Assoc UserID PlayerState × Assoc UserID RoundPlayerResult :=
  match acc.1.lookup userID with
  | none => acc
  | some p =>
      (acc.1.modify userID fun p => { p with finalized := false },
        acc.2.insert userID (roundPlayerResult F m userID p))

/-- The score of a row is added to its player's, in a free-for-all. -/
def addScore (acc : Assoc UserID PlayerState × Assoc UserID RoundPlayerResult) (userID : UserID) :
    Assoc UserID PlayerState × Assoc UserID RoundPlayerResult :=
  match acc.2.lookup userID with
  | none => acc
  | some row =>
      (acc.1.modify userID fun p => { p with totalScore := p.totalScore + row.score },
        acc.2.modify userID fun _ => { row with hpAfterRound := 0 })

/-- The team gets the row of its best guess. -/
def representTeam (teams : Assoc TeamID TeamState) (result : RoundResult)
    (rows : Assoc TeamID RoundTeamResult) (teamID : TeamID) : Assoc TeamID RoundTeamResult :=
  match teams.lookup teamID with
  | none => rows
  | some team => rows.insert teamID (bestGuess result teamID team)

/-- No hit points below zero. -/
def clampTeam (team : TeamState) : TeamState :=
  { team with hp := if team.hp < 0 then 0 else team.hp }

/-- A team that took its damage passes its hit points on to its members and to its row, and ends the
match when none are left. -/
def damageTeam (r : Resolution) (teamID : TeamID) : Resolution :=
  match r.teams.lookup teamID with
  | none => r
  | some team =>
      let team := clampTeam team
      { players := Assoc.modifyAll team.players (fun p => { p with hp := team.hp }) r.players
        teams := r.teams.modify teamID fun _ => team
        state := if team.hp ≤ 0 then .ended else r.state
        result :=
          { r.result with
            teams := r.result.teams.insert teamID
              { (r.result.teams.lookup teamID).getD {} with hpAfterRound := team.hp } } }

/-- A player without hit points ends the match. -/
def settlePlayer (r : Resolution) (userID : UserID) : Resolution :=
  match r.players.lookup userID with
  | none => r
  | some p =>
      if p.hp ≤ 0 then
        { r with
          players := r.players.modify userID fun p => { p with hp := 0 }
          state := .ended }
      else r

/-! ## The resolution with its loops -/

def resolveTeamDuelDamageIn (o : Orders) (m : Match) (players : Assoc UserID PlayerState)
    (result : RoundResult) : Resolution :=
  if m.teams.keys.length ≠ 2 then ⟨players, m.teams, .ended, result⟩
  else
    let rows := o.represented.foldl (representTeam m.teams result) ∅
    let a := (rows.lookup "a").getD {}
    let b := (rows.lookup "b").getD {}
    let damage := roundDamage result.roundNumber a.score b.score
    let (a, b, teams) :=
      if a.score > b.score then
        ({ a with damageDealt := damage }, { b with damageTaken := damage },
          m.teams.modify "b" fun t => { t with hp := t.hp - damage })
      else if b.score > a.score then
        ({ a with damageTaken := damage }, { b with damageDealt := damage },
          m.teams.modify "a" fun t => { t with hp := t.hp - damage })
      else (a, b, m.teams)
    let r := o.damaged.foldl damageTeam ⟨players, teams, m.state, { result with teams := rows }⟩
    let a := { a with hpAfterRound := teamHP r.teams "a" }
    let b := { b with hpAfterRound := teamHP r.teams "b" }
    { r with result := { r.result with teams := (r.result.teams.insert "a" a).insert "b" b } }

def scoreRoundIn (F : FloatMath) (o : Orders) (m : Match) : Resolution :=
  let (players, rows) := o.scored.foldl (scorePlayer F m) (m.players, ∅)
  let result : RoundResult :=
    { roundID := m.roundID
      roundNumber := m.currentIndex + 1
      actualLocation := m.currentLocation
      players := rows }
  match m.mode with
  | .duel =>
      let (players, result) := resolveDuelDamage players result o.scored
      ⟨players, m.teams, m.state, result⟩
  | .teamDuel => resolveTeamDuelDamageIn o m players result
  | .freeForAll =>
      let (players, rows) := o.added.foldl addScore (players, result.players)
      ⟨players, m.teams, m.state, { result with players := rows }⟩
  | _ => ⟨players, m.teams, m.state, result⟩

def settleRoundIn (order : List UserID) (mode : MatchMode) (r : Resolution) : Resolution :=
  let r := if mode ≠ .freeForAll then order.foldl settlePlayer r else r
  let r :=
    if mode = .freeForAll ∧ ffaRounds ≤ r.result.roundNumber then { r with state := .ended } else r
  if maxRounds ≤ r.result.roundNumber then { r with state := .ended } else r

/-- The end of `resolveRound`, after its loops. -/
def Match.closeRound (clk : Clock) (r : Resolution) (m : Match) : Match :=
  let m :=
    { m with
      players := r.players
      teams := r.teams
      state := r.state
      lastRoundResult := some r.result
      roundResults := m.roundResults ++ [r.result]
      guesses := ∅
      lastActivity := clk.read 0
      eventSeq := m.eventSeq + 1 }
  if m.state = .ended then m
  else
    { m with
      pendingAdvance := true
      intermissionUntil := clk.read 1 + resultDuration
      lastActivity := clk.read 2
      eventSeq := m.eventSeq + 1 }

/-- `resolveRound` with its loops in the given orders. -/
def Match.resolveRoundIn (F : FloatMath) (clk : Clock) (o : Orders) (m : Match) : Match :=
  if m.state ≠ .live then m
  else m.closeRound clk (settleRoundIn o.settled m.mode (scoreRoundIn F o m))

theorem resolveRound_eq_closeRound {m : Match} (h : m.state = .live) (clk : Clock) :
    m.resolveRound F clk = m.closeRound clk (m.resolution F) := by
  rw [Match.resolveRound, if_neg (not_not.2 h)]
  rfl

/-! ## The same outcome -/

/-- The results record the same, whatever the order of their maps. -/
structure SameResult (r r' : RoundResult) : Prop where
  frame : r' = { r with players := r'.players, teams := r'.teams }
  players : r.players.Same r'.players
  teams : r.teams.Same r'.teams

structure SameResolution (r r' : Resolution) : Prop where
  players : r.players.Same r'.players
  teams : r.teams.Same r'.teams
  state : r.state = r'.state
  result : SameResult r.result r'.result

/-- The matches are the same up to the order of the maps that a resolution writes. -/
structure SameOutcome (m m' : Match) : Prop where
  frame : m' =
    { m with
      players := m'.players
      teams := m'.teams
      lastRoundResult := m'.lastRoundResult
      roundResults := m'.roundResults }
  players : m.players.Same m'.players
  teams : m.teams.Same m'.teams
  last : Option.Rel SameResult m.lastRoundResult m'.lastRoundResult
  results : List.Forall₂ SameResult m.roundResults m'.roundResults

theorem SameResult.refl (r : RoundResult) : SameResult r r := ⟨rfl, .refl _, .refl _⟩

theorem sameOutcome_closeRound {r r' : Resolution} (h : SameResolution r r') (clk : Clock)
    (m : Match) : SameOutcome (m.closeRound clk r) (m.closeRound clk r') := by
  have hresults : List.Forall₂ SameResult (m.roundResults ++ [r.result])
      (m.roundResults ++ [r'.result]) :=
    List.rel_append (List.forall₂_same.2 fun r _ => .refl r) (.cons h.result .nil)
  unfold Match.closeRound
  dsimp only
  rw [h.state]
  split_ifs
  · exact ⟨rfl, h.players, h.teams, .some h.result, hresults⟩
  · exact ⟨rfl, h.players, h.teams, .some h.result, hresults⟩

/-! ## Scoring the players -/

variable {m : Match} {o : Orders}

/-- The scoring loop writes the player and the row of the key it meets. -/
theorem scored_same {order : List UserID} (h : order.Perm m.players.keys) :
    (order.foldl (scorePlayer F m) (m.players, ∅)).1.Same m.unfinalized ∧
      (order.foldl (scorePlayer F m) (m.players, ∅)).2.Same (m.scores F).players := by
  have hcell := @Assoc.cell_foldl UserID _ _ (Option PlayerState × Option RoundPlayerResult)
    (scorePlayer F m) (fun k s => (s.1.lookup k, s.2.lookup k))
    (fun k c => match c.1 with
      | none => c
      | some p => (some { p with finalized := false }, some (roundPlayerResult F m k p)))
    (by
      intro s k k'
      unfold scorePlayer
      cases hk : s.1.lookup k with
      | none =>
          rcases eq_or_ne k' k with rfl | hne
          · simp [hk]
          · simp [hne]
      | some p =>
          rcases eq_or_ne k' k with rfl | hne
          · simp [hk]
          · simp [hne, Assoc.lookup_modify_ne, AList.lookup_insert_ne])
    order (h.nodup_iff.2 (AList.keys_nodup _)) (m.players, ∅)
  have hlookup : ∀ k, ((order.foldl (scorePlayer F m) (m.players, ∅)).1.lookup k,
      (order.foldl (scorePlayer F m) (m.players, ∅)).2.lookup k) =
        (m.unfinalized.lookup k, (m.scores F).players.lookup k) := by
    intro k
    rw [hcell k]
    unfold Match.unfinalized Match.scores
    cases hk : m.players.lookup k with
    | none =>
        have hnot : k ∉ order := by
          rw [h.mem_iff, ← AList.mem_keys, ← AList.lookup_eq_none]
          exact hk
        simp [hnot, hk]
    | some p =>
        have hmem : k ∈ order := by
          rw [h.mem_iff]
          exact Assoc.mem_keys_iff_exists.2 ⟨p, hk⟩
        simp [hmem, hk]
  exact ⟨fun k => congrArg Prod.fst (hlookup k), fun k => congrArg Prod.snd (hlookup k)⟩

/-! ## Settling the round -/

theorem lookup_settlePlayer (r : Resolution) (k k' : UserID) :
    (settlePlayer r k).players.lookup k' =
      if k' = k then (r.players.lookup k).map fun p => if p.hp ≤ 0 then { p with hp := 0 } else p
      else r.players.lookup k' := by
  unfold settlePlayer
  cases hk : r.players.lookup k with
  | none =>
      rcases eq_or_ne k' k with rfl | hne
      · simp [hk]
      · simp [hne]
  | some p =>
      by_cases hp : p.hp ≤ 0
      · rcases eq_or_ne k' k with rfl | hne
        · simp [hk, hp]
        · simp [hne, hp, Assoc.lookup_modify_ne]
      · rcases eq_or_ne k' k with rfl | hne
        · simp [hk, hp]
        · simp [hne, hp]

theorem state_settlePlayer (r : Resolution) (k : UserID) : (settlePlayer r k).state =
    if (r.players.lookup k).any fun p => p.hp ≤ 0 then .ended else r.state := by
  unfold settlePlayer
  cases hk : r.players.lookup k with
  | none => simp
  | some p => by_cases hp : p.hp ≤ 0 <;> simp [hp]

/-- The loop that settles the players leaves the teams and the result alone. -/
theorem settlePlayer_frame (order : List UserID) (r : Resolution) :
    (order.foldl settlePlayer r).teams = r.teams ∧
      (order.foldl settlePlayer r).result = r.result := by
  induction order generalizing r with
  | nil => exact ⟨rfl, rfl⟩
  | cons k order ih =>
      have hstep : (settlePlayer r k).teams = r.teams ∧ (settlePlayer r k).result = r.result := by
        unfold settlePlayer
        cases r.players.lookup k with
        | none => exact ⟨rfl, rfl⟩
        | some p => by_cases hp : p.hp ≤ 0 <;> simp [hp]
      rw [List.foldl_cons]
      exact ⟨(ih _).1.trans hstep.1, (ih _).2.trans hstep.2⟩

/-- The same players lose what they have below zero, and the match ends for the same reason. -/
theorem settlePlayers_same {order : List UserID} {r : Resolution}
    (h : order.Perm r.players.keys) :
    (order.foldl settlePlayer r).players.Same
        (Assoc.mapVals (fun _ p => if p.hp ≤ 0 then { p with hp := 0 } else p) r.players) ∧
      (order.foldl settlePlayer r).state =
        if r.players.any fun _ p => p.hp ≤ 0 then .ended else r.state := by
  constructor
  · exact Assoc.same_foldl Resolution.players
      (fun _ p => if p.hp ≤ 0 then { p with hp := 0 } else p) lookup_settlePlayer h
  · rw [Assoc.flag_foldl Resolution.state .ended
      (fun k r => (r.players.lookup k).any fun p => decide (p.hp ≤ 0))
      (fun r k => state_settlePlayer r k) (fun r k k' => ?_) order r,
      Assoc.any_keys h fun p => decide (p.hp ≤ 0)]
    rw [lookup_settlePlayer]
    split_ifs with heq
    · rw [heq]
      cases r.players.lookup k with
      | none => rfl
      | some p => by_cases hp : p.hp ≤ 0 <;> simp [hp]
    · rfl

/-- What is left after the loop over the players: the bounds of the rounds. -/
theorem settleRoundIn_fields (order : List UserID) (mode : MatchMode) (r : Resolution) :
    let s := if mode ≠ .freeForAll then order.foldl settlePlayer r else r
    (settleRoundIn order mode r).players = s.players ∧
      (settleRoundIn order mode r).teams = s.teams ∧
      (settleRoundIn order mode r).result = s.result ∧
      (settleRoundIn order mode r).state =
        if maxRounds ≤ s.result.roundNumber ∨
            (mode = .freeForAll ∧ ffaRounds ≤ s.result.roundNumber) then .ended
        else s.state := by
  unfold settleRoundIn
  dsimp only
  generalize (if mode ≠ .freeForAll then order.foldl settlePlayer r else r) = s
  by_cases hffa : mode = .freeForAll ∧ ffaRounds ≤ s.result.roundNumber <;>
    by_cases hmax : maxRounds ≤ s.result.roundNumber <;> simp [hffa, hmax]

theorem sameResolution_settleRoundIn {order : List UserID} {mode : MatchMode} {r r' : Resolution}
    (h : SameResolution r r') (horder : order.Perm r.players.keys) :
    SameResolution (settleRoundIn order mode r) (settleRound mode r') := by
  obtain ⟨hsettled, hended⟩ := settlePlayers_same horder
  obtain ⟨hteams, hresult⟩ := settlePlayer_frame order r
  obtain ⟨hp, ht, hr, hs⟩ := settleRoundIn_fields order mode r
  have hnumber : r'.result.roundNumber = r.result.roundNumber := by rw [h.result.frame]
  refine ⟨?_, ?_, ?_, ?_⟩
  · rw [hp, settleRound_players]
    split_ifs
    · exact fun k => (hsettled k).trans (h.players.mapVals _ k)
    · exact h.players
  · rw [ht, settleRound_teams]
    split_ifs
    · rw [hteams]
      exact h.teams
    · exact h.teams
  · rw [hs, settleRound_state, hnumber, ← h.players.any_eq]
    by_cases hmode : mode = .freeForAll
    · simp [hmode, h.state]
    · by_cases hany : (r.players.any fun _ p => decide (p.hp ≤ 0)) = true
      · simp [hmode, hany, hresult, hended]
      · simp [hmode, hany, hresult, hended, h.state]
  · rw [hr, settleRound_result]
    split_ifs
    · rw [hresult]
      exact h.result
    · exact h.result

/-! ## The damage of a duel -/

theorem resolveDuelDamage_of_length {players : Assoc UserID PlayerState} {result : RoundResult}
    {order : List UserID} (h : order.length ≠ 2) :
    resolveDuelDamage players result order = (players, result) := by
  unfold resolveDuelDamage
  split
  · exact absurd rfl h
  · rfl

theorem resolveDuelDamage_frame (players : Assoc UserID PlayerState) (result : RoundResult)
    (order : List UserID) : (resolveDuelDamage players result order).2 =
      { result with players := (resolveDuelDamage players result order).2.players } := by
  unfold resolveDuelDamage
  split
  · split <;> rfl
  · rfl

/-- The damage of a duel concerns its two players. -/
theorem lookup_resolveDuelDamage_other (players : Assoc UserID PlayerState) {result : RoundResult}
    {u v w : UserID} {a b : RoundPlayerResult} (ha : result.players.lookup u = some a)
    (hb : result.players.lookup v = some b) (hu : w ≠ u) (hv : w ≠ v) :
    (resolveDuelDamage players result [u, v]).1.lookup w = players.lookup w ∧
      (resolveDuelDamage players result [u, v]).2.players.lookup w = result.players.lookup w := by
  obtain ⟨hplayers, hrows⟩ := @resolveDuelDamage_pair players _ _ _ _ _ ha hb
  constructor
  · rw [hplayers]
    split_ifs
    · exact Assoc.lookup_modify_ne hv _ _
    · exact Assoc.lookup_modify_ne hu _ _
    · rfl
  · rw [hrows, Assoc.lookup_modify_ne hv, Assoc.lookup_modify_ne hu]

/-- The damage does not depend on which of the two players the loop met first. -/
theorem sameDamage {players players' : Assoc UserID PlayerState} {result result' : RoundResult}
    {order order' : List UserID} (hplayers : players.Same players') (hresult : SameResult result result')
    (hperm : order'.Perm order) (hnodup : order.Nodup)
    (hmem : ∀ u ∈ order, u ∈ players ∧ u ∈ result.players) :
    (resolveDuelDamage players result order).1.Same (resolveDuelDamage players' result' order').1 ∧
      SameResult (resolveDuelDamage players result order).2
        (resolveDuelDamage players' result' order').2 := by
  by_cases hlen : order.length = 2
  · obtain ⟨u, v, rfl⟩ := List.length_eq_two.1 hlen
    have huv : u ≠ v := by simpa using hnodup
    have horder := eq_of_perm_pair huv hperm
    obtain ⟨hu, hu'⟩ := hmem u (by simp)
    obtain ⟨hv, hv'⟩ := hmem v (by simp)
    obtain ⟨pu, hpu⟩ := Assoc.mem_iff_exists.1 hu
    obtain ⟨pv, hpv⟩ := Assoc.mem_iff_exists.1 hv
    obtain ⟨a, ha⟩ := Assoc.mem_iff_exists.1 hu'
    obtain ⟨b, hb⟩ := Assoc.mem_iff_exists.1 hv'
    have hn : result'.roundNumber = result.roundNumber := by rw [hresult.frame]
    have ha' := (hresult.players u).symm.trans ha
    have hb' := (hresult.players v).symm.trans hb
    have hpu' := (hplayers u).symm.trans hpu
    have hpv' := (hplayers v).symm.trans hpv
    obtain ⟨hone, htwo⟩ := lookup_resolveDuelDamage_pair huv ha hb hpu hpv
    have hone' := lookup_resolveDuelDamage huv horder ha' hb' hpu' hpv'
    have htwo' := lookup_resolveDuelDamage huv.symm horder.symm hb' ha' hpv' hpu'
    rw [hn] at hone' htwo'
    have hall : ∀ w,
        (resolveDuelDamage players result [u, v]).1.lookup w =
            (resolveDuelDamage players' result' order').1.lookup w ∧
          (resolveDuelDamage players result [u, v]).2.players.lookup w =
            (resolveDuelDamage players' result' order').2.players.lookup w := by
      intro w
      rcases eq_or_ne w u with rfl | hwu
      · exact ⟨hone.1.trans hone'.1.symm, hone.2.trans hone'.2.symm⟩
      rcases eq_or_ne w v with rfl | hwv
      · exact ⟨htwo.1.trans htwo'.1.symm, htwo.2.trans htwo'.2.symm⟩
      obtain ⟨hp, hr⟩ := lookup_resolveDuelDamage_other players ha hb hwu hwv
      rw [hp, hr, hplayers w, hresult.players w]
      rcases horder with rfl | rfl
      · obtain ⟨hp', hr'⟩ := lookup_resolveDuelDamage_other players' ha' hb' hwu hwv
        exact ⟨hp'.symm, hr'.symm⟩
      · obtain ⟨hp', hr'⟩ := lookup_resolveDuelDamage_other players' hb' ha' hwv hwu
        exact ⟨hp'.symm, hr'.symm⟩
    refine ⟨fun w => (hall w).1, ?_, fun w => (hall w).2, ?_⟩
    · rw [resolveDuelDamage_frame players, resolveDuelDamage_frame players', hresult.frame]
    · rw [resolveDuelDamage_frame players, resolveDuelDamage_frame players']
      exact hresult.teams
  · have hlen' : order'.length ≠ 2 := by
      rw [hperm.length_eq]
      exact hlen
    rw [resolveDuelDamage_of_length hlen, resolveDuelDamage_of_length hlen']
    exact ⟨hplayers, hresult⟩

/-! ## Adding the scores up -/

/-- The loop of a free-for-all writes the player and the row of the key it meets. -/
theorem added_same {players players' : Assoc UserID PlayerState} {result result' : RoundResult}
    {order : List UserID} (hplayers : players.Same players')
    (hrows : result.players.Same result'.players) (hnodup : order.Nodup)
    (hmem : ∀ u, u ∈ result.players ↔ u ∈ order) :
    (order.foldl addScore (players, result.players)).1.Same (resolveFreeForAll players' result').1 ∧
      (order.foldl addScore (players, result.players)).2.Same
        (resolveFreeForAll players' result').2.players := by
  have hcell := @Assoc.cell_foldl UserID _ _ (Option PlayerState × Option RoundPlayerResult)
    addScore (fun k s => (s.1.lookup k, s.2.lookup k))
    (fun _ c => match c.2 with
      | none => c
      | some row => (c.1.map fun p => { p with totalScore := p.totalScore + row.score },
          some { row with hpAfterRound := 0 }))
    (by
      intro s k k'
      unfold addScore
      cases hk : s.2.lookup k with
      | none =>
          rcases eq_or_ne k' k with rfl | hne
          · simp [hk]
          · simp [hne]
      | some row =>
          rcases eq_or_ne k' k with rfl | hne
          · simp [hk]
          · simp [hne, Assoc.lookup_modify_ne])
    order hnodup (players, result.players)
  have hlookup : ∀ k, ((order.foldl addScore (players, result.players)).1.lookup k,
      (order.foldl addScore (players, result.players)).2.lookup k) =
        ((resolveFreeForAll players' result').1.lookup k,
          (resolveFreeForAll players' result').2.players.lookup k) := by
    intro k
    rw [hcell k]
    unfold resolveFreeForAll
    simp only [Assoc.lookup_mapVals, hplayers k, hrows k]
    cases hk : result'.players.lookup k with
    | none =>
        have hnot : k ∉ order := by
          rw [← hmem, ← AList.lookup_eq_none, hrows k]
          exact hk
        simp [hnot]
    | some row =>
        have hin : k ∈ order := by
          rw [← hmem, Assoc.mem_iff_exists]
          exact ⟨row, (hrows k).trans hk⟩
        simp [hin]
  exact ⟨fun k => congrArg Prod.fst (hlookup k), fun k => congrArg Prod.snd (hlookup k)⟩

/-! ## The damage of a team duel -/

/-- The row of a team with the best guess `a`, against a team with the best guess `b`. -/
def teamRow (n : ℕ) (a b : RoundTeamResult) (hp : ℤ) : RoundTeamResult :=
  { a with
    damageDealt := if b.score < a.score then roundDamage n a.score b.score else a.damageDealt
    damageTaken := if a.score < b.score then roundDamage n a.score b.score else a.damageTaken
    hpAfterRound := hp }

/-- The teams with the damage of the round, before it is cut off at zero. -/
def hitTeams (teams : Assoc TeamID TeamState) (damage a b : ℤ) : Assoc TeamID TeamState :=
  if a > b then teams.modify "b" fun t => { t with hp := t.hp - damage }
  else if b > a then teams.modify "a" fun t => { t with hp := t.hp - damage }
  else teams

theorem damageTeams_eq (teams : Assoc TeamID TeamState) (damage a b : ℤ) :
    damageTeams teams damage a b =
      Assoc.mapVals (fun _ => clampTeam) (hitTeams teams damage a b) := rfl

/-- The best guess of a team in the result. -/
def bestOf (result : RoundResult) (teams : Assoc TeamID TeamState) (t : TeamID) : RoundTeamResult :=
  ((Assoc.mapVals (bestGuess result) teams).lookup t).getD {}

variable {players : Assoc UserID PlayerState} {result : RoundResult}

theorem resolveTeamDuelDamage_two (h : m.teams.keys.length = 2) :
    let n := result.roundNumber
    let a := bestOf result m.teams "a"
    let b := bestOf result m.teams "b"
    let teams := damageTeams m.teams (roundDamage n a.score b.score) a.score b.score
    resolveTeamDuelDamage m players result =
      { players := mirrorTeamHP teams players
        teams := teams
        state := if teams.any fun _ t => t.hp ≤ 0 then .ended else m.state
        result :=
          { result with
            teams := ((Assoc.mapVals (bestGuess result) m.teams).modify "a" fun _ =>
              teamRow n a b (teamHP teams "a")).modify "b" fun _ =>
                teamRow n b a (teamHP teams "b") } } := by
  unfold resolveTeamDuelDamage teamRow bestOf
  rw [if_neg (not_not.2 h)]
  dsimp only
  generalize (AList.lookup "a" (Assoc.mapVals (bestGuess result) m.teams)).getD {} = a
  generalize (AList.lookup "b" (Assoc.mapVals (bestGuess result) m.teams)).getD {} = b
  rw [roundDamage_comm _ b.score]
  rcases lt_trichotomy a.score b.score with hlt | heq | hgt
  · simp only [gt_iff_lt, hlt, not_lt.2 hlt.le, if_true, if_false]
  · simp only [gt_iff_lt, heq, lt_irrefl, if_false]
  · simp only [gt_iff_lt, hgt, not_lt.2 hgt.le, if_true, if_false]

theorem resolveTeamDuelDamageIn_two (h : m.teams.keys.length = 2) (o : Orders) :
    let n := result.roundNumber
    let rows := o.represented.foldl (representTeam m.teams result) ∅
    let a := (rows.lookup "a").getD {}
    let b := (rows.lookup "b").getD {}
    let r := o.damaged.foldl damageTeam
      ⟨players, hitTeams m.teams (roundDamage n a.score b.score) a.score b.score, m.state,
        { result with teams := rows }⟩
    resolveTeamDuelDamageIn o m players result =
      { r with
        result :=
          { r.result with
            teams := (r.result.teams.insert "a" (teamRow n a b (teamHP r.teams "a"))).insert "b"
              (teamRow n b a (teamHP r.teams "b")) } } := by
  unfold resolveTeamDuelDamageIn teamRow hitTeams
  rw [if_neg (not_not.2 h)]
  dsimp only
  generalize (AList.lookup "a" (o.represented.foldl (representTeam m.teams result) ∅)).getD {} = a
  generalize (AList.lookup "b" (o.represented.foldl (representTeam m.teams result) ∅)).getD {} = b
  rw [roundDamage_comm _ b.score]
  rcases lt_trichotomy a.score b.score with hlt | heq | hgt
  · simp only [gt_iff_lt, hlt, not_lt.2 hlt.le, if_true, if_false]
  · simp only [gt_iff_lt, heq, lt_irrefl, if_false]
  · simp only [gt_iff_lt, hgt, not_lt.2 hgt.le, if_true, if_false]

theorem bestGuess_congr {result result' : RoundResult} (h : result.players.Same result'.players) :
    bestGuess result = bestGuess result' := by
  funext t team
  unfold bestGuess
  simp only [h _]

/-- Every team gets the row of its best guess. -/
theorem represented_same (result : RoundResult) {teams : Assoc TeamID TeamState} {order : List TeamID}
    (h : order.Perm teams.keys) :
    (order.foldl (representTeam teams result) ∅).Same (Assoc.mapVals (bestGuess result) teams) := by
  intro t
  have hcell := @Assoc.cell_foldl TeamID _ (Assoc TeamID RoundTeamResult) (Option RoundTeamResult)
    (representTeam teams result) (fun k s => s.lookup k)
    (fun k c => match teams.lookup k with
      | none => c
      | some team => some (bestGuess result k team))
    (by
      intro s k k'
      unfold representTeam
      cases hk : teams.lookup k with
      | none =>
          rcases eq_or_ne k' k with rfl | hne
          · simp
          · simp [hne]
      | some team =>
          rcases eq_or_ne k' k with rfl | hne
          · simp
          · simp [hne, AList.lookup_insert_ne])
    order (h.nodup_iff.2 (AList.keys_nodup _)) ∅ t
  rw [hcell, Assoc.lookup_mapVals]
  cases ht : teams.lookup t with
  | none => simp
  | some team =>
      have hmem : t ∈ order := by
        rw [h.mem_iff]
        exact Assoc.mem_keys_iff_exists.2 ⟨team, ht⟩
      simp [hmem]

/-! ### The loop over the damaged teams -/

theorem clampTeam_clampTeam (team : TeamState) : clampTeam (clampTeam team) = clampTeam team := by
  unfold clampTeam
  dsimp only
  split_ifs <;> rfl

theorem lookup_damageTeam (r : Resolution) (k k' : TeamID) :
    (damageTeam r k).teams.lookup k' =
      if k' = k then (r.teams.lookup k).map clampTeam else r.teams.lookup k' := by
  unfold damageTeam
  cases hk : r.teams.lookup k with
  | none =>
      rcases eq_or_ne k' k with rfl | hne
      · simp [hk]
      · simp [hne]
  | some team =>
      rcases eq_or_ne k' k with rfl | hne
      · simp [hk]
      · simp [hne, Assoc.lookup_modify_ne]

theorem state_damageTeam (r : Resolution) (k : TeamID) : (damageTeam r k).state =
    if (r.teams.lookup k).any fun team => (clampTeam team).hp ≤ 0 then .ended else r.state := by
  unfold damageTeam
  cases hk : r.teams.lookup k with
  | none => simp
  | some team => by_cases hp : (clampTeam team).hp ≤ 0 <;> simp [hp]

/-- The teams are cut off at zero, and the match ends when one of them has nothing left. -/
theorem damagedTeams_same {order : List TeamID} {r : Resolution} (h : order.Perm r.teams.keys) :
    (order.foldl damageTeam r).teams.Same (Assoc.mapVals (fun _ => clampTeam) r.teams) ∧
      (order.foldl damageTeam r).state =
        if r.teams.any fun _ team => (clampTeam team).hp ≤ 0 then .ended else r.state := by
  constructor
  · exact Assoc.same_foldl Resolution.teams (fun _ => clampTeam) lookup_damageTeam h
  · rw [Assoc.flag_foldl Resolution.state .ended
      (fun k r => (r.teams.lookup k).any fun team => decide ((clampTeam team).hp ≤ 0))
      (fun r k => state_damageTeam r k) (fun r k k' => ?_) order r,
      Assoc.any_keys h fun team => decide ((clampTeam team).hp ≤ 0)]
    rw [lookup_damageTeam]
    split_ifs with heq
    · rw [heq]
      cases r.teams.lookup k with
      | none => rfl
      | some team => simp [clampTeam_clampTeam]
    · rfl

/-- The result of the loop: the rows of the teams with what is left to them. -/
theorem damagedResult_same {order : List TeamID} {r : Resolution} (h : order.Nodup) :
    (order.foldl damageTeam r).result =
        { r.result with teams := (order.foldl damageTeam r).result.teams } ∧
      ∀ t, t ∉ r.teams → (order.foldl damageTeam r).result.teams.lookup t =
        r.result.teams.lookup t := by
  induction order generalizing r with
  | nil => exact ⟨rfl, fun _ _ => rfl⟩
  | cons k order ih =>
      obtain ⟨hnot, hnodup⟩ := List.nodup_cons.1 h
      obtain ⟨hframe, hother⟩ := @ih (damageTeam r k) hnodup
      have hstep : (damageTeam r k).result =
          { r.result with teams := (damageTeam r k).result.teams } := by
        unfold damageTeam
        cases r.teams.lookup k <;> rfl
      rw [List.foldl_cons]
      refine ⟨?_, fun t ht => ?_⟩
      · rw [hframe, hstep]
      · have ht' : t ∉ (damageTeam r k).teams := by
          rw [← AList.lookup_eq_none] at ht ⊢
          rw [lookup_damageTeam]
          split_ifs with heq
          · rw [← heq, ht]
            rfl
          · exact ht
        rw [hother t ht']
        unfold damageTeam
        cases hk : r.teams.lookup k with
        | none => rfl
        | some team =>
            have hne : t ≠ k := by
              rintro rfl
              exact ht (Assoc.mem_iff_exists.2 ⟨team, hk⟩)
            exact AList.lookup_insert_ne hne

/-- The players of the loop: every team it meets passes on what is left to it. -/
theorem damagedPlayers_eq {order : List TeamID} {r : Resolution} (h : order.Nodup) :
    (order.foldl damageTeam r).players =
      (order.filterMap fun t => (r.teams.lookup t).map fun team =>
          (⟨t, clampTeam team⟩ : Σ _ : TeamID, TeamState)).foldl
        (fun players e => Assoc.modifyAll e.2.players (fun p => { p with hp := e.2.hp }) players)
        r.players := by
  induction order generalizing r with
  | nil => rfl
  | cons k order ih =>
      obtain ⟨hnot, hnodup⟩ := List.nodup_cons.1 h
      have hrest : (order.filterMap fun t => ((damageTeam r k).teams.lookup t).map fun team =>
          (⟨t, clampTeam team⟩ : Σ _ : TeamID, TeamState)) =
          order.filterMap fun t => (r.teams.lookup t).map fun team =>
            (⟨t, clampTeam team⟩ : Σ _ : TeamID, TeamState) := by
        refine List.filterMap_congr fun t ht => ?_
        have hne : t ≠ k := by
          rintro rfl
          exact hnot ht
        rw [lookup_damageTeam, if_neg hne]
      rw [List.foldl_cons, ih hnodup, hrest, List.filterMap_cons]
      unfold damageTeam
      cases hk : r.teams.lookup k with
      | none => rfl
      | some team => rfl

theorem keys_hitTeams (teams : Assoc TeamID TeamState) (damage a b : ℤ) :
    (hitTeams teams damage a b).keys = teams.keys := by
  unfold hitTeams
  split_ifs <;> simp

theorem mem_filterMap_clampTeam {teams : Assoc TeamID TeamState} {order : List TeamID}
    (h : order.Perm teams.keys) (e : Σ _ : TeamID, TeamState) :
    e ∈ (order.filterMap fun t => (teams.lookup t).map fun team =>
        (⟨t, clampTeam team⟩ : Σ _ : TeamID, TeamState)) ↔
      (Assoc.mapVals (fun _ => clampTeam) teams).lookup e.1 = some e.2 := by
  rw [List.mem_filterMap, Assoc.lookup_mapVals]
  constructor
  · rintro ⟨t, -, ht⟩
    obtain ⟨team, hteam, rfl⟩ := Option.map_eq_some_iff.1 ht
    rw [hteam]
    rfl
  · intro he
    obtain ⟨team, hteam, hclamp⟩ := Option.map_eq_some_iff.1 he
    refine ⟨e.1, ?_, ?_⟩
    · rw [h.mem_iff]
      exact Assoc.mem_keys_iff_exists.2 ⟨team, hteam⟩
    · rw [hteam, Option.map_some, hclamp]

theorem Partitioned.same {teams : Assoc TeamID TeamState} {players players' : Assoc UserID PlayerState}
    (h : Partitioned teams players') (hsame : players.Same players') : Partitioned teams players :=
  ⟨fun u p hu => h.mem_team u p ((hsame u).symm.trans hu), fun t team ht u hu => by
    rw [hsame u]
    exact h.team_eq t team ht u hu⟩

/-- Every player ends with the hit points that are left to his team, in whatever order the loop meets
the teams. -/
theorem mirrored_same {teams : Assoc TeamID TeamState} {players players' : Assoc UserID PlayerState}
    (h : Partitioned teams players') (hsame : players.Same players')
    {es : List (Σ _ : TeamID, TeamState)} (hes : ∀ e, e ∈ es ↔ teams.lookup e.1 = some e.2) :
    (es.foldl (fun players e =>
        Assoc.modifyAll e.2.players (fun p => { p with hp := e.2.hp }) players) players).Same
      (mirrorTeamHP teams players') := by
  intro u
  cases hu : players'.lookup u with
  | none =>
      unfold mirrorTeamHP
      rw [lookup_foldl_mirror, lookup_foldl_mirror, hsame u, hu]
      rfl
  | some p =>
      obtain ⟨team, hteam, -⟩ := h.mem_team u p hu
      rw [lookup_mirrorTeamHP h hu hteam,
        lookup_foldl_mirror_of (h.same hsame) hes ((hsame u).trans hu) hteam]

/-- The two teams are `a` and `b`. -/
theorem mem_teams_of_two (hkeys : ∀ t ∈ m.teams, t = "a" ∨ t = "b")
    (htwo : m.teams.keys.length = 2) : "a" ∈ m.teams ∧ "b" ∈ m.teams := by
  obtain ⟨x, y, hxy⟩ := List.length_eq_two.1 htwo
  have hnodup := AList.keys_nodup m.teams
  rw [hxy] at hnodup
  have hne : x ≠ y := by simpa using hnodup
  have hmem : ∀ t, t ∈ m.teams ↔ t = x ∨ t = y := by
    intro t
    rw [AList.mem_keys, hxy]
    simp
  have hx := hkeys x ((hmem x).2 (.inl rfl))
  have hy := hkeys y ((hmem y).2 (.inr rfl))
  rw [hmem, hmem]
  rcases hx with rfl | rfl <;> rcases hy with rfl | rfl <;> simp_all

/-- The damage leaves everybody in his team. -/
theorem TeamsInStep.damaged (h : TeamsInStep m) {damage : ℤ} (hd : 0 ≤ damage) (a b : ℤ) :
    Partitioned (damageTeams m.teams damage a b) m.unfinalized :=
  h.partitioned.of_pointwise ((damageTeams_pointwise _ hd _ _).mono fun _ _ _ h => h.1)
    ((unfinalized_plays m).mono fun _ _ _ h => by rw [SameMember, h.frame])

theorem sameTeamDamage (h : TeamsInStep m) (hkeys : ∀ t ∈ m.teams, t = "a" ∨ t = "b")
    (ho : o.Of m) (hplayers : players.Same m.unfinalized) (hresult : SameResult result (m.scores F)) :
    SameResolution (resolveTeamDuelDamageIn o m players result)
      (resolveTeamDuelDamage m m.unfinalized (m.scores F)) := by
  by_cases htwo : m.teams.keys.length = 2
  · have hn : (m.scores F).roundNumber = result.roundNumber := by rw [hresult.frame]
    have hrows := represented_same result ho.represented
    rw [bestGuess_congr hresult.players] at hrows
    have hbest : ∀ t, ((o.represented.foldl (representTeam m.teams result) ∅).lookup t).getD {} =
        bestOf (m.scores F) m.teams t := fun t => by rw [hrows t, bestOf]
    rw [resolveTeamDuelDamageIn_two htwo, resolveTeamDuelDamage_two htwo]
    dsimp only
    rw [hbest, hbest, hn]
    have hpart := h.damaged (roundDamage_nonneg result.roundNumber
      (bestOf (m.scores F) m.teams "a").score (bestOf (m.scores F) m.teams "b").score)
      (bestOf (m.scores F) m.teams "a").score (bestOf (m.scores F) m.teams "b").score
    generalize bestOf (m.scores F) m.teams "a" = a at hpart ⊢
    generalize bestOf (m.scores F) m.teams "b" = b at hpart ⊢
    generalize roundDamage result.roundNumber a.score b.score = damage at hpart ⊢
    generalize o.represented.foldl (representTeam m.teams result) ∅ = rows at hrows ⊢
    have horder : o.damaged.Perm (hitTeams m.teams damage a.score b.score).keys := by
      rw [keys_hitTeams]
      exact ho.damaged
    have hnodup : o.damaged.Nodup := ho.damaged.nodup_iff.2 (AList.keys_nodup _)
    obtain ⟨hteams, hstate⟩ := damagedTeams_same
      (r := ⟨players, hitTeams m.teams damage a.score b.score, m.state, { result with teams := rows }⟩)
      horder
    obtain ⟨hframe, hother⟩ := damagedResult_same
      (r := ⟨players, hitTeams m.teams damage a.score b.score, m.state, { result with teams := rows }⟩)
      hnodup
    have hdamaged := damagedPlayers_eq
      (r := ⟨players, hitTeams m.teams damage a.score b.score, m.state, { result with teams := rows }⟩)
      hnodup
    generalize o.damaged.foldl damageTeam _ = r at hteams hstate hframe hother hdamaged ⊢
    dsimp only at hteams hstate hframe hother hdamaged
    rw [← damageTeams_eq] at hteams
    have hhp : ∀ t, teamHP r.teams t = teamHP (damageTeams m.teams damage a.score b.score) t :=
      fun t => by rw [teamHP, teamHP, hteams t]
    refine ⟨?_, hteams, ?_, ?_, ?_, ?_⟩
    · rw [hdamaged]
      exact mirrored_same hpart hplayers (mem_filterMap_clampTeam horder)
    · rw [hstate, damageTeams_eq, Assoc.any_mapVals]
    · rw [hframe, hresult.frame]
    · rw [hframe]
      exact hresult.players
    · obtain ⟨hA, hB⟩ := mem_teams_of_two hkeys htwo
      dsimp only
      rw [hhp, hhp]
      refine .insert_insert (by simpa using hA) (by simpa using hB) (fun t hta htb => ?_) _ _
      have hnone : t ∉ hitTeams m.teams damage a.score b.score := by
        rw [AList.mem_keys, keys_hitTeams, ← AList.mem_keys]
        exact fun ht => (hkeys t ht).elim hta htb
      rw [hother t hnone, hrows t]
  · unfold resolveTeamDuelDamageIn resolveTeamDuelDamage
    rw [if_pos htwo, if_pos htwo]
    exact ⟨hplayers, .refl _, rfl, hresult⟩

/-! ## The whole resolution -/

/-- The scored round does not depend on the orders, in any of the modes. -/
theorem sameResolution_scoreRoundIn (hteam : m.mode = .teamDuel → TeamsInStep m)
    (hkeys : m.mode = .teamDuel → ∀ t ∈ m.teams, t = "a" ∨ t = "b") (ho : o.Of m) :
    SameResolution (scoreRoundIn F o m) (scoreRound F m) := by
  have hscored := scored_same (F := F) ho.scored
  unfold scoreRoundIn
  generalize o.scored.foldl (scorePlayer F m) (m.players, ∅) = scored at hscored ⊢
  obtain ⟨players, rows⟩ := scored
  obtain ⟨hplayers, hrows⟩ := hscored
  have hresult : SameResult
      ⟨m.roundID, m.currentIndex + 1, m.currentLocation, rows, ∅⟩ (m.scores F) :=
    ⟨rfl, hrows, .refl _⟩
  have hmem : ∀ u ∈ m.players.keys, u ∈ players ∧ u ∈ rows := by
    intro u hu
    rw [hplayers.mem_iff, hrows.mem_iff]
    exact ⟨Assoc.mem_mapVals.2 hu, Assoc.mem_mapVals.2 hu⟩
  dsimp only
  cases hmode : m.mode with
  | duel =>
      rw [scoreRound_duel hmode]
      obtain ⟨hp, hr⟩ := sameDamage hplayers hresult ho.scored.symm
        (ho.scored.nodup_iff.2 (AList.keys_nodup _)) fun u hu => hmem u (ho.scored.mem_iff.1 hu)
      exact ⟨hp, .refl _, rfl, hr⟩
  | teamDuel =>
      rw [scoreRound_teamDuel hmode]
      exact sameTeamDamage (hteam hmode) (hkeys hmode) ho hplayers hresult
  | freeForAll =>
      rw [scoreRound_freeForAll hmode]
      obtain ⟨hp, hr⟩ := added_same hplayers hresult.players
        (ho.added.nodup_iff.2 (AList.keys_nodup _)) fun u => by
          rw [hresult.players.mem_iff, ho.added.mem_iff]
          exact Assoc.mem_mapVals
      exact ⟨hp, .refl _, rfl, rfl, hr, .refl _⟩
  | unset | singleplayer | other =>
      rw [scoreRound_other (by simp [hmode]) (by simp [hmode]) (by simp [hmode])]
      exact ⟨hplayers, .refl _, rfl, hresult⟩

/-- The outcome of a resolution is the same for all orders of its loops. -/
theorem sameOutcome_resolveRoundIn (hteam : m.mode = .teamDuel → TeamsInStep m)
    (hkeys : m.mode = .teamDuel → ∀ t ∈ m.teams, t = "a" ∨ t = "b") (ho : o.Of m)
    (hlive : m.state = .live) (clk : Clock) :
    SameOutcome (m.resolveRoundIn F clk o) (m.resolveRound F clk) := by
  have hscored := sameResolution_scoreRoundIn (F := F) hteam hkeys ho
  have horder : o.settled.Perm (scoreRoundIn F o m).players.keys := by
    refine ho.settled.trans (Assoc.keys_perm fun u => ?_)
    rw [hscored.players.mem_iff, (scoreRound_plays hteam).mem_iff]
  rw [Match.resolveRoundIn, if_neg (not_not.2 hlive), resolveRound_eq_closeRound hlive]
  exact sameOutcome_closeRound (sameResolution_settleRoundIn hscored horder) clk m

end GeoDuels.Duel
