import GeoDuels.Duel.Sides

/-!
# The accounts of a round

What a round costs is a matter of the scores (`damageOf`), and the result of the round is to record
it: who dealt and took it, and the hit points that it left (`Accounts`).  For the members of a losing
team the result keeps the hit points from before the round, and a member without an identity can hide
the best guess of his team; otherwise every resolution of a run keeps its accounts
(`accounted_iff`).
-/

namespace GeoDuels.Duel

variable {F : FloatMath}

/-! ## What a round costs -/

/-- The difference of the scores in the first two rounds, and half of it more in every further round;
half a point counts as one. -/
def damageOf (n : ℕ) (a b : ℤ) : ℤ :=
  let k : ℚ := if n ≤ 2 then 1 else 1 + ((n : ℚ) - 2) / 2
  ⌊|(a : ℚ) - b| * k + 1 / 2⌋

/-- The accounts of one side with the score `s` against the score `s'` of the other one: the hit points
before and after, and the damage that it dealt and took. -/
structure Pays (n : ℕ) (s s' hp hp' dealt taken : ℤ) : Prop where
  hp_eq : hp' = if s < s' then max 0 (hp - damageOf n s s') else hp
  dealt_eq : dealt = if s' < s then damageOf n s s' else 0
  taken_eq : taken = if s < s' then damageOf n s s' else 0

theorem absInt_cast (v : ℤ) : (absInt v : ℚ) = |(v : ℚ)| := by
  unfold absInt
  split_ifs with h
  · have hneg : (v : ℚ) < 0 := by exact_mod_cast h
    rw [abs_of_neg hneg]
    norm_cast
  · have hpos : (0 : ℚ) ≤ v := by exact_mod_cast not_lt.1 h
    rw [abs_of_nonneg hpos]

theorem roundDamage_eq_damageOf (n : ℕ) (a b : ℤ) : roundDamage n a b = damageOf n a b := by
  have hnonneg : 0 ≤ (absInt (a - b) : ℚ) * roundDamageMultiplier n :=
    mul_nonneg (by exact_mod_cast absInt_nonneg (a - b)) (roundDamageMultiplier_nonneg n)
  rw [roundDamage, mathRound, if_pos hnonneg, absInt_cast, Int.cast_sub]
  unfold damageOf roundDamageMultiplier
  dsimp only
  split_ifs
  · rfl
  · rw [show (1 : ℚ) / 2 * (n - 2) = (n - 2) / 2 by ring]

/-- Different scores cost hit points. -/
theorem damageOf_pos (n : ℕ) {a b : ℤ} (h : a < b) : 0 < damageOf n a b := by
  have hdiff : (1 : ℚ) ≤ |(a : ℚ) - b| := by
    have hle : (a : ℚ) + 1 ≤ b := by exact_mod_cast h
    rw [abs_sub_comm, abs_of_nonneg (by linarith)]
    linarith
  have hfactor : (1 : ℚ) ≤ if n ≤ 2 then 1 else 1 + ((n : ℚ) - 2) / 2 := by
    split_ifs with hn
    · exact le_rfl
    · have hn' : (2 : ℚ) ≤ n := by exact_mod_cast (by omega : 2 ≤ n)
      linarith
  have hprod := one_le_mul_of_one_le_of_one_le hdiff hfactor
  refine Int.lt_iff_add_one_le.2 (Int.le_floor.2 ?_)
  push_cast
  linarith

/-! ## The accounts -/

/-- The row of a team names a member with the best guess. -/
structure Represents (F : FloatMath) (m : Match) (team : TeamState) (row : RoundTeamResult) : Prop where
  mem : row.representativeUserID ∈ team.players
  score_eq : row.score = guessScore F m row.representativeUserID
  top : ∀ u ∈ team.players, guessScore F m u ≤ row.score

/-- The match `m'` and the result `r` are what the round of `m` comes to. -/
structure Accounts (F : FloatMath) (m m' : Match) (r : RoundResult) : Prop where
  duel : m.mode = .duel → ∀ u p, m.players.lookup u = some p → ∀ v q, m.players.lookup v = some q →
    u ≠ v → ∃ p' row, m'.players.lookup u = some p' ∧ r.players.lookup u = some row ∧
      Pays (m.currentIndex + 1) (guessScore F m u) (guessScore F m v) p.hp p'.hp row.damageDealt
        row.damageTaken
  teamDuel : m.mode = .teamDuel → ∀ t team, m.teams.lookup t = some team →
    ∀ t' team', m.teams.lookup t' = some team' → t ≠ t' →
      ∃ hp row row', m'.teams.lookup t = some { team with hp := hp } ∧
        r.teams.lookup t = some row ∧ r.teams.lookup t' = some row' ∧ Represents F m team row ∧
        Pays (m.currentIndex + 1) row.score row'.score team.hp hp row.damageDealt row.damageTaken ∧
        ∀ u ∈ team.players, ∃ p', m'.players.lookup u = some p' ∧ p'.hp = hp
  freeForAll : m.mode = .freeForAll → ∀ u p, m.players.lookup u = some p →
    ∃ p', m'.players.lookup u = some p' ∧ p'.totalScore = p.totalScore + guessScore F m u ∧
      p'.hp = p.hp
  after : m.mode = .duel ∨ m.mode = .teamDuel →
    Assoc.Pointwise (fun _ p row => row.hpAfterRound = p.hp) m'.players r.players
  teamsAfter : ∀ t row, r.teams.lookup t = some row →
    ∃ team, m'.teams.lookup t = some team ∧ row.hpAfterRound = team.hp

/-- The call of `resolveRound` keeps the accounts of the round, and all orders of its loops have the
same outcome. -/
structure Accounted (F : FloatMath) (clk : Clock) (m : Match) : Prop where
  accounts : ∃ r, (m.resolveRound F clk).lastRoundResult = some r ∧
    (m.resolveRound F clk).roundResults = m.roundResults ++ [r] ∧
    Accounts F m (m.resolveRound F clk) r
  sameOutcome : ∀ o : Orders, o.Of m →
    SameOutcome (m.resolveRoundIn F clk o) (m.resolveRound F clk)

/-! ## The condition -/

/-- The best score of a team. -/
def topScore (F : FloatMath) (m : Match) (team : TeamState) : ℤ :=
  (team.players.map (guessScore F m)).foldr max minInt64

/-- A member with the empty identity has the best guess, alone, and another member comes after him. -/
def Hidden (F : FloatMath) (m : Match) (team : TeamState) : Prop :=
  "" ∈ team.players ∧ team.players.getLast? ≠ some "" ∧
    ∀ u ∈ team.players, u ≠ "" → guessScore F m u < guessScore F m ""

/-- In a team duel no best guess is hidden, and those of the two teams are equally good. -/
def Level (F : FloatMath) (m : Match) : Prop :=
  m.mode = .teamDuel → ∀ t team, m.teams.lookup t = some team → ¬ Hidden F m team ∧
    ∀ t' team', m.teams.lookup t' = some team' → topScore F m team = topScore F m team'

theorem guessScore_le_topScore {m : Match} {team : TeamState} {u : UserID} (h : u ∈ team.players) :
    guessScore F m u ≤ topScore F m team := by
  unfold topScore
  generalize team.players = us at h ⊢
  induction us with
  | nil => cases h
  | cons v us ih =>
      rw [List.map_cons, List.foldr_cons]
      rcases List.mem_cons.1 h with rfl | hu
      · exact le_max_left _ _
      · exact (ih hu).trans (le_max_right _ _)

theorem topScore_le {m : Match} {team : TeamState} {s : ℤ} (hs : minInt64 ≤ s)
    (h : ∀ u ∈ team.players, guessScore F m u ≤ s) : topScore F m team ≤ s := by
  unfold topScore
  generalize team.players = us at h ⊢
  induction us with
  | nil => exact hs
  | cons v us ih =>
      rw [List.map_cons, List.foldr_cons]
      exact max_le (h v List.mem_cons_self) (ih fun u hu => h u (List.mem_cons_of_mem _ hu))

theorem Represents.score_eq_topScore {m : Match} {team : TeamState} {row : RoundTeamResult}
    (h : Represents F m team row) : row.score = topScore F m team := by
  refine le_antisymm ?_ (topScore_le ?_ h.top)
  · rw [h.score_eq]
    exact guessScore_le_topScore h.mem
  · rw [h.score_eq]
    exact minInt64_le_guessScore m _

/-! ## The best guess of a team -/

/-- What the loop of `bestGuess` has found among the members in `done`.  A member with the empty
identity looks as if there were none yet, so that the next one replaces him. -/
structure Leads (score : UserID → ℤ) (done : List UserID) (best : RoundTeamResult) : Prop where
  none : done = [] → best.representativeUserID = ""
  mem : done ≠ [] → best.representativeUserID ∈ done ∧ best.score = score best.representativeUserID
  bound : ∀ u ∈ done, score u ≤ best.score ∨ ("" ∈ done ∧ score u ≤ score "")
  held : ∀ u ∈ done, u ≠ "" → score "" ≤ score u →
    best.representativeUserID ≠ "" ∧ score "" ≤ best.score
  lost : done ≠ [] → done.getLast? ≠ some "" → best.representativeUserID ≠ ""
  last : done.getLast? = some "" → score "" ≤ best.score
  unpaid : best.damageDealt = 0 ∧ best.damageTaken = 0

/-- The member is better than the best so far, or there is none yet. -/
theorem Leads.replace {score : UserID → ℤ} {done : List UserID} {best best' : RoundTeamResult}
    {u : UserID} (h : Leads score done best)
    (hbetter : best.representativeUserID = "" ∨ best.score < score u)
    (hrep : best'.representativeUserID = u) (hscore : best'.score = score u)
    (hunpaid : best'.damageDealt = 0 ∧ best'.damageTaken = 0) : Leads score (done ++ [u]) best' := by
  -- whoever was not better than the old best is not better than the new one
  have hold : ∀ v ∈ done, score v ≤ score u ∨ ("" ∈ done ∧ score v ≤ score "") := by
    intro v hv
    rcases h.bound v hv with hle | hempty
    · rcases hbetter with hnone | hgt
      · obtain ⟨hmem, heq⟩ := h.mem (List.ne_nil_of_mem hv)
        rw [hnone] at hmem heq
        exact .inr ⟨hmem, heq ▸ hle⟩
      · exact .inl (hle.trans hgt.le)
    · exact .inr hempty
  refine ⟨by simp, by simp [hrep, hscore], fun v hv => ?_, fun v hv hne hle => ?_, by simp [hrep], ?_,
    hunpaid⟩
  · rw [hscore]
    rcases List.mem_append.1 hv with hv | hv
    · exact (hold v hv).imp_right fun hempty => ⟨List.mem_append_left _ hempty.1, hempty.2⟩
    · rw [List.mem_singleton.1 hv]
      exact .inl le_rfl
  · rw [hrep, hscore]
    rcases List.mem_append.1 hv with hv | hv
    · obtain ⟨hsome, hbest⟩ := h.held v hv hne hle
      have hgt := hbetter.resolve_left hsome
      refine ⟨?_, hbest.trans hgt.le⟩
      rintro rfl
      exact absurd hbest (not_le.2 hgt)
    · rw [List.mem_singleton.1 hv] at hne hle
      exact ⟨hne, hle⟩
  · rw [List.getLast?_concat, Option.some.injEq, hscore]
    rintro rfl
    exact le_rfl

/-- The member is not better than the best so far. -/
theorem Leads.keep {score : UserID → ℤ} {done : List UserID} {best : RoundTeamResult} {u : UserID}
    (h : Leads score done best) (hrep : best.representativeUserID ≠ "") (hle : score u ≤ best.score) :
    Leads score (done ++ [u]) best := by
  have hdone : done ≠ [] := fun hnil => hrep (h.none hnil)
  refine ⟨by simp, fun _ => ?_, fun v hv => ?_, fun v hv hne hv' => ⟨hrep, ?_⟩, fun _ _ => hrep, ?_,
    h.unpaid⟩
  · exact (h.mem hdone).imp_left fun hmem => List.mem_append_left _ hmem
  · rcases List.mem_append.1 hv with hv | hv
    · exact (h.bound v hv).imp_right fun hempty => ⟨List.mem_append_left _ hempty.1, hempty.2⟩
    · rw [List.mem_singleton.1 hv]
      exact .inl hle
  · rcases List.mem_append.1 hv with hv | hv
    · exact (h.held v hv hne hv').2
    · rw [List.mem_singleton.1 hv] at hv'
      exact hv'.trans hle
  · rw [List.getLast?_concat, Option.some.injEq]
    rintro rfl
    exact hle

/-- All members have a row with their score, so the loop meets a score at every member. -/
theorem bestGuess_leads {score : UserID → ℤ} {result : RoundResult} {team : TeamState}
    (hrows : ∀ u ∈ team.players, ∃ r, result.players.lookup u = some r ∧ r.score = score u)
    (t : TeamID) : Leads score team.players (bestGuess result t team) := by
  unfold bestGuess
  generalize team.players = us at hrows ⊢
  induction us using List.reverseRecOn with
  | nil => exact ⟨fun _ => rfl, by simp, by simp, by simp, by simp, by simp, rfl, rfl⟩
  | append_singleton us u ih =>
      obtain ⟨r, hr, hscore⟩ := hrows u (by simp)
      have hleads := ih fun v hv => hrows v (List.mem_append_left _ hv)
      rw [List.foldl_append, List.foldl_cons, List.foldl_nil]
      simp only [hr, hscore]
      split_ifs with hbetter
      · exact hleads.replace hbetter rfl rfl hleads.unpaid
      · push Not at hbetter
        exact hleads.keep hbetter.1 hbetter.2

/-- The best guess of a team represents it exactly when it is not hidden. -/
theorem Leads.represents_iff {m : Match} {team : TeamState} {best row : RoundTeamResult}
    (h : Leads (guessScore F m) team.players best) (hne : team.players ≠ [])
    (hrep : row.representativeUserID = best.representativeUserID) (hscore : row.score = best.score) :
    Represents F m team row ↔ ¬ Hidden F m team := by
  obtain ⟨hmem, heq⟩ := h.mem hne
  constructor
  · rintro hrow ⟨hin, hlast, hhidden⟩
    have hlt := hhidden _ hmem (h.lost hne hlast)
    have hle := hrow.top _ hin
    rw [hscore, heq] at hle
    exact absurd hle (not_le.2 hlt)
  · intro hnot
    refine ⟨hrep ▸ hmem, by rw [hscore, hrep, heq], fun u hu => ?_⟩
    rw [hscore]
    rcases h.bound u hu with hle | ⟨hin, hle⟩
    · exact hle
    · refine hle.trans ?_
      by_cases hlast : team.players.getLast? = some ""
      · exact h.last hlast
      · by_contra hgt
        refine hnot ⟨hin, hlast, fun v hv hvne => ?_⟩
        by_contra hge
        exact hgt (h.held v hv hvne (not_lt.1 hge)).2

/-! ## The damage of a team duel -/

/-- What a round leaves to a team with the score `s` against the score `s'`. -/
def leftTo (damage s s' hp : ℤ) : ℤ := max 0 (if s < s' then hp - damage else hp)

theorem lookup_damageTeams {teams : Assoc TeamID TeamState} {ta tb : TeamState}
    (ha : teams.lookup "a" = some ta) (hb : teams.lookup "b" = some tb) (damage a b : ℤ) :
    (damageTeams teams damage a b).lookup "a" = some { ta with hp := leftTo damage a b ta.hp } ∧
      (damageTeams teams damage a b).lookup "b" = some { tb with hp := leftTo damage b a tb.hp } := by
  have hclamp : clampTeam = fun team : TeamState => { team with hp := max 0 team.hp } := by
    funext team
    unfold clampTeam
    congr 1
    omega
  rw [damageTeams_eq, Assoc.lookup_mapVals, Assoc.lookup_mapVals, hclamp]
  unfold hitTeams leftTo
  rcases lt_trichotomy a b with hlt | rfl | hgt
  · simp [hlt, not_lt.2 hlt.le, Assoc.lookup_modify, ha, hb]
  · simp [ha, hb]
  · simp [hgt, not_lt.2 hgt.le, Assoc.lookup_modify, ha, hb]

/-- One of the two teams after the damage, with its row. -/
theorem lookup_teamDamage {m : Match} (players : Assoc UserID PlayerState) (result : RoundResult)
    (htwo : m.teams.keys.length = 2) (hsides : ∀ t ∈ m.teams, t = "a" ∨ t = "b") {t t' : TeamID}
    {team team' : TeamState} (ht : m.teams.lookup t = some team)
    (ht' : m.teams.lookup t' = some team') (hne : t ≠ t') :
    let n := result.roundNumber
    let best := bestGuess result t team
    let best' := bestGuess result t' team'
    let hp := leftTo (roundDamage n best.score best'.score) best.score best'.score team.hp
    (resolveTeamDuelDamage m players result).teams.lookup t = some { team with hp := hp } ∧
      (resolveTeamDuelDamage m players result).result.teams.lookup t =
        some (teamRow n best best' hp) := by
  have hbest : ∀ {t team}, m.teams.lookup t = some team →
      bestOf result m.teams t = bestGuess result t team := by
    intro t team ht
    rw [bestOf, Assoc.lookup_mapVals, ht]
    rfl
  dsimp only
  rw [resolveTeamDuelDamage_two htwo]
  dsimp only
  rcases hsides t (Assoc.mem_iff_exists.2 ⟨team, ht⟩) with rfl | rfl <;>
    rcases hsides t' (Assoc.mem_iff_exists.2 ⟨team', ht'⟩) with rfl | rfl
  · exact absurd rfl hne
  · rw [hbest ht, hbest ht']
    obtain ⟨ha, -⟩ := lookup_damageTeams ht ht' (roundDamage result.roundNumber
      (bestGuess result "a" team).score (bestGuess result "b" team').score)
      (bestGuess result "a" team).score (bestGuess result "b" team').score
    refine ⟨ha, ?_⟩
    rw [Assoc.lookup_modify_ne hne, Assoc.lookup_modify_self, Assoc.lookup_mapVals, ht, teamHP, ha]
    rfl
  · rw [hbest ht, hbest ht', roundDamage_comm _ (bestGuess result "b" team).score]
    obtain ⟨-, hb⟩ := lookup_damageTeams ht' ht (roundDamage result.roundNumber
      (bestGuess result "a" team').score (bestGuess result "b" team).score)
      (bestGuess result "a" team').score (bestGuess result "b" team).score
    refine ⟨hb, ?_⟩
    rw [Assoc.lookup_modify_self, Assoc.lookup_modify_ne hne, Assoc.lookup_mapVals, ht, teamHP, hb]
    rfl
  · exact absurd rfl hne

theorem pays_teamRow {n : ℕ} {best best' : RoundTeamResult} {hp : ℤ}
    (hunpaid : best.damageDealt = 0 ∧ best.damageTaken = 0) (hhp : 0 ≤ hp) :
    let left := leftTo (roundDamage n best.score best'.score) best.score best'.score hp
    Pays n best.score best'.score hp left (teamRow n best best' left).damageDealt
      (teamRow n best best' left).damageTaken := by
  unfold teamRow leftTo
  rw [roundDamage_eq_damageOf]
  refine ⟨?_, ?_, ?_⟩
  · split_ifs <;> omega
  · dsimp only
    rw [hunpaid.1]
  · dsimp only
    rw [hunpaid.2]

/-- No team but `a` and `b` has a row. -/
theorem mem_teamDamage {m : Match} {players : Assoc UserID PlayerState} {result : RoundResult}
    (htwo : m.teams.keys.length = 2) {t : TeamID} :
    t ∈ (resolveTeamDuelDamage m players result).result.teams ↔ t ∈ m.teams := by
  rw [resolveTeamDuelDamage_two htwo]
  simp

/-! ## The resolution, mode by mode -/

variable {m : Match}

theorem Seated.isPair (h : Seated m) (hmode : m.mode = .duel) {u v : UserID} {p q : PlayerState}
    (huv : u ≠ v) (hu : m.players.lookup u = some p) (hv : m.players.lookup v = some q) :
    IsPair m u v := fun w hw =>
  h.pair hmode u v w (Assoc.mem_iff_exists.2 ⟨p, hu⟩) (Assoc.mem_iff_exists.2 ⟨q, hv⟩) hw huv

/-- One of the two players of a duel, with his row. -/
theorem resolution_pays (h : Seated m) (hmode : m.mode = .duel) {u v : UserID} {p q : PlayerState}
    (huv : u ≠ v) (hu : m.players.lookup u = some p) (hv : m.players.lookup v = some q) :
    ∃ p' row, (m.resolution F).players.lookup u = some p' ∧
      (m.resolution F).result.players.lookup u = some row ∧ row.hpAfterRound = p'.hp ∧
      Pays (m.currentIndex + 1) (guessScore F m u) (guessScore F m v) p.hp p'.hp row.damageDealt
        row.damageTaken := by
  obtain ⟨hp', hrow⟩ := resolution_duel (F := F) hmode (h.isPair hmode huv hu hv) huv hu hv
    (h.players u p hu)
  refine ⟨_, _, hp', hrow, rfl, ?_, ?_, ?_⟩
  · change duelHP F m u v p.hp = _
    rw [duelHP, roundDamage_eq_damageOf]
    split_ifs <;> omega
  · rw [← roundDamage_eq_damageOf]
    rfl
  · rw [← roundDamage_eq_damageOf]
    rfl

/-- A player who is alone in his match neither deals nor takes damage. -/
theorem resolution_alone (h : Seated m) (hlive : m.state = .live) (hmode : m.mode = .duel)
    {u : UserID} {p : PlayerState} (hu : m.players.lookup u = some p)
    (halone : ∀ v ∈ m.players, v = u) :
    (m.resolution F).players.lookup u = some { p with finalized := false } ∧
      (m.resolution F).result.players.lookup u = some (roundPlayerResult F m u p) := by
  have hlen : m.players.keys.length ≠ 2 := by
    intro hlen
    obtain ⟨x, y, hxy⟩ := List.length_eq_two.1 hlen
    have hnodup := AList.keys_nodup m.players
    have hx := halone x (AList.mem_keys.2 (by simp [hxy]))
    have hy := halone y (AList.mem_keys.2 (by simp [hxy]))
    rw [hxy, hx, hy] at hnodup
    simp at hnodup
  have hpos := h.alive (by rw [hmode]; decide) hlive u p hu
  rw [resolution_result, Match.resolution, settleRound_players, if_pos (by rw [hmode]; decide),
    scoreRound_duel hmode, resolveDuelDamage_of_length hlen, Assoc.lookup_mapVals,
    lookup_unfinalized hu, Option.map_some, if_neg (not_le.2 hpos)]
  exact ⟨rfl, lookup_scores hu⟩

theorem resolution_freeForAll (hmode : m.mode = .freeForAll) {u : UserID} {p : PlayerState}
    (hu : m.players.lookup u = some p) :
    (m.resolution F).players.lookup u = some
      { p with finalized := false, totalScore := p.totalScore + guessScore F m u } := by
  rw [Match.resolution, settleRound_players, if_neg (not_not.2 hmode), scoreRound_freeForAll hmode]
  unfold resolveFreeForAll
  simp only [Assoc.lookup_mapVals, lookup_unfinalized hu, lookup_scores hu, Option.map_some]
  rfl

/-- Only a team duel has rows of teams. -/
theorem resolution_noTeams (hmode : m.mode ≠ .teamDuel) : (m.resolution F).result.teams = ∅ := by
  rw [resolution_result]
  rcases scoreRound_cases F m with ⟨-, h⟩ | ⟨ht, -⟩ | ⟨-, h⟩ | ⟨-, h⟩
  · rw [h, resolveDuelDamage_frame]
    rfl
  · exact absurd ht hmode
  · rw [h]
    rfl
  · rw [h]
    rfl

/-- A team duel leaves the rows of the players as they were scored. -/
theorem resolution_teamDuel_players (h : Seated m) (hmode : m.mode = .teamDuel) :
    (m.resolution F).result.players = (m.scores F).players := by
  rw [resolution_result, scoreRound_teamDuel hmode, resolveTeamDuelDamage_two (h.two hmode)]

/-- One of the two teams of a team duel, with its row. -/
theorem resolution_teamPays (h : Seated m) (hlive : m.state = .live) (hmode : m.mode = .teamDuel)
    {t t' : TeamID} {team team' : TeamState} (ht : m.teams.lookup t = some team)
    (ht' : m.teams.lookup t' = some team') (hne : t ≠ t') :
    ∃ hp row, (m.resolution F).teams.lookup t = some { team with hp := hp } ∧
      (m.resolution F).result.teams.lookup t = some row ∧ row.hpAfterRound = hp ∧
      row.score = (bestGuess (m.scores F) t team).score ∧
      (Represents F m team row ↔ ¬ Hidden F m team) ∧
      Pays (m.currentIndex + 1) row.score (bestGuess (m.scores F) t' team').score team.hp hp
        row.damageDealt row.damageTaken ∧
      ∀ u ∈ team.players, ∃ p', (m.resolution F).players.lookup u = some p' ∧ p'.hp = hp := by
  have hstep := h.inStep hlive hmode
  obtain ⟨hteam, hrow⟩ := lookup_teamDamage m.unfinalized (m.scores F)
    (h.two hmode) h.sides ht ht' hne
  have hleads : Leads (guessScore F m) team.players (bestGuess (m.scores F) t team) := by
    refine bestGuess_leads (fun u hu => ?_) t
    obtain ⟨p, hp, -⟩ := hstep.partitioned.team_eq t team ht u hu
    exact ⟨_, lookup_scores hp, rfl⟩
  have hmirrored := resolution_mirrored (F := F) hmode hstep
  rw [resolution_teams, scoreRound_teamDuel hmode] at hmirrored ⊢
  rw [resolution_result, scoreRound_teamDuel hmode]
  refine ⟨_, _, hteam, hrow, rfl, rfl, hleads.represents_iff (h.manned t team ht) rfl rfl,
    pays_teamRow hleads.unpaid (h.team_alive hmode hlive ht).le, hmirrored t _ hteam⟩

/-! ## The accounts of a run -/

/-- Players and rows are those of the match, so the rows are right when each player's is. -/
theorem after_of_lookup (h : Seated m) (hlive : m.state = .live)
    (hrow : ∀ u p p', m.players.lookup u = some p → (m.resolution F).players.lookup u = some p' →
      ∃ row, (m.resolution F).result.players.lookup u = some row ∧ row.hpAfterRound = p'.hp) :
    Assoc.Pointwise (fun _ p row => row.hpAfterRound = p.hp) (m.resolution F).players
      (m.resolution F).result.players := by
  have hplays := resolution_plays (F := F) (h.inStep hlive)
  refine .of_lookup (fun u p' hu' => ?_) fun u hu => ?_
  · obtain ⟨p, hu, -⟩ := hplays.right hu'
    exact hrow u p p' hu hu'
  · rw [AList.lookup_eq_none, hplays.mem_iff] at hu
    rw [AList.lookup_eq_none, (resolution_rows m).mem_iff]
    exact hu

/-- The rows of a duel's players record what the round left to them. -/
theorem after_duel (h : Seated m) (hlive : m.state = .live) (hmode : m.mode = .duel) :
    Assoc.Pointwise (fun _ p row => row.hpAfterRound = p.hp) (m.resolution F).players
      (m.resolution F).result.players := by
  refine after_of_lookup h hlive fun u p p' hu hu' => ?_
  by_cases halone : ∀ v ∈ m.players, v = u
  · obtain ⟨hp', hrow⟩ := resolution_alone (F := F) h hlive hmode hu halone
    obtain rfl := Option.some.inj (hp'.symm.trans hu')
    exact ⟨_, hrow, rfl⟩
  · push Not at halone
    obtain ⟨v, hv, hne⟩ := halone
    obtain ⟨q, hv⟩ := Assoc.mem_iff_exists.1 hv
    obtain ⟨q', row, hp', hrow, hhp, -⟩ := resolution_pays (F := F) h hmode hne.symm hu hv
    obtain rfl := Option.some.inj (hp'.symm.trans hu')
    exact ⟨row, hrow, hhp⟩

/-- The row of a team records what the round left to it. -/
theorem teamsAfter (h : Seated m) (hlive : m.state = .live) {t : TeamID} {row : RoundTeamResult}
    (hrow : (m.resolution F).result.teams.lookup t = some row) :
    ∃ team, (m.resolution F).teams.lookup t = some team ∧ row.hpAfterRound = team.hp := by
  by_cases hmode : m.mode = .teamDuel
  · have hmem : t ∈ m.teams := by
      rw [resolution_result, scoreRound_teamDuel hmode] at hrow
      exact (mem_teamDamage (h.two hmode)).1 (Assoc.mem_iff_exists.2 ⟨row, hrow⟩)
    obtain ⟨team, ht⟩ := Assoc.mem_iff_exists.1 hmem
    obtain ⟨t', team', hne, ht'⟩ := h.opponent hmode t
    obtain ⟨hp, row', hteam, hrow', hhp, -⟩ :=
      resolution_teamPays (F := F) h hlive hmode ht ht' hne.symm
    obtain rfl := Option.some.inj (hrow'.symm.trans hrow)
    exact ⟨_, hteam, hhp⟩
  · rw [resolution_noTeams hmode] at hrow
    simp at hrow

/-- Accounts of a team duel that are kept are even ones: the members of a losing team would have kept
their hit points. -/
theorem Accounts.not_lt {m' : Match} {r : RoundResult} (hacc : Accounts F m m' r) (h : Seated m)
    (hlive : m.state = .live) (hmode : m.mode = .teamDuel) (hrows : r.players = (m.scores F).players)
    {t t' : TeamID} {team team' : TeamState} (ht : m.teams.lookup t = some team)
    (ht' : m.teams.lookup t' = some team') (hne : t ≠ t') :
    topScore F m team' ≤ topScore F m team := by
  obtain ⟨hp, row, row', -, -, hrow', hrep, hpays, hmembers⟩ := hacc.teamDuel hmode t team ht t' team'
    ht' hne
  obtain ⟨-, row'', -, -, hrow'', -, hrep', -⟩ := hacc.teamDuel hmode t' team' ht' t team ht hne.symm
  obtain rfl := Option.some.inj (hrow'.symm.trans hrow'')
  obtain ⟨u, hu⟩ := List.exists_mem_of_ne_nil _ (h.manned t team ht)
  obtain ⟨p, hup, hhp⟩ := h.mirroredLive hmode hlive t team ht u hu
  obtain ⟨p', hup', hhp'⟩ := hmembers u hu
  obtain ⟨playerRow, hplayerRow, hafter⟩ := (hacc.after (.inr hmode)).left hup'
  rw [hrows, lookup_scores hup, Option.some.injEq] at hplayerRow
  subst hplayerRow
  -- the row still has the hit points from before the round
  have hkept : hp = team.hp := by
    rw [← hhp', ← hafter, ← hhp]
    rfl
  rw [← hrep.score_eq_topScore, ← hrep'.score_eq_topScore]
  by_contra hlt
  rw [not_le] at hlt
  have hpos := h.team_alive hmode hlive ht
  have hdamage := damageOf_pos (m.currentIndex + 1) hlt
  have hleft := hpays.hp_eq
  rw [if_pos hlt, hkept] at hleft
  omega

/-- In an even round nobody's hit points change, so that the rows of the players are right. -/
theorem after_teamDuel (h : Seated m) (hlive : m.state = .live) (hmode : m.mode = .teamDuel)
    (hlevel : Level F m) :
    Assoc.Pointwise (fun _ p row => row.hpAfterRound = p.hp) (m.resolution F).players
      (m.resolution F).result.players := by
  have hstep := h.inStep hlive hmode
  refine after_of_lookup h hlive fun u p p' hu hu' => ?_
  obtain ⟨team, ht, hmem⟩ := hstep.partitioned.mem_team u p hu
  obtain ⟨t', team', hne, ht'⟩ := h.opponent hmode p.teamID
  obtain ⟨hp, row, -, -, -, -, hrep, hpays, hmembers⟩ :=
    resolution_teamPays (F := F) h hlive hmode ht ht' hne.symm
  obtain ⟨-, row', -, -, -, hscore', hrep', -⟩ :=
    resolution_teamPays (F := F) h hlive hmode ht' ht hne
  obtain ⟨hnot, heven⟩ := hlevel hmode p.teamID team ht
  have hsame : row.score = row'.score := by
    rw [(hrep.2 hnot).score_eq_topScore, heven t' team' ht',
      (hrep'.2 (hlevel hmode t' team' ht').1).score_eq_topScore]
  have hleft := hpays.hp_eq
  rw [← hscore', hsame, if_neg (lt_irrefl _)] at hleft
  obtain ⟨p'', hup'', hhp''⟩ := hmembers u hmem
  obtain rfl := Option.some.inj (hup''.symm.trans hu')
  obtain ⟨q, hq, hhp⟩ := hstep.mirrored p.teamID team ht u hmem
  obtain rfl := Option.some.inj (hq.symm.trans hu)
  refine ⟨roundPlayerResult F m u q, ?_, ?_⟩
  · rw [resolution_teamDuel_players h hmode]
    exact lookup_scores hu
  · rw [hhp'', hleft, ← hhp]
    rfl

/-- The resolution keeps its accounts exactly when the round is even. -/
theorem accounts_resolution_iff (h : Seated m) (hlive : m.state = .live) {m' : Match}
    (hplayers : m'.players = (m.resolution F).players) (hteams : m'.teams = (m.resolution F).teams) :
    Accounts F m m' (m.resolution F).result ↔ Level F m := by
  constructor
  · intro hacc hmode t team ht
    have hrows := resolution_teamDuel_players (F := F) h hmode
    constructor
    · obtain ⟨t', team', hne, ht'⟩ := h.opponent hmode t
      obtain ⟨-, row, -, -, hrow, -, hrep, -⟩ := hacc.teamDuel hmode t team ht t' team' ht' hne.symm
      obtain ⟨-, row', -, hrow', -, -, hiff, -⟩ :=
        resolution_teamPays (F := F) h hlive hmode ht ht' hne.symm
      obtain rfl := Option.some.inj (hrow.symm.trans hrow')
      exact hiff.1 hrep
    · intro t' team' ht'
      rcases eq_or_ne t t' with rfl | hne
      · rw [Option.some.inj (ht.symm.trans ht')]
      · exact le_antisymm (hacc.not_lt h hlive hmode hrows ht' ht hne.symm)
          (hacc.not_lt h hlive hmode hrows ht ht' hne)
  · intro hlevel
    refine ⟨fun hmode u p hu v q hv huv => ?_, fun hmode t team ht t' team' ht' hne => ?_,
      fun hmode u p hu => ?_, fun hmode => ?_, fun t row hrow => ?_⟩
    · rw [hplayers]
      obtain ⟨p', row, hp', hrow, -, hpays⟩ := resolution_pays (F := F) h hmode huv hu hv
      exact ⟨p', row, hp', hrow, hpays⟩
    · rw [hplayers, hteams]
      obtain ⟨hp, row, hteam, hrow, -, -, hrep, hpays, hmembers⟩ :=
        resolution_teamPays (F := F) h hlive hmode ht ht' hne
      obtain ⟨-, row', -, hrow', -, hscore', -⟩ :=
        resolution_teamPays (F := F) h hlive hmode ht' ht hne.symm
      rw [← hscore'] at hpays
      exact ⟨hp, row, row', hteam, hrow, hrow', hrep.2 (hlevel hmode t team ht).1, hpays, hmembers⟩
    · rw [hplayers]
      exact ⟨_, resolution_freeForAll hmode hu, rfl, rfl⟩
    · rw [hplayers]
      rcases hmode with hmode | hmode
      · exact after_duel h hlive hmode
      · exact after_teamDuel h hlive hmode hlevel
    · rw [hteams]
      exact teamsAfter h hlive hrow

/-- Every call of `resolveRound` in a run keeps the accounts of the round exactly when, in a team duel,
no best guess is hidden and the round is even. -/
theorem accounted_iff {t : ℕ} {ops : List Op} {id : MatchID} (h : Called F t ops id m)
    (clk : Clock) : Accounted F clk m ↔ Level F m := by
  have hseated := h.seated
  obtain ⟨_, _, _, -, -, heq⟩ := resolveRound_live (F := F) h.live clk
  constructor
  · rintro ⟨⟨r, hlast, -, hacc⟩, -⟩
    rw [heq] at hlast hacc
    obtain rfl := Option.some.inj hlast
    exact (accounts_resolution_iff hseated h.live rfl rfl).1 hacc
  · intro hlevel
    refine ⟨⟨(m.resolution F).result, by rw [heq], by rw [heq], ?_⟩, fun o ho => ?_⟩
    · rw [heq]
      exact (accounts_resolution_iff hseated h.live rfl rfl).2 hlevel
    · exact sameOutcome_resolveRoundIn (hseated.inStep h.live) (fun _ => hseated.sides) ho h.live clk

/-- A run after which a tick finds the round of a match over. -/
theorem exists_called (F : FloatMath) (t : ℕ) (ops : List Op) (id : MatchID) (now : ℕ)
    (P : Match → Bool)
    (h : ((Run.exec (World.step F) (World.init t) ops).bind (World.find · id)).any (fun m =>
      m.state = .live ∧ m.pendingAdvance = false ∧ m.roundExpired now = true ∧
        P (m.announceLive now) = true) = true) : ∃ m, Called F t ops id m ∧ P m = true := by
  obtain ⟨m, hm, hP⟩ := (Option.any_eq_true _ _).1 h
  obtain ⟨w, hw, hfind⟩ := Option.bind_eq_some_iff.1 hm
  obtain ⟨hlive, hopen, hover, hP⟩ := of_decide_eq_true hP
  exact ⟨_, .tick now ⟨w, hw, hfind⟩ hlive hopen hover, hP⟩

/-- One guess in the first round of a duel, which the other player does not answer. -/
def unansweredRun : List Op := [createAt 0, guessAt 3 "u1" 1]

theorem accounted_unansweredRun : ∃ m, Called .coarse 0 unansweredRun "m" m ∧ m.mode = .duel ∧
    Accounted .coarse (second 20) m := by
  obtain ⟨m, hcalled, hduel⟩ := exists_called .coarse 0 unansweredRun "m"
    (Time.unixEpoch + 20 * Time.second) (fun m => m.mode = .duel) (by decide +kernel)
  have hmode : m.mode = .duel := of_decide_eq_true hduel
  refine ⟨m, hcalled, hmode, (accounted_iff hcalled (second 20)).2 fun hteam => ?_⟩
  rw [hmode] at hteam
  cases hteam

/-- The same guess in a team duel: `u2` and `u4` keep a thousand of their six thousand hit points. -/
def unevenRun : List Op := [createAt 0 fourPlayers ["u1", "u2", "u3", "u4"], guessAt 3 "u1" 1]

theorem not_accounted_unevenRun : ¬ ∀ F t ops id m, Called F t ops id m →
    ∀ clk, Accounted F clk m := by
  intro hall
  obtain ⟨m, hcalled, hrows⟩ := exists_called .coarse 0 unevenRun "m"
    (Time.unixEpoch + 20 * Time.second) (fun m =>
      let m' := m.resolveRound .coarse (second 20)
      m.mode = .teamDuel ∧ (m'.players.lookup "u2").map PlayerState.hp = some 1000 ∧
        (m'.lastRoundResult.bind (·.players.lookup "u2")).map RoundPlayerResult.hpAfterRound =
          some 6000)
    (by decide +kernel)
  obtain ⟨hmode, hplayer, hrow⟩ := of_decide_eq_true hrows
  obtain ⟨⟨r, hlast, -, hacc⟩, -⟩ := hall .coarse 0 unevenRun "m" m hcalled (second 20)
  obtain ⟨p, hp, hleft⟩ := Option.map_eq_some_iff.1 hplayer
  obtain ⟨row, hr, hafter⟩ := (hacc.after (.inr hmode)).left hp
  rw [hlast, Option.bind_some, hr, Option.map_some, Option.some.injEq] at hrow
  omega

end GeoDuels.Duel
