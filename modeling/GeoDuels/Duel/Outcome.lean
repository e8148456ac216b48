import GeoDuels.Duel.Teams

/-!
# The outcome of a duel

When the damage of a round leaves one of two players without hit points, the other one has won and
keeps the hit points that the round's result records for him (`OutcomeKept`).  The tick breaks this
in one case: it resolves an expired round and then still takes the hit points of the players whose
grace has run out, the winner of the round among them.
-/

namespace GeoDuels.Duel

variable {F : FloatMath}

/-! ## The damage of a duel -/

theorem absInt_sub_comm (a b : ℤ) : absInt (a - b) = absInt (b - a) := by
  unfold absInt
  split_ifs <;> omega

theorem roundDamage_comm (n : ℕ) (a b : ℤ) : roundDamage n a b = roundDamage n b a := by
  rw [roundDamage, roundDamage, absInt_sub_comm]

/-- The hit points that the round leaves to the player `u` against `v`. -/
def duelHP (F : FloatMath) (m : Match) (u v : UserID) (hp : ℤ) : ℤ :=
  let damage := roundDamage (m.currentIndex + 1) (guessScore F m u) (guessScore F m v)
  if guessScore F m u < guessScore F m v then if hp - damage < 0 then 0 else hp - damage else hp

/-- A player with the row `a` after the damage of the round with the row `b` of the other one. -/
def duelPlayer (n : ℕ) (a b : RoundPlayerResult) (p : PlayerState) : PlayerState :=
  if a.score < b.score then hurt (roundDamage n a.score b.score) p else p

/-- His row, with the hit points that are left to him. -/
def duelRow (n : ℕ) (a b : RoundPlayerResult) (hp : ℤ) : RoundPlayerResult :=
  { a with
    damageDealt := if b.score < a.score then roundDamage n a.score b.score else a.damageDealt
    damageTaken := if a.score < b.score then roundDamage n a.score b.score else a.damageTaken
    hpAfterRound := hp }

theorem resolveDuelDamage_pair {players : Assoc UserID PlayerState} {result : RoundResult}
    {idA idB : UserID} {a b : RoundPlayerResult} (ha : result.players.lookup idA = some a)
    (hb : result.players.lookup idB = some b) :
    (resolveDuelDamage players result [idA, idB]).1 =
        (if a.score > b.score then
          players.modify idB (hurt (roundDamage result.roundNumber a.score b.score))
        else if b.score > a.score then
          players.modify idA (hurt (roundDamage result.roundNumber a.score b.score))
        else players) ∧
      (resolveDuelDamage players result [idA, idB]).2.players =
        (result.players.modify idA fun _ => duelRow result.roundNumber a b
            (hpOf (resolveDuelDamage players result [idA, idB]).1 idA)).modify idB fun _ =>
          duelRow result.roundNumber b a
            (hpOf (resolveDuelDamage players result [idA, idB]).1 idB) := by
  unfold resolveDuelDamage duelRow
  rw [roundDamage_comm _ b.score]
  simp only [ha, hb]
  split_ifs <;> first
    | omega
    | exact ⟨rfl, rfl⟩

/-- The two players after the damage, each with the row of the result. -/
theorem lookup_resolveDuelDamage_pair {players : Assoc UserID PlayerState} {result : RoundResult}
    {idA idB : UserID} (hne : idA ≠ idB) {a b : RoundPlayerResult} {pA pB : PlayerState}
    (ha : result.players.lookup idA = some a) (hb : result.players.lookup idB = some b)
    (hA : players.lookup idA = some pA) (hB : players.lookup idB = some pB) :
    let n := result.roundNumber
    let r := resolveDuelDamage players result [idA, idB]
    (r.1.lookup idA = some (duelPlayer n a b pA) ∧
        r.2.players.lookup idA = some (duelRow n a b (duelPlayer n a b pA).hp)) ∧
      r.1.lookup idB = some (duelPlayer n b a pB) ∧
        r.2.players.lookup idB = some (duelRow n b a (duelPlayer n b a pB).hp) := by
  obtain ⟨hplayers, hrows⟩ := @resolveDuelDamage_pair players _ _ _ _ _ ha hb
  have hlookupA : (resolveDuelDamage players result [idA, idB]).1.lookup idA =
      some (duelPlayer result.roundNumber a b pA) := by
    rw [hplayers, duelPlayer]
    split_ifs <;> first
      | omega
      | simp [Assoc.lookup_modify, hne, hA]
  have hlookupB : (resolveDuelDamage players result [idA, idB]).1.lookup idB =
      some (duelPlayer result.roundNumber b a pB) := by
    rw [hplayers, duelPlayer, roundDamage_comm _ b.score]
    split_ifs <;> first
      | omega
      | simp [Assoc.lookup_modify, hne.symm, hB]
  refine ⟨⟨hlookupA, ?_⟩, hlookupB, ?_⟩
  · rw [hrows, Assoc.lookup_modify_ne hne, Assoc.lookup_modify_self, ha, hpOf, hlookupA]
    rfl
  · rw [hrows, Assoc.lookup_modify_self, Assoc.lookup_modify_ne hne.symm, hb, hpOf, hlookupB]
    rfl

/-- One of the two players, in whichever order the loop met them. -/
theorem lookup_resolveDuelDamage {players : Assoc UserID PlayerState} {result : RoundResult}
    {order : List UserID} {u v : UserID} (huv : u ≠ v) (horder : order = [u, v] ∨ order = [v, u])
    {a b : RoundPlayerResult} {pu pv : PlayerState} (ha : result.players.lookup u = some a)
    (hb : result.players.lookup v = some b) (hu : players.lookup u = some pu)
    (hv : players.lookup v = some pv) :
    let n := result.roundNumber
    (resolveDuelDamage players result order).1.lookup u = some (duelPlayer n a b pu) ∧
      (resolveDuelDamage players result order).2.players.lookup u =
        some (duelRow n a b (duelPlayer n a b pu).hp) := by
  rcases horder with rfl | rfl
  · exact (lookup_resolveDuelDamage_pair huv ha hb hu hv).1
  · exact (lookup_resolveDuelDamage_pair huv.symm hb ha hv hu).2

/-- The two orders of a pair. -/
theorem eq_of_perm_pair {order : List UserID} {u v : UserID} (huv : u ≠ v)
    (hperm : order.Perm [u, v]) : order = [u, v] ∨ order = [v, u] := by
  obtain ⟨a, b, rfl⟩ := List.length_eq_two.1 hperm.length_eq
  have ha : a = u ∨ a = v := by simpa using hperm.subset List.mem_cons_self
  have hb : b = u ∨ b = v := by simpa using hperm.subset (List.mem_cons_of_mem _ List.mem_cons_self)
  have hnd : a ≠ b := by
    have hnodup := hperm.nodup_iff.2 (by simp [huv] : [u, v].Nodup)
    simpa using hnodup
  rcases ha with rfl | rfl <;> rcases hb with rfl | rfl <;> simp_all

theorem keys_eq_pair {V : Type*} {s : Assoc UserID V} {u v : UserID} (huv : u ≠ v) (hu : u ∈ s)
    (hv : v ∈ s) (hpair : ∀ w ∈ s, w = u ∨ w = v) : s.keys = [u, v] ∨ s.keys = [v, u] := by
  refine eq_of_perm_pair huv ?_
  refine (List.perm_ext_iff_of_nodup (AList.keys_nodup s) (by simp [huv])).2 fun w => ?_
  rw [← AList.mem_keys]
  simp only [List.mem_cons, List.not_mem_nil, or_false]
  constructor
  · exact hpair w
  · rintro (rfl | rfl)
    · exact hu
    · exact hv

theorem duelHP_eq_zero_iff {m : Match} {u v : UserID} {hp : ℤ} (hpos : 0 < hp) :
    duelHP F m u v hp = 0 ↔ guessScore F m u < guessScore F m v ∧
      hp ≤ roundDamage (m.currentIndex + 1) (guessScore F m u) (guessScore F m v) := by
  unfold duelHP
  dsimp only
  split_ifs <;> omega

theorem duelHP_eq (m : Match) (u v : UserID) (pu pv p : PlayerState) :
    duelPlayer (m.currentIndex + 1) (roundPlayerResult F m u pu) (roundPlayerResult F m v pv) p =
      { p with hp := duelHP F m u v p.hp } := by
  unfold duelPlayer duelHP hurt roundPlayerResult
  dsimp only
  split_ifs <;> rfl

/-- Only `u` and `v` play the match. -/
def IsPair (m : Match) (u v : UserID) : Prop := ∀ w ∈ m.players, w = u ∨ w = v

/-- The resolution of a duel, seen from one of its two players: the damage he takes is that of the
two scores, and his row records it with what is left. -/
theorem resolution_duel {m : Match} (hmode : m.mode = .duel) {u v : UserID} (hpair : IsPair m u v)
    (huv : u ≠ v) {pu pv : PlayerState} (hu : m.players.lookup u = some pu)
    (hv : m.players.lookup v = some pv) (hb : InBounds pu.hp) :
    (m.resolution F).players.lookup u =
        some { pu with finalized := false, hp := duelHP F m u v pu.hp } ∧
      (m.resolution F).result.players.lookup u =
        some (duelRow (m.currentIndex + 1) (roundPlayerResult F m u pu) (roundPlayerResult F m v pv)
          (duelHP F m u v pu.hp)) := by
  -- the loop over the map meets the two players in one of the two orders
  have horder := keys_eq_pair huv (Assoc.mem_iff_exists.2 ⟨pu, hu⟩) (Assoc.mem_iff_exists.2 ⟨pv, hv⟩)
    hpair
  obtain ⟨hp', hrow⟩ := lookup_resolveDuelDamage huv horder (lookup_scores (F := F) hu)
    (lookup_scores hv) (lookup_unfinalized hu) (lookup_unfinalized hv)
  have hround : (m.scores F).roundNumber = m.currentIndex + 1 := rfl
  rw [hround, duelHP_eq] at hp' hrow
  have hnonneg : 0 ≤ duelHP F m u v pu.hp := by
    have h₀ := hb.1
    unfold duelHP
    dsimp only
    split_ifs <;> omega
  constructor
  · rw [Match.resolution, settleRound_players, if_pos (by rw [hmode]; decide),
      scoreRound_duel hmode, Assoc.lookup_mapVals, hp', Option.map_some]
    congr 1
    split_ifs with hzero
    · have h₀ : duelHP F m u v pu.hp = 0 := le_antisymm hzero hnonneg
      simp [h₀]
    · rfl
  · rw [resolution_result, scoreRound_duel hmode]
    exact hrow

/-! ## The outcome -/

/-- A result that leaves one player without hit points and the other one with some has ended the
match, and the other player still has the hit points of the result. -/
def WinnerKept (m : Match) (r : RoundResult) : Prop :=
  ∀ u ru, r.players.lookup u = some ru → ∀ v rv, r.players.lookup v = some rv →
    ru.hpAfterRound = 0 → 0 < rv.hpAfterRound →
      m.state = .ended ∧ ∃ p, m.players.lookup v = some p ∧ p.hp = rv.hpAfterRound

instance (m : Match) (r : RoundResult) : Decidable (WinnerKept m r) :=
  inferInstanceAs (Decidable (∀ u ru, r.players.lookup u = some ru →
    ∀ v rv, r.players.lookup v = some rv → ru.hpAfterRound = 0 → 0 < rv.hpAfterRound →
      m.state = .ended ∧ ∃ p, m.players.lookup v = some p ∧ p.hp = rv.hpAfterRound))

/-- The winner that the damage of the last round made keeps his hit points. -/
def OutcomeKept (m : Match) : Prop := m.mode = .duel → ∀ r ∈ m.lastRoundResult, WinnerKept m r

instance : DecidablePred OutcomeKept := fun m =>
  inferInstanceAs (Decidable (m.mode = .duel → ∀ r ∈ m.lastRoundResult, WinnerKept m r))

/-- The expired round of the tick takes the last hit points of `u`, and the grace of `v`, who wins the
round, has run out as well. -/
def WinnerExpired (F : FloatMath) (now : ℕ) (m : Match) (u v : UserID) (pu pv : PlayerState) : Prop :=
  u ≠ v ∧ guessScore F m u < guessScore F m v ∧
    pu.hp ≤ roundDamage (m.currentIndex + 1) (guessScore F m u) (guessScore F m v) ∧
    graceExpired now pv = true

/-- The step is no tick that resolves a duel in favour of a player whose grace has run out. -/
def NoExpiredWinner (F : FloatMath) (m : Match) : MatchOp → Prop
  | .tick now _ _ _ => m.mode = .duel → m.state = .live → m.pendingAdvance = false →
      m.roundExpired now = true → ∀ u pu, m.players.lookup u = some pu →
        ∀ v pv, m.players.lookup v = some pv → ¬ WinnerExpired F now m u v pu pv
  | _ => True

/-- The invariant of the permitted steps: two players with hit points while the match is live, and
the outcome that the last result records. -/
structure OutcomeInv (m : Match) : Prop extends HpInv m where
  pair : m.mode = .duel → ∀ u v w, u ∈ m.players → v ∈ m.players → w ∈ m.players → u ≠ v →
    w = u ∨ w = v
  alive : m.mode = .duel → m.state = .live → ∀ u p, m.players.lookup u = some p → 0 < p.hp
  kept : OutcomeKept m

theorem outcomeInv_created {id : MatchID} {playerIDs : List UserID} {m : Match}
    (h : Created F id playerIDs m) : OutcomeInv m := by
  have hnew := isNew_of_created h
  refine ⟨hpInv_created h, fun hmode u v w hu hv hw huv => ?_, fun _ _ u p hu => ?_,
    fun _ r hr => ?_⟩
  · obtain ⟨a, b, rfl⟩ := List.length_eq_two.1 (hnew.players_duel hmode)
    rw [hnew.sides.mem_iff] at hu hv hw
    simp only [List.mem_cons, List.not_mem_nil, or_false] at hu hv hw
    grind
  · rw [(hnew.sides.fresh u p hu).hp]
    decide
  · rw [hnew.noLast] at hr
    cases hr

namespace OutcomeInv

/-- In a live match no player of the last result is without hit points next to one who has some. -/
theorem undecided {m : Match} (h : OutcomeInv m) (hmode : m.mode = .duel) (hlive : m.state = .live)
    {r : RoundResult} (hr : m.lastRoundResult = some r) {u v : UserID} {ru rv : RoundPlayerResult}
    (hu : r.players.lookup u = some ru) (hv : r.players.lookup v = some rv)
    (hzero : ru.hpAfterRound = 0) : ¬ 0 < rv.hpAfterRound := by
  intro hpos
  have hended := (h.kept hmode r hr u ru hu v rv hv hzero hpos).1
  exact absurd (hlive.symm.trans hended) (by decide)

/-- A write that leaves the state, the result and all hit points alone. -/
theorem frame {m m' : Match} (h : OutcomeInv m) (hinv : HpInv m') (hm : m'.mode = m.mode)
    (hr : m'.lastRoundResult = m.lastRoundResult) (hs : m'.state = m.state)
    (hk : Assoc.Pointwise (fun _ => Keeps) m.players m'.players) : OutcomeInv m' := by
  refine ⟨hinv, ?_, fun hmode hlive u p' hu => ?_, fun hmode r hrm u ru hu v rv hv hzero hpos => ?_⟩
  · simp only [hm, hk.mem_iff]
    exact h.pair
  · obtain ⟨p, hup, hkeep⟩ := hk.right hu
    rw [hkeep.2]
    exact h.alive (hm.symm.trans hmode) (hs.symm.trans hlive) u p hup
  · rw [hr] at hrm
    obtain ⟨hend, p, hp, hhp⟩ := h.kept (hm.symm.trans hmode) r hrm u ru hu v rv hv hzero hpos
    obtain ⟨p', hp', hkeep⟩ := hk.left hp
    exact ⟨hs.trans hend, p', hp', hkeep.2.trans hhp⟩

/-- A write that ends a live match without a new result. -/
theorem ended {m m' : Match} (h : OutcomeInv m) (hinv : HpInv m') (hm : m'.mode = m.mode)
    (hr : m'.lastRoundResult = m.lastRoundResult) (hlive : m.state = .live)
    (hs : m'.state = .ended) (hw : Assoc.Pointwise (fun _ => Weakens) m.players m'.players) :
    OutcomeInv m' := by
  refine ⟨hinv, ?_, fun _ hlive' => ?_, fun hmode r hrm u ru hu v rv hv hzero hpos => ?_⟩
  · simp only [hm, hw.mem_iff]
    exact h.pair
  · exact absurd (hs.symm.trans hlive') (by decide)
  · rw [hr] at hrm
    exact absurd hpos (h.undecided (hm.symm.trans hmode) hlive hrm hu hv hzero)

end OutcomeInv

/-! ### The steps -/

/-- A round that does not end the match leaves everybody with hit points. -/
theorem resolution_alive {m : Match} (hmode : m.mode ≠ .freeForAll)
    (hlive : (m.resolution F).state = .live) {u : UserID} {p : PlayerState}
    (hu : (m.resolution F).players.lookup u = some p) : 0 < p.hp := by
  rw [Match.resolution, settleRound_state] at hlive
  split_ifs at hlive with hend
  push Not at hend
  have hany : ¬ ((scoreRound F m).players.any fun _ p => p.hp ≤ 0) = true := hend.2.2 hmode
  rw [Assoc.any_eq_true] at hany
  push Not at hany
  rw [Match.resolution, settleRound_players, if_pos hmode, Assoc.lookup_mapVals] at hu
  obtain ⟨q, hq, rfl⟩ := Option.map_eq_some_iff.1 hu
  have hpos : ¬ q.hp ≤ 0 := by simpa using hany u q hq
  rw [if_neg hpos]
  exact not_le.1 hpos

namespace OutcomeInv

theorem isPair {m : Match} (h : OutcomeInv m) (hmode : m.mode = .duel) {u v : UserID}
    {pu pv : PlayerState} (huv : u ≠ v) (hu : m.players.lookup u = some pu)
    (hv : m.players.lookup v = some pv) : IsPair m u v := fun w hw =>
  h.pair hmode u v w (Assoc.mem_iff_exists.2 ⟨pu, hu⟩) (Assoc.mem_iff_exists.2 ⟨pv, hv⟩) hw huv

/-- Two rows of a result belong to two players of the match, whose hit points they record. -/
theorem rows {m : Match} (h : OutcomeInv m) (hmode : m.mode = .duel) {u v : UserID}
    {ru rv : RoundPlayerResult} (huv : u ≠ v)
    (hu : (m.resolution F).result.players.lookup u = some ru)
    (hv : (m.resolution F).result.players.lookup v = some rv) :
    ∃ pu pv, m.players.lookup u = some pu ∧ m.players.lookup v = some pv ∧
      (m.resolution F).players.lookup u =
        some { pu with finalized := false, hp := ru.hpAfterRound } ∧
      ru.hpAfterRound = duelHP F m u v pu.hp := by
  obtain ⟨pu, hpu, -⟩ := (resolution_rows m).right hu
  obtain ⟨pv, hpv, -⟩ := (resolution_rows m).right hv
  obtain ⟨hp', hrow⟩ := resolution_duel (F := F) hmode (h.isPair hmode huv hpu hpv) huv hpu hpv
    (h.players u pu hpu)
  rw [hu, Option.some.injEq] at hrow
  subst hrow
  exact ⟨pu, pv, hpu, hpv, hp', rfl⟩

theorem resolveRound {m : Match} (h : OutcomeInv m) (clk : Clock) :
    OutcomeInv (m.resolveRound F clk) := by
  have hinv := h.toHpInv.resolveRound (F := F) clk
  by_cases hlive : m.state = .live
  · obtain ⟨_, _, _, -, -, heq⟩ := resolveRound_live (F := F) hlive clk
    have hplays := resolution_plays (F := F) (m := m) (h.inStep hlive)
    rw [heq] at hinv ⊢
    refine ⟨hinv, ?_, fun hmode hlive' u p hu => ?_, fun hmode r hr u ru hu v rv hv hzero hpos => ?_⟩
    · simp only [hplays.mem_iff]
      exact h.pair
    · have hduel : m.mode = .duel := hmode
      exact resolution_alive (by rw [hduel]; decide) hlive' hu
    · have hduel : m.mode = .duel := hmode
      rw [Option.mem_def, Option.some.injEq] at hr
      subst hr
      have huv : u ≠ v := by
        rintro rfl
        rw [hu, Option.some.injEq] at hv
        subst hv
        omega
      obtain ⟨pu, pv, hpu, hpv, hu', -⟩ := h.rows hduel huv hu hv
      obtain ⟨_, _, _, _, hv', _⟩ := h.rows hduel huv.symm hv hu
      refine ⟨?_, _, hv', rfl⟩
      rcases resolution_state (F := F) m with hs | hs
      · have halive := resolution_alive (by rw [hduel]; decide) (hs.trans hlive) hu'
        dsimp only at halive
        omega
      · exact hs
  · rwa [resolveRound_of_not_live hlive]

theorem announceLive {m : Match} (h : OutcomeInv m) (now : ℕ) : OutcomeInv (m.announceLive now) := by
  have hinv := h.toHpInv.announceLive now
  rcases announceLive_cases now m with heq | heq
  · rwa [heq]
  · rw [heq] at hinv ⊢
    exact h.frame hinv rfl rfl rfl (keeps_refl _)

theorem recordGuess {m : Match} (h : OutcomeInv m) (now : ℕ) (g : GuessPayload) :
    OutcomeInv (m.recordGuess now g) := by
  refine h.frame (h.toHpInv.recordGuess now g) rfl rfl rfl ?_
  apply modify_keeps
  exact fun _ => ⟨rfl, rfl⟩

theorem setConnection {m : Match} (h : OutcomeInv m) (u : UserID) (off : Bool) (due : ℤ)
    (activity : ℕ) : OutcomeInv (m.setConnection u off due activity) := by
  refine h.frame (h.toHpInv.setConnection u off due activity) rfl rfl rfl ?_
  apply modify_keeps
  exact fun _ => ⟨rfl, rfl⟩

theorem advanceRound {m : Match} (h : OutcomeInv m) (hlive : m.state = .live)
    (hpending : m.pendingAdvance = true) (clk : Clock) (next : Except String LocationPoint) :
    OutcomeInv (m.advanceRound clk next) := by
  have hinv := h.toHpInv.advanceRound hpending clk next
  rcases advanceRound_cases hpending clk next with ⟨_, heq⟩ | ⟨_, _, _, _, _, heq⟩
  · rw [heq] at hinv ⊢
    exact h.ended hinv rfl rfl hlive rfl ((keeps_refl _).mono fun _ _ _ hk => hk.weakens)
  · rw [heq] at hinv ⊢
    exact h.frame hinv rfl rfl rfl (freshGuesses_keeps _)

theorem forfeit {m : Match} (h : OutcomeInv m) (clk : Clock) (u : UserID) :
    OutcomeInv (m.step F (.forfeit clk u)) := by
  have hinv := h.toHpInv.step (F := F) (.forfeit clk u)
  by_cases hlive : m.state = .live ∧ u ∈ m.players
  · have hweak : Assoc.Pointwise (fun _ => Weakens) m.players (m.step F (.forfeit clk u)).players := by
      rw [step_forfeit, if_pos hlive]
      exact Assoc.pointwise_modify (fun _ _ => ⟨rfl, .refl _⟩) fun _ _ => ⟨rfl, falls_zero _⟩
    refine h.ended hinv ?_ ?_ hlive.1 ?_ hweak <;> rw [step_forfeit, if_pos hlive]
  · rwa [step_forfeit, if_neg hlive]

/-- The sweep of a match that is still live. -/
theorem sweep_live {m : Match} (h : OutcomeInv m) (hlive : m.state = .live) (now : ℕ) :
    OutcomeInv (m.sweep now) := by
  have hinv := h.toHpInv.sweep now
  rcases sweep_eq now m with heq | ⟨out, _, _, -, heq⟩
  · rwa [heq]
  · rw [heq] at hinv ⊢
    exact h.ended hinv rfl rfl hlive rfl (zeroHP_weakens out _)

theorem tickRound {m : Match} (h : OutcomeInv m) (now : ℕ) (clk : Clock) :
    OutcomeInv (m.tickRound F now clk) := by
  unfold Match.tickRound
  split_ifs
  · exact (h.announceLive now).resolveRound clk
  · exact h.announceLive now

end OutcomeInv

/-! ### The sweep after a resolution -/

/-- The match after a tick has resolved its round. -/
theorem tickRound_expired {m : Match} (hlive : m.state = .live) {now : ℕ}
    (hexp : m.roundExpired now = true) (clk : Clock) :
    (m.tickRound F now clk).players = (m.resolution F).players ∧
      (m.tickRound F now clk).state = (m.resolution F).state ∧
      (m.tickRound F now clk).lastRoundResult = some (m.resolution F).result ∧
      (m.tickRound F now clk).mode = m.mode := by
  have hlive' : (m.announceLive now).state = .live := by rwa [announceLive_state]
  have hmode : (m.announceLive now).mode = m.mode := by
    rcases announceLive_cases now m with heq | heq <;> rw [heq]
  obtain ⟨_, _, _, -, -, heq⟩ := resolveRound_live (F := F) hlive' clk
  rw [Match.tickRound, if_pos hexp, heq, resolution_announceLive]
  exact ⟨rfl, rfl, rfl, hmode⟩

namespace OutcomeInv

/-- Without an expired winner the sweep leaves the outcome of the tick's round alone. -/
theorem sweep_resolved {m : Match} (h : OutcomeInv m) {now : ℕ} {clk : Clock}
    (hlive : m.state = .live) (hexp : m.roundExpired now = true)
    (hC : m.mode = .duel → ∀ u pu, m.players.lookup u = some pu →
      ∀ v pv, m.players.lookup v = some pv → ¬ WinnerExpired F now m u v pu pv) :
    OutcomeInv ((m.tickRound F now clk).sweep now) := by
  have hround := h.tickRound (F := F) now clk
  by_cases hstate : (m.tickRound F now clk).state = .live
  · exact hround.sweep_live hstate now
  obtain ⟨hplayers, hs, hlast, hmode⟩ := tickRound_expired (F := F) hlive hexp clk
  have hinv := hround.toHpInv.sweep now
  rcases sweep_cases now (m.tickRound F now clk) with ⟨heq, -⟩ | ⟨_, -, -, heq⟩ | ⟨hlive', -, -⟩
  · rwa [heq]
  · have hweak := zeroHP_weakens (graceExpired now) (m.tickRound F now clk).players
    rw [heq] at hinv ⊢
    refine ⟨hinv, ?_, fun _ hlive' => ?_, fun hduel r hr u ru hu v rv hv hzero hpos => ?_⟩
    · simp only [hweak.mem_iff]
      exact hround.pair
    · cases hlive'
    · have hduel' : m.mode = .duel := hmode.symm.trans hduel
      have hr' : (m.tickRound F now clk).lastRoundResult = some r := hr
      rw [hlast, Option.some.injEq] at hr'
      subst hr'
      have huv : u ≠ v := by
        rintro rfl
        rw [hu, Option.some.injEq] at hv
        subst hv
        omega
      obtain ⟨pu, pv, hpu, hpv, hu', hudmg⟩ := h.rows hduel' huv hu hv
      obtain ⟨_, _, hpv', _, hv', _⟩ := h.rows hduel' huv.symm hv hu
      rw [hpv, Option.some.injEq] at hpv'
      subst hpv'
      -- the winner's grace has not run out, so the sweep passes him by
      have hgrace : graceExpired now pv = false := by
        by_contra hne
        obtain ⟨hlt, hdmg⟩ :=
          (duelHP_eq_zero_iff (h.alive hduel' hlive u pu hpu)).1 (hudmg.symm.trans hzero)
        exact hC hduel' u pu hpu v pv hpv ⟨huv, hlt, hdmg, by simpa using hne⟩
      refine ⟨rfl, { pv with finalized := false, hp := rv.hpAfterRound }, ?_, rfl⟩
      dsimp only
      rw [zeroHP, Assoc.lookup_mapVals, hplayers, hv', Option.map_some, if_neg]
      rw [graceExpired] at hgrace ⊢
      simpa using hgrace
  · exact absurd hlive' hstate

theorem step {m : Match} {mop : MatchOp} (h : OutcomeInv m) (hC : NoExpiredWinner F m mop) :
    OutcomeInv (m.step F mop) := by
  cases mop with
  | submitGuess clk g =>
      rw [step_submitGuess]
      split_ifs
      · exact h.resolveRound _
      · exact (h.recordGuess _ _).resolveRound _
      · exact h.recordGuess _ _
      · exact h
  | tick now clk hle next =>
      rw [step_tick]
      split_ifs with hlive hpending
      · exact h
      · exact h.advanceRound (not_not.1 hlive) hpending clk next
      · exact h
      · by_cases hexp : m.roundExpired now = true
        · exact h.sweep_resolved (not_not.1 hlive) hexp fun hmode =>
            hC hmode (not_not.1 hlive) (by simpa using hpending) hexp
        · refine (h.tickRound now clk).sweep_live ?_ now
          rw [Match.tickRound, if_neg hexp, announceLive_state]
          exact not_not.1 hlive
  | markDisconnected clk u =>
      rw [step_markDisconnected]
      split_ifs
      · exact h.setConnection _ _ _ _
      · exact h
  | markResumed clk u =>
      rw [step_markResumed]
      split_ifs
      · exact h.setConnection _ _ _ _
      · exact h
  | forfeit clk u => exact h.forfeit clk u

end OutcomeInv

/-- A tick with an expired winner takes the hit points that its own result records for him. -/
theorem not_outcomeKept_of_winnerExpired {m : Match} (h : OutcomeInv m) (hmode : m.mode = .duel)
    (hlive : m.state = .live) (hpending : m.pendingAdvance = false) {now : ℕ}
    (hexp : m.roundExpired now = true) {u v : UserID} {pu pv : PlayerState}
    (hu : m.players.lookup u = some pu) (hv : m.players.lookup v = some pv)
    (hbad : WinnerExpired F now m u v pu pv) (clk : Clock) (hle : now ≤ clk.start)
    (next : Except String LocationPoint) :
    ¬ OutcomeKept (m.step F (.tick now clk hle next)) := by
  obtain ⟨huv, hlt, hdmg, hgrace⟩ := hbad
  obtain ⟨hpu', hru⟩ := resolution_duel (F := F) hmode (h.isPair hmode huv hu hv) huv hu hv
    (h.players u pu hu)
  obtain ⟨hpv', hrv⟩ := resolution_duel (F := F) hmode (h.isPair hmode huv.symm hv hu) huv.symm hv hu
    (h.players v pv hv)
  obtain ⟨hplayers, hs, hlast, hm⟩ := tickRound_expired (F := F) hlive hexp clk
  have hpos := h.alive hmode hlive v pv hv
  have hzero := (duelHP_eq_zero_iff (h.alive hmode hlive u pu hu)).2 ⟨hlt, hdmg⟩
  have hvhp : duelHP F m v u pv.hp = pv.hp := by
    rw [duelHP, if_neg (not_lt.2 hlt.le)]
  have hvgrace : graceExpired now { pv with finalized := false, hp := duelHP F m v u pv.hp } = true :=
    hgrace
  have hended : (m.tickRound F now clk).state ≠ .live := by
    intro hl
    have hleft := resolution_alive (by rw [hmode]; decide) (hs.symm.trans hl) hpu'
    rw [hzero] at hleft
    exact lt_irrefl _ hleft
  intro hkept
  rw [step_tick, if_neg (not_not.2 hlive), if_neg (by simp [hpending])] at hkept
  rcases sweep_cases now (m.tickRound F now clk) with ⟨-, hnone⟩ | ⟨_, -, -, heq⟩ | ⟨hl, -, -⟩
  · rw [hplayers] at hnone
    have hconn := hnone v _ hpv'
    exact absurd (hvgrace.symm.trans hconn) (by decide)
  · rw [heq] at hkept
    obtain ⟨-, p, hp, hhp⟩ := hkept (hm.trans hmode) _ hlast u _ hru v _ hrv hzero
      (hvhp.symm ▸ hpos)
    dsimp only at hp
    rw [zeroHP, Assoc.lookup_mapVals, hplayers, hpv', Option.map_some, if_pos hvgrace,
      Option.some.injEq] at hp
    rw [← hp] at hhp
    have hleft : duelHP F m v u pv.hp = 0 := hhp.symm
    omega
  · exact hended hl

/-- In a run of the engine the winner of every duel keeps the hit points of the last result, exactly
when no tick resolves a round in favour of a player whose grace has run out. -/
theorem outcomeKept_iff (F : FloatMath) (t : ℕ) (ops : List Op) :
    Run.Always (World.step F) (AllMatches fun _ => OutcomeKept) (World.init t) ops ↔
      Run.Guarded (World.step F) (EachStep (NoExpiredWinner F)) (World.init t) ops := by
  refine always_allMatches_iff (I := fun _ => OutcomeInv) (fun _ _ _ h => outcomeInv_created h)
    (fun _ m mop _ h hC => h.step hC) (fun _ m h => h.kept) ?_ t ops
  intro id m mop h hC
  cases mop with
  | tick now clk hle next =>
      simp only [NoExpiredWinner, not_forall, not_not] at hC
      obtain ⟨hmode, hlive, hpending, hexp, u, pu, hu, v, pv, hv, hbad⟩ := hC
      exact not_outcomeKept_of_winnerExpired h hmode hlive hpending hexp hu hv hbad clk hle next
  | submitGuess | markDisconnected | markResumed | forfeit => exact absurd trivial hC

/-- Rounds of 45 seconds. -/
def fixedTimer : MatchOptions where
  config := { roundTimerMode := .fixed, roundTimeLimitMS := 45000 }

/-- `u1` wins two rounds by guesses that `u2` does not answer.  In the second one his connection
breaks 30 seconds before the deadline, so that one tick sees both the deadline and the end of his
grace. -/
def winnerLostRun : List Op :=
  [createAt 0 fixedTimer, guessAt 5 "u1" 1, tickAt 49, tickAt 56, guessAt 60 "u1" 2,
    .markDisconnected (second 74) "m" "u1", tickAt 103, tickAt 105]

theorem not_outcomeKept_winnerLostRun :
    ¬ Run.Always (World.step .coarse) (AllMatches fun _ => OutcomeKept) (World.init 0)
      winnerLostRun := by
  decide +kernel

end GeoDuels.Duel
