import GeoDuels.Duel.HitPoints
import GeoDuels.Ratings.Store
import Mathlib.Data.List.Perm.Subperm

/-!
# The recorded winner

`snapshotWinner` of `pkg/persistence/store.go` takes the player with the most hit points, whatever the mode.
The loop runs over a map, so it is a fold over the players in some order; its result does not depend on that
order (`snapshotWinner_spec`).  In a duel it is the winner that the ratings are settled with.  In a
free-for-all hit points say nothing but who has left.
-/

namespace GeoDuels.MatchHistory

open Duel
open Ratings (winnerOf)

/-! ## The loop -/

/-- The variables of the loop. -/
structure Best where
  winner : UserID := ""
  winnerHP : ℤ := -1
  tie : Bool := false

def Best.next (b : Best) (e : Sigma fun _ : UserID => PlayerState) : Best :=
  if e.2.hp > b.winnerHP then ⟨e.1, e.2.hp, false⟩
  else if e.2.hp = b.winnerHP then { b with tie := true }
  else b

/-- `order` is the order in which Go iterates over `snap.Players`. -/
def snapshotWinner (mode : MatchMode) (order : List (Sigma fun _ : UserID => PlayerState)) : UserID :=
  if mode = .singleplayer then ""
  else
    let b := order.foldl Best.next {}
    if b.tie then "" else b.winner

/-! ## The unique best -/

/-- `u` alone has the highest value. -/
def UniqueMax (f : PlayerState → ℤ) (players : Assoc UserID PlayerState) (u : UserID) : Prop :=
  ∃ p, players.lookup u = some p ∧ ∀ v q, players.lookup v = some q → v ≠ u → f q < f p

/-- `w` is the player who alone has the highest value, or empty where there is none. -/
def Records (f : PlayerState → ℤ) (players : Assoc UserID PlayerState) (w : UserID) : Prop :=
  UniqueMax f players w ∨ (¬ ∃ u, UniqueMax f players u) ∧ w = ""

theorem UniqueMax.unique {f : PlayerState → ℤ} {players : Assoc UserID PlayerState} {u v : UserID}
    (hu : UniqueMax f players u) (hv : UniqueMax f players v) : u = v := by
  obtain ⟨p, hp, hlt⟩ := hu
  obtain ⟨q, hq, hlt'⟩ := hv
  by_contra hne
  exact lt_asymm (hlt v q hq (Ne.symm hne)) (hlt' u p hp hne)

/-- What the loop knows of the entries that it has seen. -/
structure Seen (done : List (Sigma fun _ : UserID => PlayerState)) (b : Best) : Prop where
  le : ∀ e ∈ done, e.2.hp ≤ b.winnerHP
  start : done = [] → b = {}
  winner : done ≠ [] → ∃ p, ⟨b.winner, p⟩ ∈ done ∧ p.hp = b.winnerHP
  tie : b.tie = true ↔ ∃ e ∈ done, e.1 ≠ b.winner ∧ e.2.hp = b.winnerHP

theorem Seen.next {done : List (Sigma fun _ : UserID => PlayerState)} {b : Best} (h : Seen done b)
    {e : Sigma fun _ : UserID => PlayerState} (hhp : 0 ≤ e.2.hp) (hnew : e.1 ∉ done.map (·.1)) :
    Seen (done ++ [e]) (b.next e) := by
  have hother : ∀ e' ∈ done, e'.1 ≠ e.1 := fun e' he' heq => hnew (List.mem_map.2 ⟨e', he', heq⟩)
  unfold Best.next
  split_ifs with hgt heq
  · -- a new highest value
    constructor
    · intro e' he'
      rcases List.mem_append.1 he' with he' | he'
      · exact (h.le e' he').trans (le_of_lt hgt)
      · rw [List.mem_singleton.1 he']
    · intro hnil
      simp at hnil
    · exact fun _ => ⟨e.2, List.mem_append_right _ (List.mem_singleton.2 rfl), rfl⟩
    · refine iff_of_false Bool.false_ne_true ?_
      rintro ⟨e', he', hne, hval⟩
      rcases List.mem_append.1 he' with he' | he'
      · exact absurd hval (lt_of_le_of_lt (h.le e' he') hgt).ne
      · exact hne (by rw [List.mem_singleton.1 he'])
  · -- the highest value again
    have hdone : done ≠ [] := by
      rintro rfl
      rw [h.start rfl] at heq
      simp only at heq
      omega
    obtain ⟨p, hp, hval⟩ := h.winner hdone
    constructor
    · intro e' he'
      rcases List.mem_append.1 he' with he' | he'
      · exact h.le e' he'
      · rw [List.mem_singleton.1 he', heq]
    · intro hnil
      simp at hnil
    · exact fun _ => ⟨p, List.mem_append_left _ hp, hval⟩
    · refine iff_of_true rfl ⟨e, List.mem_append_right _ (List.mem_singleton.2 rfl), ?_, heq⟩
      exact (hother _ hp).symm
  · -- a lower value
    have hlt : e.2.hp < b.winnerHP := lt_of_le_of_ne (not_lt.1 hgt) heq
    have hdone : done ≠ [] := by
      rintro rfl
      rw [h.start rfl] at hlt
      simp only at hlt
      omega
    obtain ⟨p, hp, hval⟩ := h.winner hdone
    constructor
    · intro e' he'
      rcases List.mem_append.1 he' with he' | he'
      · exact h.le e' he'
      · rw [List.mem_singleton.1 he']
        exact hlt.le
    · intro hnil
      simp at hnil
    · exact fun _ => ⟨p, List.mem_append_left _ hp, hval⟩
    · rw [h.tie]
      constructor
      · rintro ⟨e', he', hne⟩
        exact ⟨e', List.mem_append_left _ he', hne⟩
      · rintro ⟨e', he', hne, hval'⟩
        rcases List.mem_append.1 he' with he' | he'
        · exact ⟨e', he', hne, hval'⟩
        · rw [List.mem_singleton.1 he'] at hval'
          exact absurd hval' hlt.ne

theorem seen_foldl (order : List (Sigma fun _ : UserID => PlayerState))
    (hhp : ∀ e ∈ order, 0 ≤ e.2.hp) (hnd : (order.map (·.1)).Nodup) : Seen order (order.foldl Best.next {}) := by
  induction order using List.reverseRecOn with
  | nil => exact ⟨fun _ h => absurd h List.not_mem_nil, fun _ => rfl, fun h => absurd rfl h, by simp⟩
  | append_singleton done e ih =>
    rw [List.map_append, List.nodup_append] at hnd
    rw [List.foldl_append]
    refine (ih (fun e' he' => hhp e' (List.mem_append_left _ he')) hnd.1).next
      (hhp e (List.mem_append_right _ (List.mem_singleton.2 rfl))) fun hmem => ?_
    exact hnd.2.2 e.1 hmem e.1 (by simp) rfl

/-- The loop finds the player who alone has the most hit points, in whatever order it meets them. -/
theorem snapshotWinner_spec {mode : MatchMode} (hmode : mode ≠ .singleplayer)
    {players : Assoc UserID PlayerState} (hhp : ∀ u p, players.lookup u = some p → 0 ≤ p.hp)
    {order : List (Sigma fun _ : UserID => PlayerState)} (horder : order.Perm players.entries) :
    Records PlayerState.hp players (snapshotWinner mode order) := by
  have hmem : ∀ e, e ∈ order ↔ players.lookup e.1 = some e.2 := fun e =>
    horder.mem_iff.trans Assoc.mem_entries_iff
  have hseen := seen_foldl order (fun e he => hhp e.1 e.2 ((hmem e).1 he))
    ((horder.map _).nodup_iff.2 players.nodupKeys)
  have hunique : ∀ u, UniqueMax PlayerState.hp players u →
      u = (order.foldl Best.next {}).winner ∧ (order.foldl Best.next {}).tie = false := by
    rintro u ⟨p, hp, hlt⟩
    have hin : (⟨u, p⟩ : Sigma fun _ : UserID => PlayerState) ∈ order := (hmem _).2 hp
    obtain ⟨q, hq, hval⟩ := hseen.winner (List.ne_nil_of_mem hin)
    have hwin : u = (order.foldl Best.next {}).winner := by
      by_contra hne
      exact absurd (hseen.le _ hin) (not_le.2 (hval ▸ hlt _ q ((hmem _).1 hq) (Ne.symm hne)))
    refine ⟨hwin, Bool.eq_false_iff.2 fun htie => ?_⟩
    obtain ⟨e, he, hne, hsame⟩ := hseen.tie.1 htie
    have hle := hlt e.1 e.2 ((hmem e).1 he) (hwin ▸ hne)
    have hpq := hseen.le _ hin
    simp only at hpq
    omega
  unfold snapshotWinner
  rw [if_neg hmode]
  dsimp only
  split_ifs with htie
  · refine .inr ⟨?_, rfl⟩
    rintro ⟨u, hu⟩
    exact absurd htie (by rw [(hunique u hu).2]; exact Bool.false_ne_true)
  · by_cases hnil : order = []
    · refine .inr ⟨?_, ?_⟩
      · rintro ⟨u, p, hp, -⟩
        have hin : (⟨u, p⟩ : Sigma fun _ : UserID => PlayerState) ∈ order := (hmem _).2 hp
        rw [hnil] at hin
        exact absurd hin List.not_mem_nil
      · rw [hnil]
        rfl
    · obtain ⟨q, hq, hval⟩ := hseen.winner hnil
      refine .inl ⟨q, (hmem _).1 hq, fun v p hp hne => ?_⟩
      refine lt_of_le_of_ne (hval ▸ hseen.le ⟨v, p⟩ ((hmem _).2 hp)) fun heq => htie ?_
      exact hseen.tie.2 ⟨⟨v, p⟩, (hmem _).2 hp, hne, heq.trans hval⟩

/-! ## Players of a match -/

variable {F : FloatMath}

/-- The player keeps his id, and in a free-for-all his hit points unless he loses them all. -/
structure Stays (mode : MatchMode) (p p' : PlayerState) : Prop where
  userID : p'.userID = p.userID
  hp : mode = .freeForAll → p'.hp = p.hp ∨ p'.hp = 0

theorem Stays.refl (mode : MatchMode) (p : PlayerState) : Stays mode p p := ⟨rfl, fun _ => .inl rfl⟩

theorem Stays.trans {mode : MatchMode} {p p' p'' : PlayerState} (h : Stays mode p p')
    (h' : Stays mode p' p'') : Stays mode p p'' := by
  refine ⟨h'.userID.trans h.userID, fun hmode => ?_⟩
  rcases h'.hp hmode with heq | heq
  · rw [heq]
    exact h.hp hmode
  · exact .inr heq

/-- Each player stands under his id, and in a free-for-all has all hit points or none. -/
structure Entered (m : Match) : Prop where
  keyed : m.mode ≠ .teamDuel → ∀ u p, m.players.lookup u = some p → p.userID = u
  hp : m.mode = .freeForAll → ∀ u p, m.players.lookup u = some p → p.hp = 0 ∨ p.hp = startingHP

theorem entered_created {id : MatchID} {playerIDs : List UserID} {m : Match}
    (h : Created F id playerIDs m) : Entered m := by
  refine ⟨fun hmode u p hu => ?_, fun _ u p hu => .inr ((isNew_of_created h).sides.fresh u p hu).hp⟩
  obtain ⟨clk, provider, profiles, opts, e, e', hc⟩ := h
  obtain ⟨mode, firstRound, -, -, -, -, rfl⟩ := createMatchWithOptions_ok hc
  have hnew : ∀ teams players, (newMatch F clk mode id playerIDs opts firstRound teams players).mode = mode ∧
      (newMatch F clk mode id playerIDs opts firstRound teams players).players = players := by
    intro teams players
    unfold newMatch startRoundTimer
    dsimp only
    split_ifs <;> exact ⟨rfl, rfl⟩
  rw [(hnew _ _).1] at hmode
  rw [(hnew _ _).2, buildTeams, if_pos hmode, lookup_newPlayers] at hu
  split_ifs at hu
  rw [← Option.some_inj.1 hu]
  rfl

namespace Entered

variable {m m' : Match}

theorem keep (h : Entered m) (hm : m'.mode = m.mode)
    (hp : m.mode ≠ .teamDuel → Assoc.Pointwise (fun _ => Stays m.mode) m.players m'.players) : Entered m' := by
  constructor
  · rw [hm]
    intro hmode u p' hu
    obtain ⟨p, hup, hstay⟩ := (hp hmode).right hu
    rw [hstay.userID, h.keyed hmode u p hup]
  · rw [hm]
    intro hmode u p' hu
    obtain ⟨p, hup, hstay⟩ := (hp (by rw [hmode]; decide)).right hu
    rcases hstay.hp hmode with heq | heq
    · rw [heq]
      exact h.hp hmode u p hup
    · exact .inl heq

theorem setConnection (h : Entered m) (u : UserID) (off : Bool) (due : ℤ) (activity : ℕ) :
    Entered (m.setConnection u off due activity) :=
  h.keep rfl fun _ => Assoc.pointwise_modify (fun _ => Stays.refl _) fun _ _ => ⟨rfl, fun _ => .inl rfl⟩

theorem recordGuess (h : Entered m) (now : ℕ) (g : GuessPayload) : Entered (m.recordGuess now g) :=
  h.keep rfl fun _ => Assoc.pointwise_modify (fun _ => Stays.refl _) fun _ _ => ⟨rfl, fun _ => .inl rfl⟩

theorem sweep (h : Entered m) (now : ℕ) : Entered (m.sweep now) := by
  rcases sweep_eq now m with heq | ⟨out, activity, seq, -, heq⟩
  · rwa [heq]
  · rw [heq]
    refine h.keep rfl fun _ => Assoc.pointwise_mapVals fun u p _ => ?_
    split_ifs
    · exact ⟨rfl, fun _ => .inr rfl⟩
    · exact Stays.refl _ _

/-- In a free-for-all a round only adds to the scores. -/
theorem resolution_stays (hmode : m.mode ≠ .teamDuel) :
    Assoc.Pointwise (fun _ => Stays m.mode) m.players (m.resolution F).players := by
  by_cases hffa : m.mode = .freeForAll
  · have hun : Assoc.Pointwise (fun _ => Stays m.mode) m.players m.unfinalized :=
      Assoc.pointwise_mapVals fun _ _ _ => ⟨rfl, fun _ => .inl rfl⟩
    have hscores : Assoc.Pointwise (fun _ => Stays m.mode) m.unfinalized
        (resolveFreeForAll m.unfinalized (m.scores F)).1 := by
      refine Assoc.pointwise_mapVals fun u p _ => ?_
      split
      · exact Stays.refl _ _
      · exact ⟨rfl, fun _ => .inl rfl⟩
    rw [Match.resolution, settleRound_players, if_neg (not_not.2 hffa), scoreRound_freeForAll hffa]
    exact hun.trans hscores fun _ _ _ _ => Stays.trans
  · refine (resolution_plays (F := F) (m := m) fun h => absurd h hmode).mono fun _ p p' h => ?_
    refine ⟨?_, fun h => absurd h hffa⟩
    rw [h.frame]

theorem resolveRound (h : Entered m) (clk : Clock) : Entered (m.resolveRound F clk) := by
  by_cases hlive : m.state = .live
  · obtain ⟨_, _, _, -, -, heq⟩ := resolveRound_live (F := F) hlive clk
    rw [heq]
    exact h.keep rfl fun hmode => resolution_stays hmode
  · rwa [resolveRound_of_not_live hlive]

theorem advanceRound (h : Entered m) (hpending : m.pendingAdvance = true) (clk : Clock)
    (next : Except String LocationPoint) : Entered (m.advanceRound clk next) := by
  rcases advanceRound_cases hpending clk next with ⟨_, heq⟩ | ⟨_, _, _, _, _, heq⟩
  · rw [heq]
    exact h.keep rfl fun _ => .refl (fun _ => Stays.refl _) _
  · rw [heq]
    exact h.keep rfl fun _ => Assoc.pointwise_mapVals fun _ _ _ => ⟨rfl, fun _ => .inl rfl⟩

theorem announceLive (h : Entered m) (now : ℕ) : Entered (m.announceLive now) := by
  rcases announceLive_cases now m with heq | heq
  · rwa [heq]
  · rw [heq]
    exact h.keep rfl fun _ => .refl (fun _ => Stays.refl _) _

theorem tickRound (h : Entered m) (now : ℕ) (clk : Clock) : Entered (m.tickRound F now clk) := by
  unfold Match.tickRound
  split_ifs
  · exact (h.announceLive now).resolveRound clk
  · exact h.announceLive now

theorem step (h : Entered m) (mop : MatchOp) : Entered (m.step F mop) := by
  cases mop with
  | submitGuess clk g =>
    rw [step_submitGuess]
    split_ifs
    · exact h.resolveRound _
    · exact (h.recordGuess _ _).resolveRound _
    · exact h.recordGuess _ _
    · exact h
  | tick now clk hle next =>
    rw [step_tick]
    split_ifs with hlive hpending
    · exact h
    · exact h.advanceRound hpending clk next
    · exact h
    · exact (h.tickRound now clk).sweep now
  | markDisconnected clk u =>
    rw [step_markDisconnected]
    split_ifs
    · exact h.setConnection _ _ _ _
    · exact h
  | markResumed clk u =>
    rw [step_markResumed]
    split_ifs
    · exact h.setConnection _ _ _ _
    · exact h
  | forfeit clk u =>
    rw [step_forfeit]
    split_ifs
    · exact h.keep rfl fun _ => Assoc.pointwise_modify (fun _ => Stays.refl _)
        fun _ _ => ⟨rfl, fun _ => .inr rfl⟩
    · exact h

end Entered

/-! ## The winner of a match -/

/-- Only `u` has hit points left. -/
def OnlyAlive (players : Assoc UserID PlayerState) (u : UserID) : Prop :=
  ∃ p, players.lookup u = some p ∧ 0 < p.hp ∧ ∀ v q, players.lookup v = some q → v ≠ u → q.hp ≤ 0

/-- The recorded winner is right about the scores: exactly one player is left and he alone has the highest
score, or there is no such player and the highest score is shared. -/
def LeftOnTop (players : Assoc UserID PlayerState) : Prop :=
  (∃ u, OnlyAlive players u ∧ UniqueMax PlayerState.totalScore players u) ∨
    (¬ ∃ u, OnlyAlive players u) ∧ ¬ ∃ u, UniqueMax PlayerState.totalScore players u

theorem uniqueMax_hp_iff {players : Assoc UserID PlayerState}
    (hhp : ∀ u p, players.lookup u = some p → p.hp = 0 ∨ p.hp = startingHP)
    (htwo : 2 ≤ players.keys.length) (u : UserID) :
    UniqueMax PlayerState.hp players u ↔ OnlyAlive players u := by
  have hstart : (0 : ℤ) < startingHP := by decide
  constructor
  · rintro ⟨p, hp, hlt⟩
    -- a second player has fewer hit points, so the first one has some
    obtain ⟨v, hv, hne⟩ : ∃ v ∈ players.keys, v ≠ u := by
      by_contra hall
      push Not at hall
      have hsub : players.keys ⊆ [u] := fun v hv => List.mem_singleton.2 (hall v hv)
      have hlen := (List.Nodup.subperm players.keys_nodup hsub).length_le
      rw [List.length_singleton] at hlen
      omega
    obtain ⟨q, hq⟩ := Assoc.mem_iff_exists.1 (AList.mem_keys.2 hv)
    have hlow := hlt v q hq hne
    have hpos : 0 < p.hp := by
      rcases hhp u p hp with h | h <;> rcases hhp v q hq with h' | h' <;> omega
    refine ⟨p, hp, hpos, fun w r hr hw => ?_⟩
    have hless := hlt w r hr hw
    rcases hhp u p hp with h | h <;> rcases hhp w r hr with h' | h' <;> omega
  · rintro ⟨p, hp, hpos, hothers⟩
    exact ⟨p, hp, fun v q hq hne => (hothers v q hq hne).trans_lt hpos⟩

/-- In a free-for-all the winner by hit points is the one by scores exactly when `LeftOnTop`. -/
theorem records_score_iff {players : Assoc UserID PlayerState}
    (hhp : ∀ u p, players.lookup u = some p → p.hp = 0 ∨ p.hp = startingHP)
    (htwo : 2 ≤ players.keys.length) (hids : "" ∉ players) {w : UserID}
    (hw : Records PlayerState.hp players w) :
    Records PlayerState.totalScore players w ↔ LeftOnTop players := by
  have halive := uniqueMax_hp_iff hhp htwo
  have hnot : ∀ f : PlayerState → ℤ, ¬ UniqueMax f players "" := fun f ⟨p, hp, _⟩ =>
    hids (Assoc.mem_iff_exists.2 ⟨p, hp⟩)
  constructor
  · rintro (hscore | ⟨hscore, rfl⟩)
    · rcases hw with hmax | ⟨-, rfl⟩
      · exact .inl ⟨w, (halive w).1 hmax, hscore⟩
      · exact absurd hscore (hnot _)
    · rcases hw with hmax | ⟨hmax, -⟩
      · exact absurd hmax (hnot _)
      · exact .inr ⟨fun ⟨u, hu⟩ => hmax ⟨u, (halive u).2 hu⟩, hscore⟩
  · rintro (⟨u, hu, hscore⟩ | ⟨hnone, hscore⟩)
    · rcases hw with hmax | ⟨hmax, -⟩
      · obtain rfl := hmax.unique ((halive u).2 hu)
        exact .inl hscore
      · exact absurd ⟨u, (halive u).2 hu⟩ hmax
    · rcases hw with hmax | ⟨-, rfl⟩
      · exact absurd ⟨w, (halive w).1 hmax⟩ hnone
      · exact .inr ⟨hscore, rfl⟩

/-- In a duel of two the ratings are settled with the same winner. -/
theorem records_winnerOf {players : Assoc UserID PlayerState}
    (hkeyed : ∀ u p, players.lookup u = some p → p.userID = u)
    {e₁ e₂ : Sigma fun _ : UserID => PlayerState} (hpair : [e₁, e₂].Perm players.entries) :
    Records PlayerState.hp players (winnerOf e₁.2 e₂.2) := by
  have hmem : ∀ e, e ∈ [e₁, e₂] ↔ players.lookup e.1 = some e.2 := fun e =>
    hpair.mem_iff.trans Assoc.mem_entries_iff
  have h₁ := (hmem e₁).1 (List.mem_cons_self ..)
  have h₂ := (hmem e₂).1 (List.mem_cons_of_mem _ (List.mem_singleton.2 rfl))
  have hcases : ∀ v q, players.lookup v = some q → (v = e₁.1 ∧ q = e₁.2) ∨ (v = e₂.1 ∧ q = e₂.2) := by
    intro v q hq
    rcases List.mem_cons.1 ((hmem ⟨v, q⟩).2 hq) with rfl | hin
    · exact .inl ⟨rfl, rfl⟩
    · rw [List.mem_singleton] at hin
      subst hin
      exact .inr ⟨rfl, rfl⟩
  have hne : e₁.1 ≠ e₂.1 := by
    have hnd : ([e₁, e₂].map (·.1)).Nodup := (hpair.map _).nodup_iff.2 players.nodupKeys
    intro heq
    simp [heq] at hnd
  unfold winnerOf
  split_ifs with hgt hlt
  · rw [hkeyed _ _ h₁]
    refine .inl ⟨e₁.2, h₁, fun v q hq hv => ?_⟩
    rcases hcases v q hq with ⟨rfl, -⟩ | ⟨-, rfl⟩
    · exact absurd rfl hv
    · exact hgt
  · rw [hkeyed _ _ h₂]
    refine .inl ⟨e₂.2, h₂, fun v q hq hv => ?_⟩
    rcases hcases v q hq with ⟨-, rfl⟩ | ⟨rfl, -⟩
    · exact hlt
    · exact absurd rfl hv
  · refine .inr ⟨?_, rfl⟩
    rintro ⟨u, p, hp, hothers⟩
    rcases hcases u p hp with ⟨rfl, rfl⟩ | ⟨rfl, rfl⟩
    · exact hgt (hothers _ _ h₂ hne.symm)
    · exact hlt (hothers _ _ h₁ hne)

theorem Records.eq {f : PlayerState → ℤ} {players : Assoc UserID PlayerState} {w w' : UserID}
    (h : Records f players w) (h' : Records f players w') : w = w' := by
  rcases h with hw | ⟨hnone, rfl⟩ <;> rcases h' with hw' | ⟨hnone', rfl⟩
  · exact hw.unique hw'
  · exact absurd ⟨w, hw⟩ hnone'
  · exact absurd ⟨w', hw'⟩ hnone
  · rfl

/-! ## Runs -/

/-- The winner that is recorded for a free-for-all. -/
def FreeForAllRecorded (m : Match) : Prop :=
  m.mode = .freeForAll → 2 ≤ m.players.keys.length → "" ∉ m.players →
    ∀ clk order, order.Perm (m.snapshot clk).players.entries →
      (Records PlayerState.totalScore m.players (snapshotWinner (m.snapshot clk).mode order) ↔
        LeftOnTop m.players)

/-- The winner that is recorded for a duel, and the one that `RecordMatchResult` finds. -/
def DuelRecorded (m : Match) : Prop :=
  m.mode = .duel → ∀ clk order, order.Perm (m.snapshot clk).players.entries →
    ∀ e₁ e₂, [e₁, e₂].Perm (m.snapshot clk).players.entries →
      snapshotWinner (m.snapshot clk).mode order = winnerOf e₁.2 e₂.2

theorem recorded_of_inv {m : Match} (hhp : HpInv m) (hin : Entered m) :
    FreeForAllRecorded m ∧ DuelRecorded m := by
  have hnonneg : ∀ u p, m.players.lookup u = some p → 0 ≤ p.hp := fun u p hu => (hhp.players u p hu).1
  constructor
  · intro hmode htwo hids clk order horder
    refine records_score_iff (hin.hp hmode) htwo hids (snapshotWinner_spec ?_ hnonneg horder)
    rw [show (m.snapshot clk).mode = m.mode from rfl, hmode]
    decide
  · intro hmode clk order horder e₁ e₂ hpair
    have hne : (m.snapshot clk).mode ≠ .singleplayer := by
      rw [show (m.snapshot clk).mode = m.mode from rfl, hmode]
      decide
    have hkeyed := hin.keyed (by rw [hmode]; decide)
    exact (snapshotWinner_spec hne hnonneg horder).eq (records_winnerOf hkeyed hpair)

/-- In every run the winner of a free-for-all is its top scorer exactly under `LeftOnTop`, and the winner of a
duel is the one of the ratings. -/
theorem winner_recorded (F : FloatMath) (t : ℕ) (ops : List Op) :
    Run.Always (World.step F) (AllMatches fun _ m => FreeForAllRecorded m ∧ DuelRecorded m) (World.init t)
      ops := by
  refine @always_of_matchInvariant F (fun _ m => HpInv m ∧ Entered m) _ (fun _ => True)
    (fun _ _ => True) ?_ ?_ ?_ t ops ?_ ?_
  · exact fun id playerIDs m _ h => ⟨hpInv_created h, entered_created h⟩
  · exact fun id m mop _ h _ => ⟨h.1.step mop, h.2.step mop⟩
  · exact fun id m h => recorded_of_inv h.1 h.2
  · exact fun op _ => op.creates_true
  · refine (Run.guarded_true _ _).mono fun _ _ _ _ => ?_
    exact fun _ _ _ _ _ => trivial

/-- The match has ended with the result of its last round. -/
def EndedByLastRound (m : Match) : Prop :=
  m.state = .ended ∧ ∃ r, m.lastRoundResult = some r ∧ ffaRounds ≤ r.roundNumber

/-! ## Five rounds -/

def freeForAll : MatchOptions where
  mode := .freeForAll
  config := { roundTimerMode := .fixed, roundTimeLimitMS := 45000 }

/-- A round that starts at the second `n`: `u1` finds the place, `u2` does not guess. -/
def roundFrom (n round : ℕ) : List Op := [guessAt (n + 5) "u1" round, tickAt (n + 49), tickAt (n + 56)]

def fiveRounds : List Op :=
  createAt 0 freeForAll :: ((List.range 5).flatMap fun i => roundFrom (56 * i) (i + 1))

/-- What the run shows: `u1` leads by his score, both players have all their hit points. -/
def fiveRoundsEnd (m : Match) : Bool :=
  m.mode = .freeForAll ∧ m.state = .ended ∧
    (m.lastRoundResult.any fun r => ffaRounds ≤ r.roundNumber) = true ∧
    m.players.keys = ["u2", "u1"] ∧
    (m.players.lookup "u1").map (fun p => (p.hp, p.totalScore)) = some (6000, 25000) ∧
    (m.players.lookup "u2").map (fun p => (p.hp, p.totalScore)) = some (6000, 0)

theorem fiveRounds_end :
    ((Run.exec (World.step .coarse) (World.init 0) fiveRounds).bind fun w => w.find "m").any
      fiveRoundsEnd = true := by decide +kernel

/-- `u1` wins every round, and no winner is recorded. -/
theorem not_topScorer_recorded :
    ¬ ∀ (F : FloatMath) (t : ℕ) (ops : List Op),
      Run.Always (World.step F)
        (AllMatches fun _ m => m.mode = .freeForAll → EndedByLastRound m → 2 ≤ m.players.keys.length →
          m.players.keys.length ≤ 8 → ∀ clk order, order.Perm (m.snapshot clk).players.entries →
            Records PlayerState.totalScore m.players (snapshotWinner (m.snapshot clk).mode order))
        (World.init t) ops := by
  intro h
  obtain ⟨m, hm, hend⟩ := (Option.any_eq_true _ _).1 fiveRounds_end
  obtain ⟨w, hw, hfind⟩ := Option.bind_eq_some_iff.1 hm
  simp only [fiveRoundsEnd, decide_eq_true_eq] at hend
  obtain ⟨hmode, hstate, hlast, hkeys, h1, h2⟩ := hend
  obtain ⟨r, hr, hround⟩ := (Option.any_eq_true _ _).1 hlast
  obtain ⟨p, hp, hpair⟩ := Option.map_eq_some_iff.1 h1
  obtain ⟨q, hq, hpair'⟩ := Option.map_eq_some_iff.1 h2
  simp only [Prod.mk.injEq] at hpair hpair'
  have hothers : ∀ v r, m.players.lookup v = some r → v = "u2" ∨ v = "u1" := by
    intro v r hv
    have hmem : v ∈ m.players.keys := AList.mem_keys.1 (Assoc.mem_iff_exists.2 ⟨r, hv⟩)
    simpa [hkeys] using hmem
  -- the hit points are equal, the scores are not
  have hscore : UniqueMax PlayerState.totalScore m.players "u1" := by
    refine ⟨p, hp, fun v r hv hne => ?_⟩
    obtain rfl := (hothers v r hv).resolve_right hne
    rw [hq] at hv
    cases hv
    omega
  have hequal : ¬ UniqueMax PlayerState.hp m.players "u1" := by
    rintro ⟨p', hp', hlt⟩
    have hless := hlt "u2" q hq (by decide)
    rw [hp] at hp'
    cases hp'
    omega
  have hinv := (@always_of_matchInvariant _ (fun _ m => HpInv m) (fun _ m => HpInv m) (fun _ => True)
    (fun _ _ => True) (fun _ _ _ _ h => hpInv_created h) (fun _ _ mop _ h _ => h.step mop) (fun _ _ h => h)
    0 fiveRounds (fun op _ => op.creates_true)
    ((Run.guarded_true _ _).mono fun _ _ _ _ => fun _ _ _ _ _ => trivial)).exec hw "m" m hfind
  have hne : m.mode ≠ .singleplayer := by
    rw [hmode]
    decide
  have hwinner := snapshotWinner_spec hne (fun u p hu => (hinv.players u p hu).1)
    (List.Perm.refl m.players.entries)
  have hclaim := (h .coarse 0 fiveRounds).exec hw "m" m hfind hmode ⟨hstate, r, hr, of_decide_eq_true hround⟩
    (by rw [hkeys]; decide) (by rw [hkeys]; decide) (second 0) m.players.entries (.refl _)
  have hname : snapshotWinner m.mode m.players.entries = "u1" := by
    rcases hclaim with hmax | ⟨hnone, -⟩
    · exact hmax.unique hscore
    · exact absurd ⟨_, hscore⟩ hnone
  rw [hname] at hwinner
  rcases hwinner with hmax | ⟨-, hempty⟩
  · exact hequal hmax
  · exact absurd hempty (by decide)

end GeoDuels.MatchHistory
