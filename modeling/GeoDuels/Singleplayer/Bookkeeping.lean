import GeoDuels.Lib.Run
import GeoDuels.Singleplayer.Engine
import Mathlib.Data.List.Range
import Mathlib.Algebra.BigOperators.Group.List.Basic

/-!
# The bookkeeping of a singleplayer session

The progress of a session is kept in several fields (`CurrentIndex`, `RoundID`, `AwaitingAdvance`,
`RoundResults`, `TotalScore`, `State`), and finishing a round takes two requests of the client.  An
operation leaves these fields alone (`Quiet`), scores the round, starts the next one or ends the
session (`moves_step`); what ties them together (`Bookkept`) follows for every run of an engine.
-/

namespace GeoDuels.Singleplayer

/-- A call of the engine with its clock readings and the answer of the round provider. -/
inductive Op where
  | createMatch (clk : Clock) (provider : Option RoundProvider) (matchID : MatchID)
      (playerIDs : List UserID) (profiles : Assoc UserID PlayerProfile)
  | submitGuess (clk : Clock) (g : GuessPayload)
  | advanceRound (clk : Clock) (next : Except String LocationPoint) (matchID : MatchID)
      (userID : UserID)
  | forfeit (clk : Clock) (matchID : MatchID) (userID : UserID)
  | markDisconnected (clk : Clock) (matchID : MatchID) (userID : UserID)
  | markResumed (clk : Clock) (matchID : MatchID) (userID : UserID)

variable (F : FloatMath)

/-- The error that the operation returns, if any, and the engine after it. -/
def Engine.handle (e : Engine) : Op → Option String × Engine
  | .createMatch clk provider matchID playerIDs profiles =>
      match e.createMatch clk provider matchID playerIDs profiles with
      | .ok (_, e') => (none, e')
      | .error err => (some err, e)
  | .submitGuess clk g => failure (e.submitGuess F clk g)
  | .advanceRound clk next matchID userID => failure (e.advanceRound clk next matchID userID)
  | .forfeit clk matchID userID => failure (e.forfeit clk matchID userID)
  | .markDisconnected clk matchID userID => failure (e.markDisconnected clk matchID userID)
  | .markResumed clk matchID userID => failure (e.markResumed clk matchID userID)
where
  failure : Except String MatchSnapshot × Engine → Option String × Engine
    | (.ok _, e) => (none, e)
    | (.error err, e) => (some err, e)

def Engine.step (e : Engine) (op : Op) : Option Engine := some (e.handle F op).2

/-! ## What an operation does to a session -/

/-- The sum of the scores that the result records. -/
def scoreSum (r : RoundResult) : ℤ := (r.players.entries.map fun entry => entry.2.score).sum

/-- The fields that keep the progress of a session. -/
structure Progress where
  currentIndex : ℕ
  roundID : RoundID
  roundResults : List RoundResult
  totalScore : ℤ
  awaitingAdvance : Bool
  state : MatchState

def Session.progress (s : Session) : Progress where
  currentIndex := s.currentIndex
  roundID := s.roundID
  roundResults := s.roundResults
  totalScore := s.player.totalScore
  awaitingAdvance := s.awaitingAdvance
  state := s.state

/-- The progress after a round with the result `r`. -/
def Progress.score (r : RoundResult) (p : Progress) : Progress :=
  { p with
    roundResults := p.roundResults ++ [r]
    totalScore := p.totalScore + scoreSum r
    awaitingAdvance := true }

/-- How an operation moves the progress of the session `id`. -/
inductive Progress.Moves (id : MatchID) (p : Progress) : Progress → Prop
  | kept : Moves id p p
  | scored {r : RoundResult} (live : p.state = .live) (waits : p.awaitingAdvance = false)
      (number : r.roundNumber = p.currentIndex + 1) :
      Moves id p (p.score r)
  | advanced (live : p.state = .live) (waits : p.awaitingAdvance = true)
      (more : p.currentIndex + 1 < maxRounds) :
      Moves id p
        { p with
          currentIndex := p.currentIndex + 1
          roundID := Singleplayer.roundID id (p.currentIndex + 2)
          awaitingAdvance := false }
  | ended : Moves id p { p with state := .ended, awaitingAdvance := false }

/-- An operation that succeeds leaves the session as it is or counts an event, and moves its
progress. -/
structure Session.Moves (s s' : Session) : Prop where
  id : s'.id = s.id
  progress : s.progress.Moves s.id s'.progress
  counted : s' = s ∨ s.eventSeq < s'.eventSeq

theorem Session.Moves.refl (s : Session) : s.Moves s := ⟨rfl, .kept, .inl rfl⟩

variable {F} {s s' : Session}

theorem Session.progress_resolveRound (now : ℕ) {guess : Guess} (hguess : s.guess = some guess) :
    ∃ r ∈ (s.resolveRound F now).lastRoundResult, r.roundNumber = s.currentIndex + 1 ∧
      (s.resolveRound F now).progress = s.progress.score r := by
  unfold Session.resolveRound
  rw [hguess]
  refine ⟨_, rfl, rfl, ?_⟩
  simp [Session.progress, Progress.score, scoreSum]

theorem Session.moves_resolveRound (now : ℕ) (hlive : s.state = .live)
    (hwaits : s.awaitingAdvance = false) {guess : Guess} (hguess : s.guess = some guess) :
    s.progress.Moves s.id (s.resolveRound F now).progress := by
  obtain ⟨r, -, hnumber, hr⟩ := @Session.progress_resolveRound F s now _ hguess
  rw [hr]
  exact .scored hlive hwaits hnumber

theorem Session.moves_submitGuess {clk : Clock} {g : GuessPayload}
    (h : s.submitGuess F clk g = .ok s') : s.Moves s' := by
  unfold Session.submitGuess at h
  split_ifs at h with hlive huser hround hwaits hfinalize
  · cases h
    exact .refl s
  · cases h
    exact .refl s
  · cases h
    rw [not_not] at hlive
    rw [Bool.not_eq_true] at hwaits
    refine ⟨rfl, ?_, .inr (Nat.lt_of_lt_of_le (Nat.lt_succ_self _) (Nat.le_succ _))⟩
    exact @Session.moves_resolveRound F (s.recordGuess (clk.read 0) g) _ hlive hwaits _ rfl
  · cases h
    exact ⟨rfl, .kept, .inr (Nat.lt_succ_self _)⟩

theorem Session.moves_advanceRound {clk : Clock} {next : Except String LocationPoint}
    {userID : UserID} (h : s.advanceRound clk next userID = .ok s') : s.Moves s' := by
  unfold Session.advanceRound at h
  split_ifs at h with huser hlive hwaits hmore
  · cases h
    exact .refl s
  · cases h
    exact .refl s
  · cases h
    exact ⟨rfl, .ended, .inr (Nat.lt_succ_self _)⟩
  · cases next with
    | error err => cases h
    | ok nextLoc =>
        cases h
        rw [not_not] at hlive
        have hwaits : s.awaitingAdvance = true := by simpa using hwaits
        exact ⟨rfl, .advanced hlive hwaits (not_le.1 hmore),
          .inr (Nat.lt_succ_self _)⟩

theorem Session.moves_forfeit {clk : Clock} {userID : UserID} (h : s.forfeit clk userID = .ok s') :
    s.Moves s' := by
  unfold Session.forfeit at h
  split_ifs at h
  cases h
  exact ⟨rfl, .ended, .inr (Nat.lt_succ_self _)⟩

theorem Session.moves_setDisconnected {disconnected : Bool} {clk : Clock} {userID : UserID}
    (h : s.setDisconnected disconnected clk userID = .ok s') : s.Moves s' := by
  unfold Session.setDisconnected at h
  split_ifs at h
  cases h
  exact ⟨rfl, .kept, .inr (Nat.lt_succ_self _)⟩

/-! ## The engine -/

/-- The kinds of calls: one that fails, one that makes a session, one that moves a session. -/
inductive Engine.Handled (e : Engine) : Option String × Engine → Prop
  | failed (err : String) : Handled e (some err, e)
  | created {matchID : MatchID} (fresh : e.sessions.lookup matchID = none) (now : ℕ)
      (playerID : UserID) (profiles : Assoc UserID PlayerProfile) (firstRound : LocationPoint) :
      Handled e
        (none, ⟨e.sessions.insert matchID (newSession now matchID playerID profiles firstRound)⟩)
  | moved {matchID : MatchID} {s s' : Session} (found : e.sessions.lookup matchID = some s)
      (moves : s.Moves s') :
      Handled e (none, ⟨e.sessions.modify matchID fun _ => s'⟩)

variable {e : Engine}

theorem Engine.handled_onSession {f : Session → Except String Session}
    (hf : ∀ s s', f s = .ok s' → s.Moves s') (clk : Clock) (matchID : MatchID) :
    e.Handled (Engine.handle.failure (e.onSession clk matchID f)) := by
  unfold Engine.onSession
  cases hs : e.sessions.lookup matchID with
  | none => exact .failed _
  | some s =>
      cases hs' : f s with
      | error err =>
          simp only [hs']
          exact .failed err
      | ok s' =>
          simp only [hs']
          exact .moved hs (hf s s' hs')

variable (F e) in
theorem Engine.handled (op : Op) : e.Handled (e.handle F op) := by
  cases op with
  | createMatch clk provider matchID playerIDs profiles =>
      unfold Engine.handle Engine.createMatch
      match playerIDs, provider with
      | [], _ | _ :: _ :: _, _ | [_], none => exact .failed _
      | [playerID], some provider =>
          cases hfirst : provider matchID 0 with
          | error err =>
              simp only [hfirst]
              exact .failed err
          | ok firstRound =>
              simp only [hfirst]
              split_ifs with hmem
              · exact .failed _
              · exact .created (AList.lookup_eq_none.2 hmem) _ playerID profiles firstRound
  | submitGuess clk g => exact handled_onSession (fun _ _ => Session.moves_submitGuess) clk _
  | advanceRound clk next matchID userID =>
      exact handled_onSession (fun _ _ => Session.moves_advanceRound) clk matchID
  | forfeit clk matchID userID =>
      exact handled_onSession (fun _ _ => Session.moves_forfeit) clk matchID
  | markDisconnected clk matchID userID =>
      exact handled_onSession (fun _ _ => Session.moves_setDisconnected) clk matchID
  | markResumed clk matchID userID =>
      exact handled_onSession (fun _ _ => Session.moves_setDisconnected) clk matchID

/-! ## Bookkeeping -/

/-- The fields of the progress of the session `id` agree. -/
structure Progress.Bookkept (id : MatchID) (p : Progress) : Prop where
  numbers : p.roundResults.map RoundResult.roundNumber = List.range' 1 p.roundResults.length
  waiting : p.awaitingAdvance = true → p.roundResults.length = p.currentIndex + 1
  playing : p.state = .live → p.awaitingAdvance = false → p.roundResults.length = p.currentIndex
  ended : p.state = .ended →
    p.roundResults.length = p.currentIndex ∨ p.roundResults.length = p.currentIndex + 1
  atMost : p.roundResults.length ≤ maxRounds
  totalScore : p.totalScore = (p.roundResults.map scoreSum).sum
  roundID : p.roundID = Singleplayer.roundID id (p.currentIndex + 1)
  -- an ended session waits for nothing, and there are no other states
  state : p.state = .live ∨ p.state = .ended ∧ p.awaitingAdvance = false
  index : p.currentIndex < maxRounds

theorem bookkept_newSession (now : ℕ) (matchID : MatchID) (playerID : UserID)
    (profiles : Assoc UserID PlayerProfile) (firstRound : LocationPoint) :
    (newSession now matchID playerID profiles firstRound).progress.Bookkept matchID where
  numbers := rfl
  waiting := nofun
  playing _ _ := rfl
  ended := nofun
  atMost := Nat.zero_le _
  totalScore := rfl
  roundID := rfl
  state := .inl rfl
  index := Nat.zero_lt_succ 4

variable {id : MatchID} {p p' : Progress}

/-- A scored round is the next one in the list. -/
theorem Progress.Bookkept.score (h : p.Bookkept id) (hlive : p.state = .live)
    (hwaits : p.awaitingAdvance = false) {r : RoundResult} (hr : r.roundNumber = p.currentIndex + 1) :
    (p.score r).Bookkept id where
  numbers := by
    have hnumber : r.roundNumber = 1 + p.roundResults.length := by
      rw [hr, h.playing hlive hwaits, Nat.add_comm]
    simp [Progress.score, h.numbers, List.range'_concat, hnumber]
  waiting _ := by simp [Progress.score, h.playing hlive hwaits]
  playing _ := nofun
  ended hended := absurd (hlive.symm.trans hended) (by decide)
  atMost := by
    have hindex := h.index
    simp only [Progress.score, List.length_append, List.length_singleton, h.playing hlive hwaits]
    omega
  totalScore := by simp [Progress.score, h.totalScore]
  roundID := h.roundID
  state := .inl hlive
  index := h.index

theorem Progress.Moves.bookkept (h : p.Bookkept id) (hp : p.Moves id p') : p'.Bookkept id := by
  cases hp with
  | kept => exact h
  | scored hlive hwaits hr => exact h.score hlive hwaits hr
  | advanced hlive hwaits hmore =>
      exact
        { numbers := h.numbers
          waiting := nofun
          playing := fun _ _ => h.waiting hwaits
          ended := fun hended => absurd (hlive.symm.trans hended) (by decide)
          atMost := h.atMost
          totalScore := h.totalScore
          roundID := rfl
          state := .inl hlive
          index := hmore }
  | ended =>
      exact
        { numbers := h.numbers
          waiting := nofun
          playing := nofun
          ended := fun _ => by
            rcases h.state with hlive | ⟨hended, -⟩
            · cases hwaits : p.awaitingAdvance with
              | false => exact .inl (h.playing hlive hwaits)
              | true => exact .inr (h.waiting hwaits)
            · exact h.ended hended
          atMost := h.atMost
          totalScore := h.totalScore
          roundID := h.roundID
          state := .inr ⟨rfl, rfl⟩
          index := h.index }

/-- Once a session has ended, only its flag is written again, and that is down already. -/
theorem Progress.Moves.eq_of_ended (h : p.Bookkept id) (hended : p.state = .ended)
    (hp : p.Moves id p') : p' = p := by
  have hwaits : p.awaitingAdvance = false := by
    rcases h.state with hlive | ⟨-, hwaits⟩
    · rw [hlive] at hended
      cases hended
    · exact hwaits
  cases hp with
  | kept => rfl
  | scored hlive => rw [hlive] at hended; cases hended
  | advanced hlive => rw [hlive] at hended; cases hended
  | ended =>
      cases p
      simp_all

/-! ## Runs -/

/-- Every session of the engine is stored under its id, and its bookkeeping is right. -/
def Engine.Bookkept (e : Engine) : Prop :=
  ∀ matchID s, e.sessions.lookup matchID = some s → s.id = matchID ∧ s.progress.Bookkept matchID

/-- What an operation may do to a session: nothing when it fails, nothing to the progress when the
session has ended; and a change of any kind is counted. -/
structure Session.Continues (err : Option String) (s s' : Session) : Prop where
  failed : err.isSome → s' = s
  ended : s.state = .ended → s'.progress = s.progress
  eventSeq_le : s.eventSeq ≤ s'.eventSeq
  eventSeq_lt : s' ≠ s → s.eventSeq < s'.eventSeq

theorem Session.Continues.refl (err : Option String) (s : Session) : s.Continues err s :=
  ⟨fun _ => rfl, fun _ => rfl, le_rfl, fun h => absurd rfl h⟩

theorem Session.Moves.continues {s s' : Session} (h : s.Moves s') (hs : s.progress.Bookkept s.id) :
    s.Continues none s' where
  failed := nofun
  ended hended := h.progress.eq_of_ended hs hended
  eventSeq_le := by
    rcases h.counted with rfl | hlt
    · exact le_rfl
    · exact hlt.le
  eventSeq_lt hne := h.counted.resolve_left hne

variable (F) in
/-- The sessions of the engine continue. -/
def Engine.Continues (e : Engine) (op : Op) (e' : Engine) : Prop :=
  ∀ matchID s, e.sessions.lookup matchID = some s → ∃ s', e'.sessions.lookup matchID = some s' ∧
    s.Continues (e.handle F op).1 s'

variable (F) in
theorem Engine.bookkept_handle (he : e.Bookkept) (op : Op) :
    (e.handle F op).2.Bookkept ∧ e.Continues F op (e.handle F op).2 := by
  unfold Engine.Continues
  have hresult := Engine.handled F e op
  generalize e.handle F op = result at hresult
  cases hresult with
  | failed err => exact ⟨he, fun matchID s hs => ⟨s, hs, .refl _ s⟩⟩
  | @created matchID fresh now playerID profiles firstRound =>
      constructor
      · intro matchID' s hs
        rcases Assoc.of_lookup_insert hs with ⟨rfl, rfl⟩ | ⟨-, hs⟩
        · exact ⟨rfl, bookkept_newSession now _ playerID profiles firstRound⟩
        · exact he matchID' s hs
      · intro matchID' s hs
        refine ⟨s, ?_, .refl _ s⟩
        rw [Assoc.lookup_insert, if_neg, hs]
        rintro rfl
        rw [fresh] at hs
        cases hs
  | @moved matchID s s' found moves =>
      obtain ⟨rfl, hs⟩ := he matchID s found
      constructor
      · intro matchID t ht
        rw [Assoc.lookup_modify] at ht
        split_ifs at ht with hid
        · subst hid
          rw [found] at ht
          cases ht
          exact ⟨moves.id, moves.progress.bookkept hs⟩
        · exact he matchID t ht
      · intro matchID t ht
        rw [Assoc.lookup_modify]
        split_ifs with hid
        · subst hid
          rw [found] at ht
          cases ht
          exact ⟨s', by rw [found]; rfl, moves.continues hs⟩
        · exact ⟨t, ht, .refl _ t⟩

variable (F) in
/-- In every run of an engine the bookkeeping of every session is right in every state, and every
operation continues every session. -/
theorem bookkeeping (ops : List Op) :
    Run.Always (Engine.step F) Engine.Bookkept Engine.new ops ∧
      Run.Along (Engine.step F) (Engine.Continues F) Engine.new ops := by
  have hstep : ∀ e op e', e.Bookkept → True → Engine.step F e op = some e' →
      e'.Bookkept ∧ e.Continues F op e' := by
    intro e op e' he _ hs
    cases hs
    exact e.bookkept_handle F he op
  have hnew : Engine.new.Bookkept := by
    intro matchID s hs
    simp [Engine.new] at hs
  have hall := @Run.guarded_true _ _ (Engine.step F) Engine.new ops
  exact ⟨Run.always_of_invariant (fun e op e' he hC hs => (hstep e op e' he hC hs).1) hnew hall,
    Run.along_of_invariant hstep hnew hall⟩

end GeoDuels.Singleplayer
