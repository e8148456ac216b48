import GeoDuels.Contracts
import GeoDuels.Coordinator.Store
import GeoDuels.Lib.ReadCommitted
import GeoDuels.Rating

/-!
# Ratings in the database

`RecordMatchResult` and `issueCurrentMMRRefundsForCheater` of `pkg/persistence/store.go`, with one step
for each SQL statement, over the tables `users`, `ranks`, `user_stats`, `ranked_stats` and `elo_refunds`.
The players of a result come in the order in which the map of the snapshot gives them.  The finished
matches and the active season stay as they are while the transactions run; that a match belongs to a
lobby is what a statement reads of another table.  Notifications are left out.
-/

namespace GeoDuels.Ratings

open Rating (calculateDuelUpdates clampRankedMMR clampRD initialRatingRD)
open ReadCommitted (view update)

abbrev SeasonID := String

def initialMMR : ℤ := 500

/-! ## Rows -/

structure StatsRow where
  gamesPlayed : ℕ := 0
  wins : ℕ := 0
  deriving DecidableEq

structure RefundRow where
  originalDelta : ℤ
  refundDelta : ℤ
  victimMMRBefore : ℤ
  victimMMRAfter : ℤ
  deriving DecidableEq

inductive RowKey where
  | user (id : UserID)
  | rank (userID : UserID) (season : SeasonID)
  | userStats (userID : UserID)
  | rankedStats (userID : UserID) (season : SeasonID)
  | refund (userID : UserID) (matchID : MatchID) (cheater : UserID)
  deriving DecidableEq

/-- Of `users` the model knows who is a guest. -/
@[reducible] def Row : RowKey → Type
  | .user _ => Bool
  | .rank _ _ => Rating.State
  | .userStats _ | .rankedStats _ _ => StatsRow
  | .refund _ _ _ => RefundRow

abbrev DB := AList Row

/-- The readings of the clocks, and whether a lobby names the match. -/
structure Moment where
  now : ℕ := 0
  lobby : Bool := false

/-! ## Finished matches -/

structure HistoryPlayer where
  mmr : ℤ
  ratingRD : Option ℚ

/-- A row of `match_history` with its players. -/
structure HistoryMatch where
  mode : MatchMode
  endedAt : ℕ
  winnerUserID : Option UserID
  snapshot : MatchSnapshot
  players : Assoc UserID HistoryPlayer
  lobby : Bool

abbrev History := Assoc MatchID HistoryMatch

structure RefundCandidate where
  matchID : MatchID
  opponentID : UserID
  cheaterMMR : ℤ
  cheaterRD : ℚ
  originalDelta : ℤ

/-- `h.ended_at >= $4`, when there is a time. -/
def NotBefore (since : Option ℕ) (endedAt : ℕ) : Prop := ∀ t ∈ since, t ≤ endedAt

instance (since : Option ℕ) (endedAt : ℕ) : Decidable (NotBefore since endedAt) :=
  inferInstanceAs (Decidable (∀ t ∈ since, _))

/-- The candidates of one match. -/
def matchCandidates (cheater : UserID) (since : Option ℕ) (matchID : MatchID) (h : HistoryMatch) :
    List RefundCandidate :=
  match h.players.lookup cheater with
  | none => []
  | some c =>
      if h.mode = .duel ∧ h.winnerUserID = some cheater ∧ NotBefore since h.endedAt ∧
          h.snapshot.unranked = false ∧ h.lobby = false then
        h.players.keys.filterMap fun opponent =>
          if opponent = cheater then none
          else
            (h.snapshot.ratingPreview.lookup opponent).bind fun preview =>
              if preview.lose < 0 then
                some
                  { matchID := matchID
                    opponentID := opponent
                    cheaterMMR := c.mmr
                    cheaterRD := c.ratingRD.getD initialRatingRD
                    originalDelta := preview.lose }
              else none
      else []

/-- `order by ended_at asc, match_id asc`. -/
def byEnd (m m' : Σ _ : MatchID, HistoryMatch) : Prop :=
  m.2.endedAt < m'.2.endedAt ∨ m.2.endedAt = m'.2.endedAt ∧ m.1 ≤ m'.1

instance : DecidableRel byEnd := fun _ _ => inferInstanceAs (Decidable (_ ∨ _))

def refundCandidates (history : History) (cheater : UserID) (since : Option ℕ) : List RefundCandidate :=
  (history.entries.insertionSort byEnd).flatMap fun m => matchCandidates cheater since m.1 m.2

/-! ## Calls -/

/-- A snapshot whose players stand under their own ids. -/
structure FinishedMatch where
  snap : MatchSnapshot
  keyed : ∀ id p, snap.players.lookup id = some p → p.userID = id

/-- `issueRefunds` is the call in `IssueEloRefundsForCheater`, and without a time that in
`BanPlayerForCheating`. -/
inductive RatingCall where
  | recordMatchResult (finished : FinishedMatch)
  | issueRefunds (cheater : UserID) (since : Option ℕ)

inductive Side where
  | p1 | p2
  deriving DecidableEq

/-- The statements of `ensure`. -/
inductive Ensure where
  | user | rank | userStats | rankedStats
  deriving DecidableEq

inductive RecordAt where
  | ensure (side : Side) (row : Ensure)
  | guest (side : Side)
  | lobby
  | lock (side : Side)
  | updateRank (side : Side)
  | userStats (side : Side)
  | rankedStats (side : Side)
  | commit
  deriving DecidableEq

/-- A change of a row of `ranks`. -/
inductive Change where
  | insert (now : ℕ)
  | result (side : Side) (opponent : Rating.State) (winner : Rating.Winner) (now : ℕ)
  | refund (item : RefundCandidate) (now updatedAt : ℕ)

/-- A transaction of `RecordMatchResult` with its variables; `changes` are those that it has made of
`ranks`. -/
structure ResultTx where
  p1 : UserID
  p2 : UserID
  matchID : MatchID
  season : SeasonID
  winner : UserID
  unranked : Bool
  at_ : RecordAt
  guest1 : Bool := false
  guest2 : Bool := false
  rated : Bool := false
  now : ℕ := 0
  rating1 : Rating.State := ⟨0, 0, 0⟩
  rating2 : Rating.State := ⟨0, 0, 0⟩
  changes : List ((UserID × SeasonID) × Change) := []
  own : DB := ∅

structure RefundSummary where
  refundsIssued : ℕ := 0
  totalRefunded : ℤ := 0
  deriving DecidableEq

inductive RefundAt where
  | candidates
  | lock
  | insert (before after refundDelta : ℤ) (now : ℕ)
  | update (after refundDelta : ℤ) (now : ℕ)

/-- A transaction that issues refunds, with the candidates that are left; the first of them is the one
that its statements are about. -/
structure RefundTx where
  cheater : UserID
  since : Option ℕ
  season : SeasonID
  at_ : RefundAt
  rest : List RefundCandidate := []
  summary : RefundSummary := {}
  changes : List ((UserID × SeasonID) × Change) := []
  own : DB := ∅

inductive RatingProc where
  | result (t : ResultTx)
  | refund (t : RefundTx)
  /-- The result of a match that has not two players is not recorded. -/
  | nothing

def RatingProc.own : RatingProc → DB
  | .result t => t.own
  | .refund t => t.own
  | .nothing => ∅

def RatingProc.changes : RatingProc → List ((UserID × SeasonID) × Change)
  | .result t => t.changes
  | .refund t => t.changes
  | .nothing => []

/-- The winner by hit points. -/
def winnerOf (p1 p2 : PlayerState) : UserID :=
  if p1.hp > p2.hp then p1.userID else if p2.hp > p1.hp then p2.userID else ""

variable (active : SeasonID)

def RatingCall.begin : RatingCall → RatingProc
  | .recordMatchResult finished =>
      match finished.snap.players.entries with
      | [⟨_, p1⟩, ⟨_, p2⟩] =>
          let season := String.ofList (Coordinator.trimSpace finished.snap.seasonID)
          .result
            { p1 := p1.userID, p2 := p2.userID, matchID := finished.snap.matchID
              season := if season = "" then active else season
              winner := winnerOf p1 p2, unranked := finished.snap.unranked
              at_ := .ensure .p1 .user }
      | _ => .nothing
  | .issueRefunds cheater since =>
      .refund { cheater := cheater, since := since, season := active, at_ := .candidates }

/-! ## Recording a result -/

namespace ResultTx

variable (t : ResultTx)

def player : Side → UserID
  | .p1 => t.p1
  | .p2 => t.p2

def isGuest : Side → Bool
  | .p1 => t.guest1
  | .p2 => t.guest2

def rating : Side → Rating.State
  | .p1 => t.rating1
  | .p2 => t.rating2

def setGuest (guest : Bool) : Side → ResultTx
  | .p1 => { t with guest1 := guest }
  | .p2 => { t with guest2 := guest }

def setRating (rating : Rating.State) : Side → ResultTx
  | .p1 => { t with rating1 := rating }
  | .p2 => { t with rating2 := rating }

def matchWinner : Rating.Winner :=
  if t.winner = t.p1 then .p1 else if t.winner = t.p2 then .p2 else .draw

/-- The key of a row of the player. -/
def key (side : Side) : Ensure → RowKey
  | .user => .user (t.player side)
  | .rank => .rank (t.player side) t.season
  | .userStats => .userStats (t.player side)
  | .rankedStats => .rankedStats (t.player side) t.season

/-- The row that `ensure` inserts. -/
def newRow (side : Side) (now : ℕ) : (row : Ensure) → Row (t.key side row)
  | .user => true
  | .rank => { mmr := initialMMR, rd := initialRatingRD, updatedAt := now }
  | .userStats | .rankedStats => {}

/-- The place after the ranks have been locked, or need not be. -/
def afterLocks : RecordAt :=
  if t.rated ∧ ¬ t.guest1 then .updateRank .p1
  else if t.rated ∧ ¬ t.guest2 then .updateRank .p2
  else .userStats .p1

def after : RecordAt → RecordAt
  | .ensure side .user => .ensure side .rank
  | .ensure side .rank => .ensure side .userStats
  | .ensure side .userStats => .ensure side .rankedStats
  | .ensure .p1 .rankedStats => .ensure .p2 .user
  | .ensure .p2 .rankedStats => .guest .p1
  | .guest .p1 => .guest .p2
  | .guest .p2 => .lobby
  | .lobby => if t.rated then .lock .p1 else t.afterLocks
  | .lock .p1 => .lock .p2
  | .lock .p2 => t.afterLocks
  | .updateRank .p1 => if t.guest2 then .userStats .p1 else .updateRank .p2
  | .updateRank .p2 => .userStats .p1
  | .userStats .p1 => .userStats .p2
  | .userStats .p2 =>
      if t.rated ∧ ¬ t.guest1 then .rankedStats .p1
      else if t.rated ∧ ¬ t.guest2 then .rankedStats .p2
      else .commit
  | .rankedStats .p1 => if t.guest2 then .commit else .rankedStats .p2
  | .rankedStats .p2 | .commit => .commit

/-- The transaction goes on after the statement at `at_`, which has written `rows`. -/
def goOn (at_ : RecordAt) (rows : DB) : ResultTx := { t with at_ := t.after at_, own := view rows t.own }

/-- `games_played = games_played + 1` and the wins. -/
def countGame (side : Side) (row : StatsRow) : StatsRow :=
  { gamesPlayed := row.gamesPlayed + 1
    wins := row.wins + if t.player side = t.winner then 1 else 0 }

variable (F : FloatMath)

/-- The update that `CalculateDuelRatingUpdates` gives for the player. -/
def ratingUpdate (side : Side) : Rating.Update :=
  let updates := calculateDuelUpdates F t.rating1 t.rating2 t.matchWinner t.now
  match side with
  | .p1 => updates.1
  | .p2 => updates.2

def other : Side → Side
  | .p1 => .p2
  | .p2 => .p1

/-- The transaction after a statement, or `none` when it fails. -/
def step (seen : DB) (m : Moment) : RecordAt → Option ResultTx
  | .ensure side row =>
      if t.player side = "" then none
      else if t.key side row ∈ seen then some (t.goOn (.ensure side row) ∅)
      else
        let t' :=
          if row = .rank then { t with changes := t.changes ++ [((t.player side, t.season), .insert m.now)] }
          else t
        some (t'.goOn (.ensure side row) (AList.insert (t.key side row) (t.newRow side m.now row) ∅))
  | .guest side =>
      (seen.lookup (.user (t.player side))).map fun guest => (t.setGuest guest side).goOn (.guest side) ∅
  | .lobby =>
      let rated := t.unranked = false ∧ ¬ (t.matchID ≠ "" ∧ m.lobby) ∧ ¬ (t.guest1 ∧ t.guest2)
      some ({ t with rated := rated, now := m.now }.goOn .lobby ∅)
  | .lock side =>
      (seen.lookup (.rank (t.player side) t.season)).map fun row : Rating.State =>
        (t.setRating row side).goOn (.lock side) (AList.insert (.rank (t.player side) t.season) row ∅)
  | .updateRank side =>
      let u := t.ratingUpdate F side
      let change : Change := .result side (t.rating (other side)) t.matchWinner t.now
      some ({ t with changes := t.changes ++ [((t.player side, t.season), change)] }.goOn (.updateRank side)
        (update seen (.rank (t.player side) t.season) fun _ : Rating.State =>
          some ⟨u.mmr, u.rd, t.now⟩))
  | .userStats side =>
      some (t.goOn (.userStats side) (update seen (.userStats (t.player side)) fun row : StatsRow =>
        some (t.countGame side row)))
  | .rankedStats side =>
      some (t.goOn (.rankedStats side)
        (update seen (.rankedStats (t.player side) t.season) fun row : StatsRow =>
          some (t.countGame side row)))
  | .commit => none

end ResultTx

/-! ## Refunds -/

/-- The rating after the refund and the refund itself, for a victim whose rating is `current`. -/
def refundOf (F : FloatMath) (current : Rating.State) (item : RefundCandidate) (now : ℕ) :
    Option (ℤ × ℤ) :=
  let victimWin :=
    (calculateDuelUpdates F current ⟨item.cheaterMMR, item.cheaterRD, now⟩ .p1 now).1
  let refundDelta := victimWin.delta
  if refundDelta ≤ 0 then none
  else
    let originalLoss := -item.originalDelta
    let refundDelta := if refundDelta > originalLoss then originalLoss else refundDelta
    let before := current.mmr
    let after := clampRankedMMR (before + refundDelta)
    let refundDelta := after - before
    if refundDelta ≤ 0 then none else some (after, refundDelta)

namespace RefundTx

variable (t : RefundTx)

/-- `continue` with the next candidate. -/
def skip (rest : List RefundCandidate) (rows : DB) : RefundTx :=
  { t with at_ := .lock, rest := rest, own := view rows t.own }

/-- The transaction after a statement, or `none` when it has come to the commit. -/
def step (F : FloatMath) (history : History) (seen : DB) (m : Moment) :
    RefundAt → List RefundCandidate → Option RefundTx
  | .candidates, _ => some { t with at_ := .lock, rest := refundCandidates history t.cheater t.since }
  | _, [] => none
  | .lock, item :: rest =>
      match (seen.lookup (.rank item.opponentID t.season) : Option Rating.State) with
      | none => some (t.skip rest ∅)
      | some current =>
          let rows : DB := AList.insert (.rank item.opponentID t.season) current ∅
          match refundOf F current item m.now with
          | none => some (t.skip rest rows)
          | some (after, refundDelta) =>
              some { t with at_ := .insert current.mmr after refundDelta m.now, own := view rows t.own }
  | .insert before after refundDelta now, item :: rest =>
      let key : RowKey := .refund item.opponentID item.matchID t.cheater
      if key ∈ seen then some (t.skip rest ∅)
      else
        let row : RefundRow :=
          { originalDelta := item.originalDelta, refundDelta := refundDelta
            victimMMRBefore := before, victimMMRAfter := after }
        some { t with at_ := .update after refundDelta now, own := view (AList.insert key row ∅) t.own }
  | .update after refundDelta now, item :: rest =>
      let t' : RefundTx :=
        { t with
          summary :=
            { refundsIssued := t.summary.refundsIssued + 1
              totalRefunded := t.summary.totalRefunded + refundDelta }
          changes := t.changes ++ [((item.opponentID, t.season), .refund item now m.now)] }
      some (t'.skip rest (update seen (.rank item.opponentID t.season) fun row : Rating.State =>
        some { row with mmr := after, updatedAt := m.now }))

end RefundTx

/-! ## The program -/

variable (F : FloatMath) (history : History)

/-- A transaction that has no statement left commits. -/
def RatingProc.run : RatingProc → DB → Moment → DB × Option RatingProc
  | .result t, db, m =>
      if t.at_ = .commit then (t.own, none) else (∅, (t.step F (view t.own db) m t.at_).map .result)
  | .refund t, db, m =>
      match t.step F history (view t.own db) m t.at_ t.rest with
      | none => (t.own, none)
      | some t' => (∅, some (.refund t'))
  | .nothing, _, _ => (∅, none)

def ratingProgram : ReadCommitted.Program Row where
  Call := RatingCall
  Proc := RatingProc
  Env := Moment
  begin := RatingCall.begin active
  own := RatingProc.own
  own_begin := by
    rintro (finished | ⟨cheater, since⟩)
    · simp only [RatingCall.begin]
      split <;> rfl
    · rfl
  run := RatingProc.run F history

abbrev RatingWorld := ReadCommitted.World (ratingProgram active F history)

abbrev RatingAct := ReadCommitted.Act (ratingProgram active F history)

end GeoDuels.Ratings
