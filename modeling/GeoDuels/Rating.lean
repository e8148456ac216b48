import GeoDuels.GoMath
import GeoDuels.Clock

/-!
# Ratings

`pkg/rating`: the Glicko update of a duel with its cap, the forgiveness of losses at a low rating
and the floor of ranked ratings.
-/

namespace GeoDuels.Rating

def initialRatingRD : ℚ := 220
def minimumRatingRD : ℚ := 110
def maximumRatingRD : ℚ := 220
def minimumRankedMMR : ℤ := 500
def maxDuelMMRDelta : ℤ := 80
def lowMMRForgivenessEndMMR : ℤ := 1000

structure State where
  mmr : ℤ
  rd : ℚ
  updatedAt : ℕ

structure Update where
  mmr : ℤ
  rd : ℚ
  delta : ℤ

def clampRD (rd : ℚ) : ℚ :=
  if rd ≤ 0 then initialRatingRD
  else if rd < minimumRatingRD then minimumRatingRD
  else if rd > maximumRatingRD then maximumRatingRD
  else rd

def clampRankedMMR (mmr : ℤ) : ℤ := if mmr < minimumRankedMMR then minimumRankedMMR else mmr

def capDelta (current next : ℤ) : ℤ :=
  let delta := next - current
  if delta > maxDuelMMRDelta then current + maxDuelMMRDelta
  else if delta < -maxDuelMMRDelta then current - maxDuelMMRDelta
  else next

def applyLowMMRLossForgiveness (current next : ℤ) : ℤ :=
  let delta := next - current
  if delta ≥ 0 ∨ current ≥ lowMMRForgivenessEndMMR then next
  else if current ≤ minimumRankedMMR then current
  else
    let rangeSize := lowMMRForgivenessEndMMR - minimumRankedMMR
    if rangeSize ≤ 0 then next
    else
      let factor : ℚ := (current - minimumRankedMMR : ℤ) / (rangeSize : ℤ)
      current + mathRound (delta * factor)

variable (F : FloatMath)

def glickoC : ℚ :=
  F.sqrt ((maximumRatingRD * maximumRatingRD - minimumRatingRD * minimumRatingRD) / 365)

def glickoG (rd : ℚ) : ℚ :=
  let q := mathLn10 / 400
  1 / F.sqrt (1 + (3 * q * q * rd * rd) / (mathPi * mathPi))

def glickoExpected (selfMMR opponentMMR : ℤ) (opponentRD : ℚ) : ℚ :=
  1 / (1 + F.pow 10 (-glickoG F opponentRD * (selfMMR - opponentMMR : ℤ) / 400))

def calculateGlickoRating (rating : ℤ) (rd : ℚ) (opponentRating : ℤ) (opponentRD score : ℚ) :
    ℤ × ℚ :=
  let rd := clampRD rd
  let opponentRD := clampRD opponentRD
  let q := mathLn10 / 400
  let g := glickoG F opponentRD
  let expected := glickoExpected F rating opponentRating opponentRD
  let dSquared := 1 / (q * q * g * g * expected * (1 - expected))
  let nextVariance := 1 / (1 / (rd * rd) + 1 / dSquared)
  let nextRating := (rating : ℚ) + q * nextVariance * g * (score - expected)
  (mathRound nextRating, clampRD (F.sqrt nextVariance))

def inflateRD (rd : ℚ) (lastUpdated now : ℕ) : ℚ :=
  let rd := clampRD rd
  if Time.isZero lastUpdated ∨ Time.isZero now ∨ now ≤ lastUpdated then rd
  else
    let inactiveDays : ℚ := ((now - lastUpdated : ℕ) : ℚ) / (60 * Time.minute : ℕ) / 24
    if inactiveDays ≤ 0 then rd
    else clampRD (F.sqrt (rd * rd + glickoC F * glickoC F * inactiveDays))

/-- The winner of a duel as `CalculateDuelUpdates` is told it. -/
inductive Winner where
  | p1 | p2 | draw
  deriving DecidableEq

def calculateDuelUpdates (p1 p2 : State) (winner : Winner) (now : ℕ) : Update × Update :=
  let p1InflatedRD := inflateRD F p1.rd p1.updatedAt now
  let p2InflatedRD := inflateRD F p2.rd p2.updatedAt now
  let (p1Score, p2Score) : ℚ × ℚ :=
    match winner with
    | .p1 => (1, 0)
    | .p2 => (0, 1)
    | .draw => (1 / 2, 1 / 2)
  let (p1MMR, p1NextRD) := calculateGlickoRating F p1.mmr p1InflatedRD p2.mmr p2InflatedRD p1Score
  let (p2MMR, p2NextRD) := calculateGlickoRating F p2.mmr p2InflatedRD p1.mmr p1InflatedRD p2Score
  let settle (current next : ℤ) :=
    clampRankedMMR (applyLowMMRLossForgiveness current (capDelta current next))
  let p1MMR := settle p1.mmr p1MMR
  let p2MMR := settle p2.mmr p2MMR
  (⟨p1MMR, p1NextRD, p1MMR - p1.mmr⟩, ⟨p2MMR, p2NextRD, p2MMR - p2.mmr⟩)

end GeoDuels.Rating
