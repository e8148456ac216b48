import GeoDuels.Rating.Settled

/-!
# Ratings in the browser

`apps/web/lib/elo.ts` repeats the cap, the forgiveness and the floor of the server, on numbers that are
exact rationals here.  `Math.round` and Go's `math.Round` differ on the negative halves, and so do the
two settled ratings (`settledRating_eq_iff`).
-/

namespace GeoDuels.Elo

def maxDuelMmrDelta : ℤ := 80
def minRankedMmr : ℤ := 500
def lowMmrForgivenessEndMmr : ℤ := 1000

/-- `Math.round`: to the nearest integer, half towards positive infinity. -/
def jsMathRound (x : ℚ) : ℤ := ⌊x + 1 / 2⌋

def capRatingDelta (current next : ℤ) : ℤ :=
  let delta := next - current
  if delta > maxDuelMmrDelta then current + maxDuelMmrDelta
  else if delta < -maxDuelMmrDelta then current - maxDuelMmrDelta
  else next

def applyLowMmrLossForgiveness (current next : ℤ) : ℤ :=
  let delta := next - current
  if delta ≥ 0 ∨ current ≥ lowMmrForgivenessEndMmr then next
  else if current ≤ minRankedMmr then current
  else
    let rangeSize := lowMmrForgivenessEndMmr - minRankedMmr
    if rangeSize ≤ 0 then next
    else
      let factor : ℚ := (current - minRankedMmr : ℤ) / (rangeSize : ℤ)
      current + jsMathRound (delta * factor)

def clampRankedMmr (mmr : ℤ) : ℤ := if mmr < minRankedMmr then minRankedMmr else mmr

/-- The rating that `calculateDuelEloDeltas` makes of the raw one. -/
def settledRating (current next : ℤ) : ℤ :=
  clampRankedMmr (applyLowMmrLossForgiveness current (capRatingDelta current next))

open Rating (settledMMR capDelta applyLowMMRLossForgiveness cappedLoss minimumRankedMMR
  lowMMRForgivenessEndMMR maxDuelMMRDelta)

/-! ## The two roundings -/

/-- `Math.round` of a fraction, as an integer division. -/
theorem jsMathRound_neg_div (n : ℤ) {d : ℕ} (hd : 0 < d) :
    jsMathRound (-((n : ℚ) / d)) = (d - 2 * n) / (2 * d : ℕ) := by
  have hdq : (0 : ℚ) < d := by exact_mod_cast hd
  rw [jsMathRound, ← Rat.floor_intCast_div_natCast]
  congr 1
  push_cast
  field_simp
  ring

theorem capRatingDelta_eq (current next : ℤ) : capRatingDelta current next = capDelta current next :=
  rfl

/-- Outside of the forgiveness the browser computes as the server does. -/
theorem applyLowMmrLossForgiveness_eq {current next : ℤ}
    (h : ¬ (minimumRankedMMR < current ∧ current < lowMMRForgivenessEndMMR ∧ next < current)) :
    applyLowMmrLossForgiveness current next = applyLowMMRLossForgiveness current next := by
  unfold applyLowMmrLossForgiveness applyLowMMRLossForgiveness
  unfold minimumRankedMMR lowMMRForgivenessEndMMR at *
  unfold minRankedMmr lowMmrForgivenessEndMmr
  dsimp only
  split_ifs <;> first
    | rfl
    | omega

theorem applyLowMmrLossForgiveness_loss {current loss : ℤ} (hloss : 0 < loss)
    (hlow : minimumRankedMMR < current) (hend : current < lowMMRForgivenessEndMMR) :
    applyLowMmrLossForgiveness current (current - loss) =
      current + (500 - 2 * (loss * (current - 500))) / 1000 := by
  unfold minimumRankedMMR at hlow
  unfold lowMMRForgivenessEndMMR at hend
  have hdelta : current - loss - current = -loss := by ring
  have hfactor : ((-loss : ℤ) : ℚ) * (((current - 500 : ℤ) : ℚ) / ((1000 - 500 : ℤ) : ℚ)) =
      -((loss * (current - 500) : ℤ) / (500 : ℕ)) := by
    push_cast
    ring
  unfold applyLowMmrLossForgiveness lowMmrForgivenessEndMmr minRankedMmr
  dsimp only
  rw [hdelta, if_neg (by omega), if_neg (by omega), if_neg (by omega), hfactor,
    jsMathRound_neg_div _ (by decide)]
  push_cast
  ring_nf

/-! ## The settled ratings -/

/-- The forgiven part of the loss ends on one half of a point. -/
def EndsOnHalf (current next : ℤ) : Prop :=
  minimumRankedMMR < current ∧ current < lowMMRForgivenessEndMMR ∧ next < current ∧
    cappedLoss current next * (current - minimumRankedMMR) % 500 = 250

/-- The browser shows the rating that the server applies, unless the forgiven loss ends on one half of
a point. -/
theorem settledRating_eq_iff (current next : ℤ) :
    settledRating current next = settledMMR current next ↔ ¬ EndsOnHalf current next := by
  by_cases hlow : minimumRankedMMR < current ∧ current < lowMMRForgivenessEndMMR ∧ next < current
  · obtain ⟨hfloor, hend, hlt⟩ := hlow
    obtain ⟨hnonneg, hle⟩ := Rating.scaledLoss_bounds hfloor.le hlt
    have hcap := Rating.capDelta_of_lt hlt
    have hpos := Rating.cappedLoss_pos hlt
    have hclamp : minRankedMmr ≤
        current + (500 - 2 * (cappedLoss current next * (current - 500))) / 1000 := by
      unfold minRankedMmr minimumRankedMMR at *
      omega
    rw [settledRating, capRatingDelta_eq, hcap, applyLowMmrLossForgiveness_loss hpos hfloor hend,
      clampRankedMmr, if_neg (not_lt.2 hclamp), Rating.settledMMR_of_low hfloor.le hend hlt,
      Rating.forgivenLoss, EndsOnHalf]
    simp only [hfloor, hend, hlt, true_and]
    unfold minimumRankedMMR
    omega
  · have hsame : settledRating current next = settledMMR current next := by
      have hcap : capDelta current next < current → next < current := by
        unfold capDelta maxDuelMMRDelta
        dsimp only
        split_ifs <;> omega
      rw [settledRating, settledMMR, capRatingDelta_eq, applyLowMmrLossForgiveness_eq]
      · rfl
      · exact fun h => hlow ⟨h.1, h.2.1, hcap h.2.2⟩
    exact iff_of_true hsame fun h => hlow ⟨h.1, h.2.1, h.2.2.1⟩

/-- A loss of one point at 750: the server takes it, the browser shows none. -/
theorem settledRating_ne_halfway :
    ¬ ∀ current next, settledRating current next = settledMMR current next := by
  intro h
  have hne : settledRating 750 749 ≠ settledMMR 750 749 := by decide +kernel
  exact hne (h 750 749)

end GeoDuels.Elo
