import GeoDuels.Rating
import Mathlib.Data.Int.ConditionallyCompleteOrder

/-!
# The settled rating

The raw rating of the Glicko formula is capped, a loss at a low rating is forgiven in part, and the
result is kept above the floor.  Where the forgiveness applies, its rounding is an integer division
(`settledMMR_eq`), and all bounds and the order of ratings follow from that formula.
-/

namespace GeoDuels

/-- `math.Round` of a negative fraction, as an integer division. -/
theorem mathRound_neg_div {n : ℤ} (hn : 0 ≤ n) {d : ℕ} (hd : 0 < d) :
    mathRound (-((n : ℚ) / d)) = -((2 * n + d) / (2 * d : ℕ)) := by
  have hdq : (0 : ℚ) < d := by exact_mod_cast hd
  have hfloor : ⌊(n : ℚ) / d + 1 / 2⌋ = (2 * n + d) / (2 * d : ℕ) := by
    rw [← Rat.floor_intCast_div_natCast]
    congr 1
    push_cast
    field_simp
  rcases hn.eq_or_lt with rfl | hn
  · have hzero : ((2 * 0 + d : ℤ) / (2 * d : ℕ)) = 0 :=
      Int.ediv_eq_zero_of_lt (by omega) (by push_cast; omega)
    rw [hzero]
    simpa using mathRound_zero
  · have hneg : ¬ (0 : ℚ) ≤ -((n : ℚ) / d) := by
      have hnq : (0 : ℚ) < n := by exact_mod_cast hn
      have hpos := div_pos hnq hdq
      linarith
    rw [mathRound, if_neg hneg, neg_neg, hfloor]

namespace Rating

/-- The rating that `CalculateDuelUpdates` makes of the raw one. -/
def settledMMR (current next : ℤ) : ℤ :=
  clampRankedMMR (applyLowMMRLossForgiveness current (capDelta current next))

theorem calculateDuelUpdates_settled (F : FloatMath) (p1 p2 : State) (winner : Winner) (now : ℕ) :
    ∃ next1 next2, (calculateDuelUpdates F p1 p2 winner now).1.mmr = settledMMR p1.mmr next1 ∧
      (calculateDuelUpdates F p1 p2 winner now).2.mmr = settledMMR p2.mmr next2 := by
  cases winner <;> exact ⟨_, _, rfl, rfl⟩

/-- What the forgiveness leaves of a loss of `loss` points. -/
theorem applyLowMMRLossForgiveness_loss {current loss : ℤ} (hloss : 0 < loss)
    (hlow : minimumRankedMMR < current) (hend : current < lowMMRForgivenessEndMMR) :
    applyLowMMRLossForgiveness current (current - loss) =
      current - (2 * (loss * (current - 500)) + 500) / 1000 := by
  unfold minimumRankedMMR at hlow
  unfold lowMMRForgivenessEndMMR at hend
  have hdelta : current - loss - current = -loss := by ring
  have hfactor : ((-loss : ℤ) : ℚ) * (((current - 500 : ℤ) : ℚ) / ((1000 - 500 : ℤ) : ℚ)) =
      -((loss * (current - 500) : ℤ) / (500 : ℕ)) := by
    push_cast
    ring
  unfold applyLowMMRLossForgiveness lowMMRForgivenessEndMMR minimumRankedMMR
  dsimp only
  rw [hdelta, if_neg (by omega), if_neg (by omega), if_neg (by omega), hfactor,
    mathRound_neg_div (mul_nonneg hloss.le (by omega)) (by decide)]
  push_cast
  ring

/-- A loss after the cap. -/
def cappedLoss (current next : ℤ) : ℤ := min maxDuelMMRDelta (current - next)

/-- The points of a loss, scaled by how far the rating is above the floor. -/
def forgivenLoss (current next : ℤ) : ℤ :=
  (2 * (cappedLoss current next * (current - minimumRankedMMR)) + 500) / 1000

theorem cappedLoss_pos {current next : ℤ} (h : next < current) : 0 < cappedLoss current next := by
  unfold cappedLoss maxDuelMMRDelta
  omega

theorem capDelta_of_lt {current next : ℤ} (h : next < current) :
    capDelta current next = current - cappedLoss current next := by
  unfold capDelta cappedLoss maxDuelMMRDelta
  dsimp only
  split_ifs <;> omega

theorem settledMMR_of_le {current next : ℤ} (hfloor : minimumRankedMMR ≤ current)
    (h : current ≤ next) : settledMMR current next = min next (current + maxDuelMMRDelta) := by
  unfold settledMMR clampRankedMMR applyLowMMRLossForgiveness capDelta
  unfold minimumRankedMMR at *
  unfold maxDuelMMRDelta
  dsimp only
  split_ifs <;> omega

theorem settledMMR_of_high {current next : ℤ} (hend : lowMMRForgivenessEndMMR ≤ current)
    (h : next < current) : settledMMR current next = current - cappedLoss current next := by
  unfold settledMMR clampRankedMMR applyLowMMRLossForgiveness capDelta cappedLoss
  unfold lowMMRForgivenessEndMMR at *
  unfold minimumRankedMMR maxDuelMMRDelta
  dsimp only
  split_ifs <;> omega

/-- The scaled loss is a small part of what is above the floor. -/
theorem scaledLoss_bounds {current next : ℤ} (hfloor : minimumRankedMMR ≤ current)
    (h : next < current) :
    0 ≤ cappedLoss current next * (current - minimumRankedMMR) ∧
      cappedLoss current next * (current - minimumRankedMMR) ≤ 80 * (current - minimumRankedMMR) := by
  have hpos := cappedLoss_pos h
  have hcap : cappedLoss current next ≤ 80 := min_le_left _ _
  exact ⟨mul_nonneg hpos.le (by omega), mul_le_mul_of_nonneg_right hcap (by omega)⟩

theorem settledMMR_of_low {current next : ℤ} (hfloor : minimumRankedMMR ≤ current)
    (hend : current < lowMMRForgivenessEndMMR) (h : next < current) :
    settledMMR current next = current - forgivenLoss current next := by
  obtain ⟨hnonneg, hle⟩ := scaledLoss_bounds hfloor h
  have hcap := capDelta_of_lt h
  have hpos := cappedLoss_pos h
  rcases hfloor.eq_or_lt with hfloor | hfloor
  · have hfree : applyLowMMRLossForgiveness current (capDelta current next) = current := by
      unfold applyLowMMRLossForgiveness
      dsimp only
      rw [if_neg (by omega), if_pos (by omega)]
    rw [settledMMR, hfree, clampRankedMMR, if_neg (by omega), forgivenLoss, ← hfloor]
    simp
  · rw [settledMMR, hcap, applyLowMMRLossForgiveness_loss hpos hfloor hend, clampRankedMMR,
      if_neg, forgivenLoss]
    · rfl
    · unfold minimumRankedMMR at *
      omega

theorem forgivenLoss_bounds {current next : ℤ} (hfloor : minimumRankedMMR ≤ current)
    (hend : current < lowMMRForgivenessEndMMR) (h : next < current) :
    0 ≤ forgivenLoss current next ∧ forgivenLoss current next ≤ cappedLoss current next ∧
      forgivenLoss current next ≤ current - minimumRankedMMR := by
  obtain ⟨hnonneg, hle⟩ := scaledLoss_bounds hfloor h
  have hpos := cappedLoss_pos h
  have hpart : cappedLoss current next * (current - minimumRankedMMR) ≤
      cappedLoss current next * 499 := by
    apply mul_le_mul_of_nonneg_left _ hpos.le
    unfold minimumRankedMMR lowMMRForgivenessEndMMR at *
    omega
  unfold forgivenLoss
  omega

/-- Every raw loss is settled as a smaller one that keeps the floor. -/
theorem settledMMR_of_lt {current next : ℤ} (hfloor : minimumRankedMMR ≤ current)
    (h : next < current) :
    ∃ loss, settledMMR current next = current - loss ∧ 0 ≤ loss ∧ loss ≤ cappedLoss current next ∧
      loss ≤ current - minimumRankedMMR := by
  rcases lt_or_ge current lowMMRForgivenessEndMMR with hend | hend
  · exact ⟨_, settledMMR_of_low hfloor hend h, forgivenLoss_bounds hfloor hend h⟩
  · refine ⟨_, settledMMR_of_high hend h, ?_⟩
    unfold cappedLoss maxDuelMMRDelta minimumRankedMMR lowMMRForgivenessEndMMR at *
    omega

/-! ## Bounds and order -/

theorem settledMMR_mono {current : ℤ} (hfloor : minimumRankedMMR ≤ current) :
    Monotone (settledMMR current) := by
  intro next next' hle
  rcases lt_or_ge next' current with h' | h'
  · have h := hle.trans_lt h'
    have hloss : cappedLoss current next' ≤ cappedLoss current next := by
      unfold cappedLoss
      omega
    rcases lt_or_ge current lowMMRForgivenessEndMMR with hend | hend
    · rw [settledMMR_of_low hfloor hend h, settledMMR_of_low hfloor hend h']
      have hscaled := mul_le_mul_of_nonneg_right hloss (sub_nonneg.2 hfloor)
      unfold forgivenLoss
      omega
    · rw [settledMMR_of_high hend h, settledMMR_of_high hend h']
      omega
  · rw [settledMMR_of_le hfloor h']
    rcases lt_or_ge next current with h | h
    · obtain ⟨loss, heq, hnonneg, -⟩ := settledMMR_of_lt hfloor h
      unfold maxDuelMMRDelta
      omega
    · rw [settledMMR_of_le hfloor h]
      omega

/-- The settled ratings of two players with the same raw change keep their order: between neighbours
the loss that is left grows by less than one half, so that rounding skips no point. -/
theorem settledMMR_order {current other : ℤ} (hfloor : minimumRankedMMR ≤ current)
    (hlt : current < other) (delta : ℤ) :
    settledMMR current (current + delta) ≤ settledMMR other (other + delta) := by
  have hfloor' := hfloor.trans hlt.le
  rcases lt_or_ge delta 0 with hdelta | hdelta
  · have h : current + delta < current := by omega
    have h' : other + delta < other := by omega
    have hloss : cappedLoss other (other + delta) = cappedLoss current (current + delta) := by
      unfold cappedLoss
      omega
    have hcap : cappedLoss current (current + delta) ≤ 80 := min_le_left _ _
    rcases lt_or_ge other lowMMRForgivenessEndMMR with hend' | hend'
    · rw [settledMMR_of_low hfloor (hlt.trans hend') h, settledMMR_of_low hfloor' hend' h',
        forgivenLoss, forgivenLoss, hloss]
      have hgap := mul_le_mul_of_nonneg_right hcap (sub_nonneg.2 hlt.le)
      have hsplit : cappedLoss current (current + delta) * (other - minimumRankedMMR) =
          cappedLoss current (current + delta) * (current - minimumRankedMMR) +
            cappedLoss current (current + delta) * (other - current) := by
        ring
      omega
    · rw [settledMMR_of_high hend' h', hloss]
      rcases lt_or_ge current lowMMRForgivenessEndMMR with hend | hend
      · rw [settledMMR_of_low hfloor hend h, forgivenLoss]
        have hgap := mul_le_mul_of_nonneg_right hcap (sub_nonneg.2 hend.le)
        have hsplit : cappedLoss current (current + delta) * (current - minimumRankedMMR) =
            cappedLoss current (current + delta) * 500 -
              cappedLoss current (current + delta) * (lowMMRForgivenessEndMMR - current) := by
          unfold minimumRankedMMR lowMMRForgivenessEndMMR
          ring
        omega
      · rw [settledMMR_of_high hend h]
        omega
  · rw [settledMMR_of_le hfloor (by omega), settledMMR_of_le hfloor' (by omega)]
    omega

/-- The settled rating of a player who has `current` points. -/
structure Fair (current : ℤ) : Prop where
  floor : ∀ next, minimumRankedMMR ≤ settledMMR current next
  capped : ∀ next, |settledMMR current next - current| ≤ maxDuelMMRDelta
  sign : ∀ next, settledMMR current next = current ∨
    Int.sign (settledMMR current next - current) = Int.sign (next - current)
  loss : ∀ next, settledMMR current next < current →
    current - settledMMR current next ≤ min maxDuelMMRDelta (current - next)
  mono : Monotone (settledMMR current)
  order : ∀ other delta, current < other →
    settledMMR current (current + delta) ≤ settledMMR other (other + delta)

/-- From a rating above the floor every raw rating is settled fairly. -/
theorem fair_of_floor_le {current : ℤ} (hfloor : minimumRankedMMR ≤ current) : Fair current := by
  have hcases : ∀ next,
      (next < current ∧ ∃ loss, settledMMR current next = current - loss ∧ 0 ≤ loss ∧
        loss ≤ cappedLoss current next ∧ loss ≤ current - minimumRankedMMR) ∨
      current ≤ next ∧ settledMMR current next = min next (current + maxDuelMMRDelta) := by
    intro next
    rcases lt_or_ge next current with h | h
    · exact .inl ⟨h, settledMMR_of_lt hfloor h⟩
    · exact .inr ⟨h, settledMMR_of_le hfloor h⟩
  unfold cappedLoss maxDuelMMRDelta at hcases
  constructor
  case floor =>
    intro next
    rcases hcases next with ⟨h, loss, heq, -, -, hle⟩ | ⟨h, heq⟩ <;> omega
  case capped =>
    intro next
    unfold maxDuelMMRDelta
    rw [abs_le]
    rcases hcases next with ⟨h, loss, heq, hnonneg, hle, -⟩ | ⟨h, heq⟩ <;> omega
  case sign =>
    intro next
    rcases hcases next with ⟨h, loss, heq, hnonneg, -⟩ | ⟨h, heq⟩
    · rcases hnonneg.eq_or_lt with hzero | hpos
      · exact .inl (by omega)
      · refine .inr ?_
        rw [Int.sign_eq_neg_one_of_neg (by omega), Int.sign_eq_neg_one_of_neg (by omega)]
    · rcases h.eq_or_lt with hzero | hpos
      · exact .inl (by omega)
      · refine .inr ?_
        rw [Int.sign_eq_one_of_pos (by omega), Int.sign_eq_one_of_pos (by omega)]
  case loss =>
    intro next hlt
    unfold maxDuelMMRDelta
    rcases hcases next with ⟨h, loss, heq, -, hle, -⟩ | ⟨h, heq⟩ <;> omega
  case mono => exact settledMMR_mono hfloor
  case order => exact fun other delta hlt => settledMMR_order hfloor hlt delta

/-- A player halfway between the floor and the end of the forgiveness. -/
theorem fair_halfway : Fair 750 := fair_of_floor_le (by decide)

end Rating

end GeoDuels
