import Mathlib.Data.Rat.Defs
import Mathlib.Tactic.Linarith
import Mathlib.Tactic.Positivity
import Mathlib.Tactic.Ring

/-!
# The automatic cheat ban

`guessEvidence` and `autoCheatBanReason` of `pkg/persistence/store.go`.  A guess with a better score in
less time is at least as suspicious (`guessEvidence_mono`), and each number that the decision compares with
a threshold is a sum or a count of such guesses, so it grows with them (`Tally.Le`).
-/

namespace GeoDuels.Moderation

/-! ## The evidence of a guess -/

def guessEvidence (score guessMS : ℤ) : ℚ :=
  if score < 4900 ∨ guessMS ≤ 0 ∨ guessMS > 15000 then 0
  else
    let seconds : ℚ := guessMS / 1000
    let scoreExcess : ℚ := ((score - 4900 : ℤ) : ℚ) / 100
    let scoreExcess := if scoreExcess < 0 then 0 else scoreExcess
    let speed : ℚ := (15 - seconds) / 12
    let speed := if speed < 0 then 0 else speed
    let speed := if speed > 5 / 4 then 5 / 4 else speed
    let evidence := (3 / 4 + scoreExcess * 4) * speed
    if score ≥ 5000 ∧ guessMS ≤ 3000 then evidence + 5
    else if score ≥ 4990 ∧ guessMS ≤ 5000 then evidence + 3
    else if score ≥ 4950 ∧ guessMS ≤ 5000 then evidence + 3 / 2
    else evidence

/-! ## The decision -/

/-- A row of `ranked_guess_events`. -/
structure GuessEvent where
  score : ℤ
  guessMS : ℤ
  evidence : ℚ
  deriving DecidableEq

/-- What the loop of `autoCheatBanReason` adds up. -/
structure Tally where
  evidence10 : ℚ := 0
  evidence20 : ℚ := 0
  fast4950In10 : ℕ := 0
  fast4900In20 : ℕ := 0
  highEvidence20 : ℕ := 0

/-- The body of the loop at the event with index `i`. -/
def Tally.add (t : Tally) (i : ℕ) (item : GuessEvent) : Tally where
  evidence10 := if i < 10 then t.evidence10 + item.evidence else t.evidence10
  evidence20 := t.evidence20 + item.evidence
  fast4950In10 :=
    if i < 10 ∧ item.score ≥ 4950 ∧ item.guessMS ≤ 10000 then t.fast4950In10 + 1 else t.fast4950In10
  fast4900In20 :=
    if item.score ≥ 4900 ∧ item.guessMS ≤ 10000 then t.fast4900In20 + 1 else t.fast4900In20
  highEvidence20 := if item.evidence ≥ 8 then t.highEvidence20 + 1 else t.highEvidence20

/-- The loop from the index `i` on. -/
def Tally.addAll (t : Tally) (i : ℕ) : List GuessEvent → Tally
  | [] => t
  | item :: events => (t.add i item).addAll (i + 1) events

/-- The reason for a ban, if any; `events` are the last events of the user, at most 20, most recent
first. -/
def autoCheatBanReason (events : List GuessEvent) : Option String :=
  if events.length < 10 then none
  else
    let t := Tally.addAll {} 0 events
    if t.evidence10 ≥ 18 then some "auto_cheat_fast_guess_evidence_10"
    else if events.length ≥ 20 ∧ t.evidence20 ≥ 28 then some "auto_cheat_fast_guess_evidence_20"
    else if t.highEvidence20 ≥ 3 then some "auto_cheat_repeated_extreme_fast_guesses"
    else if t.fast4950In10 ≥ 5 then some "auto_cheat_fast_4950_5_of_10"
    else if events.length ≥ 20 ∧ t.fast4900In20 ≥ 19 then some "auto_cheat_fast_4900_19_of_20"
    else none

/-! ## Monotonicity of the evidence -/

/-- The factor of the score, and the one of the time. -/
def scoreFactor (score : ℤ) : ℚ := 3 / 4 + (score - 4900 : ℤ) / 100 * 4

def speedFactor (guessMS : ℤ) : ℚ := min (5 / 4) ((15 - guessMS / 1000) / 12)

/-- The bonus of a very good guess in a very short time. -/
def guessBonus (score guessMS : ℤ) : ℚ :=
  if score ≥ 5000 ∧ guessMS ≤ 3000 then 5
  else if score ≥ 4990 ∧ guessMS ≤ 5000 then 3
  else if score ≥ 4950 ∧ guessMS ≤ 5000 then 3 / 2
  else 0

theorem scoreFactor_nonneg {score : ℤ} (h : 4900 ≤ score) : 0 ≤ scoreFactor score := by
  have hq : (0 : ℚ) ≤ (score - 4900 : ℤ) := by exact_mod_cast (by omega : 0 ≤ score - 4900)
  unfold scoreFactor
  positivity

theorem scoreFactor_mono {score score' : ℤ} (h : score ≤ score') :
    scoreFactor score ≤ scoreFactor score' := by
  have hq : ((score - 4900 : ℤ) : ℚ) ≤ (score' - 4900 : ℤ) := by
    exact_mod_cast (by omega : score - 4900 ≤ score' - 4900)
  unfold scoreFactor
  linarith

theorem speedFactor_nonneg {guessMS : ℤ} (h : guessMS ≤ 15000) : 0 ≤ speedFactor guessMS := by
  have hq : (guessMS : ℚ) ≤ 15000 := by exact_mod_cast h
  exact le_min (by norm_num) (div_nonneg (by linarith) (by norm_num))

theorem speedFactor_anti {guessMS guessMS' : ℤ} (h : guessMS' ≤ guessMS) :
    speedFactor guessMS ≤ speedFactor guessMS' := by
  have hq : (guessMS' : ℚ) ≤ guessMS := by exact_mod_cast h
  exact min_le_min le_rfl (by linarith)

theorem guessBonus_nonneg (score guessMS : ℤ) : 0 ≤ guessBonus score guessMS := by
  unfold guessBonus
  split_ifs <;> norm_num

theorem guessBonus_mono {score score' guessMS guessMS' : ℤ} (hs : score ≤ score')
    (hm : guessMS' ≤ guessMS) : guessBonus score guessMS ≤ guessBonus score' guessMS' := by
  unfold guessBonus
  split_ifs <;> first
    | omega
    | norm_num

theorem guessEvidence_eq {score guessMS : ℤ} (hscore : 4900 ≤ score) (hpos : 0 < guessMS)
    (hms : guessMS ≤ 15000) :
    guessEvidence score guessMS = scoreFactor score * speedFactor guessMS + guessBonus score guessMS := by
  have hexcess : ¬ ((score - 4900 : ℤ) : ℚ) / 100 < 0 := by
    have hq : (0 : ℚ) ≤ (score - 4900 : ℤ) := by exact_mod_cast (by omega : 0 ≤ score - 4900)
    linarith
  have hspeed : ¬ (15 - (guessMS : ℚ) / 1000) / 12 < 0 := by
    have hq : (guessMS : ℚ) ≤ 15000 := by exact_mod_cast hms
    linarith
  have hclamp : (if (15 - (guessMS : ℚ) / 1000) / 12 > 5 / 4 then 5 / 4
      else (15 - (guessMS : ℚ) / 1000) / 12) = speedFactor guessMS := by
    unfold speedFactor
    split_ifs with h
    · exact (min_eq_left h.le).symm
    · exact (min_eq_right (not_lt.1 h)).symm
  unfold guessEvidence
  dsimp only
  rw [if_neg (by omega), if_neg hexcess, if_neg hspeed, hclamp, guessBonus, scoreFactor]
  split_ifs <;> ring

theorem guessEvidence_nonneg (score guessMS : ℤ) : 0 ≤ guessEvidence score guessMS := by
  by_cases h : score < 4900 ∨ guessMS ≤ 0 ∨ guessMS > 15000
  · rw [guessEvidence, if_pos h]
  · push Not at h
    rw [guessEvidence_eq h.1 h.2.1 h.2.2]
    exact add_nonneg (mul_nonneg (scoreFactor_nonneg h.1) (speedFactor_nonneg h.2.2))
      (guessBonus_nonneg _ _)

/-- A better score in less time is no weaker evidence. -/
theorem guessEvidence_mono {score score' guessMS guessMS' : ℤ} (hs : score ≤ score')
    (hpos : 0 < guessMS') (hm : guessMS' ≤ guessMS) :
    guessEvidence score guessMS ≤ guessEvidence score' guessMS' := by
  by_cases h : score < 4900 ∨ guessMS ≤ 0 ∨ guessMS > 15000
  · rw [guessEvidence, if_pos h]
    exact guessEvidence_nonneg _ _
  · push Not at h
    rw [guessEvidence_eq h.1 h.2.1 h.2.2,
      guessEvidence_eq (h.1.trans hs) hpos (hm.trans h.2.2)]
    refine add_le_add (mul_le_mul (scoreFactor_mono hs) (speedFactor_anti hm) ?_ ?_)
      (guessBonus_mono hs hm)
    · exact speedFactor_nonneg h.2.2
    · exact scoreFactor_nonneg (h.1.trans hs)

/-! ## Monotonicity of the decision -/

/-- The second event is at least as suspicious as the first one. -/
structure GuessEvent.Le (item item' : GuessEvent) : Prop where
  score : item.score ≤ item'.score
  guessMS : item'.guessMS ≤ item.guessMS
  evidence : item.evidence ≤ item'.evidence

structure Tally.Le (t t' : Tally) : Prop where
  evidence10 : t.evidence10 ≤ t'.evidence10
  evidence20 : t.evidence20 ≤ t'.evidence20
  fast4950In10 : t.fast4950In10 ≤ t'.fast4950In10
  fast4900In20 : t.fast4900In20 ≤ t'.fast4900In20
  highEvidence20 : t.highEvidence20 ≤ t'.highEvidence20

theorem Tally.Le.refl (t : Tally) : t.Le t := ⟨le_rfl, le_rfl, le_rfl, le_rfl, le_rfl⟩

namespace Tally.Le

variable {t t' : Tally}

/-- One event of the loop: what the first tally counts the second one counts as well. -/
theorem add (h : t.Le t') {item item' : GuessEvent} (hitem : item.Le item') (i : ℕ) :
    (t.add i item).Le (t'.add i item') := by
  obtain ⟨h10, h20, hfast10, hfast20, hhigh⟩ := h
  obtain ⟨hscore, hms, hevidence⟩ := hitem
  have hstrong : item.evidence ≥ 8 → item'.evidence ≥ 8 := fun h8 => h8.trans hevidence
  constructor <;> unfold Tally.add <;> dsimp only
  case evidence10 => split_ifs <;> linarith
  case evidence20 => linarith
  case fast4950In10 => split_ifs <;> omega
  case fast4900In20 => split_ifs <;> omega
  case highEvidence20 =>
    split_ifs with h8 h8'
    · omega
    · exact absurd (hstrong h8) h8'
    · omega
    · exact hhigh

theorem addAll {events events' : List GuessEvent} (hevents : List.Forall₂ GuessEvent.Le events events')
    (h : t.Le t') (i : ℕ) : (t.addAll i events).Le (t'.addAll i events') := by
  induction hevents generalizing t t' i with
  | nil => exact h
  | cons hitem _ ih => exact ih (h.add hitem i) (i + 1)

end Tally.Le

theorem autoCheatBanReason_isSome (events : List GuessEvent) :
    (autoCheatBanReason events).isSome = true ↔ 10 ≤ events.length ∧
      let t := Tally.addAll {} 0 events
      (18 ≤ t.evidence10 ∨ 20 ≤ events.length ∧ 28 ≤ t.evidence20 ∨ 3 ≤ t.highEvidence20 ∨
        5 ≤ t.fast4950In10 ∨ 20 ≤ events.length ∧ 19 ≤ t.fast4900In20) := by
  unfold autoCheatBanReason
  dsimp only
  split_ifs with hshort h10 h20 hhigh hfast10 hfast20
  · simp only [Option.isSome_none, Bool.false_eq_true, false_iff]
    omega
  · exact iff_of_true rfl ⟨not_lt.1 hshort, .inl h10⟩
  · exact iff_of_true rfl ⟨not_lt.1 hshort, .inr (.inl h20)⟩
  · exact iff_of_true rfl ⟨not_lt.1 hshort, .inr (.inr (.inl hhigh))⟩
  · exact iff_of_true rfl ⟨not_lt.1 hshort, .inr (.inr (.inr (.inl hfast10)))⟩
  · exact iff_of_true rfl ⟨not_lt.1 hshort, .inr (.inr (.inr (.inr hfast20)))⟩
  · simp only [Option.isSome_none, Bool.false_eq_true, false_iff]
    rintro ⟨-, h | h | h | h | h⟩
    · exact h10 h
    · exact h20 h
    · exact hhigh h
    · exact hfast10 h
    · exact hfast20 h

theorem autoCheatBanReason_mono {events events' : List GuessEvent}
    (h : List.Forall₂ GuessEvent.Le events events')
    (hban : (autoCheatBanReason events).isSome = true) :
    (autoCheatBanReason events').isSome = true := by
  rw [autoCheatBanReason_isSome] at hban ⊢
  obtain ⟨h10, h20, hfast10, hfast20, hhigh⟩ := (Tally.Le.refl {}).addAll h 0
  rw [← h.length_eq]
  refine ⟨hban.1, ?_⟩
  rcases hban.2 with h | h | h | h | h
  · exact .inl (h.trans h10)
  · exact .inr (.inl ⟨h.1, h.2.trans h20⟩)
  · exact .inr (.inr (.inl (h.trans hhigh)))
  · exact .inr (.inr (.inr (.inl (h.trans hfast10))))
  · exact .inr (.inr (.inr (.inr ⟨h.1, h.2.trans hfast20⟩)))

/-! ## Guesses -/

/-- A guess as `ranked_guess_events` records it. -/
structure RankedGuess where
  score : ℤ
  guessMS : ℤ

def RankedGuess.event (g : RankedGuess) : GuessEvent :=
  ⟨g.score, g.guessMS, guessEvidence g.score g.guessMS⟩

/-- The second guess scores at least as much in no more, but some time. -/
structure RankedGuess.Faster (g g' : RankedGuess) : Prop where
  score : g.score ≤ g'.score
  pos : 0 < g'.guessMS
  guessMS : g'.guessMS ≤ g.guessMS

theorem RankedGuess.Faster.event_le {g g' : RankedGuess} (h : g.Faster g') : g.event.Le g'.event :=
  ⟨h.score, h.guessMS, guessEvidence_mono h.score h.pos h.guessMS⟩

/-- Nobody escapes a ban by scoring higher or guessing faster. -/
theorem cheatBan_mono :
    (∀ g g' : RankedGuess, g.Faster g' → g.event.evidence ≤ g'.event.evidence) ∧
      ∀ guesses guesses' : List RankedGuess, List.Forall₂ RankedGuess.Faster guesses guesses' →
        (autoCheatBanReason (guesses.map RankedGuess.event)).isSome = true →
          (autoCheatBanReason (guesses'.map RankedGuess.event)).isSome = true := by
  refine ⟨fun g g' h => h.event_le.evidence, fun guesses guesses' h hban => ?_⟩
  apply autoCheatBanReason_mono _ hban
  rw [List.forall₂_map_left_iff, List.forall₂_map_right_iff]
  exact h.imp fun _ _ hfaster => hfaster.event_le

theorem cheatBan_mono_ten :
    (autoCheatBanReason ((List.replicate 10 ⟨5000, 9000⟩).map RankedGuess.event)).isSome = true := by
  refine cheatBan_mono.2 (List.replicate 10 ⟨4950, 10000⟩) _ ?_ (by decide +kernel)
  exact List.forall₂_iff_get.2 ⟨rfl, fun i h _ => by
    simp only [List.get_eq_getElem, List.getElem_replicate]
    exact ⟨by decide, by decide, by decide⟩⟩

end GeoDuels.Moderation
