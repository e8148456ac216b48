import GeoDuels.LocationSampler.NextRound

/-!
# A match shows no location twice

A location is fresh for one round of a match at most, and a call that saves a row has marked it for its round;
so two rounds never show one row (`noRowTwice`).  What is saved for a round is what later calls for it find
(`oneAnswer`).
-/

namespace GeoDuels.LocationSampler.NextRound

variable {w w' : World} {id : ℕ} {c : Call} {x : Choice} {a : Act} {m : MatchID} {i : ℤ}

/-! ## No row in two rounds -/

/-- The row has been drawn, and was fresh for the round. -/
def Shown (m : MatchID) (drawn : List SampledRow) (freshFor : Assoc (MatchID × ℕ) ℤ) (i : ℤ)
    (p : LocationPoint) : Prop :=
  ∃ row ∈ drawn, row.point = p ∧ freshFor.lookup (m, row.id) = some i

/-- What a call of the match has in hand. -/
def InHand (m : MatchID) (drawn : List SampledRow) (freshFor : Assoc (MatchID × ℕ) ℤ) (c : Call) : Prop :=
  c.matchID = m → match c.at_ with
    | .markUsed _ entry => entry ∈ drawn
    | .saveRound entry => entry ∈ drawn ∧ freshFor.lookup (m, entry.id) = some c.roundIndex
    | _ => True

/-- What is saved and what has been answered are rows that were fresh for their rounds. -/
structure RowsInv (m : MatchID) (w : World) : Prop where
  used : ∀ l i, w.freshFor.lookup (m, l) = some i → l ∈ w.store.usedBy m
  saved : ∀ i p, w.store.getRound m i = some p → Shown m w.drawn w.freshFor i p
  answered : ∀ i p, ⟨m, i, .ok p⟩ ∈ w.answers → Shown m w.drawn w.freshFor i p
  calls : ∀ id c, w.calls.lookup id = some c → InHand m w.drawn w.freshFor c

section Mono

variable {drawn drawn' : List SampledRow} {freshFor freshFor' : Assoc (MatchID × ℕ) ℤ} {p : LocationPoint}

theorem Shown.mono (h : Shown m drawn freshFor i p) (hdrawn : drawn ⊆ drawn')
    (hfresh : ∀ l j, freshFor.lookup (m, l) = some j → freshFor'.lookup (m, l) = some j) :
    Shown m drawn' freshFor' i p := by
  obtain ⟨row, hrow, hp, hi⟩ := h
  exact ⟨row, hdrawn hrow, hp, hfresh _ _ hi⟩

theorem InHand.mono (h : InHand m drawn freshFor c) (hdrawn : drawn ⊆ drawn')
    (hfresh : ∀ l j, freshFor.lookup (m, l) = some j → freshFor'.lookup (m, l) = some j) :
    InHand m drawn' freshFor' c := by
  intro hm
  have hc := h hm
  revert hc
  cases c.at_ with
  | markUsed attempts entry => exact fun hc => hdrawn hc
  | saveRound entry => exact fun hc => ⟨hdrawn hc.1, hfresh _ _ hc.2⟩
  | getRound | ensureInitialized | draw => exact fun _ => trivial

theorem InHand.markUsed {attempts : ℕ} {entry : SampledRow} (h : InHand m drawn freshFor c)
    (hat : c.at_ = .markUsed attempts entry) (hm : c.matchID = m) : entry ∈ drawn := by
  have hc := h hm
  rwa [hat] at hc

theorem InHand.saveRound {entry : SampledRow} (h : InHand m drawn freshFor c)
    (hat : c.at_ = .saveRound entry) (hm : c.matchID = m) :
    Shown m drawn freshFor c.roundIndex entry.point := by
  have hc := h hm
  rw [hat] at hc
  exact ⟨entry, hc.1, rfl, hc.2⟩

end Mono

namespace RowsInv

variable {entry : SampledRow} {p : LocationPoint}

theorem init (m : MatchID) : RowsInv m {} where
  used _ _ h := by cases h
  saved _ _ h := by cases h
  answered _ _ h := by cases h
  calls _ _ h := by cases h

theorem goto {at_ : At} (h : RowsInv m w) (hc : InHand m w.drawn w.freshFor { c with at_ := at_ }) :
    RowsInv m (w.goto id c at_) where
  used := h.used
  saved := h.saved
  answered := h.answered
  calls id' c' hc' := by
    rcases Assoc.of_lookup_insert hc' with ⟨-, rfl⟩ | ⟨-, hc'⟩
    · exact hc
    · exact h.calls id' c' hc'

theorem answer {result : Except String LocationPoint} (h : RowsInv m w)
    (hp : ∀ p, result = .ok p → c.matchID = m → Shown m w.drawn w.freshFor c.roundIndex p) :
    RowsInv m (w.answer id c result) where
  used := h.used
  saved := h.saved
  answered i p ha := by
    rcases List.mem_cons.1 ha with ha | ha
    · obtain ⟨rfl, rfl, rfl⟩ := Answer.mk.inj ha
      exact hp p rfl rfl
    · exact h.answered i p ha
  calls id' c' hc' := h.calls id' c' (Assoc.of_lookup_erase hc').2

theorem error (h : RowsInv m w) (err : String) : RowsInv m (w.answer id c (.error err)) :=
  h.answer fun _ hp => by cases hp

theorem draw (h : RowsInv m w) (entry : SampledRow) : RowsInv m { w with drawn := entry :: w.drawn } where
  used := h.used
  saved i p hp := (h.saved i p hp).mono (List.subset_cons_self ..) fun _ _ hj => hj
  answered i p ha := (h.answered i p ha).mono (List.subset_cons_self ..) fun _ _ hj => hj
  calls id' c' hc' := (h.calls id' c' hc').mono (List.subset_cons_self ..) fun _ _ hj => hj

/-- A location is fresh for one round at most. -/
theorem freshFor_mark (h : RowsInv m w) {l : ℕ} (hl : w.freshFor.lookup (m, l) = some i) :
    (w.mark c entry).freshFor.lookup (m, l) = some i := by
  unfold World.mark
  dsimp only
  split_ifs with hfresh
  · rw [Assoc.lookup_insert]
    split_ifs with heq
    · obtain ⟨rfl, rfl⟩ := Prod.mk.inj heq
      exact absurd (h.used _ _ hl) (StateStore.isFresh_iff.1 hfresh)
    · exact hl
  · exact hl

theorem freshFor_mark_self (hfresh : w.store.isFresh c.matchID entry.id = true) :
    (w.mark c entry).freshFor.lookup (c.matchID, entry.id) = some c.roundIndex := by
  unfold World.mark
  rw [if_pos hfresh, AList.lookup_insert]

theorem mark (h : RowsInv m w) (c : Call) (entry : SampledRow) : RowsInv m (w.mark c entry) where
  used l i hl := by
    have hused : l ∈ (w.store.markUsed c.matchID entry.id).usedBy m ↔ _ := StateStore.mem_usedBy_markUsed
    refine hused.2 ?_
    unfold World.mark at hl
    dsimp only at hl
    split_ifs at hl
    · rcases Assoc.of_lookup_insert hl with ⟨heq, -⟩ | ⟨-, hl⟩
      · exact .inr (Prod.mk.inj heq)
      · exact .inl (h.used l i hl)
    · exact .inl (h.used l i hl)
  saved i p hp :=
    (h.saved i p (StateStore.getRound_markUsed.symm.trans hp)).mono (List.Subset.refl _) fun _ _ hj =>
      h.freshFor_mark hj
  answered i p ha := (h.answered i p ha).mono (List.Subset.refl _) fun _ _ hj => h.freshFor_mark hj
  calls id' c' hc' := (h.calls id' c' hc').mono (List.Subset.refl _) fun _ _ hj => h.freshFor_mark hj

theorem save (h : RowsInv m w)
    (hentry : c.matchID = m → Shown m w.drawn w.freshFor c.roundIndex entry.point) :
    RowsInv m (w.save c entry) where
  used := h.used
  saved i p hp := by
    have hget : (w.save c entry).store.getRound m i = _ := StateStore.getRound_saveRound
    rw [hget] at hp
    split_ifs at hp with heq
    · obtain ⟨hm, rfl⟩ := heq
      obtain rfl := Option.some.inj hp
      exact hentry hm.symm
    · exact h.saved i p hp
  answered := h.answered
  calls := h.calls

end RowsInv

/-- The row that a call is about to mark after twelve rows that were not fresh. -/
def Call.lastDraw (c : Call) : Option SampledRow :=
  match c.at_ with
  | .markUsed attempts entry => if drawAttempts ≤ attempts then some entry else none
  | _ => none

/-- The last draw of a call for the match is fresh and is marked, and the used locations stay. -/
def LastDrawFresh (m : MatchID) (w : World) : Act → Prop
  | .run id x => ∀ c ∈ w.calls.lookup id, c.matchID = m → ∀ entry ∈ c.lastDraw,
      entry.id ∉ w.store.usedBy m ∧ x.reply ≠ .failed
  | .expireUsed matchID => matchID ≠ m
  | _ => True

instance (m : MatchID) (w : World) : DecidablePred (LastDrawFresh m w)
  | .run id _ => inferInstanceAs (Decidable (∀ c ∈ w.calls.lookup id, _))
  | .expireUsed matchID => inferInstanceAs (Decidable (matchID ≠ m))
  | .nextRound .. | .crash .. | .expireRound .. => .isTrue trivial

theorem RowsInv.run (h : RowsInv m w) (hc : w.calls.lookup id = some c)
    (hlast : LastDrawFresh m w (.run id x)) : RowsInv m (w.run id c x) := by
  have hhand := h.calls id c hc
  unfold World.run
  split
  · split_ifs
    · exact h.error _
    · exact h.error _
    · exact h.error _
    · split
      · next hget => exact h.answer fun p hp hm => by cases hp; exact h.saved _ _ (hm ▸ hget)
      · exact h.goto fun _ => trivial
  · split_ifs
    · exact h.error _
    · exact h.goto fun _ => trivial
  · split
    · exact h.error _
    · next entry _ => exact (h.draw entry).goto fun _ => List.mem_cons_self
  · next attempts entry hat =>
    have hdrawn := hhand.markUsed hat
    have hmarked := h.mark c entry
    -- a call goes on to save a row that it has marked itself
    have hsave (hfresh : c.matchID = m → w.store.isFresh c.matchID entry.id = true) :
        RowsInv m ((w.mark c entry).goto id c (.saveRound entry)) := by
      refine hmarked.goto fun hm => ⟨hdrawn hm, ?_⟩
      have hself := RowsInv.freshFor_mark_self (hfresh hm)
      rwa [hm] at hself
    have hlastFresh (hattempts : drawAttempts ≤ attempts) (hm : c.matchID = m) :
        w.store.isFresh c.matchID entry.id = true ∧ x.reply ≠ .failed := by
      have hentry : c.lastDraw = some entry := by
        unfold Call.lastDraw
        rw [hat]
        exact if_pos hattempts
      obtain ⟨hnot, hreply⟩ := hlast c hc hm entry hentry
      rw [hm]
      exact ⟨StateStore.isFresh_iff.2 hnot, hreply⟩
    by_cases hfailed : x.reply = .failed
    · have hnot : x.reply ≠ .ok := by rw [hfailed]; decide
      simp only [if_pos hfailed, if_pos hnot]
      split_ifs with hattempts
      · exact h.goto fun hm => absurd hfailed (hlastFresh hattempts hm).2
      · exact h.error _
    · simp only [if_neg hfailed]
      split_ifs with hattempts _ hfresh
      · exact hsave fun hm => (hlastFresh hattempts hm).1
      · exact hmarked.error _
      · exact hsave fun _ => hfresh
      · exact hmarked.goto fun _ => trivial
  · next entry hat =>
    have hshown := hhand.saveRound hat
    by_cases hfailed : x.reply = .failed
    · have hnot : ¬ x.reply = .ok := by rw [hfailed]; decide
      simp only [if_pos hfailed, if_neg hnot]
      exact h.error _
    · simp only [if_neg hfailed]
      have hsaved := h.save hshown
      split_ifs
      · exact hsaved.answer fun p hp hm => by cases hp; exact hshown hm
      · exact hsaved.error _

theorem RowsInv.step (h : RowsInv m w) (hlast : LastDrawFresh m w a) (hs : w.step a = some w') :
    RowsInv m w' := by
  cases a with
  | nextRound id matchID roundIndex =>
      simp only [World.step] at hs
      split_ifs at hs
      obtain rfl := Option.some.inj hs
      show RowsInv m (w.goto id { matchID := matchID, roundIndex := roundIndex } .getRound)
      exact h.goto fun _ => trivial
  | run id x =>
      obtain ⟨c, hc, rfl⟩ := Option.map_eq_some_iff.1 hs
      exact h.run hc hlast
  | crash id =>
      obtain rfl := Option.some.inj hs
      exact ⟨h.used, h.saved, h.answered, fun id' c' hc' => h.calls id' c' (Assoc.of_lookup_erase hc').2⟩
  | expireRound matchID roundIndex =>
      obtain rfl := Option.some.inj hs
      exact ⟨h.used, fun i p hp => h.saved i p (Assoc.of_lookup_erase hp).2, h.answered, h.calls⟩
  | expireUsed matchID =>
      obtain rfl := Option.some.inj hs
      refine ⟨fun l i hl => ?_, h.saved, h.answered, h.calls⟩
      have hkey : usedKey m ≠ usedKey matchID := fun heq => hlast (usedKey_inj.1 heq).symm
      show l ∈ ((w.store.used.erase (usedKey matchID)).lookup (usedKey m)).getD []
      rw [AList.lookup_erase_ne hkey]
      exact h.used l i hl

/-- Every location belongs to one round, and each answer is the point of a row that has been drawn and belongs
to the round. -/
def NoRowTwice (m : MatchID) (w : World) : Prop :=
  ∃ roundOf : ℕ → ℤ, ∀ i p, ⟨m, i, .ok p⟩ ∈ w.answers →
    ∃ row ∈ w.drawn, row.point = p ∧ roundOf row.id = i

theorem RowsInv.rowOnce (h : RowsInv m w) : NoRowTwice m w := by
  refine ⟨fun l => (w.freshFor.lookup (m, l)).getD 0, fun i p ha => ?_⟩
  obtain ⟨row, hrow, hp, hi⟩ := h.answered i p ha
  exact ⟨row, hrow, hp, by simp only [hi, Option.getD_some]⟩

theorem always_rowsInv {as : List Act} (h : Run.Guarded World.step (LastDrawFresh m) {} as) :
    Run.Always World.step (RowsInv m) {} as :=
  Run.always_of_invariant (fun _ _ _ hw hlast hs => RowsInv.step hw hlast hs) (.init m) h

/-- No location is shown in two rounds of a match, in whatever order the calls of all nodes run, fail and
crash, as long as the locations that the match has used stay in the store and a call that has drawn twelve
used rows finds a fresh one then. -/
theorem noRowTwice (m : MatchID) (as : List Act) (h : Run.Guarded World.step (LastDrawFresh m) {} as) :
    Run.Always World.step (NoRowTwice m) {} as :=
  (always_rowsInv h).mono fun _ hw => hw.rowOnce

/-- The commands of a call that draws the rows of the list, the last of which is fresh. -/
def askRound (id : ℕ) (roundIndex : ℤ) (rows : List SampledRow) : List Act :=
  [.nextRound id "m" roundIndex, .run id {}, .run id {}] ++
    rows.flatMap (fun row => [.run id { drawn := .ok row }, .run id {}]) ++ [.run id {}]

def paris : SampledRow := ⟨7, { lat := 48, lng := 2 }⟩

def tokyo : SampledRow := ⟨8, { lat := 35, lng := 139 }⟩

/-- The second call draws the row of the first one again. -/
def twoRounds : List Act := askRound 0 0 [paris] ++ askRound 1 1 [paris, tokyo]

theorem noRowTwice_twoRounds : Run.Always World.step (NoRowTwice "m") {} twoRounds :=
  noRowTwice "m" twoRounds (by decide +kernel)

/-! ## One answer for each round -/

/-- The calls for a round of the match come one after the other, and what is saved stays. -/
def OneAtATime (m : MatchID) (w : World) : Act → Prop
  | .nextRound _ matchID roundIndex => matchID = m → ∀ id c, w.calls.lookup id = some c → c.matchID = m →
      c.roundIndex ≠ roundIndex
  | .expireRound matchID _ => matchID ≠ m
  | _ => True

instance (m : MatchID) (w : World) : DecidablePred (OneAtATime m w)
  | .nextRound .. => inferInstanceAs (Decidable (_ = m → ∀ _ _, _))
  | .expireRound matchID _ => inferInstanceAs (Decidable (matchID ≠ m))
  | .run .. | .crash .. | .expireUsed .. => .isTrue trivial

/-- What has been answered is saved, and a call that goes on finds nothing saved. -/
structure SavedInv (m : MatchID) (w : World) : Prop where
  answered : ∀ i p, ⟨m, i, .ok p⟩ ∈ w.answers → w.store.getRound m i = some p
  calls : ∀ id c, w.calls.lookup id = some c → c.matchID = m → c.at_ ≠ .getRound →
    w.store.getRound m c.roundIndex = none
  alone : ∀ id id' c c', w.calls.lookup id = some c → w.calls.lookup id' = some c' → c.matchID = m →
    c'.matchID = m → c.roundIndex = c'.roundIndex → id = id'

namespace SavedInv

variable {entry : SampledRow}

theorem init (m : MatchID) : SavedInv m {} where
  answered _ _ h := by cases h
  calls _ _ h := by cases h
  alone _ _ _ _ h := by cases h

theorem goto {at_ : At} (h : SavedInv m w) (hc : w.calls.lookup id = some c)
    (hnone : c.matchID = m → w.store.getRound m c.roundIndex = none) : SavedInv m (w.goto id c at_) where
  answered := h.answered
  calls id' c' hc' hm hat := by
    rcases Assoc.of_lookup_insert hc' with ⟨-, rfl⟩ | ⟨-, hc'⟩
    · exact hnone hm
    · exact h.calls id' c' hc' hm hat
  alone id₁ id₂ c₁ c₂ hc₁ hc₂ hm₁ hm₂ hround := by
    rcases Assoc.of_lookup_insert hc₁ with ⟨heq₁, rfl⟩ | ⟨-, hold₁⟩ <;>
      rcases Assoc.of_lookup_insert hc₂ with ⟨heq₂, rfl⟩ | ⟨-, hold₂⟩
    · rw [heq₁, heq₂]
    · rw [heq₁]
      exact h.alone _ _ _ _ hc hold₂ hm₁ hm₂ hround
    · rw [heq₂]
      exact h.alone _ _ _ _ hold₁ hc hm₁ hm₂ hround
    · exact h.alone _ _ _ _ hold₁ hold₂ hm₁ hm₂ hround

theorem answer {result : Except String LocationPoint} (h : SavedInv m w)
    (hp : ∀ p, result = .ok p → c.matchID = m → w.store.getRound m c.roundIndex = some p) :
    SavedInv m (w.answer id c result) where
  answered i p ha := by
    rcases List.mem_cons.1 ha with ha | ha
    · obtain ⟨rfl, rfl, rfl⟩ := Answer.mk.inj ha
      exact hp p rfl rfl
    · exact h.answered i p ha
  calls id' c' hc' := h.calls id' c' (Assoc.of_lookup_erase hc').2
  alone id₁ id₂ c₁ c₂ hc₁ hc₂ :=
    h.alone id₁ id₂ c₁ c₂ (Assoc.of_lookup_erase hc₁).2 (Assoc.of_lookup_erase hc₂).2

theorem error (h : SavedInv m w) (err : String) : SavedInv m (w.answer id c (.error err)) :=
  h.answer fun _ hp => by cases hp

theorem mark (h : SavedInv m w) (c : Call) (entry : SampledRow) : SavedInv m (w.mark c entry) where
  answered i p ha := StateStore.getRound_markUsed.trans (h.answered i p ha)
  calls id' c' hc' hm hat := StateStore.getRound_markUsed.trans (h.calls id' c' hc' hm hat)
  alone := h.alone

/-- The call for the round saves its row and answers. -/
theorem save {result : Except String LocationPoint} (h : SavedInv m w) (hc : w.calls.lookup id = some c)
    (hnone : c.matchID = m → w.store.getRound m c.roundIndex = none)
    (hresult : ∀ p, result = .ok p → p = entry.point) :
    SavedInv m ((w.save c entry).answer id c result) := by
  have hget (i : ℤ) : ((w.save c entry).answer id c result).store.getRound m i = _ :=
    StateStore.getRound_saveRound
  refine ⟨fun i p ha => ?_, fun id' c' hc' hm hat => ?_, fun id₁ id₂ c₁ c₂ hc₁ hc₂ => ?_⟩
  · rw [hget]
    rcases List.mem_cons.1 ha with ha | ha
    · obtain ⟨rfl, rfl, rfl⟩ := Answer.mk.inj ha
      rw [if_pos ⟨rfl, rfl⟩, hresult p rfl]
    · have hp := h.answered i p ha
      rw [if_neg, hp]
      rintro ⟨rfl, rfl⟩
      rw [hnone rfl] at hp
      cases hp
  · obtain ⟨hne, hc'⟩ := Assoc.of_lookup_erase hc'
    rw [hget, if_neg]
    · exact h.calls id' c' hc' hm hat
    · rintro ⟨rfl, hround⟩
      exact hne (h.alone _ _ _ _ hc' hc hm rfl hround)
  · exact h.alone id₁ id₂ c₁ c₂ (Assoc.of_lookup_erase hc₁).2 (Assoc.of_lookup_erase hc₂).2

theorem run (h : SavedInv m w) (hc : w.calls.lookup id = some c) : SavedInv m (w.run id c x) := by
  have hnone (hat : c.at_ ≠ .getRound) (hm : c.matchID = m) := h.calls id c hc hm hat
  unfold World.run
  split
  · split_ifs
    · exact h.error _
    · exact h.error _
    · exact h.error _
    · split
      · next hget => exact h.answer fun p hp hm => by cases hp; exact hm ▸ hget
      · next hget => exact h.goto hc fun hm => hm ▸ hget
  · next hat =>
    split_ifs
    · exact h.error _
    · exact h.goto hc (hnone (by rw [hat]; exact At.noConfusion))
  · next attempts hat =>
    split
    · exact h.error _
    · next entry _ =>
      have hdrawn : SavedInv m { w with drawn := entry :: w.drawn } := ⟨h.answered, h.calls, h.alone⟩
      exact hdrawn.goto hc (hnone (by rw [hat]; exact At.noConfusion))
  · next attempts entry hat =>
    -- whether the command is done or not, the call goes on or fails
    have hgo {w' : World} (hw' : SavedInv m w') (hc' : w'.calls.lookup id = some c) (fresh : Bool) :
        SavedInv m
          (if drawAttempts ≤ attempts then w'.goto id c (.saveRound entry)
          else if x.reply ≠ .ok then w'.answer id c (.error x.err)
          else if fresh then w'.goto id c (.saveRound entry) else w'.goto id c (.draw (attempts + 1))) := by
      have hnone' (hm : c.matchID = m) := hw'.calls id c hc' hm (by rw [hat]; exact At.noConfusion)
      split_ifs
      · exact hw'.goto hc' hnone'
      · exact hw'.error _
      · exact hw'.goto hc' hnone'
      · exact hw'.goto hc' hnone'
    by_cases hfailed : x.reply = .failed
    · simp only [if_pos hfailed]
      exact hgo h hc _
    · simp only [if_neg hfailed]
      exact hgo (h.mark c entry) hc _
  · next entry hat =>
    have hround := hnone (by rw [hat]; exact At.noConfusion)
    by_cases hfailed : x.reply = .failed
    · have hnot : ¬ x.reply = .ok := by rw [hfailed]; decide
      simp only [if_pos hfailed, if_neg hnot]
      exact h.error _
    · simp only [if_neg hfailed]
      split_ifs
      · exact h.save hc hround fun p hp => by cases hp; rfl
      · exact h.save hc hround fun p hp => by cases hp

theorem step (h : SavedInv m w) (hone : OneAtATime m w a) (hs : w.step a = some w') : SavedInv m w' := by
  cases a with
  | nextRound id matchID roundIndex =>
      simp only [World.step] at hs
      split_ifs at hs
      obtain rfl := Option.some.inj hs
      refine ⟨h.answered, fun id' c' hc' hm hat => ?_, fun id₁ id₂ c₁ c₂ hc₁ hc₂ hm₁ hm₂ hround => ?_⟩
      · rcases Assoc.of_lookup_insert hc' with ⟨-, rfl⟩ | ⟨-, hc'⟩
        · exact absurd rfl hat
        · exact h.calls id' c' hc' hm hat
      · rcases Assoc.of_lookup_insert hc₁ with ⟨heq₁, rfl⟩ | ⟨-, hold₁⟩ <;>
          rcases Assoc.of_lookup_insert hc₂ with ⟨heq₂, rfl⟩ | ⟨-, hold₂⟩
        · rw [heq₁, heq₂]
        · exact absurd hround.symm (hone hm₁ _ _ hold₂ hm₂)
        · exact absurd hround (hone hm₂ _ _ hold₁ hm₁)
        · exact h.alone _ _ _ _ hold₁ hold₂ hm₁ hm₂ hround
  | run id x =>
      obtain ⟨c, hc, rfl⟩ := Option.map_eq_some_iff.1 hs
      exact h.run hc
  | crash id =>
      obtain rfl := Option.some.inj hs
      exact ⟨h.answered, fun id' c' hc' => h.calls id' c' (Assoc.of_lookup_erase hc').2,
        fun id₁ id₂ c₁ c₂ hc₁ hc₂ =>
          h.alone id₁ id₂ c₁ c₂ (Assoc.of_lookup_erase hc₁).2 (Assoc.of_lookup_erase hc₂).2⟩
  | expireRound matchID roundIndex =>
      obtain rfl := Option.some.inj hs
      have hget (i : ℤ) : (w.store.round.erase (roundKey matchID roundIndex)).lookup (roundKey m i) =
          w.store.getRound m i := by
        refine AList.lookup_erase_ne fun heq => hone (roundKey_inj.1 heq).1.symm
      exact ⟨fun i p ha => (hget i).trans (h.answered i p ha),
        fun id' c' hc' hm hat => (hget _).trans (h.calls id' c' hc' hm hat), h.alone⟩
  | expireUsed matchID =>
      obtain rfl := Option.some.inj hs
      exact ⟨h.answered, h.calls, h.alone⟩

end SavedInv

/-- Everyone who asks for a round of the match is told the same location. -/
def OneAnswer (m : MatchID) (w : World) : Prop :=
  ∀ i p q, ⟨m, i, .ok p⟩ ∈ w.answers → ⟨m, i, .ok q⟩ ∈ w.answers → p = q

theorem SavedInv.answersAgree (h : SavedInv m w) : OneAnswer m w := fun i p q hp hq =>
  Option.some.inj ((h.answered i p hp).symm.trans (h.answered i q hq))

/-- However calls fail and crash, `NextRound` tells the same location whenever it is asked for a round again, as
long as the calls for the round come one after the other and what is saved stays. -/
theorem oneAnswer (m : MatchID) (as : List Act) (h : Run.Guarded World.step (OneAtATime m) {} as) :
    Run.Always World.step (OneAnswer m) {} as :=
  (Run.always_of_invariant (fun _ _ _ hw hone hs => SavedInv.step hw hone hs) (SavedInv.init m) h).mono
    fun _ hw => hw.answersAgree

/-- The answer to the command that saves the row is lost, and the round is asked for again. -/
def askedAgain : List Act :=
  (askRound 0 0 [paris]).dropLast ++ [.run 0 { reply := .lost, err := "EOF" }, .nextRound 1 "m" 0, .run 1 {}]

theorem oneAnswer_askedAgain : Run.Always World.step (OneAnswer "m") {} askedAgain :=
  oneAnswer "m" askedAgain (by decide +kernel)

end GeoDuels.LocationSampler.NextRound
