import GeoDuels.Decimal
import GeoDuels.Lib.Run
import GeoDuels.LocationSampler.Store

/-!
# The rounds of a match

`NextRound` of `pkg/locationsampler/sampler.go`, with one step for each command of the state store, which all
nodes share, and one for each call of `draw`, which may find any row here.  A call answers with the location
that is saved for the round, or it draws rows until it finds one that the match has not used; after twelve it
takes the next one as it is.
-/

namespace GeoDuels.LocationSampler.NextRound

/-! ## The state store -/

def roundKey (matchID : MatchID) (roundIndex : ℤ) : String :=
  "match:sampler:round:" ++ matchID ++ ":" ++ intStr roundIndex

def usedKey (matchID : MatchID) : String := "match:sampler:used:" ++ matchID

/-- The keys of a `RedisStateStore`; a `memoryStateStore` has the same in its maps. -/
structure StateStore where
  round : Assoc String LocationPoint := ∅
  used : Assoc String (List ℕ) := ∅

namespace StateStore

variable (matchID : MatchID) (st : StateStore)

def getRound (roundIndex : ℤ) : Option LocationPoint := st.round.lookup (roundKey matchID roundIndex)

def saveRound (roundIndex : ℤ) (p : LocationPoint) : StateStore :=
  { st with round := st.round.insert (roundKey matchID roundIndex) p }

/-- The locations that the match has used. -/
def usedBy : List ℕ := (st.used.lookup (usedKey matchID)).getD []

def isFresh (locationID : ℕ) : Bool := locationID ∉ st.usedBy matchID

/-- `MarkUsed`, which answers whether the location was fresh. -/
def markUsed (locationID : ℕ) : StateStore :=
  if st.isFresh matchID locationID then
    { st with used := st.used.insert (usedKey matchID) (locationID :: st.usedBy matchID) }
  else st

end StateStore

/-! ## Calls -/

/-- The draws that `NextRound` makes to find a fresh row. -/
def drawAttempts : ℕ := 12

/-- Where a call is; `attempts` counts the draws whose rows were not fresh. -/
inductive At where
  | getRound | ensureInitialized
  | draw (attempts : ℕ) | markUsed (attempts : ℕ) (entry : SampledRow) | saveRound (entry : SampledRow)

structure Call where
  matchID : MatchID
  roundIndex : ℤ
  at_ : At := .getRound

/-- What becomes of a command: it is done, it is done and the answer is lost, or it fails. -/
inductive Reply where
  | ok | lost | failed
  deriving DecidableEq

structure Choice where
  reply : Reply := .ok
  err : String := ""
  drawn : Except String SampledRow := .error ""

structure Answer where
  matchID : MatchID
  roundIndex : ℤ
  result : Except String LocationPoint

/-- The store and the calls of all nodes, with the rows that have been drawn, the round for which each
location of a match was fresh, and the answers. -/
structure World where
  store : StateStore := {}
  calls : Assoc ℕ Call := ∅
  drawn : List SampledRow := []
  freshFor : Assoc (MatchID × ℕ) ℤ := ∅
  answers : List Answer := []

inductive Act where
  | nextRound (id : ℕ) (matchID : MatchID) (roundIndex : ℤ)
  | run (id : ℕ) (x : Choice)
  | crash (id : ℕ)
  | expireRound (matchID : MatchID) (roundIndex : ℤ)
  | expireUsed (matchID : MatchID)

namespace World

variable (w : World) (id : ℕ) (c : Call)

def goto (at_ : At) : World := { w with calls := w.calls.insert id { c with at_ := at_ } }

def answer (result : Except String LocationPoint) : World :=
  { w with calls := w.calls.erase id, answers := ⟨c.matchID, c.roundIndex, result⟩ :: w.answers }

/-- The command `MarkUsed` in the store. -/
def mark (entry : SampledRow) : World :=
  { w with
    store := w.store.markUsed c.matchID entry.id
    freshFor :=
      if w.store.isFresh c.matchID entry.id then w.freshFor.insert (c.matchID, entry.id) c.roundIndex
      else w.freshFor }

/-- The command `SaveRound` in the store. -/
def save (entry : SampledRow) : World :=
  { w with store := w.store.saveRound c.matchID c.roundIndex entry.point }

/-- The next step of a call. -/
def run (x : Choice) : World :=
  match c.at_ with
  | .getRound =>
      if c.matchID = "" then w.answer id c (.error "matchID required")
      else if c.roundIndex < 0 then w.answer id c (.error "roundIndex must be >= 0")
      else if x.reply ≠ .ok then w.answer id c (.error x.err)
      else
        match w.store.getRound c.matchID c.roundIndex with
        | some p => w.answer id c (.ok p)
        | none => w.goto id c .ensureInitialized
  | .ensureInitialized =>
      if x.reply ≠ .ok then w.answer id c (.error x.err) else w.goto id c (.draw 0)
  | .draw attempts =>
      match x.drawn with
      | .error err => w.answer id c (.error err)
      | .ok entry => { w with drawn := entry :: w.drawn }.goto id c (.markUsed attempts entry)
  | .markUsed attempts entry =>
      let fresh := w.store.isFresh c.matchID entry.id
      let w := if x.reply = .failed then w else w.mark c entry
      -- the last draw is taken whatever `MarkUsed` says
      if drawAttempts ≤ attempts then w.goto id c (.saveRound entry)
      else if x.reply ≠ .ok then w.answer id c (.error x.err)
      else if fresh then w.goto id c (.saveRound entry)
      else w.goto id c (.draw (attempts + 1))
  | .saveRound entry =>
      let w := if x.reply = .failed then w else w.save c entry
      if x.reply = .ok then w.answer id c (.ok entry.point) else w.answer id c (.error x.err)

def step (w : World) : Act → Option World
  | .nextRound id matchID roundIndex =>
      if id ∈ w.calls then none
      else some { w with calls := w.calls.insert id { matchID := matchID, roundIndex := roundIndex } }
  | .run id x => (w.calls.lookup id).map fun c => w.run id c x
  | .crash id => some { w with calls := w.calls.erase id }
  | .expireRound matchID roundIndex =>
      some { w with store := { w.store with round := w.store.round.erase (roundKey matchID roundIndex) } }
  | .expireUsed matchID =>
      some { w with store := { w.store with used := w.store.used.erase (usedKey matchID) } }

end World

/-! ## The keys -/

variable {w w' : World} {id : ℕ} {c : Call} {x : Choice} {a : Act} {m m' : MatchID} {i j : ℤ}

theorem colon_notMem_strconv (n : ℕ) : ':' ∉ (strconv n).toList := by
  unfold strconv
  split_ifs with hn
  · decide
  · rw [String.toList_ofList]
    intro hmem
    obtain ⟨d, hd, hchar⟩ := List.mem_map.1 hmem
    have digits : ∀ d : Fin 10, Nat.digitChar d ≠ ':' := by decide
    exact digits ⟨d, digits_reverse_lt hd⟩ hchar

theorem colon_notMem_intStr (v : ℤ) : ':' ∉ (intStr v).toList := by
  unfold intStr
  split_ifs
  · rw [String.toList_append]
    intro hmem
    rcases List.mem_append.1 hmem with hmem | hmem
    · exact absurd hmem (by decide)
    · exact colon_notMem_strconv _ hmem
  · exact colon_notMem_strconv _

/-- The characters after the last colon of a key. -/
theorem takeWhile_colon (s : String) (i : ℤ) :
    (s ++ ":" ++ intStr i).toList.reverse.takeWhile (· ≠ ':') = (intStr i).toList.reverse := by
  have hdigits : ∀ a ∈ (intStr i).toList.reverse, decide (a ≠ ':') = true := by
    intro a ha
    refine decide_eq_true fun heq => colon_notMem_intStr i ?_
    rwa [heq, List.mem_reverse] at ha
  have hcolon : ":".toList = [':'] := rfl
  rw [String.toList_append, String.toList_append, hcolon, List.reverse_append, List.reverse_append,
    List.takeWhile_append_of_pos hdigits]
  simp

theorem roundKey_inj : roundKey m i = roundKey m' j ↔ m = m' ∧ i = j := by
  constructor
  · intro h
    unfold roundKey at h
    have hdigits := congrArg (fun s : String => s.toList.reverse.takeWhile (· ≠ ':')) h
    simp only [takeWhile_colon, List.reverse_inj, String.toList_inj] at hdigits
    rw [intStr_injective hdigits, String.append_left_inj, String.append_left_inj, String.append_right_inj] at h
    exact ⟨h, intStr_injective hdigits⟩
  · rintro ⟨hm, hi⟩
    rw [hm, hi]

theorem usedKey_inj : usedKey m = usedKey m' ↔ m = m' := String.append_right_inj _

namespace StateStore

variable {st : StateStore} {p : LocationPoint} {l l' : ℕ}

theorem getRound_saveRound : (st.saveRound m i p).getRound m' j =
    if m' = m ∧ j = i then some p else st.getRound m' j := by
  unfold saveRound getRound
  rw [Assoc.lookup_insert]
  simp only [roundKey_inj]

theorem getRound_markUsed : (st.markUsed m l).getRound m' j = st.getRound m' j := by
  unfold markUsed
  split_ifs <;> rfl

theorem isFresh_iff : st.isFresh m l = true ↔ l ∉ st.usedBy m := decide_eq_true_iff

theorem mem_usedBy_markUsed : l' ∈ (st.markUsed m l).usedBy m' ↔ l' ∈ st.usedBy m' ∨ m' = m ∧ l' = l := by
  unfold markUsed
  split_ifs with hfresh
  · unfold usedBy
    rw [Assoc.lookup_insert]
    simp only [usedKey_inj]
    by_cases hm : m' = m
    · subst hm
      simp [or_comm]
    · simp [hm]
  · have hused : l ∈ st.usedBy m := by
      by_contra hnot
      exact hfresh (isFresh_iff.2 hnot)
    constructor
    · exact Or.inl
    · rintro (h | ⟨rfl, rfl⟩)
      · exact h
      · exact hused

end StateStore

end GeoDuels.LocationSampler.NextRound
