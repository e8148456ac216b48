import GeoDuels.Notifications.Attempts

/-!
# A notification does not wait for ever

While a notification is due and free, every claim takes it or one that is before it, and what is claimed
or marked meanwhile gets an attempt that is later than its own.  So the workers can commit only so many
other claims before it: those of the notifications before it, and those that are open already.
-/

namespace GeoDuels.Notifications

variable {decodes : String → Bool} {w w' : World} {a : Act} {x y : WorkerID} {id k : NotificationID}
variable {row row' : OutboxRow} {stage : Stage}

def Act.isCommit : Act → Bool
  | .commit _ => true
  | _ => false

/-- The notification waits to be claimed, and its row is the given one. -/
def World.Waits (k : NotificationID) (row : OutboxRow) (w : World) : Prop :=
  w.db.rows.lookup k = some row ∧ k ∉ w.locked

instance (k : NotificationID) (row : OutboxRow) : DecidablePred (World.Waits k row) := fun _ =>
  inferInstanceAs (Decidable (_ ∧ _))

/-- The row of another notification that is to be sent, and before the one that waits. -/
def OutboxRow.isAhead (k : NotificationID) (row : OutboxRow) (id : NotificationID) (row' : OutboxRow) :
    Bool :=
  decide (id ≠ k ∧ row'.type = reportNotificationType ∧ row'.sentAt = none ∧
    OutboxRow.Before ⟨id, row'⟩ ⟨k, row⟩)

def World.waitingBefore (k : NotificationID) (row : OutboxRow) (w : World) : ℕ :=
  Assoc.countP (OutboxRow.isAhead k row) w.db.rows

def World.openClaims (w : World) : ℕ := Assoc.countP (fun _ stage => stage.isClaiming) w.workers

/-! ## The claims that pay for themselves -/

/-- The open claim does not take its notification from before the one that waits to behind it. -/
def World.overtakes (k : NotificationID) (row : OutboxRow) (w : World) : Stage → Bool
  | .claiming id row' _ =>
      !((w.db.rows.lookup id).any (OutboxRow.isAhead k row id) && !OutboxRow.isAhead k row id row')
  | _ => false

/-- The commits that can come before the claim of the notification that waits. -/
def World.overtakings (k : NotificationID) (row : OutboxRow) (w : World) : ℕ :=
  w.waitingBefore k row + Assoc.countP (fun _ stage => w.overtakes k row stage) w.workers

theorem overtakings_le : w.overtakings k row ≤ w.waitingBefore k row + w.openClaims := by
  refine Nat.add_le_add_left (Assoc.countP_mono fun x stage _ h => ?_) _
  cases stage with
  | claiming id row' t => rfl
  | claimed | posting | marking => cases h

/-- What is behind the notification that waits. -/
theorem isAhead_eq_false (h : row.nextAttemptAt < row'.nextAttemptAt ∨
      row.nextAttemptAt = row'.nextAttemptAt ∧ k < id) : OutboxRow.isAhead k row id row' = false := by
  unfold OutboxRow.isAhead
  rw [decide_eq_false_iff_not]
  rintro ⟨-, -, -, hbefore | ⟨heq, hid⟩⟩
  · change row'.nextAttemptAt < row.nextAttemptAt at hbefore
    omega
  · change row'.nextAttemptAt = row.nextAttemptAt at heq
    rcases h with h | ⟨-, hlt⟩
    · omega
    · exact absurd hid (Nat.not_le_of_lt hlt)

/-- A claim moves a notification only back. -/
theorem isAhead_of_claim {t : ℕ} (hdue : row'.Claimable reportNotificationType t)
    (h : OutboxRow.isAhead k row id (row'.claim t) = true) : OutboxRow.isAhead k row id row' = true := by
  unfold OutboxRow.isAhead at h ⊢
  rw [decide_eq_true_eq] at h ⊢
  obtain ⟨hid, htype, hunsent, hbefore⟩ := h
  refine ⟨hid, htype, hunsent, .inl ?_⟩
  have hlease : 0 < claimLease := by decide
  have hnext : (row'.claim t).nextAttemptAt = t + claimLease := rfl
  have hle : (row'.claim t).nextAttemptAt ≤ row.nextAttemptAt := hbefore.elim le_of_lt fun h => h.1.le
  have hrow := hdue.2.2
  show row'.nextAttemptAt < row.nextAttemptAt
  omega

/-- The claims are counted alike where their rows are the same. -/
theorem overtakes_congr
    (h : ∀ id row' t, stage = .claiming id row' t → w'.db.rows.lookup id = w.db.rows.lookup id) :
    w'.overtakes k row stage = w.overtakes k row stage := by
  cases stage with
  | claiming id row' t =>
      unfold World.overtakes
      dsimp only
      rw [h id row' t rfl]
  | claimed | posting | marking => rfl

/-! ## The steps -/

/-- The failed attempts are marked with a delay. -/
structure Delayed (w : World) : Prop extends Claims w where
  delays : ∀ x id delay t, w.workers.lookup x = some (.marking id (.failed delay) t) → 0 < delay

theorem nextReportNotificationAttempt_pos (attempts : ℕ) :
    0 < nextReportNotificationAttempt attempts := by
  unfold nextReportNotificationAttempt
  dsimp only
  split <;> decide

theorem outcomeOf_failed {attempts delay : ℕ} {answer : Except ℕ Unit}
    (h : outcomeOf attempts answer = .failed delay) : 0 < delay := by
  cases answer with
  | ok => cases h
  | error retryAfter =>
      obtain rfl := Outcome.failed.inj h
      split_ifs with hpos
      · exact hpos
      · exact nextReportNotificationAttempt_pos attempts

theorem prepare_failed {item : NotificationOutboxItem} {t : ℕ} {webhookURL : Option String} {delay : ℕ}
    (h : prepare decodes item t webhookURL = .marking id (.failed delay) t) : 0 < delay := by
  unfold prepare at h
  split_ifs at h
  · cases h
    decide
  · cases webhookURL with
    | none =>
        cases h
        exact nextReportNotificationAttempt_pos _
    | some url =>
        dsimp only at h
        split_ifs at h
        cases h
        decide

namespace Delayed

/-- A worker leaves or comes to a stage after its claim. -/
theorem of_workers (h : Delayed w) (hclaims : Claims w')
    (hdelays : ∀ x id delay t, w'.workers.lookup x = some (.marking id (.failed delay) t) →
      w.workers.lookup x = some (.marking id (.failed delay) t) ∨ 0 < delay) : Delayed w' where
  toClaims := hclaims
  delays := fun x id delay t hx => (hdelays x id delay t hx).elim (h.delays x id delay t) fun hpos => hpos

theorem start {db : Outbox} (hdb : db.Fresh) (t : ℕ) : Delayed (.start db t) where
  toClaims := .start hdb t
  delays := by
    intro x id delay t hx
    cases hx

theorem step (h : Delayed w) (hs : Stepped decodes w a w') : Delayed w' := by
  have hclaims := h.toClaims.step hs
  cases hs with
  | enqueue dedupeKey payloadJSON => exact h.of_workers hclaims fun _ _ _ _ hx => .inl hx
  | nothing x hx he => exact h
  | claim x | commit x =>
      refine h.of_workers hclaims fun y id delay t hy => ?_
      rcases Assoc.of_lookup_insert hy with ⟨-, heq⟩ | ⟨-, hy⟩
      · cases heq
      · exact .inl hy
  | prepare x webhookURL item t hx =>
      refine h.of_workers hclaims fun y id delay t' hy => ?_
      rcases Assoc.of_lookup_insert hy with ⟨-, heq⟩ | ⟨-, hy⟩
      · rcases prepare_cases decodes item t webhookURL with hprep | ⟨delay', hprep⟩
        · rw [hprep] at heq
          cases heq
        · have hpos := prepare_failed hprep
          rw [hprep] at heq
          cases heq
          exact .inr hpos
      · exact .inl hy
  | post x delivered answer item t hx hanswer =>
      refine h.of_workers hclaims fun y id delay t' hy => ?_
      rcases Assoc.of_lookup_insert hy with ⟨-, heq⟩ | ⟨-, hy⟩
      · injection heq with hid houtcome
        exact .inr (outcomeOf_failed houtcome.symm)
      · exact .inl hy
  | rollback x | markError x | crash x | mark x =>
      exact h.of_workers hclaims fun _ _ _ _ hy => .inl (Assoc.of_lookup_erase hy).2
  | wait d => exact h.of_workers hclaims fun _ _ _ _ hy => .inl hy

end Delayed

/-- The notification that waits is due. -/
structure Due (row : OutboxRow) (w : World) : Prop extends Delayed w where
  due : row.Claimable reportNotificationType w.clock

namespace Due

theorem step (h : Due row w) (hs : Stepped decodes w a w') : Due row w' := by
  have hclock : w.clock ≤ w'.clock := by
    cases hs with
    | wait d => exact Nat.le_add_right _ _
    | enqueue | nothing | claim | commit | rollback | prepare | post | markError | crash => exact le_rfl
    | mark x id outcome t hx hfree => exact le_rfl
  exact ⟨h.toDelayed.step hs, h.due.1, h.due.2.1, h.due.2.2.trans hclock⟩

/-- The rows stay, and no open claim comes. -/
theorem overtakings_le_of_workers (hrows : w'.db.rows = w.db.rows)
    (hworkers : Assoc.countP (fun _ stage => w.overtakes k row stage) w'.workers ≤
      Assoc.countP (fun _ stage => w.overtakes k row stage) w.workers) :
    w'.overtakings k row ≤ w.overtakings k row := by
  unfold World.overtakings World.waitingBefore
  rw [hrows]
  refine Nat.add_le_add_left (le_trans (Assoc.countP_congr fun x stage _ => ?_).le hworkers) _
  exact overtakes_congr fun _ _ _ _ => congrArg _ hrows

/-- A worker that leaves takes its claim with it. -/
theorem overtakings_leave (hx : w.workers.lookup x = some stage) :
    (w.leave x).overtakings k row ≤ w.overtakings k row :=
  overtakings_le_of_workers rfl ((Nat.le_add_right _ _).trans (Assoc.countP_erase _ hx).ge)

/-- A worker that comes to a stage after its claim has none that is open. -/
theorem overtakings_enter (hx : w.workers.lookup x = some stage) {stage' : Stage}
    (hstage : stage'.isClaiming = false) (posts : List NotificationID) :
    ({ w with posts := posts }.enter x stage').overtakings k row ≤ w.overtakings k row := by
  refine overtakings_le_of_workers rfl ?_
  have hcount := Assoc.countP_insert_of_lookup (fun _ stage => w.overtakes k row stage) hx stage'
  have hno : w.overtakes k row stage' = false := by
    cases stage' with
    | claiming id row t => cases hstage
    | claimed | posting | marking => rfl
  rw [hno] at hcount
  exact (Nat.le_add_right _ _).trans hcount.le

/-- The claim that a worker opens while the notification waits pays for its own commit. -/
theorem overtakings_claim (h : Due row w) (hwaits : w.Waits k row) (hx : w.workers.lookup x = none)
    {e : Σ _ : NotificationID, OutboxRow}
    (he : w.db.candidate w.locked reportNotificationType w.clock = some e)
    (hother : e.1 ≠ k) :
    (w.enter x (.claiming e.1 (e.2.claim w.clock) w.clock)).overtakings k row ≤
      w.overtakings k row := by
  obtain ⟨hrow, ⟨htype, hunsent, -⟩, -, hfirst⟩ := candidate_spec he
  have hbefore := hfirst k row hwaits.1 h.due hwaits.2
  have hahead : OutboxRow.isAhead k row e.1 e.2 = true := decide_eq_true ⟨hother, htype, hunsent, hbefore⟩
  have hbehind : OutboxRow.isAhead k row e.1 (e.2.claim w.clock) = false := by
    refine isAhead_eq_false (.inl ?_)
    have hdue := h.due.2.2
    have hlease : 0 < claimLease := by decide
    show row.nextAttemptAt < w.clock + claimLease
    omega
  refine overtakings_le_of_workers rfl ?_
  refine (Assoc.countP_insert_of_lookup_none _ hx _).le.trans ?_
  have hno : w.overtakes k row (.claiming e.1 (e.2.claim w.clock) w.clock) = false := by
    simp [World.overtakes, hrow, hahead, hbehind]
  rw [hno]
  exact le_rfl

/-- A commit takes its notification from before the one that waits, or an open claim that did not. -/
theorem overtakings_commit (h : Due row w) {t : ℕ}
    (hx : w.workers.lookup x = some (.claiming id row' t)) :
    (({ w with db := { w.db with rows := w.db.rows.insert id row' } }.enter x
      (.claimed (row'.item id) t)).overtakings k row) + 1 ≤ w.overtakings k row := by
  obtain ⟨old, hold, hdue, rfl⟩ := h.written x id row' t hx
  have hrows := Assoc.countP_insert_of_lookup (OutboxRow.isAhead k row) hold (old.claim t)
  have hworkers := Assoc.countP_insert_of_lookup (fun _ stage => w.overtakes k row stage) hx
    (.claimed ((old.claim t).item id) t)
  have hpays : w.overtakes k row (.claiming id (old.claim t) t) =
      !(OutboxRow.isAhead k row id old && !OutboxRow.isAhead k row id (old.claim t)) := by
    simp [World.overtakes, hold]
  have hno : w.overtakes k row (.claimed ((old.claim t).item id) t) = false := rfl
  rw [hpays, hno] at hworkers
  set w' := { w with db := { w.db with rows := w.db.rows.insert id (old.claim t) } }.enter x
    (.claimed ((old.claim t).item id) t) with hw'
  have hsame : Assoc.countP (fun _ stage => w'.overtakes k row stage) w'.workers =
      Assoc.countP (fun _ stage => w.overtakes k row stage) w'.workers := by
    refine Assoc.countP_congr fun y stage hy => overtakes_congr fun id' row' t' hstage => ?_
    refine (Assoc.lookup_insert _ _ _ _).trans (if_neg ?_)
    rintro rfl
    rcases Assoc.of_lookup_insert hy with ⟨-, rfl⟩ | ⟨hne, hy⟩
    · cases hstage
    · exact hne (h.exclusive y x _ _ _ _ _ (hstage ▸ hy) hx)
  unfold World.overtakings
  rw [hsame]
  have hmoves : OutboxRow.isAhead k row id (old.claim t) = true → OutboxRow.isAhead k row id old = true :=
    isAhead_of_claim hdue
  show Assoc.countP (OutboxRow.isAhead k row) (w.db.rows.insert id (old.claim t)) +
      Assoc.countP (fun _ stage => w.overtakes k row stage)
        (w.workers.insert x (.claimed ((old.claim t).item id) t)) + 1 ≤ _
  unfold World.waitingBefore
  cases hnew : OutboxRow.isAhead k row id (old.claim t) with
  | true =>
      rw [hnew, hmoves hnew] at hrows hworkers
      simp at hrows hworkers
      omega
  | false =>
      cases hwas : OutboxRow.isAhead k row id old <;> rw [hnew, hwas] at hrows hworkers <;>
        simp at hrows hworkers <;> omega

/-- A new notification is behind the one that waits. -/
theorem overtakings_enqueue (h : Due row w) (hwaits : w.Waits k row) (dedupeKey payloadJSON : String) :
    World.overtakings k row { w with
      db := w.db.enqueueNotificationOutbox w.clock reportNotificationType dedupeKey payloadJSON } ≤
      w.overtakings k row := by
  have hsame : ∀ x stage, w.workers.lookup x = some stage →
      World.overtakes k row { w with
        db := w.db.enqueueNotificationOutbox w.clock reportNotificationType dedupeKey payloadJSON }
        stage = w.overtakes k row stage := by
    intro x stage hx
    refine overtakes_congr fun id row' t hstage => ?_
    obtain ⟨old, hold, -⟩ := h.written x id row' t (hstage ▸ hx)
    exact (lookup_enqueue h.fresh hold _ _ _ _).trans hold.symm
  refine Nat.add_le_add ?_ (Assoc.countP_congr hsame).le
  unfold World.waitingBefore Outbox.enqueueNotificationOutbox
  dsimp only
  split_ifs
  · exact le_rfl
  · have hnone : w.db.rows.lookup w.db.nextID = none := by
      by_contra hsome
      obtain ⟨old, hold⟩ := Option.ne_none_iff_exists'.1 hsome
      exact absurd (h.fresh _ _ hold) (lt_irrefl _)
    rw [Assoc.countP_insert_of_lookup_none _ hnone, isAhead_eq_false]
    · exact le_rfl
    · rcases h.due.2.2.lt_or_eq with hlt | heq
      · exact .inl hlt
      · exact .inr ⟨heq, h.fresh k row hwaits.1⟩

/-- A notification that is marked is sent, or behind the one that waits. -/
theorem overtakings_mark (h : Due row w) {outcome : Outcome} {t : ℕ}
    (hx : w.workers.lookup x = some (.marking id outcome t)) (hfree : id ∉ w.locked) :
    ((w.mark id outcome).leave x).overtakings k row ≤ w.overtakings k row := by
  have hx' : (w.mark id outcome).workers.lookup x = some (.marking id outcome t) := hx
  refine (overtakings_leave hx').trans ?_
  have hworkers : ∀ y stage, w.workers.lookup y = some stage →
      (w.mark id outcome).overtakes k row stage = w.overtakes k row stage := by
    intro y stage hy
    refine overtakes_congr fun id' row' t' hstage => ?_
    obtain ⟨f, hrows, -⟩ := lookup_mark w id outcome
    rw [hrows]
    refine Assoc.lookup_modify_ne ?_ _ _
    rintro rfl
    exact hfree (mem_locked.2 ⟨y, stage, hy, by rw [hstage]; rfl, by rw [hstage]; rfl⟩)
  refine Nat.add_le_add ?_ (Assoc.countP_congr hworkers).le
  cases outcome with
  | sent =>
      refine Assoc.countP_modify_le _ _ fun v _ hv => ?_
      simp [OutboxRow.isAhead] at hv
  | failed delay =>
      refine Assoc.countP_modify_le _ _ fun v _ hv => ?_
      have hpos := h.delays x id delay t hx
      have hdue := h.due.2.2
      by_cases hunsent : v.sentAt = none
      · rw [if_pos hunsent, isAhead_eq_false] at hv
        · cases hv
        · refine .inl ?_
          have hzero : Time.isZero (w.clock + delay) = false :=
            decide_eq_false (by omega)
          dsimp only
          rw [hzero]
          show row.nextAttemptAt < w.clock + delay
          omega
      · rwa [if_neg hunsent] at hv

/-- While the notification waits, a commit is paid for. -/
theorem overtakings_step (h : Due row w) (hwaits : w.Waits k row) (hwaits' : w'.Waits k row)
    (hs : Stepped decodes w a w') :
    w'.overtakings k row + (if a.isCommit then 1 else 0) ≤ w.overtakings k row := by
  cases hs with
  | enqueue dedupeKey payloadJSON => exact overtakings_enqueue h hwaits dedupeKey payloadJSON
  | nothing x hx he => exact le_rfl
  | claim x e hx he =>
      refine overtakings_claim h hwaits hx he ?_
      rintro rfl
      exact hwaits'.2 (mem_locked.2 ⟨x, _, AList.lookup_insert _, rfl, rfl⟩)
  | commit x id row t hx => exact overtakings_commit h hx
  | rollback x id row t hx | markError x id outcome t hx | crash x stage hx =>
      exact overtakings_leave hx
  | prepare x webhookURL item t hx =>
      refine overtakings_enter hx ?_ w.posts
      rcases prepare_cases decodes item t webhookURL with heq | ⟨delay, heq⟩ <;> rw [heq] <;> rfl
  | post x delivered answer item t hx hanswer => exact overtakings_enter hx rfl _
  | mark x id outcome t hx hfree => exact overtakings_mark h hx hfree
  | wait d => exact le_rfl

/-- When the claims before it are made, the next one takes the notification that waits. -/
theorem candidate_of_overtakings (h : Due row w) (hwaits : w.Waits k row)
    (hnone : w.overtakings k row = 0) :
    w.db.candidate w.locked reportNotificationType w.clock = some ⟨k, row⟩ := by
  cases he : w.db.candidate w.locked reportNotificationType w.clock with
  | none => exact absurd (candidate_eq_none he hwaits.1 h.due) hwaits.2
  | some e =>
      obtain ⟨hrow, ⟨htype, hunsent, -⟩, -, hfirst⟩ := candidate_spec he
      by_cases hk : e.1 = k
      · obtain ⟨id, row'⟩ := e
        obtain rfl : id = k := hk
        have hsame : row' = row := Option.some.inj (hrow.symm.trans hwaits.1)
        rw [hsame]
      · have hahead : OutboxRow.isAhead k row e.1 e.2 = true :=
          decide_eq_true ⟨hk, htype, hunsent, hfirst k row hwaits.1 h.due hwaits.2⟩
        have hzero := Assoc.countP_eq_zero.1 (Nat.add_eq_zero_iff.1 hnone).1 e.1 e.2 hrow
        rw [hahead] at hzero
        cases hzero

end Due

/-- While a notification waits that is due, the workers commit no more claims than there are
notifications before it and claims that are open; and once they have made those that can come before it,
the next claim takes it. -/
theorem commits_le_of_waits (decodes : String → Bool) (db : Outbox) (t : ℕ) (hdb : db.Fresh)
    (before acts : List Act) {w w' : World} {k : NotificationID} {row : OutboxRow}
    (hbefore : Run.exec (World.step decodes) (.start db t) before = some w)
    (hdue : row.Claimable reportNotificationType w.clock)
    (hwaits : Run.Always (World.step decodes) (World.Waits k row) w acts)
    (hs : Run.exec (World.step decodes) w acts = some w') :
    acts.countP Act.isCommit ≤ w.overtakings k row ∧
      w.overtakings k row ≤ w.waitingBefore k row + w.openClaims ∧
      (acts.countP Act.isCommit = w.overtakings k row →
        w'.db.candidate w'.locked reportNotificationType w'.clock = some ⟨k, row⟩) := by
  have hstart : Due row w :=
    ⟨(Run.always_of_invariant (fun _ _ _ h _ hs => h.step (stepped_of_step hs)) (Delayed.start hdb t)
      (Run.guarded_true _ _)).exec hbefore, hdue⟩
  obtain ⟨hend, hpaid⟩ := Run.countP_le_potential (World.overtakings k row) Act.isCommit
    (fun s a s' (h : Due row s) hs hs' hstep => ⟨h.step (stepped_of_step hstep),
      h.overtakings_step hs hs' (stepped_of_step hstep)⟩) hstart hwaits hs
  exact ⟨by omega, overtakings_le, fun hall => hend.candidate_of_overtakings (hwaits.exec hs) (by omega)⟩

/-- A notification that waits since the given time. -/
def pending (id : NotificationID) (nextAttemptAt : ℕ) : OutboxRow :=
  ⟨reportNotificationType, toString id, "{}", 0, nextAttemptAt, none⟩

/-- Two notifications wait before the third one. -/
def threePending : Outbox where
  rows := (((∅ : Assoc NotificationID OutboxRow).insert 1 (pending 1 1)).insert 2 (pending 2 2)).insert 3
    (pending 3 3)
  nextID := 4

/-- The claim of the first one is given up; two others come before the third notification. -/
theorem commits_le_of_waits_threePending :
    ((Run.exec (World.step fun _ => true) ((World.start threePending 3).claim 1)
      [.rollback 1, .claim 2, .claim 3, .commit 3, .commit 2]).bind fun w' =>
        w'.db.candidate w'.locked reportNotificationType w'.clock) = some ⟨3, pending 3 3⟩ := by
  cases hs : Run.exec (World.step fun _ => true) ((World.start threePending 3).claim 1)
      [.rollback 1, .claim 2, .claim 3, .commit 3, .commit 2] with
  | none =>
      have hsome : (Run.exec (World.step fun _ => true) ((World.start threePending 3).claim 1)
        [.rollback 1, .claim 2, .claim 3, .commit 3, .commit 2]).isSome = true := by decide +kernel
      rw [hs] at hsome
      cases hsome
  | some w' =>
      refine (commits_le_of_waits (fun _ => true) threePending 3 ?_ [.claim 1] _ rfl ?_ ?_ hs).2.2 ?_
      · intro id row hrow
        have hall : ∀ id row, threePending.rows.lookup id = some row → id < threePending.nextID := by
          decide +kernel
        exact hall id row hrow
      · decide +kernel
      · decide +kernel
      · decide +kernel

end GeoDuels.Notifications
