import GeoDuels.Lib.Count
import GeoDuels.Notifications.OncePosted

/-!
# Every message has an attempt of its own

Whatever happens between the workers (leases that run out, late marks, crashes, lost answers), a message
that Discord receives belongs to a claim that has counted it: a notification is posted no more often than
its `attempts`.  And a row that is marked as sent stays as it is.
-/

namespace GeoDuels.Notifications

variable {decodes : String → Bool} {w w' : World} {a : Act} {x y : WorkerID} {id : NotificationID}
variable {row : OutboxRow} {stage : Stage}

/-- The worker has claimed the notification and may still post it. -/
def Stage.mayPost (id : NotificationID) : Stage → Bool
  | .claimed item _ | .posting item _ => item.id = id
  | _ => false

/-- The workers that may still post the notification. -/
def World.ahead (w : World) (id : NotificationID) : ℕ :=
  Assoc.countP (fun _ stage => stage.mayPost id) w.workers

/-- The attempts at a notification that the outbox has counted. -/
def World.attempts (w : World) (id : NotificationID) : ℕ :=
  (w.db.rows.lookup id).elim 0 OutboxRow.attempts

/-- Each notification has been posted no more often than attempted. -/
def World.Accounted (w : World) : Prop := ∀ id, w.posts.count id ≤ w.attempts id

/-- The open claims and what they have written. -/
structure Claims (w : World) : Prop where
  fresh : w.db.Fresh
  exclusive : ∀ x y id row row' t t', w.workers.lookup x = some (.claiming id row t) →
    w.workers.lookup y = some (.claiming id row' t') → x = y
  written : ∀ x id row t, w.workers.lookup x = some (.claiming id row t) →
    ∃ old, w.db.rows.lookup id = some old ∧ old.Claimable reportNotificationType t ∧ row = old.claim t

/-- A row that is marked as sent is not attempted again. -/
def SentStays (w : World) (_ : Act) (w' : World) : Prop :=
  ∀ id row, w.db.rows.lookup id = some row → row.sentAt ≠ none →
    ∃ sentAt, sentAt ≠ none ∧ w'.db.rows.lookup id = some { row with sentAt := sentAt }

/-! ## The workers that may still post -/

theorem ahead_leave_le (hx : w.workers.lookup x = some stage) (id : NotificationID) :
    (w.leave x).ahead id ≤ w.ahead id :=
  (Nat.le_add_right _ _).trans (Assoc.countP_erase _ hx).ge

theorem ahead_enter (hx : w.workers.lookup x = some stage) (stage' : Stage) (id : NotificationID) :
    (w.enter x stage').ahead id + (if stage.mayPost id then 1 else 0) =
      w.ahead id + if stage'.mayPost id then 1 else 0 :=
  Assoc.countP_insert_of_lookup _ hx _

theorem ahead_enter_le (hx : w.workers.lookup x = some stage) {stage' : Stage}
    (h : stage'.mayPost id = true → stage.mayPost id = true) :
    (w.enter x stage').ahead id ≤ w.ahead id := by
  have heq := ahead_enter hx stage' id
  split_ifs at heq with hold hnew
  · omega
  · omega
  · exact absurd (h ‹_›) hold
  · omega

theorem ahead_enter_new (hx : w.workers.lookup x = none) (h : stage.mayPost id = false) :
    (w.enter x stage).ahead id = w.ahead id := by
  refine (Assoc.countP_insert_of_lookup_none _ hx stage).trans ?_
  rw [h]
  rfl

/-- Only a worker that may post the notification goes on to post it. -/
theorem mayPost_prepare (item : NotificationOutboxItem) (t : ℕ) (webhookURL : Option String)
    (h : (prepare decodes item t webhookURL).mayPost id = true) :
    (Stage.claimed item t).mayPost id = true := by
  rcases prepare_cases decodes item t webhookURL with heq | ⟨delay, heq⟩ <;>
    rw [heq] at h
  · exact h
  · cases h

/-! ## The open claims -/

namespace Claims

theorem start {db : Outbox} (hdb : db.Fresh) (t : ℕ) : Claims (.start db t) where
  fresh := hdb
  exclusive := by
    intro x y id row row' t t' hx
    cases hx
  written := by
    intro x id row t hx
    cases hx

/-- Nobody comes to an open claim, and the rows of the open ones stay. -/
theorem of_workers (h : Claims w) (hfresh : w'.db.Fresh)
    (hworkers : ∀ x id row t, w'.workers.lookup x = some (.claiming id row t) →
      w.workers.lookup x = some (.claiming id row t) ∧
        w'.db.rows.lookup id = w.db.rows.lookup id) : Claims w' where
  fresh := hfresh
  exclusive := fun x y id row row' t t' hx hy =>
    h.exclusive x y id row row' t t' (hworkers x id row t hx).1 (hworkers y id row' t' hy).1
  written := by
    intro x id row t hx
    obtain ⟨hx', hrow⟩ := hworkers x id row t hx
    rw [hrow]
    exact h.written x id row t hx'

theorem leave (h : Claims w) (x : WorkerID) : Claims (w.leave x) :=
  h.of_workers h.fresh fun _ _ _ _ hy => ⟨(Assoc.of_lookup_erase hy).2, rfl⟩

/-- A worker comes to a stage after its claim. -/
theorem enter (h : Claims w) (hstage : stage.isClaiming = false) : Claims (w.enter x stage) := by
  refine h.of_workers h.fresh fun y id row t hy => ?_
  rcases Assoc.of_lookup_insert hy with ⟨-, rfl⟩ | ⟨-, hy⟩
  · cases hstage
  · exact ⟨hy, rfl⟩

theorem step (h : Claims w) (hs : Stepped decodes w a w') : Claims w' := by
  cases hs with
  | enqueue dedupeKey payloadJSON =>
      refine h.of_workers (fresh_enqueue h.fresh _ _ _ _) fun x id row t hx => ⟨hx, ?_⟩
      obtain ⟨old, hold, -⟩ := h.written x id row t hx
      rw [hold]
      exact lookup_enqueue h.fresh hold _ _ _ _
  | nothing x hx he => exact h
  | claim x e hx he =>
      obtain ⟨hrow, hdue, hfree, -⟩ := candidate_spec he
      have hothers : ∀ y row t, w.workers.lookup y ≠ some (.claiming e.1 row t) := fun y row t hy =>
        hfree (mem_locked.2 ⟨y, _, hy, rfl, rfl⟩)
      refine ⟨h.fresh, fun y z id row row' t t' hy hz => ?_, fun y id row t hy => ?_⟩
      · rcases Assoc.of_lookup_insert hy with ⟨rfl, heq⟩ | ⟨-, hy₀⟩ <;>
          rcases Assoc.of_lookup_insert hz with ⟨rfl, heq'⟩ | ⟨-, hz₀⟩
        · rfl
        · cases heq
          exact absurd hz₀ (hothers z _ _)
        · cases heq'
          exact absurd hy₀ (hothers y _ _)
        · exact h.exclusive y z id row row' t t' hy₀ hz₀
      · rcases Assoc.of_lookup_insert hy with ⟨rfl, heq⟩ | ⟨-, hy₀⟩
        · cases heq
          exact ⟨e.2, hrow, hdue, rfl⟩
        · exact h.written y id row t hy₀
  | commit x id row t hx =>
      obtain ⟨old, hold, -⟩ := h.written x id row t hx
      refine h.of_workers ?_ fun y id' row' t' hy => ?_
      · intro id' row' hrow'
        rcases Assoc.of_lookup_insert hrow' with ⟨rfl, -⟩ | ⟨-, hrow'⟩
        · exact h.fresh _ _ hold
        · exact h.fresh _ _ hrow'
      · rcases Assoc.of_lookup_insert hy with ⟨-, heq⟩ | ⟨hne, hy₀⟩
        · cases heq
        · refine ⟨hy₀, AList.lookup_insert_ne ?_⟩
          rintro rfl
          exact hne (h.exclusive y x _ _ _ _ _ hy₀ hx)
  | rollback x | markError x | crash x => exact h.leave x
  | prepare x webhookURL item t hx =>
      refine h.enter ?_
      rcases prepare_cases decodes item t webhookURL with heq | ⟨delay, heq⟩ <;> rw [heq] <;> rfl
  | post x delivered answer item t hx hanswer =>
      exact (h.of_workers h.fresh fun _ _ _ _ hy => ⟨hy, rfl⟩ :
        Claims { w with posts := if delivered then w.posts ++ [item.id] else w.posts }).enter rfl
  | mark x id outcome t hx hfree =>
      obtain ⟨f, hrows, -⟩ := lookup_mark w id outcome
      have hdb : (w.mark id outcome).db.nextID = w.db.nextID := by cases outcome <;> rfl
      refine h.of_workers ?_ fun y id' row t' hy => ⟨(Assoc.of_lookup_erase hy).2, ?_⟩
      · intro id' row hrow
        have hmem : id' ∈ w.db.rows := by
          have := Assoc.mem_iff_exists.2 ⟨row, hrow⟩
          rw [show ((w.mark id outcome).leave x).db.rows = _ from hrows] at this
          exact Assoc.mem_modify.1 this
        obtain ⟨old, hold⟩ := Assoc.mem_iff_exists.1 hmem
        exact (h.fresh id' old hold).trans_eq hdb.symm
      · show (w.mark id outcome).db.rows.lookup id' = _
        rw [hrows]
        refine Assoc.lookup_modify_ne ?_ _ _
        rintro rfl
        exact hfree (mem_locked.2 ⟨y, _, (Assoc.of_lookup_erase hy).2, rfl, rfl⟩)
  | wait d => exact h.of_workers h.fresh fun _ _ _ _ hy => ⟨hy, rfl⟩

end Claims

/-- The workers leave the keys of the notifications as they are. -/
theorem lookup_dedupeKey (h : Claims w) (hs : Stepped decodes w a w')
    (hne : ∀ dedupeKey payloadJSON, a ≠ .enqueue dedupeKey payloadJSON) (id : NotificationID) :
    (w'.db.rows.lookup id).map OutboxRow.dedupeKey = (w.db.rows.lookup id).map OutboxRow.dedupeKey := by
  cases hs with
  | enqueue dedupeKey payloadJSON => exact absurd rfl (hne dedupeKey payloadJSON)
  | commit x id' row t hx =>
      obtain ⟨old, hold, -, rfl⟩ := h.written x id' row t hx
      show ((w.db.rows.insert id' (old.claim t)).lookup id).map _ = _
      by_cases hid : id = id'
      · subst hid
        rw [AList.lookup_insert, hold]
        rfl
      · rw [AList.lookup_insert_ne hid]
  | mark x id' outcome t hx hfree =>
      obtain ⟨f, hrows, hf, -⟩ := lookup_mark w id' outcome
      show ((w.mark id' outcome).db.rows.lookup id).map _ = _
      rw [hrows, Assoc.lookup_modify]
      split_ifs
      · cases w.db.rows.lookup id with
        | none => rfl
        | some row => exact congrArg some (hf row).2
      · rfl
  | nothing | claim | rollback | prepare | post | markError | crash | wait => rfl

/-! ## The account -/

/-- Every message, posted or still to be, has an attempt. -/
structure Paid (w : World) : Prop extends Claims w where
  paid : ∀ id, w.posts.count id + w.ahead id ≤ w.attempts id

namespace Paid

/-- A worker leaves, or comes to a stage in which it does not post. -/
theorem of_ahead (h : Paid w) (hclaims : Claims w') (hposts : w'.posts = w.posts)
    (hahead : ∀ id, w'.ahead id ≤ w.ahead id) (hattempts : ∀ id, w.attempts id ≤ w'.attempts id) :
    Paid w' := by
  refine ⟨hclaims, fun id => ?_⟩
  have hold := h.paid id
  have hle := hahead id
  have hge := hattempts id
  rw [hposts]
  omega

theorem attempts_enqueue (h : w.db.Fresh) (dedupeKey payloadJSON : String) (id : NotificationID) :
    World.attempts { w with
      db := w.db.enqueueNotificationOutbox w.clock reportNotificationType dedupeKey payloadJSON } id =
      w.attempts id := by
  unfold World.attempts
  cases hrow : w.db.rows.lookup id with
  | some row =>
      dsimp only
      rw [lookup_enqueue h hrow]
  | none =>
      dsimp only
      cases hnew : (w.db.enqueueNotificationOutbox w.clock reportNotificationType dedupeKey
          payloadJSON).rows.lookup id with
      | none => rfl
      | some row => exact (lookup_enqueue_of_none hrow hnew).2.1

theorem attempts_mark (w : World) (id id' : NotificationID) (outcome : Outcome) :
    (w.mark id outcome).attempts id' = w.attempts id' := by
  obtain ⟨f, hrows, hf, -⟩ := lookup_mark w id outcome
  unfold World.attempts
  rw [hrows, Assoc.lookup_modify]
  split_ifs
  · cases w.db.rows.lookup id' with
    | none => rfl
    | some row => exact (hf row).1
  · rfl

theorem step (h : Paid w) (hs : Stepped decodes w a w') : Paid w' := by
  have hclaims := h.toClaims.step hs
  cases hs with
  | enqueue dedupeKey payloadJSON =>
      exact h.of_ahead hclaims rfl (fun _ => le_rfl) fun id => (attempts_enqueue h.fresh _ _ id).ge
  | nothing x hx he => exact h
  | claim x e hx he =>
      exact h.of_ahead hclaims rfl (fun id => (ahead_enter_new hx rfl).le) fun _ => le_rfl
  | commit x id row t hx =>
      obtain ⟨old, hold, -, rfl⟩ := h.written x id row t hx
      refine ⟨hclaims, fun id' => ?_⟩
      have hpaid := h.paid id'
      have hahead := ahead_enter hx (.claimed ((old.claim t).item id) t) id'
      show w.posts.count id' + (w.enter x (.claimed ((old.claim t).item id) t)).ahead id' ≤
        (((w.db.rows.insert id (old.claim t)).lookup id').elim 0 OutboxRow.attempts)
      rw [Assoc.lookup_insert]
      unfold World.attempts at hpaid
      by_cases hid : id' = id
      · subst hid
        have hmay : (Stage.claimed ((old.claim t).item id') t).mayPost id' = true :=
          decide_eq_true rfl
        rw [hold] at hpaid
        rw [hmay, if_pos rfl] at hahead
        rw [if_pos rfl]
        exact (Nat.add_le_add_left hahead.le _).trans (Nat.add_le_add_right hpaid 1)
      · have hmay : (Stage.claimed ((old.claim t).item id) t).mayPost id' = false :=
          decide_eq_false fun heq => hid heq.symm
        rw [hmay] at hahead
        rw [if_neg hid]
        exact (Nat.add_le_add_left hahead.le _).trans hpaid
  | rollback x id row t hx | markError x id outcome t hx | crash x stage hx =>
      exact h.of_ahead hclaims rfl (ahead_leave_le hx) fun _ => le_rfl
  | prepare x webhookURL item t hx =>
      exact h.of_ahead hclaims rfl (fun id => ahead_enter_le hx (mayPost_prepare item t webhookURL))
        fun _ => le_rfl
  | post x delivered answer item t hx hanswer =>
      refine ⟨hclaims, fun id => ?_⟩
      have hpaid := h.paid id
      have hahead := ahead_enter hx (.marking item.id (outcomeOf item.attempts answer) t) id
      show (if delivered then w.posts ++ [item.id] else w.posts).count id +
        (w.enter x (.marking item.id (outcomeOf item.attempts answer) t)).ahead id ≤ w.attempts id
      have hcount : (if delivered then w.posts ++ [item.id] else w.posts).count id ≤
          w.posts.count id + if (Stage.posting item t).mayPost id = true then 1 else 0 := by
        cases delivered with
        | false => exact Nat.le_add_right _ _
        | true =>
            rw [if_pos rfl, List.count_append, List.count_singleton]
            simp [Stage.mayPost]
      have hnot : (Stage.marking item.id (outcomeOf item.attempts answer) t).mayPost id = false := rfl
      rw [hnot] at hahead
      simp only [Bool.false_eq_true, if_false, add_zero] at hahead
      omega
  | mark x id outcome t hx hfree =>
      refine h.of_ahead hclaims ?_ (fun id' => ?_) fun id' => (attempts_mark w id id' outcome).ge
      · cases outcome <;> rfl
      · cases outcome <;> exact ahead_leave_le hx id'
  | wait d => exact h.of_ahead hclaims rfl (fun _ => le_rfl) fun _ => le_rfl

theorem accounted (h : Paid w) : w.Accounted := fun id =>
  (Nat.le_add_right _ _).trans (h.paid id)

end Paid

/-- No step takes a mark back, or attempts a notification that is marked. -/
theorem sentStays (h : Claims w) (hs : Stepped decodes w a w') : SentStays w a w' := by
  intro id row hrow hsent
  cases hs with
  | enqueue dedupeKey payloadJSON =>
      exact ⟨row.sentAt, hsent, lookup_enqueue h.fresh hrow _ _ _ _⟩
  | commit x id' row' t hx =>
      refine ⟨row.sentAt, hsent, (AList.lookup_insert_ne ?_).trans hrow⟩
      rintro rfl
      obtain ⟨old, hold, ⟨-, hunsent, -⟩, -⟩ := h.written x id row' t hx
      obtain rfl := Option.some.inj (hold.symm.trans hrow)
      exact hsent hunsent
  | mark x id' outcome t hx hfree =>
      obtain ⟨f, hrows, -, hf⟩ := lookup_mark w id' outcome
      show ∃ sentAt, sentAt ≠ none ∧ (w.mark id' outcome).db.rows.lookup id = _
      rw [hrows, Assoc.lookup_modify, hrow]
      split_ifs
      · obtain ⟨sentAt, hne, heq⟩ := hf row hsent
        exact ⟨sentAt, hne, congrArg some heq⟩
      · exact ⟨row.sentAt, hsent, rfl⟩
  | nothing | claim | rollback | prepare | post | markError | crash | wait =>
      exact ⟨row.sentAt, hsent, hrow⟩

/-- In every run of the workers, with whatever faults: Discord has received each notification no more
often than its attempts, and a notification that is marked as sent is not attempted again. -/
theorem posts_le_attempts (decodes : String → Bool) (db : Outbox) (t : ℕ) (hdb : db.Fresh)
    (acts : List Act) :
    Run.Always (World.step decodes) World.Accounted (.start db t) acts ∧
      Run.Along (World.step decodes) SentStays (.start db t) acts := by
  have hstart : Paid (.start db t) := by
    refine ⟨.start hdb t, fun id => ?_⟩
    show 0 + 0 ≤ _
    exact Nat.zero_le _
  constructor
  · exact (Run.always_of_invariant (fun _ _ _ h _ hs => h.step (stepped_of_step hs)) hstart
      (Run.guarded_true _ _)).mono fun _ h => h.accounted
  · exact Run.along_of_invariant (fun w a w' (h : Paid w) _ hs =>
      ⟨h.step (stepped_of_step hs), sentStays h.toClaims (stepped_of_step hs)⟩) hstart
      (Run.guarded_true _ _)

/-- A message is delivered, but its answer and the mark are lost; the next worker posts it again. -/
def lostAnswer : List Act :=
  [.enqueue "1" "{}", .claim 1, .commit 1, .prepare 1 (some "url"), .post 1 true (.error 0),
    .markError 1, .wait claimLease, .claim 2, .commit 2, .prepare 2 (some "url"),
    .post 2 true (.ok ()), .mark 2]

theorem posts_le_attempts_lostAnswer :
    (Run.Always (World.step fun _ => true) World.Accounted (.start {} 0) lostAnswer ∧
        Run.Along (World.step fun _ => true) SentStays (.start {} 0) lostAnswer) ∧
      (Run.exec (World.step fun _ => true) (.start {} 0) lostAnswer).map World.posts =
        some [1, 1] :=
  ⟨posts_le_attempts _ {} 0 (fun id row hrow => by cases hrow) lostAnswer, by decide +kernel⟩

end GeoDuels.Notifications
