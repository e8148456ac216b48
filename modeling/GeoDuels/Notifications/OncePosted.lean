import GeoDuels.Notifications.Spec

/-!
# A notification is posted once

The lease keeps a notification to the worker that has claimed it, as long as nobody holds it for five
minutes: no two workers have the same notification, and Discord receives each of them once.  A message
that Discord receives although its answer is an error, a worker that stops between its message and the
mark, and a mark that fails are the faults that let it be posted again.
-/

namespace GeoDuels.Notifications

variable {decodes : String → Bool} {w w' : World} {a : Act} {x y : WorkerID} {id : NotificationID}
variable {row : OutboxRow} {stage : Stage}

/-- Any outbox, with no worker at it. -/
def World.start (db : Outbox) (t : ℕ) : World := { db := db, clock := t }

/-- No two workers have the same notification. -/
def World.Exclusive (w : World) : Prop :=
  ∀ x y stage stage', w.workers.lookup x = some stage → w.workers.lookup y = some stage' →
    stage.id = stage'.id → x = y

/-- Discord receives no message whose answer is an error, nobody that has posted a message leaves
without marking it, and nobody holds a notification as long as the lease. -/
def NoFault (w : World) : Act → Prop
  | .post _ delivered answer => delivered = true → answer = .ok ()
  | .markError x | .crash x =>
      ∀ stage, w.workers.lookup x = some stage → ∀ t, stage ≠ .marking stage.id .sent t
  | .wait d => ∀ x stage, w.workers.lookup x = some stage → w.clock + d < stage.claimedAt + claimLease
  | _ => True

/-- The row that the worker has claimed, still within the lease. -/
structure Held (w : World) (stage : Stage) (row : OutboxRow) : Prop where
  stored : w.db.rows.lookup stage.id = some row
  unsent : row.sentAt = none
  within : w.clock < stage.claimedAt + claimLease
  written : ∀ id row' t, stage = .claiming id row' t → row' = row.claim t
  leased : stage.isClaiming = false → row.nextAttemptAt = stage.claimedAt + claimLease

structure Inv (w : World) : Prop where
  fresh : w.db.Fresh
  held : ∀ x stage, w.workers.lookup x = some stage → ∃ row, Held w stage row
  exclusive : w.Exclusive
  posted : ∀ id ∈ w.posts, ∃ row, w.db.rows.lookup id = some row ∧
    (row.sentAt = none → ∃ x t, w.workers.lookup x = some (.marking id .sent t))
  nodup : w.posts.Nodup

namespace Inv

theorem start {db : Outbox} (hdb : db.Fresh) (t : ℕ) : Inv (.start db t) where
  fresh := hdb
  held := by
    intro x stage hx
    cases hx
  exclusive := by
    intro x y stage stage' hx
    cases hx
  posted := by simp [World.start]
  nodup := List.nodup_nil

/-- A notification that a worker holds has been posted only if it is the one to be marked. -/
theorem notMem_posts (h : Inv w) (hx : w.workers.lookup x = some stage)
    (hnot : ∀ t, stage ≠ .marking stage.id .sent t) : stage.id ∉ w.posts := by
  intro hmem
  obtain ⟨row, hheld⟩ := h.held x stage hx
  obtain ⟨row', hrow', hposted⟩ := h.posted _ hmem
  obtain rfl := Option.some.inj (hheld.stored.symm.trans hrow')
  obtain ⟨y, t, hy⟩ := hposted hheld.unsent
  obtain rfl := h.exclusive x y _ _ hx hy rfl
  exact hnot t (Option.some.inj (hx.symm.trans hy))

/-- A worker leaves, and the row of its notification may change. -/
theorem leave (h : Inv w) (hx : w.workers.lookup x = some stage)
    {rows : Assoc NotificationID OutboxRow}
    (hrows : ∀ id, id ≠ stage.id → rows.lookup id = w.db.rows.lookup id)
    (hmem : stage.id ∈ rows → stage.id ∈ w.db.rows)
    (hsent : stage.id ∈ w.posts → ∃ row, rows.lookup stage.id = some row ∧ row.sentAt ≠ none) :
    Inv ({ w with db := { w.db with rows := rows } }.leave x) where
  fresh := by
    intro id row hrow
    by_cases hid : id = stage.id
    · subst hid
      obtain ⟨row', hrow'⟩ := Assoc.mem_iff_exists.1 (hmem (Assoc.mem_iff_exists.2 ⟨row, hrow⟩))
      exact h.fresh _ _ hrow'
    · exact h.fresh id row ((hrows id hid).symm.trans hrow)
  held := by
    intro y stage' hy
    obtain ⟨hne, hy⟩ := Assoc.of_lookup_erase hy
    obtain ⟨row, hheld⟩ := h.held y stage' hy
    have hid : stage'.id ≠ stage.id := fun hid => hne (h.exclusive y x _ _ hy hx hid)
    exact ⟨row, (hrows _ hid).trans hheld.stored, hheld.unsent, hheld.within, hheld.written,
      hheld.leased⟩
  exclusive := by
    intro y z s s' hy hz
    exact h.exclusive y z s s' (Assoc.of_lookup_erase hy).2 (Assoc.of_lookup_erase hz).2
  posted := by
    intro id hid
    by_cases hsame : id = stage.id
    · subst hsame
      obtain ⟨row, hrow, hrowsent⟩ := hsent hid
      exact ⟨row, hrow, fun hunsent => absurd hunsent hrowsent⟩
    · obtain ⟨row, hrow, hposted⟩ := h.posted id hid
      refine ⟨row, (hrows id hsame).trans hrow, fun hunsent => ?_⟩
      obtain ⟨y, t, hy⟩ := hposted hunsent
      have hne : y ≠ x := by
        rintro rfl
        rw [hx] at hy
        obtain rfl := Option.some.inj hy
        exact hsame rfl
      refine ⟨y, t, ?_⟩
      show (w.workers.erase x).lookup y = _
      rw [Assoc.lookup_erase, if_neg hne]
      exact hy
  nodup := h.nodup

/-- A worker that has nothing to mark as sent leaves its row as it is. -/
theorem giveUp (h : Inv w) (hx : w.workers.lookup x = some stage)
    (hnot : ∀ t, stage ≠ .marking stage.id .sent t) : Inv (w.leave x) :=
  h.leave hx (fun _ _ => rfl) (fun hmem => hmem) fun hmem => absurd hmem (h.notMem_posts hx hnot)

/-- A worker comes to a stage for a notification that nobody else has and that is not posted yet. -/
theorem enter (h : Inv w) {rows : Assoc NotificationID OutboxRow} {posts : List NotificationID}
    (hrows : ∀ id, id ≠ stage.id → rows.lookup id = w.db.rows.lookup id)
    (hmem : stage.id ∈ w.db.rows)
    (hself : ∀ stage', w.workers.lookup x = some stage' → stage'.id = stage.id)
    (hothers : ∀ y stage', y ≠ x → w.workers.lookup y = some stage' → stage'.id ≠ stage.id)
    (hheld : ∃ row, Held { w with db := { w.db with rows := rows } } stage row)
    (hnot : stage.id ∉ w.posts)
    (hposts : posts = w.posts ∨
      posts = w.posts ++ [stage.id] ∧ ∃ t, stage = .marking stage.id .sent t) :
    Inv ({ w with db := { w.db with rows := rows }, posts := posts }.enter x stage) where
  fresh := by
    intro id row hrow
    by_cases hid : id = stage.id
    · subst hid
      obtain ⟨row', hrow'⟩ := Assoc.mem_iff_exists.1 hmem
      exact h.fresh _ _ hrow'
    · exact h.fresh id row ((hrows id hid).symm.trans hrow)
  held := by
    intro y stage' hy
    rcases Assoc.of_lookup_insert hy with ⟨rfl, rfl⟩ | ⟨hne, hy⟩
    · obtain ⟨row, hheld⟩ := hheld
      exact ⟨row, hheld.stored, hheld.unsent, hheld.within, hheld.written, hheld.leased⟩
    · obtain ⟨row, hheld'⟩ := h.held y stage' hy
      exact ⟨row, (hrows _ (hothers y stage' hne hy)).trans hheld'.stored, hheld'.unsent,
        hheld'.within, hheld'.written, hheld'.leased⟩
  exclusive := by
    intro y z s s' hy hz hid
    rcases Assoc.of_lookup_insert hy with ⟨rfl, rfl⟩ | ⟨hyx, hy₀⟩ <;>
      rcases Assoc.of_lookup_insert hz with ⟨rfl, rfl⟩ | ⟨hzx, hz₀⟩
    · rfl
    · exact absurd hid.symm (hothers z s' hzx hz₀)
    · exact absurd hid (hothers y s hyx hy₀)
    · exact h.exclusive y z s s' hy₀ hz₀ hid
  posted := by
    intro id hid
    by_cases hsame : id = stage.id
    · subst hsame
      rcases hposts with rfl | ⟨rfl, t, ht⟩
      · exact absurd hid hnot
      · obtain ⟨row, hheld⟩ := hheld
        exact ⟨row, hheld.stored, fun _ => ⟨x, t, ht ▸ AList.lookup_insert _⟩⟩
    · have hid : id ∈ w.posts := by
        rcases hposts with rfl | ⟨rfl, -⟩
        · exact hid
        · simpa [World.enter, hsame] using hid
      obtain ⟨row, hrow, hposted⟩ := h.posted id hid
      refine ⟨row, (hrows id hsame).trans hrow, fun hunsent => ?_⟩
      obtain ⟨y, t, hy⟩ := hposted hunsent
      have hne : y ≠ x := by
        rintro rfl
        exact hsame (hself _ hy)
      refine ⟨y, t, ?_⟩
      show (w.workers.insert x stage).lookup y = _
      rw [Assoc.lookup_insert, if_neg hne]
      exact hy
  nodup := by
    rcases hposts with rfl | ⟨rfl, -⟩
    · exact h.nodup
    · exact List.nodup_append.2 ⟨h.nodup, List.nodup_singleton _, by
        rintro i hi j hj rfl
        exact hnot (List.mem_singleton.1 hj ▸ hi)⟩

/-- A worker goes on with the notification that it has claimed. -/
theorem goOn (h : Inv w) (hx : w.workers.lookup x = some stage) (stage' : Stage)
    (rows : Assoc NotificationID OutboxRow) (posts : List NotificationID)
    (hid : stage'.id = stage.id)
    (hrows : ∀ id, id ≠ stage.id → rows.lookup id = w.db.rows.lookup id)
    (hheld : ∀ row, Held w stage row →
      ∃ row', Held { w with db := { w.db with rows := rows } } stage' row')
    (hnot : ∀ t, stage ≠ .marking stage.id .sent t)
    (hposts : posts = w.posts ∨
      posts = w.posts ++ [stage'.id] ∧ ∃ t, stage' = .marking stage'.id .sent t) :
    Inv ({ w with db := { w.db with rows := rows }, posts := posts }.enter x stage') := by
  obtain ⟨row, hrow⟩ := h.held x stage hx
  refine h.enter (by rw [hid]; exact hrows) ?_ ?_ ?_ (hheld row hrow) ?_ hposts
  · rw [hid]
    exact Assoc.mem_iff_exists.2 ⟨row, hrow.stored⟩
  · intro s hs
    obtain rfl := Option.some.inj (hx.symm.trans hs)
    exact hid.symm
  · intro y s hne hy heq
    exact hne (h.exclusive y x _ _ hy hx (heq.trans hid))
  · rw [hid]
    exact h.notMem_posts hx hnot

/-- A new notification gets an id that no row has. -/
theorem enqueue (h : Inv w) (dedupeKey payloadJSON : String) :
    Inv { w with
      db := w.db.enqueueNotificationOutbox w.clock reportNotificationType dedupeKey payloadJSON } := by
  refine ⟨fresh_enqueue h.fresh _ _ _ _, fun x stage hx => ?_, h.exclusive, fun id hid => ?_, h.nodup⟩
  · obtain ⟨row, hheld⟩ := h.held x stage hx
    exact ⟨row, lookup_enqueue h.fresh hheld.stored _ _ _ _, hheld.unsent, hheld.within,
      hheld.written, hheld.leased⟩
  · obtain ⟨row, hrow, hposted⟩ := h.posted id hid
    exact ⟨row, lookup_enqueue h.fresh hrow _ _ _ _, hposted⟩

/-- The mark of the worker that has the notification. -/
theorem mark (h : Inv w) {outcome : Outcome} {t : ℕ}
    (hx : w.workers.lookup x = some (.marking id outcome t)) : Inv ((w.mark id outcome).leave x) := by
  obtain ⟨row, hrow⟩ := h.held x _ hx
  cases outcome with
  | sent =>
      refine h.leave hx (fun id' hne => Assoc.lookup_modify_ne hne _ _) Assoc.mem_modify.1 fun _ => ?_
      refine ⟨{ row with sentAt := some w.clock }, ?_, fun hnone => by cases hnone⟩
      exact (Assoc.lookup_modify_self _ _ _).trans (congrArg (Option.map _) hrow.stored)
  | failed delay =>
      refine h.leave hx (fun id' hne => Assoc.lookup_modify_ne hne _ _) Assoc.mem_modify.1 fun hmem => ?_
      exact absurd hmem (h.notMem_posts hx (by rintro t' ⟨⟩))

theorem step (h : Inv w) (hC : NoFault w a) (hs : Stepped decodes w a w') : Inv w' := by
  cases hs with
  | enqueue dedupeKey payloadJSON => exact h.enqueue dedupeKey payloadJSON
  | nothing x hx he => exact h
  | claim x e hx he =>
      obtain ⟨hrow, ⟨-, hunsent, hdue⟩, hfree, -⟩ := candidate_spec he
      -- whoever had the notification would have it leased or locked
      have hothers : ∀ y stage, w.workers.lookup y = some stage → stage.id ≠ e.1 := by
        rintro y stage hy hid
        obtain ⟨row, hheld⟩ := h.held y stage hy
        have hsame : row = e.2 := Option.some.inj (hheld.stored.symm.trans (hid ▸ hrow))
        cases hclaiming : stage.isClaiming with
        | true => exact hfree (mem_locked.2 ⟨y, stage, hy, hclaiming, hid⟩)
        | false =>
            have hleased := hheld.leased hclaiming
            have hwithin := hheld.within
            rw [hsame] at hleased
            omega
      refine h.enter (fun _ _ => rfl) (Assoc.mem_iff_exists.2 ⟨_, hrow⟩) ?_ ?_ ⟨e.2, ?_⟩ ?_ (.inl rfl)
      · intro s hs
        rw [hx] at hs
        cases hs
      · exact fun y stage _ hy => hothers y stage hy
      · refine ⟨hrow, hunsent, ?_, ?_, ?_⟩
        · show w.clock < w.clock + claimLease
          have hlease : 0 < claimLease := by decide
          omega
        · rintro id row' t ⟨⟩
          rfl
        · rintro ⟨⟩
      · intro hmem
        obtain ⟨row, hrow', hposted⟩ := h.posted _ hmem
        obtain rfl := Option.some.inj (hrow.symm.trans hrow')
        obtain ⟨y, t, hy⟩ := hposted hunsent
        exact hothers y _ hy rfl
  | commit x id row t hx =>
      refine h.goOn hx (.claimed (row.item id) t) (w.db.rows.insert id row) w.posts rfl ?_ ?_ ?_ (.inl rfl)
      · intro id' hne
        exact (Assoc.lookup_insert _ _ _ _).trans (if_neg hne)
      · intro old hold
        have hwritten := hold.written id row t rfl
        refine ⟨row, AList.lookup_insert _, ?_, hold.within, ?_, fun _ => ?_⟩
        · rw [hwritten]
          exact hold.unsent
        · rintro id' row' t' ⟨⟩
        · rw [hwritten]
          rfl
      · rintro t' ⟨⟩
  | rollback x id row t hx => exact h.giveUp hx (by rintro t' ⟨⟩)
  | prepare x webhookURL item t hx =>
      refine h.goOn hx (prepare decodes item t webhookURL) w.db.rows w.posts
        (prepare_id item t webhookURL) (fun _ _ => rfl) ?_ ?_ (.inl rfl)
      · intro row hrow
        refine ⟨row, ?_⟩
        rcases prepare_cases decodes item t webhookURL with heq | ⟨delay, heq⟩ <;> rw [heq]
        · exact ⟨hrow.stored, hrow.unsent, hrow.within, by rintro id' row' t' ⟨⟩, fun _ => hrow.leased rfl⟩
        · exact ⟨hrow.stored, hrow.unsent, hrow.within, by rintro id' row' t' ⟨⟩, fun _ => hrow.leased rfl⟩
      · rintro t' ⟨⟩
  | post x delivered answer item t hx hanswer =>
      refine h.goOn hx (.marking item.id (outcomeOf item.attempts answer) t) w.db.rows _ rfl
        (fun _ _ => rfl) ?_ ?_ ?_
      · intro row hrow
        exact ⟨row, hrow.stored, hrow.unsent, hrow.within, by rintro id' row' t' ⟨⟩, fun _ => hrow.leased rfl⟩
      · rintro t' ⟨⟩
      · cases delivered with
        | false => exact .inl rfl
        | true =>
            refine .inr ⟨rfl, t, ?_⟩
            rw [hC rfl]
            rfl
  | mark x id outcome t hx hfree => exact h.mark hx
  | markError x id outcome t hx => exact h.giveUp hx (hC _ hx)
  | crash x stage hx => exact h.giveUp hx (hC _ hx)
  | wait d =>
      refine ⟨h.fresh, fun x stage hx => ?_, h.exclusive, h.posted, h.nodup⟩
      obtain ⟨row, hrow⟩ := h.held x stage hx
      exact ⟨row, hrow.stored, hrow.unsent, hC x stage hx, hrow.written, hrow.leased⟩

end Inv

/-- In a run without these faults every notification is posted once at most, and no two workers ever have
the same one. -/
theorem posted_once (decodes : String → Bool) (db : Outbox) (t : ℕ) (hdb : db.Fresh) (acts : List Act)
    (hC : Run.Guarded (World.step decodes) NoFault (.start db t) acts) :
    Run.Always (World.step decodes) (fun w => w.posts.Nodup ∧ w.Exclusive) (.start db t) acts :=
  (Run.always_of_invariant (fun _ _ _ h hC hs => h.step hC (stepped_of_step hs)) (Inv.start hdb t)
    hC).mono fun _ h => ⟨h.nodup, h.exclusive⟩

/-- Two workers with two notifications. -/
def twoWorkers : List Act :=
  [.enqueue "1" "{}", .enqueue "2" "{}", .claim 1, .claim 2, .commit 2, .prepare 2 (some "url"),
    .commit 1, .post 2 true (.ok ()), .prepare 1 (some "url"), .mark 2, .post 1 true (.ok ()), .mark 1]

theorem posted_once_twoWorkers :
    Run.Always (World.step fun _ => true) (fun w => w.posts.Nodup ∧ w.Exclusive) (.start {} 0)
        twoWorkers ∧
      (Run.exec (World.step fun _ => true) (.start {} 0) twoWorkers).map World.posts = some [2, 1] := by
  refine ⟨posted_once _ {} 0 (fun id row hrow => by cases hrow) twoWorkers ?_, by decide +kernel⟩
  have hpost : ∀ w x, NoFault w (.post x true (.ok ())) := fun w x _ => rfl
  repeat' first | exact hpost _ _ | exact trivial | refine fun _ _ => ⟨?_, ?_⟩

end GeoDuels.Notifications
