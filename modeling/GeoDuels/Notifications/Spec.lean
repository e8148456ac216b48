import GeoDuels.Notifications.Outbox

/-!
# What a step of the notification workers does

`Stepped` has one case for each way a step can go, with what was checked on the way, so that the invariants
of the outbox follow by cases.  `candidate_spec` says which row a claim takes.
-/

namespace GeoDuels.Notifications

variable {decodes : String → Bool} {w w' : World} {a : Act} {x y : WorkerID} {id : NotificationID}
variable {row : OutboxRow} {stage : Stage} {now : ℕ} {db : Outbox} {notificationType : String}
variable {locked : List NotificationID} {e e' : Σ _ : NotificationID, OutboxRow}

/-! ## The order of the claims -/

theorem OutboxRow.before_total (e e' : Σ _ : NotificationID, OutboxRow) :
    OutboxRow.Before e e' ∨ OutboxRow.Before e' e := by
  rcases lt_trichotomy e.2.nextAttemptAt e'.2.nextAttemptAt with h | h | h
  · exact .inl (.inl h)
  · exact (le_total e.1 e'.1).imp (fun hid => .inr ⟨h, hid⟩) fun hid => .inr ⟨h.symm, hid⟩
  · exact .inr (.inl h)

theorem OutboxRow.before_trans {e'' : Σ _ : NotificationID, OutboxRow} (h : OutboxRow.Before e e')
    (h' : OutboxRow.Before e' e'') : OutboxRow.Before e e'' := by
  rcases h with h | ⟨h, hid⟩ <;> rcases h' with h' | ⟨h', hid'⟩
  · exact .inl (h.trans h')
  · exact .inl (h' ▸ h)
  · exact .inl (h ▸ h')
  · exact .inr ⟨h.trans h', hid.trans hid'⟩

instance : Std.Total OutboxRow.Before := ⟨OutboxRow.before_total⟩

instance : IsTrans (Σ _ : NotificationID, OutboxRow) OutboxRow.Before :=
  ⟨fun _ _ _ => OutboxRow.before_trans⟩

/-- A claim takes the claimable row that is free and first in order. -/
theorem candidate_spec (h : db.candidate locked notificationType now = some e) :
    db.rows.lookup e.1 = some e.2 ∧ e.2.Claimable notificationType now ∧ e.1 ∉ locked ∧
      ∀ id row, db.rows.lookup id = some row → row.Claimable notificationType now → id ∉ locked →
        OutboxRow.Before e ⟨id, row⟩ := by
  unfold Outbox.candidate at h
  set rows := db.rows.entries.filter fun e => e.2.Claimable notificationType now ∧ e.1 ∉ locked
    with hrows
  have hsorted := List.pairwise_insertionSort OutboxRow.Before rows
  have hmem : ∀ e', e' ∈ rows.insertionSort OutboxRow.Before ↔ e' ∈ rows := fun e' =>
    (List.perm_insertionSort OutboxRow.Before rows).mem_iff
  obtain ⟨rest, hrest⟩ : ∃ rest, rows.insertionSort OutboxRow.Before = e :: rest := by
    cases hl : rows.insertionSort OutboxRow.Before with
    | nil =>
        rw [hl] at h
        cases h
    | cons e' rest =>
        rw [hl] at h
        obtain rfl := Option.some.inj h
        exact ⟨rest, rfl⟩
  rw [hrest] at hsorted hmem
  have he : e ∈ rows := (hmem e).1 List.mem_cons_self
  simp only [hrows, List.mem_filter, decide_eq_true_eq] at he
  refine ⟨Assoc.mem_entries_iff.1 he.1, he.2.1, he.2.2, fun id row hrow hclaimable hfree => ?_⟩
  have hin : (⟨id, row⟩ : Σ _ : NotificationID, OutboxRow) ∈ rows := by
    simp only [hrows, List.mem_filter, decide_eq_true_eq]
    exact ⟨Assoc.mem_entries_iff.2 hrow, hclaimable, hfree⟩
  rcases List.mem_cons.1 ((hmem _).2 hin) with heq | hlater
  · rw [heq]
    exact (OutboxRow.before_total e e).elim (fun h => h) fun h => h
  · exact (List.pairwise_cons.1 hsorted).1 _ hlater

/-- No row is found only where none is claimable and free. -/
theorem candidate_eq_none (h : db.candidate locked notificationType now = none)
    (hrow : db.rows.lookup id = some row) (hclaimable : row.Claimable notificationType now) :
    id ∈ locked := by
  by_contra hfree
  unfold Outbox.candidate at h
  rw [List.head?_eq_none_iff, ← List.length_eq_zero_iff, List.length_insertionSort,
    List.length_eq_zero_iff, List.filter_eq_nil_iff] at h
  exact h ⟨id, row⟩ (Assoc.mem_entries_iff.2 hrow) (by simpa using ⟨hclaimable, hfree⟩)

/-! ## The steps -/

/-- The worker's row is locked while its claim is open. -/
theorem mem_locked : id ∈ w.locked ↔
    ∃ x stage, w.workers.lookup x = some stage ∧ stage.isClaiming = true ∧ stage.id = id := by
  unfold World.locked
  simp only [List.mem_map, List.mem_filter, Sigma.exists, Assoc.mem_entries_iff]
  constructor
  · rintro ⟨x, stage, ⟨hx, hclaiming⟩, hid⟩
    exact ⟨x, stage, hx, hclaiming, hid⟩
  · rintro ⟨x, stage, hx, hclaiming, hid⟩
    exact ⟨x, stage, ⟨hx, hclaiming⟩, hid⟩

/-- The ways in which a step can go. -/
inductive Stepped (decodes : String → Bool) (w : World) : Act → World → Prop
  | enqueue (dedupeKey payloadJSON : String) :
      Stepped decodes w (.enqueue dedupeKey payloadJSON)
        { w with
          db := w.db.enqueueNotificationOutbox w.clock reportNotificationType dedupeKey payloadJSON }
  | nothing (x : WorkerID) (hx : w.workers.lookup x = none)
      (he : w.db.candidate w.locked reportNotificationType w.clock = none) :
      Stepped decodes w (.claim x) w
  | claim (x : WorkerID) (e : Σ _ : NotificationID, OutboxRow) (hx : w.workers.lookup x = none)
      (he : w.db.candidate w.locked reportNotificationType w.clock = some e) :
      Stepped decodes w (.claim x) (w.enter x (.claiming e.1 (e.2.claim w.clock) w.clock))
  | commit (x : WorkerID) (id : NotificationID) (row : OutboxRow) (t : ℕ)
      (hx : w.workers.lookup x = some (.claiming id row t)) :
      Stepped decodes w (.commit x)
        ({ w with db := { w.db with rows := w.db.rows.insert id row } }.enter x (.claimed (row.item id) t))
  | rollback (x : WorkerID) (id : NotificationID) (row : OutboxRow) (t : ℕ)
      (hx : w.workers.lookup x = some (.claiming id row t)) :
      Stepped decodes w (.rollback x) (w.leave x)
  | prepare (x : WorkerID) (webhookURL : Option String) (item : NotificationOutboxItem) (t : ℕ)
      (hx : w.workers.lookup x = some (.claimed item t)) :
      Stepped decodes w (.prepare x webhookURL)
        (w.enter x (Notifications.prepare decodes item t webhookURL))
  | post (x : WorkerID) (delivered : Bool) (answer : Except ℕ Unit) (item : NotificationOutboxItem)
      (t : ℕ) (hx : w.workers.lookup x = some (.posting item t))
      (hanswer : answer = .ok () → delivered = true) :
      Stepped decodes w (.post x delivered answer)
        ({ w with posts := if delivered then w.posts ++ [item.id] else w.posts }.enter x
          (.marking item.id (outcomeOf item.attempts answer) t))
  | mark (x : WorkerID) (id : NotificationID) (outcome : Outcome) (t : ℕ)
      (hx : w.workers.lookup x = some (.marking id outcome t)) (hfree : id ∉ w.locked) :
      Stepped decodes w (.mark x) ((w.mark id outcome).leave x)
  | markError (x : WorkerID) (id : NotificationID) (outcome : Outcome) (t : ℕ)
      (hx : w.workers.lookup x = some (.marking id outcome t)) :
      Stepped decodes w (.markError x) (w.leave x)
  | crash (x : WorkerID) (stage : Stage) (hx : w.workers.lookup x = some stage) :
      Stepped decodes w (.crash x) (w.leave x)
  | wait (d : ℕ) : Stepped decodes w (.wait d) { w with clock := w.clock + d }

theorem stepped_of_step (h : w.step decodes a = some w') : Stepped decodes w a w' := by
  cases a with
  | enqueue dedupeKey payloadJSON =>
      obtain rfl := Option.some.inj h
      exact .enqueue dedupeKey payloadJSON
  | claim x =>
      cases hx : w.workers.lookup x with
      | some stage => simp [World.step, hx] at h
      | none =>
          simp only [World.step, hx, Option.some.injEq] at h
          subst h
          unfold World.claim
          cases he : w.db.candidate w.locked reportNotificationType w.clock with
          | none => exact .nothing x hx he
          | some e => exact .claim x e hx he
  | commit x =>
      simp only [World.step] at h
      split at h
      · rename_i id row t hx
        obtain rfl := Option.some.inj h
        exact .commit x id row t hx
      · cases h
  | rollback x =>
      simp only [World.step] at h
      split at h
      · rename_i id row t hx
        obtain rfl := Option.some.inj h
        exact .rollback x id row t hx
      · cases h
  | prepare x webhookURL =>
      simp only [World.step] at h
      split at h
      · rename_i item t hx
        obtain rfl := Option.some.inj h
        exact .prepare x webhookURL item t hx
      · cases h
  | post x delivered answer =>
      simp only [World.step] at h
      split at h
      · rename_i item t hx
        rw [Option.ite_none_left_eq_some] at h
        obtain ⟨hanswer, h⟩ := h
        obtain rfl := Option.some.inj h
        refine .post x delivered answer item t hx fun hok => ?_
        by_contra hnot
        exact hanswer ⟨hok, by simpa using hnot⟩
      · cases h
  | mark x =>
      simp only [World.step] at h
      split at h
      · rename_i id outcome t hx
        split_ifs at h with hlocked
        obtain rfl := Option.some.inj h
        exact .mark x id outcome t hx hlocked
      · cases h
  | markError x =>
      simp only [World.step] at h
      split at h
      · rename_i id outcome t hx
        obtain rfl := Option.some.inj h
        exact .markError x id outcome t hx
      · cases h
  | crash x =>
      simp only [World.step] at h
      split at h
      · rename_i stage hx
        obtain rfl := Option.some.inj h
        exact .crash x stage hx
      · cases h
  | wait d =>
      obtain rfl := Option.some.inj h
      exact .wait d

/-! ## What the writes leave -/

/-- The ids of the rows come from the sequence. -/
def Outbox.Fresh (db : Outbox) : Prop := ∀ id row, db.rows.lookup id = some row → id < db.nextID

theorem fresh_enqueue (h : db.Fresh) (now : ℕ) (notificationType dedupeKey payloadJSON : String) :
    (db.enqueueNotificationOutbox now notificationType dedupeKey payloadJSON).Fresh := by
  intro id row hrow
  unfold Outbox.enqueueNotificationOutbox at hrow ⊢
  dsimp only at hrow ⊢
  split_ifs at hrow
  · exact (h id row hrow).trans (Nat.lt_succ_self _)
  · rcases Assoc.of_lookup_insert hrow with ⟨rfl, -⟩ | ⟨-, hold⟩
    · exact Nat.lt_succ_self _
    · exact (h id row hold).trans (Nat.lt_succ_self _)

/-- A new notification leaves the rows alone that are there. -/
theorem lookup_enqueue (h : db.Fresh) (hrow : db.rows.lookup id = some row) (now : ℕ)
    (notificationType dedupeKey payloadJSON : String) :
    (db.enqueueNotificationOutbox now notificationType dedupeKey payloadJSON).rows.lookup id =
      some row := by
  unfold Outbox.enqueueNotificationOutbox
  dsimp only
  split_ifs
  · exact hrow
  · rw [AList.lookup_insert_ne (h id row hrow).ne]
    exact hrow

/-- A notification with a key that no row has gets a row. -/
theorem rows_enqueue {dedupeKey : String}
    (hfree : ∀ id row, db.rows.lookup id = some row → row.dedupeKey ≠ dedupeKey) (now : ℕ)
    (notificationType payloadJSON : String) :
    (db.enqueueNotificationOutbox now notificationType dedupeKey payloadJSON).rows =
      db.rows.insert db.nextID ⟨notificationType, dedupeKey, payloadJSON, 0, now, none⟩ := by
  refine if_neg fun hany => ?_
  obtain ⟨id, row, hrow, hkey⟩ := Assoc.any_eq_true.1 hany
  exact hfree id row hrow (of_decide_eq_true hkey)

/-- What is new in the outbox is the notification that is put in. -/
theorem lookup_enqueue_of_none (hrow : db.rows.lookup id = none) {now : ℕ}
    {dedupeKey payloadJSON : String}
    (hnew : (db.enqueueNotificationOutbox now notificationType dedupeKey payloadJSON).rows.lookup id =
      some row) :
    id = db.nextID ∧ row.attempts = 0 ∧ row.sentAt = none ∧ row.nextAttemptAt = now := by
  unfold Outbox.enqueueNotificationOutbox at hnew
  dsimp only at hnew
  split_ifs at hnew
  · rw [hrow] at hnew
    cases hnew
  · rcases Assoc.of_lookup_insert hnew with ⟨rfl, rfl⟩ | ⟨-, hold⟩
    · exact ⟨rfl, rfl, rfl, rfl⟩
    · rw [hrow] at hold
      cases hold

/-- A mark writes one row, and neither its attempts nor its key. -/
theorem lookup_mark (w : World) (id : NotificationID) (outcome : Outcome) :
    ∃ f : OutboxRow → OutboxRow, (w.mark id outcome).db.rows = w.db.rows.modify id f ∧
      (∀ row, (f row).attempts = row.attempts ∧ (f row).dedupeKey = row.dedupeKey) ∧
      ∀ row, row.sentAt ≠ none → ∃ sentAt, sentAt ≠ none ∧ f row = { row with sentAt := sentAt } := by
  cases outcome with
  | sent =>
      exact ⟨fun row => { row with sentAt := some w.clock }, rfl, fun _ => ⟨rfl, rfl⟩, fun row _ =>
        ⟨some w.clock, fun hnone => (by cases hnone), rfl⟩⟩
  | failed delay =>
      refine ⟨fun row =>
          if row.sentAt = none then
            { row with
              nextAttemptAt :=
                if (Time.isZero (w.clock + delay)) = true then w.clock + Time.minute
                else w.clock + delay }
          else row,
        rfl, fun row => ?_, fun row hsent => ⟨row.sentAt, hsent, if_neg hsent⟩⟩
      dsimp only
      split_ifs <;> exact ⟨rfl, rfl⟩

@[simp] theorem prepare_id (item : NotificationOutboxItem) (t : ℕ) (webhookURL : Option String) :
    (prepare decodes item t webhookURL).id = item.id := by
  unfold prepare
  split_ifs
  · rfl
  · cases webhookURL with
    | none => rfl
    | some url =>
        dsimp only
        split_ifs <;> rfl

/-- What is left of the claim after `prepare`: nothing is posted yet. -/
theorem prepare_cases (decodes : String → Bool) (item : NotificationOutboxItem) (t : ℕ)
    (webhookURL : Option String) :
    prepare decodes item t webhookURL = .posting item t ∨
      ∃ delay, prepare decodes item t webhookURL = .marking item.id (.failed delay) t := by
  unfold prepare
  split_ifs
  · exact .inr ⟨_, rfl⟩
  · cases webhookURL with
    | none => exact .inr ⟨_, rfl⟩
    | some url =>
        dsimp only
        split_ifs
        · exact .inr ⟨_, rfl⟩
        · exact .inl rfl

end GeoDuels.Notifications
