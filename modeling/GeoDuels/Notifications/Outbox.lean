import GeoDuels.Clock
import GeoDuels.Lib.Assoc
import GeoDuels.Lib.Run
import Mathlib.Data.List.Sort

/-!
# The notification outbox

The moderation store puts a notification into `notification_outbox`, and the workers of
`services/moderation-worker` post it to Discord.  A worker claims the due notification that waits
longest: the claim counts the attempt and moves the next one five minutes on, so that nobody else
claims the notification while the worker is at it.  Then the worker posts it and marks the row as
sent, or as failed with a later attempt.  Every store call runs its statement at the time that the
call has read from the clock.  The text of the message and `last_error` are left out, as nothing
reads them back.
-/

namespace GeoDuels.Notifications

abbrev NotificationID := ℕ
abbrev WorkerID := ℕ

def reportNotificationType : String := "moderation_case_threshold"

/-- The lease of a claim. -/
def claimLease : ℕ := 5 * Time.minute

/-- `notification_outbox`. -/
structure OutboxRow where
  type : String
  dedupeKey : String
  payloadJSON : String
  attempts : ℕ := 0
  nextAttemptAt : ℕ
  sentAt : Option ℕ := none
  deriving DecidableEq

structure Outbox where
  rows : Assoc NotificationID OutboxRow := ∅
  nextID : NotificationID := 1

structure NotificationOutboxItem where
  id : NotificationID
  type : String
  payloadJSON : String
  attempts : ℕ
  deriving DecidableEq

/-! ## The store -/

/-- `enqueueNotificationOutbox`; the sequence of the ids advances also on a conflict.  `next_attempt_at` is the
clock of the step that stores the row; `now()` of the database is that of the start of its transaction. -/
def Outbox.enqueueNotificationOutbox (now : ℕ) (notificationType dedupeKey payloadJSON : String)
    (db : Outbox) : Outbox where
  rows :=
    if db.rows.any fun _ row => row.dedupeKey = dedupeKey then db.rows
    else db.rows.insert db.nextID
      { type := notificationType, dedupeKey := dedupeKey, payloadJSON := payloadJSON,
        nextAttemptAt := now }
  nextID := db.nextID + 1

/-- The rows that a claim chooses from. -/
def OutboxRow.Claimable (notificationType : String) (now : ℕ) (row : OutboxRow) : Prop :=
  row.type = notificationType ∧ row.sentAt = none ∧ row.nextAttemptAt ≤ now

instance (notificationType : String) (now : ℕ) :
    DecidablePred (OutboxRow.Claimable notificationType now) := fun _ =>
  inferInstanceAs (Decidable (_ ∧ _ ∧ _))

/-- `order by next_attempt_at asc, id asc`. -/
def OutboxRow.Before (e e' : Σ _ : NotificationID, OutboxRow) : Prop :=
  e.2.nextAttemptAt < e'.2.nextAttemptAt ∨
    e.2.nextAttemptAt = e'.2.nextAttemptAt ∧ e.1 ≤ e'.1

instance : DecidableRel OutboxRow.Before := fun _ _ => inferInstanceAs (Decidable (_ ∨ _ ∧ _))

/-- The row that a claim takes, `for update skip locked`. -/
def Outbox.candidate (locked : List NotificationID) (notificationType : String) (now : ℕ)
    (db : Outbox) : Option (Σ _ : NotificationID, OutboxRow) :=
  ((db.rows.entries.filter fun e => e.2.Claimable notificationType now ∧ e.1 ∉ locked).insertionSort
    OutboxRow.Before).head?

/-- What a claim writes into the row. -/
def OutboxRow.claim (now : ℕ) (row : OutboxRow) : OutboxRow :=
  { row with attempts := row.attempts + 1, nextAttemptAt := now + claimLease }

def OutboxRow.item (id : NotificationID) (row : OutboxRow) : NotificationOutboxItem :=
  ⟨id, row.type, row.payloadJSON, row.attempts⟩

def Outbox.markNotificationSent (now : ℕ) (id : NotificationID) (db : Outbox) : Outbox :=
  { db with rows := db.rows.modify id fun row => { row with sentAt := some now } }

def Outbox.markNotificationFailed (now : ℕ) (id : NotificationID) (nextAttemptAt : ℕ) (db : Outbox) :
    Outbox :=
  let nextAttemptAt := if Time.isZero nextAttemptAt then now + Time.minute else nextAttemptAt
  { db with
    rows := db.rows.modify id fun row =>
      if row.sentAt = none then { row with nextAttemptAt := nextAttemptAt } else row }

/-! ## A worker -/

/-- The delay before the attempt after the given one. -/
def nextReportNotificationAttempt (attempts : ℕ) : ℕ :=
  let attempts := if attempts = 0 then 1 else attempts
  match attempts - 1 with
  | 0 => 15 * Time.second
  | 1 => 30 * Time.second
  | 2 => Time.minute
  | 3 => 2 * Time.minute
  | 4 => 5 * Time.minute
  | _ => 10 * Time.minute

/-- How an attempt went: the notification is posted, or is tried again after a delay. -/
inductive Outcome where
  | sent
  | failed (delay : ℕ)
  deriving DecidableEq

/-- Where `processOneReportNotification` is, and the time of its claim. -/
inductive Stage where
  /-- The transaction of the claim, with the row that it has written. -/
  | claiming (id : NotificationID) (row : OutboxRow) (claimedAt : ℕ)
  | claimed (item : NotificationOutboxItem) (claimedAt : ℕ)
  | posting (item : NotificationOutboxItem) (claimedAt : ℕ)
  | marking (id : NotificationID) (outcome : Outcome) (claimedAt : ℕ)
  deriving DecidableEq

namespace Stage

def id : Stage → NotificationID
  | claiming id .. | marking id .. => id
  | claimed item _ | posting item _ => item.id

def claimedAt : Stage → ℕ
  | claiming _ _ t | claimed _ t | posting _ t | marking _ _ t => t

/-- The stage holds a lock on its row. -/
def isClaiming : Stage → Bool
  | claiming .. => true
  | _ => false

end Stage

variable (decodes : String → Bool)

/-- From the claim to the request: the payload is decoded and the webhook's URL is read;
`webhookURL` is `none` when the settings cannot be loaded. -/
def prepare (item : NotificationOutboxItem) (claimedAt : ℕ) (webhookURL : Option String) : Stage :=
  if decodes item.payloadJSON = false then .marking item.id (.failed (24 * 60 * Time.minute)) claimedAt
  else
    match webhookURL with
    | none => .marking item.id (.failed (nextReportNotificationAttempt item.attempts)) claimedAt
    | some url =>
        if url = "" then .marking item.id (.failed Time.minute) claimedAt
        else .posting item claimedAt

/-- What the answer of Discord makes of the attempt; an error comes with the time to wait, `0` where
it names none. -/
def outcomeOf (attempts : ℕ) : Except ℕ Unit → Outcome
  | .ok () => .sent
  | .error retryAfter =>
      .failed (if 0 < retryAfter then retryAfter else nextReportNotificationAttempt attempts)

/-! ## The workers together -/

inductive Act where
  | enqueue (dedupeKey payloadJSON : String)
  | claim (x : WorkerID)
  | commit (x : WorkerID)
  | rollback (x : WorkerID)
  | prepare (x : WorkerID) (webhookURL : Option String)
  /-- The request to Discord; it may be `delivered` also when its answer is an error. -/
  | post (x : WorkerID) (delivered : Bool) (answer : Except ℕ Unit)
  | mark (x : WorkerID)
  /-- The call that marks the row fails. -/
  | markError (x : WorkerID)
  | crash (x : WorkerID)
  | wait (d : ℕ)

structure World where
  db : Outbox := {}
  workers : Assoc WorkerID Stage := ∅
  clock : ℕ
  /-- The notifications that Discord has received, in order. -/
  posts : List NotificationID := []

namespace World

/-- The rows that open claims have locked. -/
def locked (w : World) : List NotificationID :=
  (w.workers.entries.filter fun e => e.2.isClaiming).map fun e => e.2.id

def leave (x : WorkerID) (w : World) : World := { w with workers := w.workers.erase x }

def enter (x : WorkerID) (stage : Stage) (w : World) : World :=
  { w with workers := w.workers.insert x stage }

/-- `ClaimPendingNotification` up to its commit; a worker that finds nothing has done its pass. -/
def claim (x : WorkerID) (w : World) : World :=
  match w.db.candidate w.locked reportNotificationType w.clock with
  | none => w
  | some e => w.enter x (.claiming e.1 (e.2.claim w.clock) w.clock)

/-- The call that marks the row as sent or failed. -/
def mark (id : NotificationID) (outcome : Outcome) (w : World) : World :=
  { w with
    db :=
      match outcome with
      | .sent => w.db.markNotificationSent w.clock id
      | .failed delay => w.db.markNotificationFailed w.clock id (w.clock + delay) }

def step (w : World) : Act → Option World
  | .enqueue dedupeKey payloadJSON =>
      some { w with
        db := w.db.enqueueNotificationOutbox w.clock reportNotificationType dedupeKey payloadJSON }
  | .claim x =>
      match w.workers.lookup x with
      | some _ => none
      | none => some (w.claim x)
  | .commit x =>
      match w.workers.lookup x with
      | some (.claiming id row t) =>
          some ({ w with db := { w.db with rows := w.db.rows.insert id row } }.enter x
            (.claimed (row.item id) t))
      | _ => none
  | .rollback x =>
      match w.workers.lookup x with
      | some (.claiming ..) => some (w.leave x)
      | _ => none
  | .prepare x webhookURL =>
      match w.workers.lookup x with
      | some (.claimed item t) => some (w.enter x (Notifications.prepare decodes item t webhookURL))
      | _ => none
  | .post x delivered answer =>
      match w.workers.lookup x with
      | some (.posting item t) =>
          if answer = .ok () ∧ delivered = false then none
          else
            some ({ w with posts := if delivered then w.posts ++ [item.id] else w.posts }.enter x
              (.marking item.id (outcomeOf item.attempts answer) t))
      | _ => none
  | .mark x =>
      match w.workers.lookup x with
      -- the update waits for a claim that has locked the row
      | some (.marking id outcome _) => if id ∈ w.locked then none else some ((w.mark id outcome).leave x)
      | _ => none
  | .markError x =>
      match w.workers.lookup x with
      | some (.marking ..) => some (w.leave x)
      | _ => none
  | .crash x =>
      match w.workers.lookup x with
      | some _ => some (w.leave x)
      | none => none
  | .wait d => some { w with clock := w.clock + d }

end World

end GeoDuels.Notifications
