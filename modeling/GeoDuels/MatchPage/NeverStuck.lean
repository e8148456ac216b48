import GeoDuels.MatchPage.Controller

/-!
# When the page gets stuck

A page that waits for its match goes on as long as something is pending: a socket, a recovery or the timer
for the first snapshot.  A socket that the page closes itself, a failed request and a timer for a match that
is shown start nothing, so each of them must leave something else pending (`neverStuck_iff`).
-/

namespace GeoDuels.MatchPage

namespace Page

variable {config : RuntimeConfig} {p p' : Page} {e : Event}

/-- An ended snapshot of the match has been received. -/
def HasEnded (p : Page) (matchId : String) : Prop :=
  ∃ s ∈ p.received, s.matchId = matchId ∧ s.state = "ended"

instance (p : Page) (matchId : String) : Decidable (p.HasEnded matchId) :=
  inferInstanceAs (Decidable (∃ s ∈ p.received, _))

/-- The page has a session and is in a match that goes on, or recovers it. -/
def Waits (p : Page) : Prop :=
  p.activeSession.isSome ∧ p.state.activeMatchId ≠ "" ∧ ¬ p.HasEnded p.state.activeMatchId ∧
    (p.state.matchmaking.status = .inMatch ∨ p.state.matchmaking.status = .recovering)

instance (p : Page) : Decidable p.Waits := inferInstanceAs (Decidable (_ ∧ _))

/-- No socket is open, connecting or closing, no recovery is in flight and the timer is not armed. -/
def Idle (p : Page) : Prop :=
  p.sockets.keys = [] ∧ p.recoverInFlight = false ∧ p.firstSnapshotTimeout = none

instance (p : Page) : Decidable p.Idle := inferInstanceAs (Decidable (_ ∧ _))

def Stuck (p : Page) : Prop := p.Waits ∧ p.Idle

instance (p : Page) : Decidable p.Stuck := inferInstanceAs (Decidable (_ ∧ _))

/-- The flags say which recovery is in flight. -/
structure Tracked (p : Page) : Prop where
  recoverInFlight : p.recoverInFlight = p.recovery.isSome
  recoverAbort : p.recoverAbort = p.recovery.map Recovery.requestID
  activeRecoverRequestID :
    p.state.matchmaking.activeRecoverRequestID = p.recovery.map Recovery.requestID

/-- The session that the page has kept is valid. -/
structure Sane (p : Page) : Prop extends Tracked p where
  session : ∀ session, p.activeSession = some session → session.Valid

/-! ## Handlers that start nothing -/

structure KeepsRecovery (p p' : Page) : Prop where
  recoverInFlight : p'.recoverInFlight = p.recoverInFlight
  recoverAbort : p'.recoverAbort = p.recoverAbort
  recovery : p'.recovery = p.recovery
  activeRecoverRequestID :
    p'.state.matchmaking.activeRecoverRequestID = p.state.matchmaking.activeRecoverRequestID

/-- What no handler changes but those of a recovery and of a new connection. -/
structure Quiet (p p' : Page) : Prop extends KeepsRecovery p p' where
  activeSession : p'.activeSession = p.activeSession
  sockets : p'.sockets.keys = p.sockets.keys

theorem KeepsRecovery.tracked (h : KeepsRecovery p p') (hp : Tracked p) : Tracked p' where
  recoverInFlight := by
    rw [h.recoverInFlight, h.recovery]
    exact hp.recoverInFlight
  recoverAbort := by
    rw [h.recoverAbort, h.recovery]
    exact hp.recoverAbort
  activeRecoverRequestID := by
    rw [h.activeRecoverRequestID, h.recovery]
    exact hp.activeRecoverRequestID

theorem Quiet.refl (p : Page) : Quiet p p := ⟨⟨rfl, rfl, rfl, rfl⟩, rfl, rfl⟩

theorem KeepsRecovery.trans {p'' : Page} (h : KeepsRecovery p p') (h' : KeepsRecovery p' p'') :
    KeepsRecovery p p'' where
  recoverInFlight := h'.recoverInFlight.trans h.recoverInFlight
  recoverAbort := h'.recoverAbort.trans h.recoverAbort
  recovery := h'.recovery.trans h.recovery
  activeRecoverRequestID := h'.activeRecoverRequestID.trans h.activeRecoverRequestID

theorem Quiet.trans {p'' : Page} (h : Quiet p p') (h' : Quiet p' p'') : Quiet p p'' where
  toKeepsRecovery := h.toKeepsRecovery.trans h'.toKeepsRecovery
  activeSession := h'.activeSession.trans h.activeSession
  sockets := h'.sockets.trans h.sockets

theorem Quiet.sane (h : Quiet p p') (hp : Sane p) : Sane p' where
  toTracked := h.tracked hp.toTracked
  session := by
    rw [h.activeSession]
    exact hp.session

theorem Quiet.ite {c : Prop} [Decidable c] {p₁ p₂ : Page} (h₁ : Quiet p p₁) (h₂ : Quiet p p₂) :
    Quiet p (if c then p₁ else p₂) := by
  split_ifs
  · exact h₁
  · exact h₂

@[simp] theorem keys_close (expected : Bool) (p : Page) :
    (p.close expected).sockets.keys = p.sockets.keys := by
  unfold close
  dsimp only
  cases p.socket with
  | none => rfl
  | some id => exact Assoc.keys_modify id _ p.sockets

theorem quiet_close (expected : Bool) (p : Page) : Quiet p (p.close expected) :=
  ⟨⟨rfl, rfl, rfl, rfl⟩, rfl, keys_close expected p⟩

theorem quiet_setReadyState (id : ℕ) (readyState : ReadyState) (p : Page) :
    Quiet p (p.setReadyState id readyState) :=
  ⟨⟨rfl, rfl, rfl, rfl⟩, rfl, Assoc.keys_modify id _ p.sockets⟩

theorem quiet_patchState (patch : MatchState → MatchState)
    (h : ∀ s, (patch s).matchmaking = s.matchmaking) (p : Page) : Quiet p (p.patchState patch) := by
  refine ⟨⟨rfl, rfl, rfl, ?_⟩, rfl, rfl⟩
  show (patch p.state).matchmaking.activeRecoverRequestID = _
  rw [h]

theorem quiet_dispatchMatchmaking {action : MatchmakingAction} (h : action.quiet = true) (p : Page) :
    Quiet p (p.dispatchMatchmaking action) :=
  ⟨⟨rfl, rfl, rfl, activeRecoverRequestID_of_quiet h _⟩, rfl, rfl⟩

theorem quiet_markConnectionUnhealthy (message : String) (forceReconnect : Bool) (p : Page) :
    Quiet p (p.markConnectionUnhealthy message forceReconnect) := by
  have hpatch := quiet_patchState
    (fun s =>
      { s with
        connected := false
        connectionIssue := message
        queueError := if s.matchmaking.status = .queueing then message else s.queueError })
    (fun _ => rfl) p
  exact .ite (hpatch.trans (quiet_close true _)) hpatch

theorem quiet_noteServerActivity (now : ℤ) (p : Page) : Quiet p (p.noteServerActivity config now) := by
  have hseen : Quiet p { p with lastServerSeenAt := now } := ⟨⟨rfl, rfl, rfl, rfl⟩, rfl, rfl⟩
  exact .ite hseen (hseen.trans (quiet_patchState _ (fun _ => by rfl) _))

theorem quiet_onOpen (now : ℤ) (p : Page) : Quiet p (p.onOpen now) := ⟨⟨rfl, rfl, rfl, rfl⟩, rfl, rfl⟩

theorem quiet_noteFirstSnapshot (matchId : String) (p : Page) : Quiet p (p.noteFirstSnapshot matchId) :=
  .ite ⟨⟨rfl, rfl, rfl, rfl⟩, rfl, rfl⟩ (.refl p)

theorem quiet_onSnapshot (now : ℤ) (snapshot : Snapshot) (p : Page) :
    Quiet p (p.onSnapshot config now snapshot) := by
  have hreceived : Quiet p { p with received := snapshot :: p.received } := ⟨⟨rfl, rfl, rfl, rfl⟩, rfl, rfl⟩
  have hfirst := hreceived.trans (quiet_noteFirstSnapshot snapshot.matchId _)
  have hactivity := hfirst.trans (@quiet_noteServerActivity config now _)
  exact .ite hreceived (hactivity.trans (quiet_patchState _ (fun _ => by rfl) _))

theorem quiet_onMessage (now : ℤ) (message : Message) (p : Page) :
    Quiet p (p.onMessage config now message) := by
  cases message with
  | malformed => exact quiet_markConnectionUnhealthy _ true p
  | ack error =>
      exact (@quiet_noteServerActivity config now p).trans (quiet_patchState
        (fun s => { s with queueError := error.getD s.queueError }) (fun _ => rfl) _)
  | snapshot snapshot => exact quiet_onSnapshot now snapshot p
  | other => exact .refl p

theorem quiet_onHeartbeat (now : ℤ) (p : Page) : Quiet p (p.onHeartbeat config now) :=
  .ite (quiet_markConnectionUnhealthy _ true p) (.refl p)

theorem quiet_onSocket {id : ℕ} {handler : Page → Page} (h : Quiet p (handler p)) :
    Quiet p (p.onSocket id handler) := .ite h (.refl p)

/-! ## A new connection -/

theorem keys_connect (p : Page) : p.connect.sockets.keys ≠ [] := by
  intro hnil
  have hmem : p.opened ∈ p.connect.sockets := (AList.mem_insert _).2 (.inl rfl)
  rw [AList.mem_keys, hnil] at hmem
  cases hmem

theorem keepsRecovery_connectToAssignedGame (session : AuthSessionSnapshot) (assigned : Assigned) (p : Page) :
    KeepsRecovery p (p.connectToAssignedGame session assigned) := by
  unfold connectToAssignedGame startFirstSnapshotTimeout
  dsimp only
  split_ifs <;> exact ⟨rfl, rfl, rfl, rfl⟩

theorem connectToAssignedGame_spec {session : AuthSessionSnapshot} (h : session.Valid)
    (assigned : Assigned) (p : Page) :
    (p.connectToAssignedGame session assigned).sockets.keys ≠ [] ∧
      (p.connectToAssignedGame session assigned).activeSession = some session := by
  unfold connectToAssignedGame startFirstSnapshotTimeout
  dsimp only
  rw [if_neg (not_or.2 ⟨h.1, h.2.1⟩)]
  split_ifs
  all_goals exact ⟨keys_connect _, rfl⟩

/-! ## Recovery -/

/-- A recovery is in flight after `startRecover`: that of the call, or the one before. -/
theorem startRecover_spec {session : AuthSessionSnapshot} (h : session.Valid) (hp : Sane p) :
    Sane (p.startRecover session) ∧ (p.startRecover session).recoverInFlight = true := by
  obtain ⟨huser, htoken, honboarded⟩ := h
  unfold startRecover
  dsimp only
  rw [if_neg (by simp [huser, htoken, honboarded])]
  split_ifs with hbusy
  · refine ⟨hp, ?_⟩
    rcases hbusy with hflight | hactive
    · exact hflight
    · rw [hp.activeRecoverRequestID] at hactive
      rw [hp.recoverInFlight]
      simpa [Option.isSome_iff_ne_none] using hactive
  · exact ⟨⟨⟨rfl, rfl, rfl⟩, hp.session⟩, rfl⟩

/-- The recovery that was in flight has ended. -/
theorem endRecover_sane {r : Recovery} (habort : p.recoverAbort = some r.requestID)
    (hactive : p.state.matchmaking.activeRecoverRequestID = none)
    (hsession : ∀ session, p.activeSession = some session → session.Valid) :
    Sane (p.endRecover r) ∧ (p.endRecover r).recoverInFlight = false := by
  unfold endRecover
  rw [if_pos habort, if_pos habort]
  exact ⟨⟨⟨rfl, rfl, hactive⟩, hsession⟩, rfl⟩

theorem recoverResolved_sane {r : Recovery} (habort : p.recoverAbort = some r.requestID)
    (hactive : p.state.matchmaking.activeRecoverRequestID = some r.requestID)
    (hsession : ∀ session, p.activeSession = some session → session.Valid) (outcome : RecoverOutcome)
    (hasSnapshot : Bool) :
    Sane ((p.dispatchMatchmaking
      (.recoverResolved r.requestID r.intentVersionAtStart outcome hasSnapshot)).endRecover r) :=
  (@endRecover_sane (p.dispatchMatchmaking _) r habort
    (activeRecoverRequestID_recoverResolved hactive _ _ _) hsession).1

/-! ## Steps -/

theorem sane_init : Sane {} := ⟨⟨rfl, rfl, rfl⟩, nofun⟩

theorem Sane.onFetched {session : AuthSessionSnapshot} {r : Recovery} (hp : Sane p)
    (hr : p.recovery = some r) (h : session.Valid) (resolved : MatchSessionResponse) :
    Sane (p.onFetched session r resolved) := by
  have habort : p.recoverAbort = some r.requestID := by rw [hp.recoverAbort, hr, Option.map_some]
  have hactive : p.state.matchmaking.activeRecoverRequestID = some r.requestID := by
    rw [hp.activeRecoverRequestID, hr, Option.map_some]
  cases resolved with
  | liveConnectable assigned =>
      have hkeep := keepsRecovery_connectToAssignedGame session assigned
        (p.dispatchMatchmaking
          (.recoverResolved r.requestID r.intentVersionAtStart .matched p.state.snapshot.isSome))
      refine (endRecover_sane (hkeep.recoverAbort.trans habort) (hkeep.activeRecoverRequestID.trans
        (activeRecoverRequestID_recoverResolved hactive _ _ _)) fun session' hsession => ?_).1
      rw [(connectToAssignedGame_spec h assigned _).2] at hsession
      rw [← Option.some.inj hsession]
      exact h
  | history | replaced | liveAuthRequired | missing | forbidden =>
      refine recoverResolved_sane ?_ ?_ ?_ _ _
      · exact habort
      · exact hactive
      · exact hp.session

theorem Sane.recoverFailed {r : Recovery} (hp : Sane p) (hr : p.recovery = some r) :
    Sane ((p.dispatchMatchmaking (.recoverFailed r.requestID)).endRecover r) ∧
      ((p.dispatchMatchmaking (.recoverFailed r.requestID)).endRecover r).recoverInFlight = false := by
  have hactive : p.state.matchmaking.activeRecoverRequestID = some r.requestID := by
    rw [hp.activeRecoverRequestID, hr, Option.map_some]
  refine endRecover_sane ?_ ?_ hp.session
  · exact hp.recoverAbort.trans (by rw [hr, Option.map_some])
  · exact activeRecoverRequestID_recoverFailed hactive

theorem Sane.onEnsured {r : Recovery} (hp : Sane p) (hr : p.recovery = some r) : Sane (p.onEnsured r) := by
  unfold Page.onEnsured
  split_ifs
  · exact (hp.recoverFailed hr).1
  · refine ⟨⟨?_, ?_, ?_⟩, hp.session⟩
    · exact hp.recoverInFlight.trans (by rw [hr]; rfl)
    · exact hp.recoverAbort.trans (by rw [hr]; rfl)
    · exact hp.activeRecoverRequestID.trans (by rw [hr]; rfl)

theorem quiet_wsClosed (patch : MatchState → MatchState)
    (h : ∀ s, (patch s).matchmaking = s.matchmaking) (p : Page) :
    Quiet p ((p.patchState patch).dispatchMatchmaking .wsClosed) :=
  (quiet_patchState patch h p).trans (quiet_dispatchMatchmaking rfl _)

/-- After a close that the page has not asked for it recovers, if it has a session. -/
theorem onClose_spec (hp : Sane p) (expected : Bool) :
    Sane (p.onClose config expected) ∧
      (expected = false → p.activeSession.isSome → p.state.activeMatchId ≠ "" →
        (p.onClose config expected).recoverInFlight = true) := by
  have hpatch : Quiet p (p.patchState fun s => { s with connected := false }) :=
    quiet_patchState _ (fun _ => by rfl) p
  unfold onClose
  dsimp only
  split_ifs with hexpected hmatch
  · exact ⟨hpatch.sane hp, fun h => absurd (hexpected.symm.trans h) (by simp)⟩
  · have hsane := (hpatch.trans (quiet_wsClosed
      (fun s => { s with connectionIssue := config.gameConnectionErrorMessage }) (fun _ => rfl) _)).sane hp
    split
    · next session hsession =>
      obtain ⟨hsane', hflight⟩ := startRecover_spec (hp.session session hsession) hsane
      exact ⟨hsane', fun _ _ _ => hflight⟩
    · next hnone => exact ⟨hsane, fun _ hsome => absurd hnone (Option.isSome_iff_ne_none.1 hsome)⟩
  · exact ⟨hpatch.sane hp, fun _ _ hne => absurd (.inr hne) hmatch⟩

/-- The timer fires for a match that is not shown: the page gives up or recovers. -/
theorem onFirstSnapshotTimeout_spec {session : AuthSessionSnapshot} (hp : Sane p) (h : session.Valid)
    {targetMatchId : String} (hshows : p.showsMatch targetMatchId = false) :
    Sane (p.onFirstSnapshotTimeout session targetMatchId) ∧
      ((p.onFirstSnapshotTimeout session targetMatchId).state.matchmaking.status = .abandoned ∨
        (p.onFirstSnapshotTimeout session targetMatchId).recoverInFlight = true) := by
  have hvalid : (p.activeSession.getD session).Valid := by
    cases hactive : p.activeSession with
    | none => exact h
    | some active => exact hp.session active hactive
  have hdisarm : Quiet p { p with firstSnapshotTimeout := none } := ⟨⟨rfl, rfl, rfl, rfl⟩, rfl, rfl⟩
  have hclose := hdisarm.trans (quiet_close true _)
  have hshows' : ({ p with firstSnapshotTimeout := none } : Page).showsMatch targetMatchId ≠ true := by
    rw [show ({ p with firstSnapshotTimeout := none } : Page).showsMatch targetMatchId = false from hshows]
    exact Bool.false_ne_true
  unfold onFirstSnapshotTimeout
  dsimp only
  rw [if_neg hshows']
  split_ifs
  · refine ⟨(hclose.trans ?_).sane hp, .inl rfl⟩
    exact ⟨⟨rfl, rfl, rfl, rfl⟩, rfl, rfl⟩
  · refine And.imp_right .inr (startRecover_spec hvalid (Quiet.sane ?_ hp))
    refine .trans (.trans hclose ?_) (@quiet_dispatchMatchmaking .wsClosed rfl _)
    exact ⟨⟨rfl, rfl, rfl, rfl⟩, rfl, rfl⟩

/-- A call that does not fail at once makes a new socket. -/
theorem resumeResolvedMatch_spec {session : AuthSessionSnapshot} (hp : Sane p) (h : session.Valid)
    (assigned : Assigned) :
    Sane (p.resumeResolvedMatch session assigned) ∧
      (p.resumeResolvedMatch session assigned = p ∨
        (p.resumeResolvedMatch session assigned).sockets.keys ≠ []) := by
  unfold resumeResolvedMatch
  split_ifs
  · exact ⟨hp, .inl rfl⟩
  · have hquiet := (quiet_patchState (fun s => { s with queueError := "", connectionIssue := "" })
      (fun _ => rfl) p).trans (@quiet_dispatchMatchmaking (.setStatus .matchedConnecting true) rfl _)
    obtain ⟨hsockets, hsession⟩ := connectToAssignedGame_spec h assigned
      ((p.patchState fun s => { s with queueError := "", connectionIssue := "" }).dispatchMatchmaking
        (.setStatus .matchedConnecting true))
    refine ⟨⟨(hquiet.toKeepsRecovery.trans
      (keepsRecovery_connectToAssignedGame session assigned _)).tracked hp.toTracked,
      fun session' hsession' => ?_⟩, .inr hsockets⟩
    rw [hsession] at hsession'
    rw [← Option.some.inj hsession']
    exact h

/-! ## Events that leave nothing pending -/

/-- The events that start nothing themselves, the close of a socket that the page has closed, an answer
that the match is history, a failed request and a timer for a match that is shown, leave something pending
if the page waits. -/
def GoesOn (p : Page) : Event → Prop
  | .closed id => ∀ s, p.sockets.lookup id = some s → s.expectedClose = true → p.Waits →
      ¬ (p.removeSocket id).Idle
  | .fetched _ (.history matchId snapshot) =>
      ({ p with
        received := snapshot.toList ++ p.received
        state := { p.state with activeMatchId := matchId } } : Page).Waits →
        p.sockets.keys ≠ [] ∨ p.firstSnapshotTimeout ≠ none
  | .fetchFailed => p.Waits → p.sockets.keys ≠ [] ∨ p.firstSnapshotTimeout ≠ none
  | .firstSnapshotTimeout _ => ∀ targetMatchId, p.firstSnapshotTimeout = some targetMatchId →
      p.showsMatch targetMatchId = true → p.Waits → p.sockets.keys ≠ [] ∨ p.recoverInFlight = true
  | _ => True

theorem not_stuck_of_socket (h : p.sockets.keys ≠ []) : ¬ p.Stuck := fun hs => h hs.2.1

theorem not_stuck_of_recovery (h : p.recoverInFlight = true) : ¬ p.Stuck := fun hs => by
  have hnone := hs.2.2.1
  rw [h] at hnone
  cases hnone

theorem keys_ne_nil {id : ℕ} (h : id ∈ p.sockets) : p.sockets.keys ≠ [] := List.ne_nil_of_mem h

theorem keys_ne_nil_of_isOpen (h : p.isOpen = true) : p.sockets.keys ≠ [] := by
  unfold isOpen current at h
  rw [Option.any_eq_true] at h
  obtain ⟨s, hs, -⟩ := h
  obtain ⟨id, -, hlookup⟩ := Option.bind_eq_some_iff.1 hs
  exact keys_ne_nil (Assoc.mem_iff_exists.2 ⟨s, hlookup⟩)

/-- An event that is handled quietly while there is a socket. -/
theorem Quiet.goesOn (h : Quiet p p') (hp : Sane p) (hsocket : p.sockets.keys ≠ []) :
    Sane p' ∧ ¬ p'.Stuck := by
  refine ⟨h.sane hp, not_stuck_of_socket ?_⟩
  rw [h.sockets]
  exact hsocket

theorem waits_congr (hsession : p'.activeSession = p.activeSession)
    (hmatch : p'.state.activeMatchId = p.state.activeMatchId) (hreceived : p'.received = p.received)
    (hstatus : p'.state.matchmaking.status = p.state.matchmaking.status) : p'.Waits ↔ p.Waits := by
  unfold Waits HasEnded
  rw [hsession, hmatch, hreceived, hstatus]

theorem not_waits_of_abandoned (h : p.state.matchmaking.status = .abandoned) : ¬ p.Waits := by
  rintro ⟨-, -, -, hstatus⟩
  rw [h] at hstatus
  simp at hstatus

theorem startRecover_keeps (session : AuthSessionSnapshot) (p : Page) :
    (p.startRecover session).activeSession = p.activeSession ∧
      (p.startRecover session).state.activeMatchId = p.state.activeMatchId := by
  unfold startRecover
  dsimp only
  split_ifs <;> exact ⟨rfl, rfl⟩

theorem onClose_keeps (expected : Bool) (p : Page) :
    (p.onClose config expected).activeSession = p.activeSession ∧
      (p.onClose config expected).state.activeMatchId = p.state.activeMatchId := by
  unfold onClose
  dsimp only
  split_ifs
  · exact ⟨rfl, rfl⟩
  · split
    · exact startRecover_keeps _ _
    · exact ⟨rfl, rfl⟩
  · exact ⟨rfl, rfl⟩

theorem stuck_onClose_expected {id : ℕ} :
    ((p.removeSocket id).onClose config true).Stuck ↔ p.Waits ∧ (p.removeSocket id).Idle := Iff.rfl

theorem closed_spec {id : ℕ} {s : ManagedSocket} (hp : Sane p) (hid : p.sockets.lookup id = some s) :
    Sane ((p.removeSocket id).onClose config s.expectedClose) ∧
      (¬ ((p.removeSocket id).onClose config s.expectedClose).Stuck ↔ p.GoesOn (.closed id)) := by
  have hremoved : Sane (p.removeSocket id) :=
    ⟨⟨hp.recoverInFlight, hp.recoverAbort, hp.activeRecoverRequestID⟩, hp.session⟩
  obtain ⟨hsane, hflight⟩ := @onClose_spec config _ hremoved s.expectedClose
  refine ⟨hsane, ?_⟩
  unfold GoesOn
  cases hexpected : s.expectedClose with
  | true =>
      rw [stuck_onClose_expected, not_and]
      refine ⟨fun h s' hs' _ => h, fun h => h s hid hexpected⟩
  | false =>
      refine iff_of_true (fun hstuck => ?_) fun s' hs' hexpected' => ?_
      · rw [hexpected] at hflight
        obtain ⟨hsession, hmatch, -⟩ := hstuck.1
        obtain ⟨hsession', hmatch'⟩ := @onClose_keeps config false (p.removeSocket id)
        rw [hsession'] at hsession
        rw [hmatch'] at hmatch
        exact not_stuck_of_recovery (hflight rfl hsession hmatch) hstuck
      · rw [← Option.some.inj (hid.symm.trans hs'), hexpected] at hexpected'
        cases hexpected'

theorem fetchFailed_spec {r : Recovery} (hp : Sane p) (hr : p.recovery = some r) :
    Sane (p.onFetchFailed r) ∧ (¬ (p.onFetchFailed r).Stuck ↔ p.GoesOn .fetchFailed) := by
  obtain ⟨hsane, hflight⟩ := hp.recoverFailed hr
  refine ⟨hsane, ?_⟩
  have hwaits : (p.onFetchFailed r).Waits ↔ p.Waits :=
    waits_congr rfl rfl rfl (status_recoverFailed _ _)
  have hidle : (p.onFetchFailed r).Idle ↔ p.sockets.keys = [] ∧ p.firstSnapshotTimeout = none := by
    unfold Idle
    rw [show (p.onFetchFailed r).recoverInFlight = false from hflight]
    simp only [true_and]
    rfl
  unfold Stuck GoesOn
  rw [hwaits, hidle]
  tauto

theorem fetched_spec {session : ValidSession} {r : Recovery} (hp : Sane p)
    (hr : p.recovery = some r) (resolved : MatchSessionResponse) :
    Sane (p.onFetched session.val r resolved) ∧
      (¬ (p.onFetched session.val r resolved).Stuck ↔ p.GoesOn (.fetched session resolved)) := by
  refine ⟨hp.onFetched hr session.property resolved, ?_⟩
  have hactive : p.state.matchmaking.activeRecoverRequestID = some r.requestID := by
    rw [hp.activeRecoverRequestID, hr, Option.map_some]
  cases resolved with
  | liveConnectable assigned =>
      exact iff_of_true (not_stuck_of_socket (connectToAssignedGame_spec session.property assigned _).1) trivial
  | history matchId snapshot =>
      have hwaits : (p.onFetched session.val r (.history matchId snapshot)).Waits ↔
          ({ p with
            received := snapshot.toList ++ p.received
            state := { p.state with activeMatchId := matchId } } : Page).Waits :=
        waits_congr rfl rfl rfl (status_recoverReady _ _ _)
      have hidle : (p.onFetched session.val r (.history matchId snapshot)).Idle ↔
          p.sockets.keys = [] ∧ p.firstSnapshotTimeout = none := by
        have habort : p.recoverAbort = some r.requestID := by rw [hp.recoverAbort, hr, Option.map_some]
        have hflight : (p.onFetched session.val r (.history matchId snapshot)).recoverInFlight = false :=
          if_pos habort
        unfold Idle
        rw [hflight]
        simp only [true_and]
        rfl
      unfold Stuck GoesOn
      rw [hwaits, hidle]
      tauto
  | replaced | liveAuthRequired | missing | forbidden =>
      refine iff_of_true (fun hs => not_waits_of_abandoned ?_ hs.1) trivial
      exact status_recoverAbandoned hactive r.intentVersionAtStart false

theorem ensured_spec {r : Recovery} (hp : Sane p) (hr : p.recovery = some r) :
    Sane (p.onEnsured r) ∧ ¬ (p.onEnsured r).Stuck := by
  refine ⟨hp.onEnsured hr, ?_⟩
  unfold Page.onEnsured
  split_ifs with htarget
  · rintro ⟨⟨-, hmatch, -⟩, -⟩
    refine hmatch ?_
    unfold targetMatchID at htarget
    show p.state.activeMatchId = ""
    by_contra hne
    rw [if_pos hne] at htarget
    exact hne htarget
  · refine not_stuck_of_recovery ?_
    show p.recoverInFlight = true
    rw [hp.recoverInFlight, hr]
    rfl

theorem firstSnapshotTimeout_spec {session : ValidSession} {targetMatchId : String} (hp : Sane p)
    (htimer : p.firstSnapshotTimeout = some targetMatchId) :
    Sane (p.onFirstSnapshotTimeout session.val targetMatchId) ∧
      (¬ (p.onFirstSnapshotTimeout session.val targetMatchId).Stuck ↔
        p.GoesOn (.firstSnapshotTimeout session)) := by
  cases hshows : p.showsMatch targetMatchId with
  | true =>
      have hfires : p.onFirstSnapshotTimeout session.val targetMatchId =
          { p with firstSnapshotTimeout := none } := if_pos hshows
      rw [hfires]
      refine ⟨⟨⟨hp.recoverInFlight, hp.recoverAbort, hp.activeRecoverRequestID⟩, hp.session⟩, ?_⟩
      have hwaits : ({ p with firstSnapshotTimeout := none } : Page).Waits ↔ p.Waits :=
        waits_congr rfl rfl rfl rfl
      unfold Stuck GoesOn Idle
      rw [hwaits]
      constructor
      · intro hn target htarget _ hw
        by_contra hnone
        simp only [not_or, not_not, Bool.not_eq_true] at hnone
        exact hn ⟨hw, hnone.1, hnone.2, rfl⟩
      · rintro hgo ⟨hw, hsockets, hflight, -⟩
        rcases hgo targetMatchId htimer hshows hw with h | h
        · exact h hsockets
        · rw [h] at hflight
          cases hflight
  | false =>
      obtain ⟨hsane, hafter⟩ := onFirstSnapshotTimeout_spec hp session.property hshows
      refine ⟨hsane, iff_of_true ?_ fun target htarget hshown => ?_⟩
      · rcases hafter with habandoned | hflight
        · exact fun hs => not_waits_of_abandoned habandoned hs.1
        · exact not_stuck_of_recovery hflight
      · rw [← Option.some.inj (htimer.symm.trans htarget), hshows] at hshown
        cases hshown

theorem step_spec (hp : Sane p) (hn : ¬ p.Stuck) (h : p.step config e = some p') :
    Sane p' ∧ (¬ p'.Stuck ↔ p.GoesOn e) := by
  cases e with
  | resumeResolvedMatch session assigned =>
      obtain rfl := Option.some.inj h
      obtain ⟨hsane, hafter⟩ := resumeResolvedMatch_spec hp session.property assigned
      refine ⟨hsane, iff_of_true ?_ trivial⟩
      rcases hafter with heq | hsockets
      · rwa [heq]
      · exact not_stuck_of_socket hsockets
  | opened id now =>
      obtain ⟨s, hs, h⟩ := Option.bind_eq_some_iff.1 h
      split_ifs at h
      obtain rfl := Option.some.inj h
      obtain ⟨hsane, hstuck⟩ := Quiet.goesOn ((quiet_setReadyState id .open p).trans
        (quiet_onSocket (quiet_onOpen now _))) hp (keys_ne_nil (Assoc.mem_iff_exists.2 ⟨s, hs⟩))
      exact ⟨hsane, iff_of_true hstuck trivial⟩
  | closing id =>
      unfold step at h
      dsimp only at h
      split_ifs at h with hid
      obtain rfl := Option.some.inj h
      obtain ⟨hsane, hstuck⟩ := (quiet_setReadyState id .closing p).goesOn hp (keys_ne_nil hid)
      exact ⟨hsane, iff_of_true hstuck trivial⟩
  | closed id =>
      obtain ⟨s, hs, rfl⟩ := Option.map_eq_some_iff.1 h
      exact closed_spec hp hs
  | error id =>
      unfold step at h
      dsimp only at h
      split_ifs at h with hid
      obtain rfl := Option.some.inj h
      obtain ⟨hsane, hstuck⟩ := Quiet.goesOn
        (quiet_onSocket (quiet_markConnectionUnhealthy _ false p)) hp (keys_ne_nil hid)
      exact ⟨hsane, iff_of_true hstuck trivial⟩
  | message id now message =>
      obtain ⟨s, hs, h⟩ := Option.bind_eq_some_iff.1 h
      split_ifs at h
      obtain rfl := Option.some.inj h
      obtain ⟨hsane, hstuck⟩ := Quiet.goesOn (quiet_onSocket (quiet_onMessage now message p)) hp
        (keys_ne_nil (Assoc.mem_iff_exists.2 ⟨s, hs⟩))
      exact ⟨hsane, iff_of_true hstuck trivial⟩
  | heartbeat now =>
      obtain rfl := Option.some.inj h
      refine ⟨(quiet_onHeartbeat now p).sane hp, iff_of_true ?_ trivial⟩
      cases hopen : p.isOpen with
      | true => exact ((quiet_onHeartbeat now p).goesOn hp (keys_ne_nil_of_isOpen hopen)).2
      | false =>
          have hsame : p.onHeartbeat config now = p := if_neg (by simp [hopen])
          rwa [hsame]
  | firstSnapshotTimeout session =>
      obtain ⟨targetMatchId, htimer, rfl⟩ := Option.map_eq_some_iff.1 h
      exact firstSnapshotTimeout_spec hp htimer
  | ensured =>
      obtain ⟨r, hr, h⟩ := Option.bind_eq_some_iff.1 h
      split_ifs at h
      obtain rfl := Option.some.inj h
      obtain ⟨hsane, hstuck⟩ := ensured_spec hp hr
      exact ⟨hsane, iff_of_true hstuck trivial⟩
  | fetched session resolved =>
      obtain ⟨r, hr, h⟩ := Option.bind_eq_some_iff.1 h
      split_ifs at h
      obtain rfl := Option.some.inj h
      exact fetched_spec hp hr resolved
  | fetchFailed =>
      obtain ⟨r, hr, h⟩ := Option.bind_eq_some_iff.1 h
      split_ifs at h
      obtain rfl := Option.some.inj h
      exact fetchFailed_spec hp hr

/-- In every run from a fresh page it is never stuck exactly when all events go on. -/
theorem neverStuck_iff (config : RuntimeConfig) (es : List Event) :
    Run.Always (Page.step config) (fun p => ¬ p.Stuck) {} es ↔
      Run.Guarded (Page.step config) GoesOn {} es := by
  refine Run.always_iff_guarded (fun p => Sane p ∧ ¬ p.Stuck) ?_ (fun _ h => h.2) ?_
    ⟨sane_init, fun hs => hs.1.2.1 rfl⟩
  · rintro p e p' ⟨hp, hn⟩ hgo hs
    obtain ⟨hsane, hiff⟩ := step_spec hp hn hs
    exact ⟨hsane, hiff.2 hgo⟩
  · rintro p e p' ⟨hp, hn⟩ hgo hs hn'
    exact hgo ((step_spec hp hn hs).2.1 hn')

/-! ## A stale connection -/

def webConfig : RuntimeConfig where
  connectionErrorMessage := "Connection lost"
  gameConnectionErrorMessage := "Game connection lost"
  socketStaleAfterMs := 35000

def player : ValidSession := ⟨⟨"u1", "token", false⟩, by decide⟩

/-- A heartbeat finds that the server has been silent for too long, and the socket is closed. -/
def staleHeartbeat : List Event :=
  [.resumeResolvedMatch player { matchId := "m1", node := "node-1", ticket := "ticket" }, .opened 0 1000,
    .message 0 2000 (.snapshot { matchId := "m1", state := "live", eventSequence := 1 }),
    .heartbeat 40000, .closed 0]

theorem not_neverStuck_staleHeartbeat :
    ¬ Run.Always (Page.step webConfig) (fun p => ¬ p.Stuck) {} staleHeartbeat := by decide +kernel

end Page

end GeoDuels.MatchPage
