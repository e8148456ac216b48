import GeoDuels.LobbySocket.Cells
import GeoDuels.LobbySocket.Controller

/-!
# When the page converges

The page takes what arrives as it comes: a full lobby replaces all that it shows, and a patch the cells
that it carries.  So once everything has arrived, a cell has the value of the last message that wrote it,
and the page shows the lobby exactly when every other value that arrived for a cell has been overwritten
(`converges_iff`).  A response that was read before a change and arrives after the patch that carries it
is not.
-/

namespace GeoDuels.LobbySocket

open LastWriter (Message Overwritten applyAll)
open Reproduces (Keyed keyed_json sameLobby_of_first)

/-- What reaches the page: a full lobby, or the difference of two. -/
inductive Delivery (lobby : LobbySnapshot) where
  | full (snap : LobbyOf lobby)
  | diff (prev next : LobbyOf lobby)

variable {lobby : LobbySnapshot}

/-- The cells that it writes. -/
def Delivery.message : Delivery lobby → Message Cell.Value
  | .full snap => fun c => some (snap.val.json.shown c)
  | .diff prev next => fun c =>
      if Carries prev.val next.val c then some (next.val.json.shown c) else none

/-- What reaches the page in a step. -/
def Page.delivered (p : Page lobby) : PageAction lobby → List (Delivery lobby)
  | .frame =>
      match p.frames with
      | .lobbySnapshot snap :: _ => [.full snap]
      | .lobbyPatch _ prev next _ :: _ => [.diff prev next]
      | _ => []
  | .response i =>
      match p.responses[i]? with
      | some (_, snap) => [.full snap]
      | none => []
  | _ => []

/-- The lobby has been refreshed since its last change, and everything has arrived. -/
structure Page.Quiet (p : Page lobby) : Prop where
  refreshed : p.refreshed = true
  frames : p.frames = []
  responses : p.responses = []

/-- The page shows the lobby of the server, but for the presence of the members. -/
def Page.Converged (p : Page lobby) : Prop :=
  ∃ shown, p.state.snapshot = some shown ∧
    ∀ c : Cell, ¬ c.IsPresence → shown.shown c = p.current.val.json.shown c

/-! ## What the page shows -/

/-- The page shows what the messages have written, a full lobby among them. -/
structure Displays (ds : List (Delivery lobby)) (state : LobbyRuntimeState) : Prop where
  full : ∃ snap, Delivery.full snap ∈ ds
  shown : ∃ shown, state.snapshot = some shown ∧ Keyed shown.members ∧
    shown.shown = applyAll lobby.json.shown (ds.map Delivery.message)

theorem applyAll_deliver (ds : List (Delivery lobby)) (d : Delivery lobby) :
    applyAll lobby.json.shown ((ds ++ [d]).map Delivery.message) =
      LastWriter.apply (applyAll lobby.json.shown (ds.map Delivery.message)) d.message := by
  rw [List.map_append, List.map_singleton, LastWriter.applyAll_concat]

/-- A full lobby replaces what is shown. -/
theorem displays_full (ds : List (Delivery lobby)) (snap : LobbyOf lobby)
    {state : LobbyRuntimeState} (h : state.snapshot = some snap.val.json) :
    Displays (ds ++ [.full snap]) state := by
  refine ⟨⟨snap, by simp⟩, snap.val.json, h, keyed_json snap.val, ?_⟩
  rw [applyAll_deliver]
  rfl

/-- A patch writes what it carries over what is shown. -/
theorem Displays.patch {ds : List (Delivery lobby)} {state : LobbyRuntimeState} (h : Displays ds state)
    (order : MapOrder) (prev next : LobbyOf lobby) (revision : ℤ) :
    Displays (ds ++ [.diff prev next])
      (onEvent state (Frame.lobbyPatch order prev next revision).event) := by
  obtain ⟨⟨snap, hfull⟩, shown, hshown, hkeyed, heq⟩ := h
  refine ⟨⟨snap, List.mem_append_left _ hfull⟩,
    Cells.patched order prev.val next.val revision shown, ?_, Cells.keyed_patched hkeyed, ?_⟩
  · simp only [onEvent, Frame.event, hshown, Cells.applyLobbyPatch_some]
    rfl
  · funext c
    rw [applyAll_deliver, Cells.shown_patched hkeyed
      (sameLobby_of_first prev.property next.property), heq]
    by_cases hc : Carries prev.val next.val c
    · simp [LastWriter.apply, Delivery.message, hc]
    · simp [LastWriter.apply, Delivery.message, hc]

/-- Other errors leave what is shown. -/
theorem Displays.error {ds : List (Delivery lobby)} {state : LobbyRuntimeState} (h : Displays ds state)
    {message : String} (hstay : leftThisLobby message = false) :
    Displays ds (onEvent state (.lobbyError message)) := by
  refine ⟨h.full, ?_⟩
  simp only [onEvent, hstay, Bool.false_eq_true, if_false]
  exact h.shown

/-! ## Runs -/

/-- The page has got nothing and its first frame is the lobby, or it shows what it has got. -/
def Begun (ds : List (Delivery lobby)) (p : Page lobby) : Prop :=
  (ds = [] ∧ ∃ snap rest, p.frames = .lobbySnapshot snap :: rest) ∨ Displays ds p.state

/-- Nothing tells the page that its user has left, or else it does not get the lobby any more. -/
def Stays (p : Page lobby) : Prop :=
  ∀ message, Frame.lobbyError message ∈ p.frames → leftThisLobby message = false

/-- What the page has got decides what it shows, until its user has left the lobby. -/
def PageInv (ds : List (Delivery lobby)) (p : Page lobby) : Prop :=
  (p.isOpen = false ∧ p.refreshed = false) ∨ (Begun ds p ∧ Stays p)

theorem Begun.append {ds : List (Delivery lobby)} {p p' : Page lobby} (h : Begun ds p)
    (frames : List (Frame lobby)) (hstate : p'.state = p.state)
    (hframes : p'.frames = p.frames ++ frames) : Begun ds p' := by
  rcases h with ⟨hds, snap, rest, hp⟩ | h
  · exact .inl ⟨hds, snap, rest ++ frames, by rw [hframes, hp]; rfl⟩
  · exact .inr (hstate ▸ h)

theorem Stays.append {p p' : Page lobby} (h : Stays p) {frames : List (Frame lobby)}
    (hframes : p'.frames = p.frames ++ frames)
    (hnew : ∀ message, Frame.lobbyError message ∈ frames → leftThisLobby message = false) :
    Stays p' := by
  intro message hmem
  rw [hframes] at hmem
  rcases List.mem_append.1 hmem with hmem | hmem
  · exact h message hmem
  · exact hnew message hmem

/-- What a refresh does: it writes nothing, a patch, or that the lobby is unavailable, unless it tells
the page that its user has left. -/
theorem refreshLobby_cases (userID : UserID) (reads : Bool) (order : MapOrder) (p : Page lobby) :
    ((p.refreshLobby userID reads order).isOpen = false ∧
        (p.refreshLobby userID reads order).refreshed = false) ∨
      ∃ frames, (p.refreshLobby userID reads order).frames = p.frames ++ frames ∧
        (p.refreshLobby userID reads order).state = p.state ∧
        ∀ message, Frame.lobbyError message ∈ frames → leftThisLobby message = false := by
  unfold Page.refreshLobby
  dsimp only
  split_ifs
  · refine .inr ⟨[.lobbyError "Lobby unavailable"], rfl, rfl, ?_⟩
    simp only [List.mem_singleton, Frame.lobbyError.injEq, forall_eq]
    decide +kernel
  · exact .inl ⟨rfl, rfl⟩
  · exact .inr ⟨[.lobbyPatch order p.lastLobby p.current (p.revision + 1)], rfl, rfl, by simp⟩
  · exact .inr ⟨[], by simp, rfl, by simp⟩

variable {userID : UserID}

theorem inv_connected (waitForSnapshot : Bool) (state : LobbyRuntimeState) :
    PageInv [] (Page.connected lobby waitForSnapshot state) := by
  refine .inr ⟨.inl ⟨rfl, _, [], rfl⟩, fun message hmem => ?_⟩
  simp [Page.connected] at hmem

theorem inv_frame {ds : List (Delivery lobby)} {p p' : Page lobby} (h : PageInv ds p)
    (hp : p.step userID .frame = some p') : PageInv (ds ++ p.delivered .frame) p' := by
  unfold Page.step at hp
  cases hframes : p.frames with
  | nil => simp [hframes] at hp
  | cons frame frames =>
      simp only [hframes, Option.some.injEq] at hp
      subst hp
      rcases h with hleft | ⟨hbegun, hstays⟩
      · exact .inl hleft
      · have hrest : ∀ message, Frame.lobbyError message ∈ frames → leftThisLobby message = false :=
          fun message hmem => hstays message (by rw [hframes]; exact List.mem_cons_of_mem _ hmem)
        refine .inr ⟨?_, hrest⟩
        cases frame with
        | lobbySnapshot snap =>
            simp only [Page.delivered, hframes]
            exact .inr (displays_full ds snap rfl)
        | lobbyPatch order prev next revision =>
            simp only [Page.delivered, hframes]
            rcases hbegun with ⟨-, snap, rest, hfirst⟩ | hdisplays
            · rw [hframes] at hfirst
              cases hfirst
            · exact .inr (hdisplays.patch order prev next revision)
        | lobbyError message =>
            simp only [Page.delivered, hframes, List.append_nil]
            rcases hbegun with ⟨-, snap, rest, hfirst⟩ | hdisplays
            · rw [hframes] at hfirst
              cases hfirst
            · exact .inr (hdisplays.error (hstays message (by rw [hframes]; exact List.mem_cons_self)))

theorem inv_response {ds : List (Delivery lobby)} {p p' : Page lobby} (h : PageInv ds p) {i : ℕ}
    (hp : p.step userID (.response i) = some p') : PageInv (ds ++ p.delivered (.response i)) p' := by
  unfold Page.step at hp
  cases hresponse : p.responses[i]? with
  | none => simp [hresponse] at hp
  | some response =>
      obtain ⟨kind, snap⟩ := response
      simp only [hresponse, Option.some.injEq] at hp
      subst hp
      rcases h with hleft | ⟨-, hstays⟩
      · exact .inl hleft
      · simp only [Page.delivered, hresponse]
        refine .inr ⟨.inr (displays_full ds snap ?_), hstays⟩
        cases kind <;> rfl

theorem inv_step {ds : List (Delivery lobby)} {p p' : Page lobby} {a : PageAction lobby}
    (h : PageInv ds p) (hp : p.step userID a = some p') : PageInv (ds ++ p.delivered a) p' := by
  cases a with
  | frame => exact inv_frame h hp
  | response i => exact inv_response h hp
  | change next =>
      simp only [Page.step, Option.some.injEq] at hp
      subst hp
      simp only [Page.delivered, List.append_nil]
      rcases h with hleft | hstays
      · exact .inl ⟨hleft.1, rfl⟩
      · exact .inr hstays
  | request kind =>
      simp only [Page.step, Option.some.injEq] at hp
      subst hp
      simp only [Page.delivered, List.append_nil]
      exact h
  | refreshLobby reads order =>
      simp only [Page.step] at hp
      split_ifs at hp with hopen
      obtain rfl := Option.some.inj hp
      simp only [Page.delivered, List.append_nil]
      rcases h with hleft | ⟨hbegun, hstays⟩
      · rw [hleft.1] at hopen
        cases hopen
      · rcases refreshLobby_cases userID reads order p with hleft | ⟨frames, hframes, hstate, hnew⟩
        · exact .inl hleft
        · exact .inr ⟨hbegun.append frames hstate hframes, hstays.append hframes hnew⟩

/-- Once everything has arrived, the page shows the lobby of the server exactly when every other value
that has arrived for a cell has been overwritten. -/
theorem converges_iff {waitForSnapshot : Bool} {state : LobbyRuntimeState}
    {as : List (PageAction lobby)} {p : Page lobby}
    (hrun : Run.exec (Page.step userID) (Page.connected lobby waitForSnapshot state) as = some p)
    (hquiet : p.Quiet) :
    p.Converged ↔ ∀ c : Cell, ¬ c.IsPresence →
      Overwritten
        ((Run.trace (Page.step userID) Page.delivered (Page.connected lobby waitForSnapshot state)
          as).map Delivery.message)
        c (p.current.val.json.shown c) := by
  have hinv := @Run.trace_induction _ _ _ _ Page.delivered (fun _ => PageInv) _
    (inv_connected waitForSnapshot state) (fun _ _ _ _ _ h hp => inv_step h hp) _ _ hrun
  rcases hinv with ⟨-, hno⟩ | ⟨hbegun, -⟩
  · rw [hquiet.refreshed] at hno
    cases hno
  rcases hbegun with ⟨-, snap, rest, hfirst⟩ | ⟨⟨snap, hfull⟩, shown, hshown, -, heq⟩
  · rw [hquiet.frames] at hfirst
    cases hfirst
  have hwritten (c : Cell) : ∃ m ∈ (Run.trace (Page.step userID) Page.delivered
      (Page.connected lobby waitForSnapshot state) as).map Delivery.message, m.Writes c :=
    ⟨_, List.mem_map_of_mem hfull, rfl⟩
  unfold Page.Converged
  simp only [hshown, Option.some.injEq, exists_eq_left', heq]
  exact forall₂_congr fun c _ => LastWriter.applyAll_eq_iff (hwritten c) _ _

/-! ### A response and a patch in either order -/

/-- The lobby of `u1` and `u2` in one of the modes. -/
def lobbyIn (mode : MatchMode) : LobbySnapshot where
  id := "lob-1"
  inviteCode := "ABCDEF"
  ownerUserID := "u1"
  state := .open_
  mode := mode
  mapScope := "world"
  members :=
    [{ userID := "u1", displayName := "One", role := "owner" },
      { userID := "u2", displayName := "Two", role := "member" }]
  nodup := by decide

/-- The owner changes the mode; his request and a poll read the lobby, before and after. -/
def modeChange (arrivals : List (PageAction (lobbyIn .duel))) : List (PageAction (lobbyIn .duel)) :=
  [.request .poll, .change ⟨lobbyIn .freeForAll, rfl, rfl, rfl, rfl, rfl⟩, .request .action,
    .refreshLobby true ⟨id, fun _ => .refl _⟩] ++ arrivals

def modeChangePage (arrivals : List (PageAction (lobbyIn .duel))) : Option (Page (lobbyIn .duel)) :=
  Run.exec (Page.step "u1") (Page.connected (lobbyIn .duel) false initialState) (modeChange arrivals)

/-- The patch comes last. -/
theorem converged_latePatch :
    ∃ p, modeChangePage [.response 0, .frame, .response 0, .frame] = some p ∧ p.Converged := by
  have hpatchable : PatchableAside (lobbyIn .duel) (lobbyIn .freeForAll) := by
    refine fun m hm => ⟨fun p hp hid k _ _ hzero => ?_, fun _ => ⟨m, hm, rfl⟩⟩
    rw [@Reproduces.eq_of_userID (lobbyIn .duel) _ _ hp hm hid]
    exact hzero
  refine ⟨_, rfl, (@converges_iff _ "u1" false initialState
    (modeChange [.response 0, .frame, .response 0, .frame]) _ rfl ⟨rfl, rfl, rfl⟩).2 fun c hc => ?_⟩
  show Overwritten ([Delivery.message (.full ⟨lobbyIn .duel, _⟩),
    Delivery.message (.full ⟨lobbyIn .duel, _⟩), Delivery.message (.full ⟨lobbyIn .freeForAll, _⟩)] ++
    [Delivery.message (.diff ⟨lobbyIn .duel, _⟩ ⟨lobbyIn .freeForAll, _⟩)]) c
    ((lobbyIn .freeForAll).json.shown c)
  by_cases hcarries : Carries (lobbyIn .duel) (lobbyIn .freeForAll) c
  · rw [LastWriter.overwritten_concat_some (if_pos hcarries)]
  · have hsame : (lobbyIn .duel).json.shown c = (lobbyIn .freeForAll).json.shown c := by
      by_contra hne
      exact hcarries (Cells.carries_of_ne hpatchable hc hne)
    refine LastWriter.overwritten_of_forall fun m hm w hw => ?_
    simp only [List.cons_append, List.nil_append, List.mem_cons, List.not_mem_nil, or_false] at hm
    rcases hm with rfl | rfl | rfl | rfl
    · exact (Option.some.inj hw).symm.trans hsame
    · exact (Option.some.inj hw).symm.trans hsame
    · exact (Option.some.inj hw).symm
    · have hnone : (none : Option c.Value) = some w := (if_neg hcarries).symm.trans hw
      cases hnone

theorem not_converged_lateResponse : ¬ ∀ (lobby : LobbySnapshot) (userID : UserID)
    (waitForSnapshot : Bool) (state : LobbyRuntimeState) (as : List (PageAction lobby)) (p : Page lobby),
    Run.exec (Page.step userID) (Page.connected lobby waitForSnapshot state) as = some p → p.Quiet →
      p.Converged := by
  intro h
  obtain ⟨shown, hshown, hall⟩ := h (lobbyIn .duel) "u1" false initialState
    (modeChange [.frame, .frame, .response 1, .response 0]) _ rfl ⟨rfl, rfl, rfl⟩
  have hmode := hall (.lobby .mode) id
  obtain rfl := Option.some.inj hshown
  exact absurd hmode (by decide)

end GeoDuels.LobbySocket
