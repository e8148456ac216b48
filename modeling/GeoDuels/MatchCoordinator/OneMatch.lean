import GeoDuels.MatchCoordinator.Moves

/-!
# One live match for each user

Every permitted step of the coordinator is one or two steps of the roster.  The two handlers are
treated alike: `Settles` says what the outcome of a handler's command makes of the world.
-/

namespace GeoDuels.MatchCoordinator

open Coordinator (Assignment NodeRecord isBlank)
open Coordinator.Store (SameAssignments Saved Cleared)
open MatchLaunch (Call)
open MatchStore (QueuePool Proc)
open Roster (Step Inv)

variable {w w' : World} {singleTTL : ℤ}

/-- The world stays well formed, and the roster makes its steps. -/
structure Refines (w w' : World) : Prop where
  wf : w'.Wf
  steps : Relation.ReflTransGen Step w.abs w'.abs

/-- The handler at the place `p` goes on with the result of its command: `settle` is the world then,
and a place of the handler is fine if it satisfies `Fine`. -/
structure Settles {P : Type} (w : World) (p : Place) (place : P → Place) (Fine : P → Prop)
    (settle : Result P → World) : Prop where
  moved : ∀ r, Moved w (settle r) p (r.next.elim {} place)
  queue : ∀ r, (settle r).queue = r.queue
  coord : ∀ r, (settle r).coord = r.coord
  live : ∀ r, (settle r).live = r.live
  wf : ∀ r : Result P, (∀ at_ ∈ r.next, Fine at_) → Fewer w.queue r.queue → CoordWf r.coord →
    (settle r).Wf

namespace Settles

variable {P : Type} {p : Place} {place : P → Place} {Fine : P → Prop} {settle : Result P → World}

theorem quiet (h : Settles w p place Fine settle) (hw : w.Wf) (idle : p.saving = none) {r : Result P}
    (next : ∀ at_ ∈ r.next, Fine at_ ∧ (place at_).saving = none ∧
      ∀ e, (place at_).opens = some e → e ∈ w.opens)
    (queue : Fewer w.queue r.queue) (same : SameAssignments w.coord r.coord)
    (live : ∀ i ∈ r.live, i ∈ w.live) : Refines w (settle r) := by
  have hwf := h.wf r (fun at_ hat => (next at_ hat).1) queue (hw.coord.same same)
  refine ⟨hwf, .single ((h.moved r).quiet hwf (by rwa [h.queue]) (by rwa [h.coord]) ?_ ?_
    (by rwa [h.live]))⟩
  · cases hnext : r.next with
    | none => exact idle.symm
    | some at_ => exact (next at_ hnext).2.1.trans idle.symm
  · intro e he
    cases hnext : r.next with
    | none => rw [hnext] at he; cases he
    | some at_ =>
        rw [hnext] at he
        exact (next at_ hnext).2.2 e he

/-- The command writes nothing, and the open match stays the same. -/
theorem goto (h : Settles w p place Fine settle) (hw : w.Wf) (idle : p.saving = none)
    {next : Option P} (hnext : ∀ at_ ∈ next, Fine at_ ∧ (place at_).saving = none ∧
      ∀ e, (place at_).opens = some e → e ∈ w.opens) : Refines w (settle (w.goto next)) :=
  h.quiet hw idle hnext (.refl w.queue) (.refl w.coord) fun _ hi => hi

theorem clear (h : Settles w p place Fine settle) (hw : w.Wf) {a : Assignment} (owns : w.ClearsOwn a)
    {at_ : P} (fine : Fine at_) (hplace : place at_ = p) :
    Refines w (settle { w.goto (some at_) with coord := w.coord.clearAssignment a }) := by
  set r : Result P := { w.goto (some at_) with coord := w.coord.clearAssignment a }
  have hmoved : Moved w (settle r) p p := by
    have hmoved := h.moved r
    rwa [show r.next.elim {} place = p from hplace] at hmoved
  by_cases ha : a.matchID = ""
  · have hsame : SameAssignments w.coord r.coord := by
      show SameAssignments w.coord (w.coord.clearAssignment a)
      rw [w.coord.clearAssignment_of_blank ha]
      exact .refl w.coord
    have hwf : (settle r).Wf := by
      refine h.wf r (fun _ hat => ?_) (.refl w.queue) (hw.coord.same hsame)
      rwa [← Option.some.inj hat]
    refine ⟨hwf, .single (hmoved.quiet hwf (by rw [h.queue]; exact .refl w.queue)
      (by rwa [h.coord]) rfl (fun e he => hmoved.mem_opens_before he) fun i hi => ?_)⟩
    rwa [h.live] at hi
  · have hcleared : Cleared w.coord r.coord a := w.coord.clearAssignment_cleared ha
    have hwf : (settle r).Wf := by
      refine h.wf r (fun _ hat => ?_) (.refl w.queue) (hw.coord.cleared hcleared)
      rwa [← Option.some.inj hat]
    exact ⟨hwf, .single (hmoved.clear owns rfl rfl (h.queue r) (by rwa [h.coord]) (h.live r))⟩

section Launch

variable {c d : Call} {go : Call → P} {ok failed : Option P} {x : Answer}

theorem next_launch (next : (c.run w.coord singleTTL x.now x.accepted).next = .inl d) :
    (w.launch singleTTL x c go ok failed).next = some (go d) := by
  unfold World.launch
  dsimp only
  rw [next]

/-- A call that returns takes its handler to `ok` or to `failed`. -/
theorem next_launch_returned {res : Except String Assignment} {at_ : P}
    (next : (c.run w.coord singleTTL x.now x.accepted).next = .inr res)
    (hat : at_ ∈ (w.launch singleTTL x c go ok failed).next) : at_ ∈ ok ∨ at_ ∈ failed := by
  unfold World.launch at hat
  dsimp only at hat
  rw [next] at hat
  cases res with
  | ok _ => exact .inl hat
  | error _ => exact .inr hat

/-- The handler stays in its call, which is at the place `d` now. -/
theorem goesOn (h : Settles w (.launch c) place Fine settle) (ok failed : Option P)
    (next : (c.run w.coord singleTTL x.now x.accepted).next = .inl d) (hgo : place (go d) = .launch d)
    (fine : Fine (go d)) (coord : CoordWf (c.run w.coord singleTTL x.now x.accepted).store) :
    (settle (w.launch singleTTL x c go ok failed)).Wf ∧
      Moved w (settle (w.launch singleTTL x c go ok failed)) (.launch c) (.launch d) := by
  have hnext : (w.launch singleTTL x c go ok failed).next = some (go d) := next_launch next
  have hmoved := h.moved (w.launch singleTTL x c go ok failed)
  rw [hnext] at hmoved
  refine ⟨h.wf _ (fun at_ hat => ?_) (.refl w.queue) coord, ?_⟩
  · rw [hnext] at hat
    rwa [← Option.some.inj hat]
  · rwa [← hgo]

theorem launch_quiet (h : Settles w (.launch c) place Fine settle) (hw : w.Wf)
    (hmade : Made w.issued c.found) (hgo : ∀ d, place (go d) = .launch d)
    (hfine : ∀ d, Launching w.issued d → Fine (go d))
    (hok : ∀ at_ ∈ ok, Fine at_ ∧ place at_ = {}) (hfailed : ∀ at_ ∈ failed, Fine at_ ∧ place at_ = {})
    (idle : c.saving = none)
    (same : SameAssignments w.coord (c.run w.coord singleTTL x.now x.accepted).store)
    (sent : (c.run w.coord singleTTL x.now x.accepted).sent.isSome → x.accepted = false)
    (next : ∀ d, (c.run w.coord singleTTL x.now x.accepted).next = .inl d →
      d.found = c.found ∧ d.at_.Sound ∧ d.saving = none) :
    Refines w (settle (w.launch singleTTL x c go ok failed)) := by
  set r := w.launch singleTTL x c go ok failed
  have hidle : (Place.launch c).saving = none := congrArg (Option.map _) idle
  refine h.quiet hw hidle (fun at_ hat => ?_) (.refl w.queue) same fun i hi => ?_
  · cases hd : (c.run w.coord singleTTL x.now x.accepted).next with
    | inl d =>
        rw [next_launch hd] at hat
        obtain rfl := Option.some.inj hat
        obtain ⟨hfound, hsound, hsaving⟩ := next d hd
        refine ⟨hfine d ⟨by rwa [hfound], hsound⟩, ?_, fun e he => ?_⟩
        · rw [hgo]
          exact congrArg (Option.map _) hsaving
        · rw [hgo] at he
          have hopens : (Place.launch c).opens = (Place.launch d).opens := by
            show some _ = some _
            rw [hfound]
          exact (h.moved r).mem_opens_before (hopens.trans he)
    | inr res =>
        have hend : Fine at_ ∧ place at_ = {} :=
          (next_launch_returned hd hat).elim (hok at_) (hfailed at_)
        refine ⟨hend.1, by rw [hend.2], fun e he => ?_⟩
        rw [hend.2] at he
        cases he
  · have hlive : r.live = w.live := if_neg fun hc => by
      rw [sent hc.1] at hc
      exact Bool.noConfusion hc.2.1
    rwa [hlive] at hi

theorem launch_post (h : Settles w (.launch c) place Fine settle) (hw : w.Wf)
    (hmade : Made w.issued c.found) (hgo : place (go d) = .launch d) (fine : Fine (go d))
    (hd : d.found = c.found) (hsaving : d.saving = some c.found) (idle : c.saving = none)
    (store : (c.run w.coord singleTTL x.now x.accepted).store = w.coord)
    (next : (c.run w.coord singleTTL x.now x.accepted).next = .inl d) :
    Refines w (settle (w.launch singleTTL x c go ok failed)) := by
  set r := w.launch singleTTL x c go ok failed
  have hcoord : CoordWf (c.run w.coord singleTTL x.now x.accepted).store := by
    rw [store]
    exact hw.coord
  obtain ⟨hwf, hmoved⟩ := h.goesOn ok failed next hgo fine hcoord
  refine ⟨hwf, .single (hmoved.post hmade.listed rfl ?_ ?_ ?_ (h.queue r) ?_ fun j hj => ?_)⟩
  · show some _ = some _
    rw [hd]
  · exact congrArg (Option.map _) idle
  · exact congrArg (Option.map _) hsaving
  · rw [h.coord]
    show SameAssignments w.coord (c.run w.coord singleTTL x.now x.accepted).store
    rw [store]
    exact .refl w.coord
  · rw [h.live] at hj
    change j ∈ (if _ then c.found.matchID :: w.live else w.live) at hj
    split_ifs at hj
    · exact List.mem_cons.1 hj
    · exact .inr hj

theorem launch_save (h : Settles w (.launch c) place Fine settle) (hw : w.Wf)
    (hmade : Made w.issued c.found) (hgo : place (go d) = .launch d) (fine : Fine (go d))
    (hd : d.found = c.found) (idle : d.saving = none) {a : Assignment} (saving : c.saving = some c.found)
    (saved : Saved w.coord (c.run w.coord singleTTL x.now x.accepted).store a)
    (matchID : a.matchID = c.found.matchID) (mode : a.mode = c.found.mode)
    (players : a.players = c.found.players)
    (sent : (c.run w.coord singleTTL x.now x.accepted).sent = none)
    (next : (c.run w.coord singleTTL x.now x.accepted).next = .inl d) :
    Refines w (settle (w.launch singleTTL x c go ok failed)) := by
  set r := w.launch singleTTL x c go ok failed
  obtain ⟨hwf, hmoved⟩ := h.goesOn ok failed next hgo fine (hw.coord.saved saved)
  refine ⟨hwf, .single (hmoved.save ?_ ?_ ?_ ?_ ?_ ?_ (h.queue r) (by rwa [h.coord]) ?_)⟩
  · have hmode := hmade.normalizeFound.mode
    show isPrivatePartyMode (Coordinator.normalizeMode a.mode a.matchID)
    rw [mode, matchID]
    exact hmode
  · rw [matchID, players]
    exact hmade.listed
  · rw [matchID, players]
    rfl
  · show some _ = some _
    rw [hd]
  · rw [matchID]
    exact congrArg (Option.map _) saving
  · exact congrArg (Option.map _) idle
  · rw [h.live]
    refine if_neg fun hc => ?_
    have hsent := hc.1
    rw [sent] at hsent
    cases hsent

/-- The handler launches a match. -/
theorem launch (h : Settles w (.launch c) place Fine settle) (hw : w.Wf)
    (hc : Launching w.issued c) (go : Call → P) (hgo : ∀ d, place (go d) = .launch d)
    (hfine : ∀ d, Launching w.issued d → Fine (go d))
    (hok : ∀ at_ ∈ ok, Fine at_ ∧ place at_ = {}) (hfailed : ∀ at_ ∈ failed, Fine at_ ∧ place at_ = {})
    (x : Answer) : Refines w (settle (w.launch singleTTL x c go ok failed)) := by
  obtain ⟨hmade, hsound⟩ := hc
  have hran := MatchLaunch.Call.run_spec hsound hmade.matchID hmade.players w.coord singleTTL x.now
    x.accepted
  cases hran with
  | quiet idle same sent next => exact h.launch_quiet hw hmade hgo hfine hok hfailed idle same sent next
  | post target idle store sound next =>
      exact h.launch_post hw hmade (hgo { c with at_ := .save target }) (hfine _ ⟨hmade, sound⟩)
        rfl rfl idle store next
  | save a saving saved matchID mode players sent next =>
      obtain ⟨returned, next⟩ := next
      exact h.launch_save hw hmade (hgo { c with at_ := .unlock returned })
        (hfine _ ⟨hmade, trivial⟩) rfl rfl saving saved matchID mode players sent next

end Launch

end Settles

/-! ## Queue connections -/

theorem lookup_settleSession (w : World) (id j : ℕ) (session : QueueSession) (r : Result QueueAt) :
    (w.settleSession id session r).sessions.lookup j =
      if j = id then r.next.map fun at_ => { session with at_ := at_ } else w.sessions.lookup j := by
  unfold World.settleSession
  dsimp only
  cases r.next with
  | none => exact Assoc.lookup_erase ..
  | some at_ => exact Assoc.lookup_insert ..

theorem settles_session (hw : w.Wf) {id : ℕ} {session : QueueSession}
    (hid : w.sessions.lookup id = some session) :
    Settles w session.at_.place QueueAt.place (·.Wf w.issued) (w.settleSession id session) := by
  have hlookup := lookup_settleSession w id
  refine ⟨fun r => ⟨rfl, rfl, ?_, ?_, fun q hq => ?_, fun q hq => ?_⟩, fun _ => rfl, fun _ => rfl,
    fun _ => rfl, fun r next queue coord => ⟨fun m hm => hw.stored m (queue m hm), fun j s hj => ?_,
      hw.starts, coord⟩⟩
  · exact .inr (World.mem_places.2 (.inl ⟨id, session, hid, rfl⟩))
  · cases hnext : r.next with
    | none => exact .inl rfl
    | some at_ =>
        refine .inr (World.mem_places.2 (.inl ⟨id, { session with at_ := at_ }, ?_, rfl⟩))
        rw [hlookup, if_pos rfl, hnext]
        rfl
  · rcases World.mem_places.1 hq with ⟨j, s, hj, rfl⟩ | hstart
    · rw [hlookup] at hj
      split_ifs at hj with hji
      · obtain ⟨at_, hat, rfl⟩ := Option.map_eq_some_iff.1 hj
        rw [hat]
        exact .inl rfl
      · exact .inr (World.mem_places.2 (.inl ⟨j, s, hj, rfl⟩))
    · exact .inr (World.mem_places.2 (.inr hstart))
  · rcases World.mem_places.1 hq with ⟨j, s, hj, rfl⟩ | hstart
    · by_cases hji : j = id
      · subst hji
        rw [hid, Option.some.injEq] at hj
        exact .inl (by rw [hj])
      · refine .inr (World.mem_places.2 (.inl ⟨j, s, ?_, rfl⟩))
        rwa [hlookup, if_neg hji]
    · exact .inr (World.mem_places.2 (.inr hstart))
  · rw [hlookup] at hj
    split_ifs at hj
    · obtain ⟨at_, hat, rfl⟩ := Option.map_eq_some_iff.1 hj
      exact next at_ hat
    · exact hw.sessions j s hj

/-- A place without an open match. -/
theorem idle_place {at_ : QueueAt} (h : at_.place = {}) :
    at_.place.saving = none ∧ ∀ e, at_.place.opens = some e → e ∈ w.opens := by
  rw [h]
  exact ⟨rfl, fun e he => by cases he⟩

theorem session_refines (hw : w.Wf) {id : ℕ} {session : QueueSession}
    (hid : w.sessions.lookup id = some session) (hC : session.at_.Sole w) (x : Answer) :
    Refines w (w.settleSession id session (session.run singleTTL w x)) := by
  have hsettles := settles_session hw hid
  have hat := hw.sessions id session hid
  obtain ⟨req, rulesets, at_⟩ := session
  have hgoto : ∀ {next : QueueAt} {q : MatchStore.Store}, at_.place.saving = none →
      next.Wf w.issued → next.place = {} → Fewer w.queue q → Refines w
        (w.settleSession id ⟨req, rulesets, at_⟩ { w.goto (some next) with queue := q }) := by
    intro next q hidle hwf hplace hq
    refine hsettles.quiet hw hidle (fun at_ hat => ?_) hq (.refl w.coord) fun _ hi => hi
    rw [← Option.some.inj hat]
    exact ⟨hwf, idle_place hplace⟩
  cases at_ with
  | check =>
      unfold QueueSession.run
      dsimp only
      cases w.coord.getAssignmentByUser req.userID with
      | none => exact hgoto rfl trivial rfl (.refl w.queue)
      | some a => exact hgoto rfl trivial rfl (.refl w.queue)
  | validate a =>
      refine hsettles.goto hw rfl fun at_ hat => ?_
      obtain ⟨again, -, rfl⟩ := Option.map_eq_some_iff.1 hat
      exact ⟨trivial, idle_place rfl⟩
  | clear a again =>
      cases again with
      | true => exact hsettles.clear hw hC trivial rfl
      | false => exact hsettles.clear hw hC trivial rfl
  | leave => exact hgoto rfl trivial rfl (fewer_leave _ _ _ _)
  | join rulesets' =>
      cases rulesets' with
      | nil => exact hgoto rfl trivial rfl (.refl w.queue)
      | cons r rulesets' => exact hgoto rfl trivial rfl (fewer_join _ _ _ _ _)
  | poll rulesets' =>
      cases rulesets' with
      | nil => exact hgoto rfl trivial rfl (.refl w.queue)
      | cons r rulesets' =>
          refine hsettles.quiet hw rfl (fun at_ hat => ?_) (fewer_getDelMatch _ _ _ _) (.refl w.coord)
            fun _ hi => hi
          obtain rfl := Option.some.inj hat
          cases hm : ((w.queue.queue (QueueSession.pool ⟨req, rulesets, .poll (r :: rulesets')⟩)
              r).getDelMatch req.userID).1 with
          | none => exact ⟨trivial, idle_place rfl⟩
          | some m =>
              have hmem := mem_stored_of_getDelMatch hm
              refine ⟨(hw.stored m hmem).config _, rfl, fun e he => ?_⟩
              obtain rfl := Option.some.inj he
              exact World.mem_opens.2 (.inl ⟨m, hmem, rfl⟩)
  | found m =>
      have hopens : (m.matchID, m.players) ∈ w.opens :=
        World.mem_opens.2 (.inr ⟨_, World.mem_places.2 (.inl ⟨id, _, hid, rfl⟩), rfl⟩)
      refine hsettles.goto hw rfl fun at_ hat' => ?_
      obtain rfl := Option.some.inj hat'
      split_ifs
      · refine ⟨hat, rfl, fun e he => ?_⟩
        obtain rfl := Option.some.inj he
        exact hopens
      · refine ⟨⟨Made.normalizeFound hat, trivial⟩, rfl, fun e he => ?_⟩
        obtain rfl := Option.some.inj he
        exact hopens
  | drop m => exact hgoto rfl trivial rfl (fewer_clearQueuedMatch _ _)
  | launch c =>
      refine hsettles.launch hw hat .launch (fun _ => rfl) (fun _ hd => hd) (fun at_ hat => ?_)
        (fun at_ hat => ?_) x
      · split_ifs at hat
        · cases hat
        · rw [← Option.some.inj hat]
          exact ⟨trivial, rfl⟩
      · rw [← Option.some.inj hat]
        exact ⟨trivial, rfl⟩
  | close =>
      exact hsettles.quiet hw rfl (fun _ hat => by cases hat) (fewer_leave _ _ _ _) (.refl w.coord)
        fun _ hi => hi

/-! ## Lobby starts -/

theorem lookup_settleLobby (w : World) (id j : ℕ) (start : LobbyStart) (r : Result LobbyAt) :
    (w.settleLobby id start r).starts.lookup j =
      if j = id then r.next.map fun at_ => { start with at_ := at_ } else w.starts.lookup j := by
  unfold World.settleLobby
  dsimp only
  cases r.next with
  | none => exact Assoc.lookup_erase ..
  | some at_ => exact Assoc.lookup_insert ..

theorem settles_lobby (hw : w.Wf) {id : ℕ} {start : LobbyStart}
    (hid : w.starts.lookup id = some start) :
    Settles w start.place (fun at_ => LobbyStart.place { start with at_ := at_ })
      (·.Wf w.issued start.found) (w.settleLobby id start) := by
  have hlookup := lookup_settleLobby w id
  refine ⟨fun r => ⟨rfl, rfl, ?_, ?_, fun q hq => ?_, fun q hq => ?_⟩, fun _ => rfl, fun _ => rfl,
    fun _ => rfl, fun r next queue coord => ⟨fun m hm => hw.stored m (queue m hm), hw.sessions,
      fun j s hj => ?_, coord⟩⟩
  · exact .inr (World.mem_places.2 (.inr ⟨id, start, hid, rfl⟩))
  · cases hnext : r.next with
    | none => exact .inl rfl
    | some at_ =>
        refine .inr (World.mem_places.2 (.inr ⟨id, { start with at_ := at_ }, ?_, rfl⟩))
        rw [hlookup, if_pos rfl, hnext]
        rfl
  · rcases World.mem_places.1 hq with hsession | ⟨j, s, hj, rfl⟩
    · exact .inr (World.mem_places.2 (.inl hsession))
    · rw [hlookup] at hj
      split_ifs at hj with hji
      · obtain ⟨at_, hat, rfl⟩ := Option.map_eq_some_iff.1 hj
        rw [hat]
        exact .inl rfl
      · exact .inr (World.mem_places.2 (.inr ⟨j, s, hj, rfl⟩))
  · rcases World.mem_places.1 hq with hsession | ⟨j, s, hj, rfl⟩
    · exact .inr (World.mem_places.2 (.inl hsession))
    · by_cases hji : j = id
      · subst hji
        rw [hid, Option.some.injEq] at hj
        exact .inl (by rw [hj])
      · refine .inr (World.mem_places.2 (.inr ⟨j, s, ?_, rfl⟩))
        rwa [hlookup, if_neg hji]
  · rw [hlookup] at hj
    split_ifs at hj
    · obtain ⟨at_, hat, rfl⟩ := Option.map_eq_some_iff.1 hj
      have hstart := hw.starts id start hid
      exact ⟨hstart.made, hstart.named, next at_ hat⟩
    · exact hw.starts j s hj

theorem place_loop {found : MatchFound} {done rest : List UserID} (h : done ++ rest = found.players)
    (suffix : String) : LobbyStart.place ⟨found, .loop found suffix done rest⟩ =
      { opens := some (found.matchID, done) } := by
  unfold LobbyAt.loop
  cases rest with
  | nil =>
      rw [List.append_nil] at h
      rw [h]
      rfl
  | cons u rest => rfl

theorem loop_wf {issued : Assoc MatchID (List UserID)} {found : MatchFound} (hmade : Made issued found)
    {done rest : List UserID} (h : done ++ rest = found.players) (suffix : String) :
    (LobbyAt.loop found suffix done rest).Wf issued found := by
  unfold LobbyAt.loop
  cases rest with
  | nil => exact ⟨hmade.normalizeFound, trivial⟩
  | cons u rest => exact h

theorem lobby_refines (hw : w.Wf) {id : ℕ} {start : LobbyStart}
    (hid : w.starts.lookup id = some start) (hC : start.Sole w) (x : Answer) :
    Refines w (w.settleLobby id start (start.run singleTTL w x)) := by
  have hsettles := settles_lobby hw hid
  obtain ⟨hmade, hnamed, hat⟩ := hw.starts id start hid
  obtain ⟨found, at_⟩ := start
  -- the check of the player `u` is over
  have hchecked : ∀ {done rest : List UserID} {u : UserID}, done ++ u :: rest = found.players →
      LobbyStart.place ⟨found, at_⟩ = { opens := some (found.matchID, done) } →
      ∀ {coord : Coordinator.Store}, CoordWf coord → coord.getAssignmentByUser u = none →
      w.Alone found.matchID u →
      let w' := w.settleLobby id ⟨found, at_⟩
        { w.goto (some (.loop found x.suffix (done ++ [u]) rest)) with coord := coord }
      w'.Wf ∧ Step { w with coord := coord }.abs w'.abs := by
    intro done rest u heq hplace coord hcoord hnone halone w'
    have heq' : (done ++ [u]) ++ rest = found.players := by
      rw [List.append_assoc]
      exact heq
    have hloop := place_loop heq' x.suffix
    have hmoved := hsettles.moved
      { w.goto (some (.loop found x.suffix (done ++ [u]) rest)) with coord := coord }
    refine ⟨hsettles.wf _ (fun at_ hat => ?_) (.refl w.queue) hcoord, ?_⟩
    · rw [← Option.some.inj hat]
      exact loop_wf hmade heq' x.suffix
    · have hstep : Moved { w with coord := coord } w' (LobbyStart.place ⟨found, at_⟩)
          (LobbyStart.place ⟨found, .loop found x.suffix (done ++ [u]) rest⟩) :=
        ⟨hmoved.pending, hmoved.issued, hmoved.before, hmoved.after, hmoved.new, hmoved.old⟩
      rw [hplace, hloop] at hstep
      refine @Moved.check _ _ _ _ hstep found.matchID u done rest ?_ rfl rfl rfl hnone halone rfl
        (.refl coord) rfl
      show w.issued.lookup found.matchID = _
      rw [heq]
      exact hmade.listed
  cases at_ with
  | check done u rest =>
      unfold LobbyStart.run
      dsimp only
      cases ha : w.coord.getAssignmentByUser u with
      | none =>
          obtain ⟨hwf, hstep⟩ := hchecked hat rfl hw.coord ha (hC ha)
          exact ⟨hwf, .single hstep⟩
      | some a =>
          refine hsettles.goto hw rfl fun at_ hat' => ?_
          obtain rfl := Option.some.inj hat'
          exact ⟨⟨hat, hw.coord.pointer u a ha, Coordinator.Store.matchID_ne_of_getAssignment ha⟩, rfl,
            fun e he => (hsettles.moved (w.goto none)).mem_opens_before he⟩
  | validate done u rest a =>
      refine hsettles.goto hw rfl fun at_ hat' => ?_
      obtain ⟨again, -, rfl⟩ := Option.map_eq_some_iff.1 hat'
      exact ⟨hat, rfl, fun e he => (hsettles.moved (w.goto none)).mem_opens_before he⟩
  | clear done u rest a again =>
      obtain ⟨heq, hu, ha⟩ := hat
      obtain ⟨howns, halone⟩ := hC
      cases again with
      | true => exact hsettles.clear hw howns ⟨heq, hu, ha⟩ rfl
      | false =>
          have hcleared := w.coord.clearAssignment_cleared ha
          have hblank := hnamed u (heq ▸ List.mem_append_right _ List.mem_cons_self)
          obtain ⟨hwf, hstep⟩ := hchecked heq rfl (hw.coord.cleared hcleared)
            (by rw [hcleared.byUser, if_pos ⟨hu, hblank⟩]) (halone rfl)
          refine ⟨hwf, .head ?_ (.single hstep)⟩
          have hsame : Moved w { w with coord := w.coord.clearAssignment a } {} {} :=
            .of_same rfl rfl rfl
          exact hsame.clear howns rfl rfl rfl hcleared rfl
  | launch c =>
      exact hsettles.launch hw hat .launch (fun _ => rfl) (fun _ hd => hd) (fun _ h => by cases h)
        (fun _ h => by cases h) x

/-! ## Passes -/

theorem lookup_settlePass (w : World) (id j : ℕ) (pool : QueuePool) (m : Option MatchFound)
    (r : MatchStore.Outcome × MatchStore.Store) :
    (w.settlePass id pool m r).passes.lookup j =
      if j = id then r.1.getLeft?.map fun q => (pool, q) else w.passes.lookup j := by
  unfold World.settlePass
  dsimp only
  cases r.1 with
  | inl q => exact Assoc.lookup_insert ..
  | inr _ => exact Assoc.lookup_erase ..

theorem pending_settlePass (w : World) (id : ℕ) (pool : QueuePool) (m : Option MatchFound)
    (r : MatchStore.Outcome × MatchStore.Store) {j : ℕ} (hj : j ≠ id) :
    (w.settlePass id pool m r).abs.pending j = w.abs.pending j := by
  simp only [World.abs, lookup_settlePass, if_neg hj]

/-- A command that records no match: it takes the users that it may take. -/
theorem take_refines (hw : w.Wf) {id : ℕ} {pool : QueuePool} {p : Proc} {now : ℤ} (hm : made now p = none)
    (hC : ∀ q ∈ (p.run pool w.queue now).1.getLeft?, ∀ u ∈ takes q, w.Free u) :
    Refines w (w.settlePass id pool none (p.run pool w.queue now)) := by
  set w' := w.settlePass id pool none (p.run pool w.queue now) with hw'
  have hfewer : Fewer w.queue w'.queue := fun m' hm' => (stored_run hm').resolve_right fun h => by
    rw [hm] at h
    cases h
  have hwf : w'.Wf := ⟨fun m' hm' => hw.stored m' (hfewer m' hm'), hw.sessions, hw.starts, hw.coord⟩
  have hfree : ∀ u ∈ w'.abs.pending id, w.Free u := by
    rintro u ⟨q, hq, hu⟩
    rw [lookup_settlePass, if_pos rfl] at hq
    obtain ⟨q', hq', rfl⟩ := Option.map_eq_some_iff.1 hq
    exact hC q' hq' u hu
  refine ⟨hwf, .single (.take id (fun u hu i hi hlive => ?_) (fun u hu i hi => ?_)
    (fun u hu j hj => ?_) (fun j hj => pending_settlePass w id pool none _ hj) ⟨rfl, rfl⟩ rfl rfl
    (fun i u hu => ?_) rfl (fun i hi => hwf.open_ hi) rfl)⟩
  · obtain ⟨a, ha, hparty, rfl⟩ := hw.assigned_of_has hi
    exact (hfree u hu).1 a ha hparty hlive
  · obtain ⟨e, he, -, hu'⟩ := hi
    exact (hfree u hu).2.1 e he hu'
  · obtain ⟨q, hq, hu'⟩ := hj
    exact (hfree u hu).2.2 (World.mem_taken.2 ⟨j, q, hq, hu'⟩)
  · obtain ⟨e, he, hei, hu⟩ := hu
    refine ⟨e, World.mem_opens.2 ((World.mem_opens.1 he).imp_left ?_), hei, hu⟩
    rintro ⟨m', hm', rfl⟩
    exact ⟨m', hfewer m' hm', rfl⟩

/-- The result pipeline of a pass records a new match. -/
theorem record_refines (hw : w.Wf) {id : ℕ} {pool : QueuePool} {p : Proc}
    (hid : w.passes.lookup id = some (pool, p)) {now : ℤ} {m : MatchFound} (hm : made now p = some m)
    (hfresh : m.matchID ∉ w.issued) :
    Refines w (w.settlePass id pool (some m) (p.run pool w.queue now)) := by
  set w' := w.settlePass id pool (some m) (p.run pool w.queue now) with hw'
  have hissued : w'.issued = w.issued.insert m.matchID m.players := rfl
  have hlookup : ∀ i, i ≠ m.matchID → w'.issued.lookup i = w.issued.lookup i := fun i hi =>
    AList.lookup_insert_ne hi
  have hstored : ∀ m' ∈ stored w'.queue, m' ∈ stored w.queue ∨ m' = m := fun m' hm' =>
    (stored_run hm').imp_right fun h => Option.some.inj (h.symm.trans hm)
  have hsub : ∀ i l, w.issued.lookup i = some l → w'.issued.lookup i = some l := by
    intro i l hl
    rw [hlookup i fun h => hfresh (h ▸ Assoc.mem_iff_exists.2 ⟨l, hl⟩)]
    exact hl
  have hwf : w'.Wf := by
    refine ⟨fun m' hm' => ?_, fun j s hj => ?_, fun j s hj => ?_, hw.coord⟩
    · rcases hstored m' hm' with hold | rfl
      · exact (hw.stored m' hold).mono hsub
      · exact ⟨playable_of_made hm, AList.lookup_insert _⟩
    · exact (hw.sessions j s hj).mono hsub
    · exact (hw.starts j s hj).mono hsub
  have hopens : ∀ e ∈ w'.opens, e ∈ w.opens ∨ e = (m.matchID, m.players) := by
    intro e he
    rcases World.mem_opens.1 he with ⟨m', hm', rfl⟩ | hplace
    · rcases hstored m' hm' with hold | rfl
      · exact .inl (World.mem_opens.2 (.inl ⟨m', hold, rfl⟩))
      · exact .inr rfl
    · exact .inl (World.mem_opens.2 (.inr hplace))
  have hpending : ∀ u, u ∈ w.abs.pending id ↔ u ∈ m.players := by
    intro u
    rw [takes_of_made hm]
    constructor
    · rintro ⟨q, hq, hu⟩
      obtain rfl := Option.some.inj (hid.symm.trans hq)
      exact hu
    · exact fun hu => ⟨_, hid, hu⟩
  refine ⟨hwf, .single (.issue id m.matchID hfresh ?_ ?_ (fun j hj => ?_) (fun u hu => ?_)
    (fun j hj u hu => ?_) ?_ (fun j hj => pending_settlePass w id pool _ _ hj) (fun j hj => ?_)
    ⟨rfl, rfl⟩ rfl rfl)⟩
  · ext i
    exact AList.mem_insert _
  · ext u
    rw [hpending]
    constructor
    · rintro ⟨l, hl, hu⟩
      rw [hissued, Option.mem_def, AList.lookup_insert, Option.some.injEq] at hl
      rwa [hl]
    · exact fun hu => ⟨m.players, AList.lookup_insert _, hu⟩
  · simp only [World.abs, hlookup j hj]
  · obtain ⟨e, he, hei, hu⟩ := hu
    rcases hopens e he with hold | rfl
    · exact absurd (hei ▸ hw.mem_issued hold) hfresh
    · exact (hpending u).2 hu
  · obtain ⟨e, he, hei, hu⟩ := hu
    rcases hopens e he with hold | rfl
    · exact ⟨e, hold, hei, hu⟩
    · exact absurd hei.symm hj
  · ext u
    refine iff_of_false (fun hu => ?_) (Set.notMem_empty u)
    obtain ⟨q, hq, hu⟩ := hu
    rw [lookup_settlePass, if_pos rfl] at hq
    obtain ⟨q', hq', rfl⟩ := Option.map_eq_some_iff.1 hq
    rw [takes_run hm w.queue pool (Sum.getLeft?_eq_some_iff.1 hq')] at hu
    cases hu
  · have hji : j ≠ m.matchID := by
      rintro rfl
      obtain ⟨q, hq, hsaving⟩ := hj
      obtain ⟨l, -, hl⟩ := (hw.place hq).2 _ hsaving
      exact hfresh (Assoc.mem_iff_exists.2 ⟨l, hl⟩)
    have hroster : w'.abs.roster j = w.abs.roster j := by simp only [World.abs, hlookup j hji]
    rw [← hroster]
    exact hwf.open_ hj

/-! ## The run -/

/-- A step that moves no handler, and changes no assignment. -/
theorem other_refines (hw : w.Wf) (pending : w'.abs.pending = w.abs.pending)
    (issued : w'.issued = w.issued) (sessions : w'.sessions = w.sessions) (starts : w'.starts = w.starts)
    (queue : Fewer w.queue w'.queue) (same : SameAssignments w.coord w'.coord)
    (live : ∀ i ∈ w'.live, i ∈ w.live) : Refines w w' := by
  have hwf : w'.Wf := by
    refine ⟨fun m hm => ?_, ?_, ?_, hw.coord.same same⟩
    · rw [issued]
      exact hw.stored m (queue m hm)
    · rw [sessions, issued]
      exact hw.sessions
    · rw [starts, issued]
      exact hw.starts
  have hplaces : w'.places = w.places := by
    unfold World.places
    rw [sessions, starts]
  exact ⟨hwf, .single ((Moved.of_same pending issued hplaces).quiet hwf queue same rfl
    (fun e he => by cases he) live)⟩

theorem startLobby_refines (hw : w.Wf) {id : ℕ} (hid : id ∉ w.starts) {found : MatchFound}
    (hplayable : Playable found) (hnamed : ∀ u ∈ found.players, isBlank u = false)
    (hfresh : found.matchID ∉ w.issued) (suffix : String) :
    Refines w { w with
      starts := w.starts.insert id ⟨found, .loop found suffix [] found.players⟩
      issued := w.issued.insert found.matchID found.players } := by
  set w' : World := { w with
    starts := w.starts.insert id ⟨found, .loop found suffix [] found.players⟩
    issued := w.issued.insert found.matchID found.players } with hw'
  have hlookup : ∀ i, i ≠ found.matchID → w'.issued.lookup i = w.issued.lookup i := fun i hi =>
    AList.lookup_insert_ne hi
  have hsub : ∀ i l, w.issued.lookup i = some l → w'.issued.lookup i = some l := by
    intro i l hl
    rw [hlookup i fun h => hfresh (h ▸ Assoc.mem_iff_exists.2 ⟨l, hl⟩)]
    exact hl
  have hmade : Made w'.issued found := ⟨hplayable, AList.lookup_insert _⟩
  have hplace := place_loop (List.nil_append found.players) suffix
  have hplaces : ∀ q, q ∈ w'.places ↔ q = { opens := some (found.matchID, []) } ∨ q ∈ w.places := by
    intro q
    constructor
    · intro hq
      rcases World.mem_places.1 hq with hsession | ⟨j, s, hj, rfl⟩
      · exact .inr (World.mem_places.2 (.inl hsession))
      · rw [Assoc.lookup_insert] at hj
        split_ifs at hj
        · exact .inl (Option.some.inj hj ▸ hplace)
        · exact .inr (World.mem_places.2 (.inr ⟨j, s, hj, rfl⟩))
    · rintro (rfl | hq)
      · exact World.mem_places.2 (.inr ⟨id, _, AList.lookup_insert _, hplace⟩)
      · rcases World.mem_places.1 hq with hsession | ⟨j, s, hj, rfl⟩
        · exact World.mem_places.2 (.inl hsession)
        · have hji : j ≠ id := fun h => hid (h ▸ Assoc.mem_iff_exists.2 ⟨s, hj⟩)
          exact World.mem_places.2 (.inr ⟨j, s, (AList.lookup_insert_ne hji).trans hj, rfl⟩)
  have hopens : ∀ e, e ∈ w'.opens ↔ e = (found.matchID, []) ∨ e ∈ w.opens := by
    intro e
    simp only [World.mem_opens, hplaces]
    constructor
    · rintro (hstored | ⟨q, rfl | hq, he⟩)
      · exact .inr (.inl hstored)
      · exact .inl (Option.some.inj he).symm
      · exact .inr (.inr ⟨q, hq, he⟩)
    · rintro (rfl | hstored | ⟨q, hq, he⟩)
      · exact .inr ⟨_, .inl rfl, rfl⟩
      · exact .inl hstored
      · exact .inr ⟨q, .inr hq, he⟩
  have hwf : w'.Wf := by
    refine ⟨fun m hm => (hw.stored m hm).mono hsub, fun j s hj => (hw.sessions j s hj).mono hsub,
      fun j s hj => ?_, hw.coord⟩
    rw [Assoc.lookup_insert] at hj
    split_ifs at hj
    · obtain rfl := Option.some.inj hj
      exact ⟨hmade, hnamed, loop_wf hmade (List.nil_append _) suffix⟩
    · exact (hw.starts j s hj).mono hsub
  refine ⟨hwf, .single (.announce found.matchID hfresh ?_ (fun j hj => ?_) ?_ (fun j hj => ?_) rfl
    ⟨rfl, rfl⟩ ?_ rfl)⟩
  · ext i
    exact AList.mem_insert _
  · simp only [World.abs, hlookup j hj]
  · ext u
    refine iff_of_false (fun hu => ?_) (Set.notMem_empty u)
    obtain ⟨e, he, hei, hu⟩ := hu
    rcases (hopens e).1 he with rfl | hold
    · cases hu
    · exact hfresh (hei ▸ hw.mem_issued hold)
  · ext u
    constructor
    · rintro ⟨e, he, hei, hu⟩
      rcases (hopens e).1 he with rfl | hold
      · cases hu
      · exact ⟨e, hold, hei, hu⟩
    · rintro ⟨e, he, hei, hu⟩
      exact ⟨e, (hopens e).2 (.inr he), hei, hu⟩
  · ext i
    constructor
    · rintro ⟨q, hq, hi⟩
      rcases (hplaces q).1 hq with rfl | hq
      · cases hi
      · exact ⟨q, hq, hi⟩
    · rintro ⟨q, hq, hi⟩
      exact ⟨q, (hplaces q).2 (.inr hq), hi⟩

theorem connect_refines (hw : w.Wf) {id : ℕ} (hid : id ∉ w.sessions) (req : MatchStore.QueueJoinRequest)
    (rulesets : List GameRuleset) :
    Refines w { w with sessions := w.sessions.insert id ⟨req, rulesets, .check⟩ } := by
  set w' : World := { w with sessions := w.sessions.insert id ⟨req, rulesets, .check⟩ }
  have hwf : w'.Wf := by
    refine ⟨hw.stored, fun j s hj => ?_, hw.starts, hw.coord⟩
    rw [Assoc.lookup_insert] at hj
    split_ifs at hj
    · rw [← Option.some.inj hj]
      trivial
    · exact hw.sessions j s hj
  have hmoved : Moved w w' {} {} := by
    refine ⟨rfl, rfl, .inl rfl, .inl rfl, fun q hq => ?_, fun q hq => .inr ?_⟩
    · rcases World.mem_places.1 hq with ⟨j, s, hj, rfl⟩ | hstart
      · rw [Assoc.lookup_insert] at hj
        split_ifs at hj
        · rw [← Option.some.inj hj]
          exact .inl rfl
        · exact .inr (World.mem_places.2 (.inl ⟨j, s, hj, rfl⟩))
      · exact .inr (World.mem_places.2 (.inr hstart))
    · rcases World.mem_places.1 hq with ⟨j, s, hj, rfl⟩ | hstart
      · have hji : j ≠ id := fun h => hid (h ▸ Assoc.mem_iff_exists.2 ⟨s, hj⟩)
        exact World.mem_places.2 (.inl ⟨j, s, (AList.lookup_insert_ne hji).trans hj, rfl⟩)
      · exact World.mem_places.2 (.inr hstart)
  exact ⟨hwf, .single (hmoved.quiet hwf (.refl w.queue) (.refl w.coord) rfl (fun e he => by cases he)
    fun _ hi => hi)⟩

theorem hangUp_refines (hw : w.Wf) {id : ℕ} {session : QueueSession}
    (hid : w.sessions.lookup id = some session) {next : Option QueueAt}
    (hleft : session.at_.left = some next) :
    Refines w (w.settleSession id session (w.goto next)) := by
  have hsaving : session.at_.place.saving = none ∧ ∀ at_ ∈ next, at_ = .close := by
    unfold QueueAt.left at hleft
    split at hleft <;> rename_i heq
    · rw [heq, ← Option.some.inj hleft]
      exact ⟨rfl, fun _ h => by cases h⟩
    · rw [heq, ← Option.some.inj hleft]
      exact ⟨rfl, fun _ h => (Option.some.inj h).symm⟩
    · rw [heq, ← Option.some.inj hleft]
      exact ⟨rfl, fun _ h => (Option.some.inj h).symm⟩
    · cases hleft
  refine (settles_session hw hid).goto hw hsaving.1 fun at_ hat => ?_
  rw [hsaving.2 at_ hat]
  exact ⟨trivial, idle_place rfl⟩

theorem giveUp_refines (hw : w.Wf) {id : ℕ} {start : LobbyStart}
    (hid : w.starts.lookup id = some start) (hsaving : start.place.saving = none) :
    Refines w { w with starts := w.starts.erase id } := by
  have h : Refines w (w.settleLobby id start (w.goto none)) :=
    (settles_lobby hw hid).goto hw hsaving fun _ h => by cases h
  exact h

/-- A pass that has begun has taken nobody. -/
theorem matchmaking_refines (hw : w.Wf) {id : ℕ} {pool : QueuePool} {ruleset : GameRuleset} {limit now : ℤ}
    (hid : id ∉ w.passes) : Refines w
      { w with passes := w.passes.insert id (pool, MatchStore.startMatchmaking ruleset limit now) } := by
  refine other_refines hw ?_ rfl rfl rfl (.refl w.queue) (.refl w.coord) fun _ hi => hi
  funext j
  ext u
  by_cases hj : j = id
  · subst hj
    refine iff_of_false (fun hu => ?_) fun hu => ?_
    · obtain ⟨q, hq, hu⟩ := hu
      rw [Option.mem_def, AList.lookup_insert] at hq
      rw [← Option.some.inj hq] at hu
      cases hu
    · obtain ⟨q, hq, -⟩ := hu
      exact hid (Assoc.mem_iff_exists.2 ⟨q, hq⟩)
  · simp only [World.abs, AList.lookup_insert_ne hj]

theorem terminalize_refines (hw : w.Wf) {a : Assignment} (owns : w.ClearsOwn a) :
    Refines w { w with coord := w.coord.clearAssignment a } := by
  by_cases ha : a.matchID = ""
  · rw [w.coord.clearAssignment_of_blank ha]
    exact ⟨hw, .refl⟩
  · have hcleared := w.coord.clearAssignment_cleared ha
    have hmoved : Moved w { w with coord := w.coord.clearAssignment a } {} {} := .of_same rfl rfl rfl
    exact ⟨⟨hw.stored, hw.sessions, hw.starts, hw.coord.cleared hcleared⟩,
      .single (hmoved.clear owns rfl rfl rfl hcleared rfl)⟩

theorem World.step_refines (hw : w.Wf) {op : Op} (hC : Sole w op)
    (hs : w.step singleTTL op = some w') : Refines w w' := by
  cases op with
  | register rec now =>
      unfold World.step at hs
      dsimp only at hs
      split_ifs at hs
      obtain rfl := Option.some.inj hs
      exact other_refines hw rfl rfl rfl rfl (.refl w.queue) ⟨fun _ => rfl, fun _ => rfl⟩ fun _ hi => hi
  | connect id req rulesets =>
      unfold World.step at hs
      dsimp only at hs
      split_ifs at hs with hid
      obtain rfl := Option.some.inj hs
      exact connect_refines hw (not_or.1 hid).1 req _
  | session id x =>
      obtain ⟨session, hid, hs⟩ := Option.bind_eq_some_iff.1 hs
      split_ifs at hs
      obtain rfl := Option.some.inj hs
      exact session_refines hw hid (hC session hid) x
  | hangUp id =>
      obtain ⟨session, hid, hs⟩ := Option.bind_eq_some_iff.1 hs
      obtain ⟨next, hleft, rfl⟩ := Option.map_eq_some_iff.1 hs
      exact hangUp_refines hw hid hleft
  | startLobby id snap profiles now suffix =>
      unfold World.step at hs
      dsimp only at hs
      split_ifs at hs with hid
      cases hfound : lobbyMatchFound snap (fun u => profiles.lookup u) now with
      | error err => rw [hfound] at hs; cases hs
      | ok found =>
          rw [hfound] at hs
          obtain rfl := Option.some.inj hs
          obtain ⟨hplayable, hnamed⟩ := playable_of_lobbyMatchFound hfound
          exact startLobby_refines hw hid hplayable hnamed (hC found (by rw [hfound]; rfl)) suffix
  | lobby id x =>
      obtain ⟨start, hid, hs⟩ := Option.bind_eq_some_iff.1 hs
      split_ifs at hs
      obtain rfl := Option.some.inj hs
      exact lobby_refines hw hid (hC start hid) x
  | giveUp id =>
      unfold World.step at hs
      dsimp only at hs
      split at hs
      · rename_i hid
        obtain rfl := Option.some.inj hs
        exact giveUp_refines hw hid rfl
      · cases hs
  | matchmaking id pool ruleset limit now =>
      unfold World.step at hs
      dsimp only at hs
      split_ifs at hs with hid
      obtain rfl := Option.some.inj hs
      exact matchmaking_refines hw hid
  | pass id now =>
      obtain ⟨⟨pool, p⟩, hid, rfl⟩ := Option.map_eq_some_iff.1 hs
      obtain ⟨hfresh, hfree⟩ := hC _ hid
      cases hm : made now p with
      | none => exact take_refines hw hm hfree
      | some m => exact record_refines hw hid hm (hfresh m hm)
  | heartbeat pool ruleset u =>
      obtain rfl := Option.some.inj hs
      exact other_refines hw rfl rfl rfl rfl (fewer_heartbeat _ _ _ _) (.refl w.coord) fun _ hi => hi
  | endMatch i =>
      obtain rfl := Option.some.inj hs
      exact other_refines hw rfl rfl rfl rfl (.refl w.queue) (.refl w.coord) fun j hj =>
        (List.mem_filter.1 hj).1
  | clearArtifacts players =>
      obtain rfl := Option.some.inj hs
      exact other_refines hw rfl rfl rfl rfl (fewer_clearQueuedMatch _ _) (.refl w.coord) fun _ hi => hi
  | terminalize a =>
      unfold World.step at hs
      dsimp only at hs
      split_ifs at hs
      obtain rfl := Option.some.inj hs
      exact terminalize_refines hw hC

/-- The match that is saved with a step is open for all its players. -/
theorem World.named_of_savedBy {op : Op} {m : MatchFound} (hm : m ∈ w.savedBy op) {u : UserID}
    (hu : u ∈ m.players) : u ∈ w.abs.named m.matchID := by
  have hplace : ∃ c : Call, Place.launch c ∈ w.places ∧ c.saving = some m := by
    unfold World.savedBy at hm
    split at hm
    · rename_i id x
      obtain ⟨⟨req, rulesets, at_⟩, hid, hm⟩ := Option.bind_eq_some_iff.1 hm
      cases at_ with
      | launch c => exact ⟨c, World.mem_places.2 (.inl ⟨id, _, hid, rfl⟩), hm⟩
      | check | validate | clear | leave | join | poll | found | drop | close => cases hm
    · rename_i id x
      obtain ⟨⟨found, at_⟩, hid, hm⟩ := Option.bind_eq_some_iff.1 hm
      cases at_ with
      | launch c => exact ⟨c, World.mem_places.2 (.inr ⟨id, _, hid, rfl⟩), hm⟩
      | check | validate | clear => cases hm
    · cases hm
  obtain ⟨c, hc, hsaving⟩ := hplace
  obtain rfl := MatchLaunch.eq_of_saving hsaving
  exact ⟨(c.found.matchID, c.found.players), World.mem_opens.2 (.inr ⟨_, hc, rfl⟩), rfl, hu⟩

theorem savesAlone_of_inv (hw : w.Wf) (h : Inv w.abs) (op : Op) : SavesAlone w op := by
  intro m hm u hu hblank a ha hparty hne hlive
  exact hne (h.sole u m.matchID a.matchID (World.named_of_savedBy hm hu) (hw.has hblank ha hparty) hlive)

/-- No private-party match is assigned, and the assignment of a user names him. -/
structure NoParty (coord : Coordinator.Store) : Prop where
  byMatch : ∀ i a, coord.getAssignmentByMatch i = some a → isPrivateParty a = false
  byUser : ∀ u a, coord.getAssignmentByUser u = some a → isPrivateParty a = false ∧ u ∈ a.players

/-- Nothing is in progress and nobody waits in a queue. -/
def World.init (coord : Coordinator.Store) : World := { queue := .empty, coord := coord }

theorem World.init_wf {coord : Coordinator.Store} (h : NoParty coord) : (World.init coord).Wf where
  stored m hm := by
    obtain ⟨pool, r, -, u, hu⟩ := mem_stored.1 hm
    cases hu
  sessions _ _ hid := by cases hid
  starts _ _ hid := by cases hid
  coord := by
    refine ⟨fun i a ha hparty => ?_, fun u a ha => (h.byUser u a ha).2⟩
    rw [h.byMatch i a ha] at hparty
    cases hparty

theorem World.init_inv {coord : Coordinator.Store} (h : NoParty coord) :
    Inv (World.init coord).abs := by
  have hwf := World.init_wf h
  have hopens : ∀ e, e ∉ (World.init coord).opens := by
    intro e he
    rcases World.mem_opens.1 he with ⟨m, hm, -⟩ | ⟨q, hq, -⟩
    · obtain ⟨pool, r, -, u, hu⟩ := mem_stored.1 hm
      cases hu
    · cases hq
  have hnamed : ∀ u i, u ∉ (World.init coord).abs.named i := fun u i hu => by
    obtain ⟨e, he, -⟩ := hu
    exact hopens e he
  have hhas : ∀ u i, ¬ (World.init coord).abs.Has u i := by
    intro u i hi
    obtain ⟨a, ha, hparty, -⟩ := hwf.assigned_of_has hi
    rcases World.mem_assigned.1 ha with ha | ⟨i, ha, -⟩
    · rw [(h.byUser u a ha).1] at hparty
      cases hparty
    · rw [h.byMatch i a ha] at hparty
      cases hparty
  have hpending : ∀ u id, u ∉ (World.init coord).abs.pending id := fun u id hu => by
    obtain ⟨q, hq, -⟩ := hu
    cases hq
  exact ⟨fun u i hi => absurd hi (hhas u i), fun u i hu => absurd hu (hnamed u i),
    fun u i j hu => absurd hu (hnamed u i), fun id u hu => absurd hu (hpending u id),
    fun u v x hu => absurd hu (hpending u v), fun u i j hu => absurd hu (hnamed u i),
    fun u i hu => absurd (.inr hu) (hhas u i), fun i hi => by obtain ⟨q, hq, -⟩ := hi; cases hq⟩

/-- In every run whose steps meet the condition `Sole`, nobody who is assigned a match has an assignment
to another live private-party match. -/
theorem savesAlone_of_sole (coord : Coordinator.Store) (hcoord : NoParty coord) (singleTTL : ℤ)
    (ops : List Op) (h : Run.Guarded (World.step singleTTL) Sole (World.init coord) ops) :
    Run.Along (World.step singleTTL) (fun w op _ => SavesAlone w op) (World.init coord) ops := by
  have hstep : ∀ w op w', w.Wf ∧ Inv w.abs → Sole w op → w.step singleTTL op = some w' →
      (w'.Wf ∧ Inv w'.abs) ∧ SavesAlone w op := by
    intro w op w' hw hC hs
    have hrefines := World.step_refines hw.1 hC hs
    exact ⟨⟨hrefines.wf, hw.2.steps hrefines.steps⟩, savesAlone_of_inv hw.1 hw.2 op⟩
  exact Run.along_of_invariant hstep ⟨World.init_wf hcoord, World.init_inv hcoord⟩ h

/-! ### A match of the queue and a match of a lobby -/

/-- Everything succeeds at the time `now`. -/
def answersAt (now : ℤ) : Answer := { now := now, suffix := "s" }

/-- The user's queue connection joins the queue of the moving ruleset. -/
def enterQueue (id : ℕ) (u : UserID) (now : ℤ) : List Op :=
  .connect id { userID := u, mmr := 1000 } [.moving] ::
    List.replicate 4 (.session id (answersAt now))

/-- The lobby of two users who have no assignment is started. -/
def launchLobby (id : ℕ) (u v : UserID) (now : ℕ) : List Op :=
  .startLobby id { id := "l1", state := .open_, mode := .duel, members := [{ userID := u }, { userID := v }] }
    ∅ now "s" :: List.replicate 9 (.lobby id (answersAt now))

/-- A pass over the queue of the moving ruleset, and a connection that polls and launches its match. -/
def launchQueued (id : ℕ) (now : ℤ) : List Op :=
  .matchmaking 1 .registered .moving 50 now :: List.replicate 5 (.pass 1 now) ++
    List.replicate 9 (.session id (answersAt now))

def oneNode : Op := .register { nodeID := "n1", internalURL := "http://n1" } 0

/-- `u1` and `u2` are matched while the lobby of `u3` and `u4` starts. -/
def twoMatches : List Op :=
  oneNode :: enterQueue 1 "u1" 1000 ++ enterQueue 2 "u2" 1000 ++ launchLobby 1 "u3" "u4" 2000 ++
    launchQueued 1 5000

theorem noParty_empty : NoParty {} := ⟨fun _ _ h => (by cases h), fun _ _ h => (by cases h)⟩

theorem savesAlone_twoMatches :
    ((Run.exec (World.step 0) (World.init {}) twoMatches).map (·.live)) = some ["m-5000", "m-1jk"] ∧
      Run.Along (World.step 0) (fun w op _ => SavesAlone w op) (World.init {}) twoMatches :=
  ⟨by decide +kernel, savesAlone_of_sole {} noParty_empty 0 twoMatches (by decide +kernel)⟩

/-- `u1` waits in the queue in one tab when his lobby is started in another. -/
def queuedAndStarted : List Op :=
  oneNode :: enterQueue 1 "u1" 1000 ++ enterQueue 2 "u2" 1000 ++ launchLobby 1 "u1" "u3" 2000 ++
    launchQueued 1 5000

theorem not_savesAlone_queuedAndStarted :
    ¬ Run.Along (World.step 0) (fun w op _ => SavesAlone w op) (World.init {}) queuedAndStarted := by
  decide +kernel

end GeoDuels.MatchCoordinator
