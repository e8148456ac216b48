import GeoDuels.Chat.Join
import Mathlib.Data.List.Perm.Subperm

/-!
# No message is lost

A message is listed to a client that joins, or it reaches the subscription, unless it has been recorded
after the client was listed the messages and published before the client has subscribed.  On the page a
message replaces the one with its id, so two messages with one id may lose one of them too (`noneLost_iff`).
-/

namespace GeoDuels.Chat

variable {conversationID : String} {m m' : ChatMessage}

/-! ## Lists with distinct ids -/

theorem length_le_of_ids {l rows : List ChatMessage} (hl : (l.map ChatMessage.id).Nodup)
    (hsub : ∀ m ∈ l, m.id ∈ rows.map ChatMessage.id) : l.length ≤ rows.length := by
  have hsubperm : (l.map ChatMessage.id).Subperm (rows.map ChatMessage.id) := by
    refine List.subperm_of_subset hl fun id hid => ?_
    obtain ⟨m, hm, rfl⟩ := List.mem_map.1 hid
    exact hsub m hm
  simpa using hsubperm.length_le

theorem sliceLast_of_le {n : ℕ} {l : List ChatMessage} (h : l.length ≤ n) : sliceLast n l = l := by
  unfold sliceLast
  rw [Nat.sub_eq_zero_of_le h, List.drop_zero]

theorem mem_recordChatMessage {rows : List ChatMessage} :
    m' ∈ recordChatMessage rows m ↔ m' ∈ rows ∨ m' = m ∧ ∀ row ∈ rows, row.id ≠ m.id := by
  unfold recordChatMessage
  split_ifs with hany
  · have hany : ∃ row ∈ rows, row.id = m.id := by simpa using hany
    obtain ⟨row, hrow, hid⟩ := hany
    exact ⟨.inl, fun h => h.elim id fun h => absurd hid (h.2 row hrow)⟩
  · have hnew : ∀ row ∈ rows, row.id ≠ m.id := by simpa using hany
    rw [List.mem_append, List.mem_singleton]
    exact or_congr_right ⟨fun h => ⟨h, hnew⟩, And.left⟩

theorem nodup_recordChatMessage {rows : List ChatMessage} (h : (rows.map ChatMessage.id).Nodup)
    (m : ChatMessage) : ((recordChatMessage rows m).map ChatMessage.id).Nodup := by
  unfold recordChatMessage
  split_ifs with hany
  · exact h
  · have hnew : ∀ row ∈ rows, row.id ≠ m.id := by simpa using hany
    rw [List.map_append, List.nodup_append]
    refine ⟨h, List.nodup_singleton _, fun id hid id' hid' => ?_⟩
    obtain ⟨row, hrow, rfl⟩ := List.mem_map.1 hid
    rw [List.map_singleton, List.mem_singleton] at hid'
    rw [hid']
    exact hnew row hrow

/-- A row has its id after a message with that id has been recorded. -/
theorem id_mem_recordChatMessage (rows : List ChatMessage) (m : ChatMessage) :
    m.id ∈ (recordChatMessage rows m).map ChatMessage.id := by
  by_cases hany : ∀ row ∈ rows, row.id ≠ m.id
  · exact List.mem_map_of_mem (mem_recordChatMessage.2 (.inr ⟨rfl, hany⟩))
  · push Not at hany
    obtain ⟨row, hrow, hid⟩ := hany
    rw [← hid]
    exact List.mem_map_of_mem (mem_recordChatMessage.2 (.inl hrow))

theorem mem_of_mem_listChatMessages {rows : List ChatMessage} {limit : ℕ}
    (h : m ∈ listChatMessages rows conversationID limit) : m ∈ rows := by
  have hsorted := List.mem_of_mem_take h
  rw [List.mem_insertionSort] at hsorted
  exact List.mem_of_mem_filter hsorted

theorem nodup_listChatMessages {rows : List ChatMessage} (h : (rows.map ChatMessage.id).Nodup)
    (limit : ℕ) : ((listChatMessages rows conversationID limit).map ChatMessage.id).Nodup := by
  unfold listChatMessages
  refine ((List.take_sublist _ _).map ChatMessage.id).nodup ?_
  refine ((List.perm_insertionSort _ _).map ChatMessage.id).nodup_iff.2 ?_
  exact (List.filter_sublist.map ChatMessage.id).nodup h

/-! ## The list of the page -/

namespace ChatController

variable {c : ChatController}

theorem messagesOf_storeMessages (conversationId : String) {messages : List ChatMessage}
    (h : messages.length ≤ 100) (c : ChatController) :
    (c.storeMessages conversationId messages).messagesOf conversationId = messages := by
  unfold messagesOf storeMessages
  dsimp only
  rw [AList.lookup_insert, Option.getD_some, sliceLast_of_le h]

theorem messagesOf_onHistory {messages : List ChatMessage} (h : messages.length ≤ 100) :
    (c.onEvent conversationID (.history conversationID messages)).messagesOf conversationID = messages := by
  unfold onEvent
  dsimp only
  rw [if_neg (not_not.2 rfl)]
  exact messagesOf_storeMessages _ h c

theorem messagesOf_onMessage (hm : m.conversationID = conversationID)
    (h : (((c.messagesOf conversationID).filter fun item => item.id ≠ m.id) ++ [m]).length ≤ 100) :
    (c.onEvent conversationID (.message m)).messagesOf conversationID =
      ((c.messagesOf conversationID).filter fun item => item.id ≠ m.id) ++ [m] := by
  unfold onEvent
  dsimp only
  rw [if_neg fun hne => hne.2 hm]
  exact messagesOf_storeMessages _ h c

end ChatController

/-! ## What is lost -/

def Handler.chatEvents : Handler → List ChatMessage
  | .live chatEvents => chatEvents
  | _ => []

def Handler.isLive : Handler → Bool
  | .live _ => true
  | _ => false

namespace Conversation

variable {s s' : Conversation} {a : Act}

/-- The message has not been published, waits to be forwarded, or is in a frame that has not arrived. -/
def OnItsWay (s : Conversation) (m : ChatMessage) : Prop :=
  (∃ send, s.sends.lookup send = some m) ∨ m ∈ s.handler.chatEvents ∨ ∃ f ∈ s.frames, m ∈ f.messages

/-- The message has arrived, and the list of the page has it. -/
def Delivered (conversationID : String) (s : Conversation) (m : ChatMessage) : Prop :=
  m ∈ s.received ∧ m ∈ s.controller.messagesOf conversationID

/-- While the client is joined, every message that is recorded has been delivered or is on its way. -/
def NoneLost (conversationID : String) (s : Conversation) : Prop :=
  s.handler.isLive = true → ∀ m ∈ s.rows, s.Delivered conversationID m ∨ s.OnItsWay m

/-- When the client subscribes, it has been listed every recorded message that has been published; and a
message whose id a recorded message has arrives only before that one. -/
def HandsOver (s : Conversation) : Act → Prop
  | .subscribe => ∀ m ∈ s.rows, m ∈ s.history ∨ ∃ send, s.sends.lookup send = some m
  | .arrive => s.handler.isLive = true → ∀ m', s.frames.head? = some (.message m') →
      ∀ m ∈ s.rows, m.id = m'.id → m = m' ∨ s.OnItsWay m
  | _ => True

/-! ## Frames -/

/-- Nothing has been sent to the client. -/
def Silent (conversationID : String) (s : Conversation) : Prop :=
  s.frames = [] ∧ s.received = [] ∧ s.controller.messagesOf conversationID = []

/-- The frame of the history, if it has not arrived, comes before the messages of the subscription. -/
def Ordered (conversationID : String) (s : Conversation) : Prop :=
  ∃ events, (∀ f ∈ events, ∃ m, f = .message m) ∧
    (s.frames = events ∨ s.frames = .history conversationID s.history :: events ∧ s.received = [])

def Shape (conversationID : String) (s : Conversation) : Prop :=
  match s.handler with
  | .connecting => s.Silent conversationID
  | .listed messages => messages = s.history ∧ s.Silent conversationID
  | .joining =>
      s.frames = [.history conversationID s.history] ∧ s.received = [] ∨
        s.frames = [] ∧ s.received = s.history ∧ s.controller.messagesOf conversationID = s.history
  | .live _ | .closed => s.Ordered conversationID

/-- The messages of a conversation. -/
def Holds (conversationID : String) (s : Conversation) (m : ChatMessage) : Prop :=
  m ∈ s.rows ∨ s.OnItsWay m ∨ m ∈ s.history ∨ m ∈ s.controller.messagesOf conversationID

structure Inv (conversationID : String) (s : Conversation) : Prop where
  rows : (s.rows.map ChatMessage.id).Nodup
  history : (s.history.map ChatMessage.id).Nodup
  list : ((s.controller.messagesOf conversationID).map ChatMessage.id).Nodup
  holds : ∀ m, s.Holds conversationID m →
    m.id ∈ s.rows.map ChatMessage.id ∧ m.conversationID = conversationID
  shape : s.Shape conversationID

theorem inv_init (conversationID : String) : Inv conversationID (init conversationID) := by
  refine ⟨.nil, .nil, .nil, fun m hm => ?_, rfl, rfl, rfl⟩
  rcases hm with hm | (⟨send, hm⟩ | hm | ⟨f, hf, -⟩) | hm | hm
  · cases hm
  · cases hm
  · cases hm
  · cases hf
  · cases hm
  · cases hm

/-- What happens to the messages on their way, when the rows grow and the list does not change. -/
theorem Inv.keep (h : Inv conversationID s) (hrows : s'.rows = s.rows) (hhistory : s'.history = s.history)
    (hlist : s'.controller = s.controller) (hway : ∀ m, s'.OnItsWay m → s.OnItsWay m ∨ m ∈ s.history)
    (hshape : s'.Shape conversationID) : Inv conversationID s' where
  rows := by
    rw [hrows]
    exact h.rows
  history := by
    rw [hhistory]
    exact h.history
  list := by
    rw [hlist]
    exact h.list
  holds m hm := by
    rw [hrows]
    refine h.holds m ?_
    unfold Holds at hm ⊢
    rw [hrows, hhistory, hlist] at hm
    rcases hm with hm | hm | hm | hm
    · exact .inl hm
    · exact .inr ((hway m hm).imp_right .inl)
    · exact .inr (.inr (.inl hm))
    · exact .inr (.inr (.inr hm))
  shape := hshape

theorem carried_cons {f : Frame} {frames : List Frame} :
    (∃ f' ∈ f :: frames, m ∈ f'.messages) ↔ m ∈ f.messages ∨ ∃ f' ∈ frames, m ∈ f'.messages :=
  List.exists_mem_cons_iff _ f frames

theorem carried_concat {frames : List Frame} :
    (∃ f ∈ frames ++ [.message m'], m ∈ f.messages) ↔ (∃ f ∈ frames, m ∈ f.messages) ∨ m = m' := by
  have hlast : m ∈ (Frame.message m').messages ↔ m = m' := List.mem_singleton
  simp only [List.mem_append, List.mem_singleton, or_and_right, exists_or, exists_eq_left, hlast]

/-! ## Steps -/

theorem record_spec (h : Inv conversationID s) {send : ℕ} {draft : Draft}
    (hs : s.step conversationID (.record send draft) = some s') :
    Inv conversationID s' ∧ (s.NoneLost conversationID → s'.NoneLost conversationID) := by
  unfold step at hs
  dsimp only at hs
  split_ifs at hs with hsend
  obtain rfl := Option.some.inj hs
  have hway : ∀ m, s.OnItsWay m → OnItsWay
      { s with
        rows := recordChatMessage s.rows (draft.message conversationID)
        sends := s.sends.insert send (draft.message conversationID) } m := by
    rintro m (⟨send', hm⟩ | hm)
    · refine .inl ⟨send', ?_⟩
      rw [Assoc.lookup_insert, if_neg]
      · exact hm
      · rintro rfl
        exact hsend (Assoc.mem_iff_exists.2 ⟨m, hm⟩)
    · exact .inr hm
  refine ⟨⟨nodup_recordChatMessage h.rows _, h.history, h.list, fun m hm => ?_, h.shape⟩, ?_⟩
  · have hgrow : ∀ id ∈ s.rows.map ChatMessage.id,
        id ∈ (recordChatMessage s.rows (draft.message conversationID)).map ChatMessage.id := by
      intro id hid
      obtain ⟨row, hrow, rfl⟩ := List.mem_map.1 hid
      exact List.mem_map_of_mem (mem_recordChatMessage.2 (.inl hrow))
    have hnew : m = draft.message conversationID ∨ s.Holds conversationID m := by
      rcases hm with hm | (⟨send', hm⟩ | hm) | hm
      · exact (mem_recordChatMessage.1 hm).elim (fun hm => .inr (.inl hm)) fun hm => .inl hm.1
      · rcases Assoc.of_lookup_insert hm with ⟨-, rfl⟩ | ⟨-, hm⟩
        · exact .inl rfl
        · exact .inr (.inr (.inl (.inl ⟨send', hm⟩)))
      · exact .inr (.inr (.inl (.inr hm)))
      · exact .inr (.inr (.inr hm))
    rcases hnew with rfl | hm
    · exact ⟨id_mem_recordChatMessage _ _, rfl⟩
    · exact (h.holds m hm).imp_left (hgrow m.id)
  · intro hnone hlive m hm
    rcases mem_recordChatMessage.1 hm with hm | ⟨rfl, -⟩
    · exact (hnone hlive m hm).imp_right (hway m)
    · refine .inr (.inl ⟨send, ?_⟩)
      exact (Assoc.lookup_insert send send _ _).trans (if_pos rfl)

theorem Handler.isLive_publish (handler : Handler) (message : ChatMessage) :
    (handler.publish message).isLive = handler.isLive := by
  cases handler <;> rfl

theorem Handler.mem_publish {handler : Handler} {message : ChatMessage} :
    m ∈ (handler.publish message).chatEvents ↔
      m ∈ handler.chatEvents ∨ handler.isLive = true ∧ m = message := by
  cases handler with
  | live chatEvents => simp [Handler.publish, Handler.chatEvents, Handler.isLive]
  | connecting | listed | joining | closed => simp [Handler.publish, Handler.chatEvents, Handler.isLive]

theorem publish_spec (h : Inv conversationID s) {send : ℕ}
    (hs : s.step conversationID (.publish send) = some s') :
    Inv conversationID s' ∧ (s.NoneLost conversationID → s'.NoneLost conversationID) := by
  obtain ⟨message, hmessage, rfl⟩ := Option.map_eq_some_iff.1 hs
  refine ⟨h.keep rfl rfl rfl (fun m hm => .inl ?_) ?_, fun hnone hlive m hm => ?_⟩
  · rcases hm with ⟨send', hm⟩ | hm | hm
    · exact .inl ⟨send', (Assoc.of_lookup_erase hm).2⟩
    · rcases Handler.mem_publish.1 hm with hm | ⟨-, rfl⟩
      · exact .inr (.inl hm)
      · exact .inl ⟨send, hmessage⟩
    · exact .inr (.inr hm)
  · have hshape := h.shape
    unfold Shape at hshape ⊢
    dsimp only
    cases hhandler : s.handler <;> rw [hhandler] at hshape <;> exact hshape
  · rw [show (Handler.publish message s.handler).isLive = _ from Handler.isLive_publish _ _] at hlive
    refine (hnone hlive m hm).imp_right fun hway => ?_
    rcases hway with ⟨send', hway⟩ | hway | hway
    · by_cases hsend : send' = send
      · subst hsend
        exact .inr (.inl (Handler.mem_publish.2 (.inr ⟨hlive, Option.some.inj (hway.symm.trans hmessage)⟩)))
      · refine .inl ⟨send', ?_⟩
        exact (Assoc.lookup_erase send send' s.sends).trans ((if_neg hsend).trans hway)
    · exact .inr (.inl (Handler.mem_publish.2 (.inl hway)))
    · exact .inr (.inr hway)

theorem list_spec (h : Inv conversationID s) (hs : s.step conversationID .list = some s') :
    Inv conversationID s' ∧ s'.NoneLost conversationID := by
  have hshape := h.shape
  unfold step at hs
  unfold Shape at hshape
  dsimp only at hs
  split at hs
  · next hhandler =>
    rw [hhandler] at hshape
    obtain rfl := Option.some.inj hs
    refine ⟨⟨h.rows, nodup_listChatMessages h.rows 100, h.list, fun m hm => ?_, rfl, hshape⟩, nofun⟩
    rcases hm with hm | (hm | hm | hm) | hm | hm
    · exact h.holds m (.inl hm)
    · exact h.holds m (.inr (.inl (.inl hm)))
    · cases hm
    · exact h.holds m (.inr (.inl (.inr (.inr hm))))
    · exact h.holds m (.inl (mem_of_mem_listChatMessages hm))
    · exact h.holds m (.inr (.inr (.inr hm)))
  · cases hs

theorem writeHistory_spec (h : Inv conversationID s)
    (hs : s.step conversationID .writeHistory = some s') :
    Inv conversationID s' ∧ s'.NoneLost conversationID := by
  have hshape := h.shape
  unfold step at hs
  unfold Shape at hshape
  dsimp only at hs
  split at hs
  · next messages hhandler =>
    rw [hhandler] at hshape
    obtain ⟨rfl, hframes, hreceived, hlist⟩ := hshape
    obtain rfl := Option.some.inj hs
    refine ⟨h.keep rfl rfl rfl (fun m hm => ?_) ?_, nofun⟩
    · rcases hm with hm | hm | ⟨f, hf, hm⟩
      · exact .inl (.inl hm)
      · cases hm
      · dsimp only at hf
        rw [hframes] at hf
        split_ifs at hf
        · cases hf
        · rw [List.nil_append, List.mem_singleton] at hf
          subst hf
          exact .inr hm
    · unfold Shape
      dsimp only
      rw [hframes]
      split_ifs with hempty
      · exact .inr ⟨rfl, hreceived.trans hempty.symm, hlist.trans hempty.symm⟩
      · exact .inl ⟨rfl, hreceived⟩
  · cases hs

theorem subscribe_spec (h : Inv conversationID s) (hs : s.step conversationID .subscribe = some s') :
    Inv conversationID s' ∧ (s'.NoneLost conversationID ↔ s.HandsOver .subscribe) := by
  have hshape := h.shape
  unfold step at hs
  unfold Shape at hshape
  dsimp only at hs
  split at hs
  · next hhandler =>
    rw [hhandler] at hshape
    obtain rfl := Option.some.inj hs
    refine ⟨h.keep rfl rfl rfl (fun m hm => .inl ?_) ?_, ?_⟩
    · rcases hm with hm | hm | hm
      · exact .inl hm
      · cases hm
      · exact .inr (.inr hm)
    · rcases hshape with ⟨hframes, hreceived⟩ | ⟨hframes, -⟩
      · exact ⟨[], nofun, .inr ⟨hframes, hreceived⟩⟩
      · exact ⟨[], nofun, .inl hframes⟩
    · -- what has been listed is in the frame of the history or has arrived
      have hlisted : ∀ m, m ∈ s.history ↔
          s.Delivered conversationID m ∨ ∃ f ∈ s.frames, m ∈ f.messages := by
        intro m
        rcases hshape with ⟨hframes, hreceived⟩ | ⟨hframes, hreceived, hlist⟩
        · rw [Delivered, hframes, hreceived]
          simp [Frame.messages]
        · rw [Delivered, hframes, hreceived, hlist]
          simp
      constructor
      · intro hnone m hm
        rcases hnone rfl m hm with hdelivered | hsend | hevent | hframe
        · exact .inl ((hlisted m).2 (.inl hdelivered))
        · exact .inr hsend
        · cases hevent
        · exact .inl ((hlisted m).2 (.inr hframe))
      · intro hover _ m hm
        rcases hover m hm with hhistory | hsend
        · exact ((hlisted m).1 hhistory).imp_right fun hframe => .inr (.inr hframe)
        · exact .inr (.inl hsend)
  · cases hs

theorem forward_spec (h : Inv conversationID s) (hs : s.step conversationID .forward = some s') :
    Inv conversationID s' ∧ (s.NoneLost conversationID → s'.NoneLost conversationID) := by
  have hshape := h.shape
  unfold step at hs
  unfold Shape at hshape
  dsimp only at hs
  split at hs
  · next message chatEvents hhandler =>
    rw [hhandler] at hshape
    obtain rfl := Option.some.inj hs
    have hway : ∀ m, OnItsWay
        { s with handler := .live chatEvents, frames := s.frames ++ [.message message] } m ↔
          s.OnItsWay m := by
      intro m
      unfold OnItsWay
      rw [hhandler, carried_concat]
      simp only [Handler.chatEvents, List.mem_cons]
      constructor
      · rintro (hsend | hevent | hframe | hlast)
        · exact .inl hsend
        · exact .inr (.inl (.inr hevent))
        · exact .inr (.inr hframe)
        · exact .inr (.inl (.inl hlast))
      · rintro (hsend | (hlast | hevent) | hframe)
        · exact .inl hsend
        · exact .inr (.inr (.inr hlast))
        · exact .inr (.inl hevent)
        · exact .inr (.inr (.inl hframe))
    refine ⟨h.keep rfl rfl rfl (fun m hm => .inl ((hway m).1 hm)) ?_, fun hnone _ m hm => ?_⟩
    · obtain ⟨events, hevents, hframes⟩ := hshape
      refine ⟨events ++ [.message message], fun f hf => ?_, ?_⟩
      · rcases List.mem_append.1 hf with hf | hf
        · exact hevents f hf
        · exact ⟨message, List.mem_singleton.1 hf⟩
      · rcases hframes with hframes | ⟨hframes, hreceived⟩
        · exact .inl (congrArg (· ++ _) hframes)
        · exact .inr ⟨congrArg (· ++ _) hframes, hreceived⟩
    · refine (hnone ?_ m hm).imp_right (hway m).2
      rw [hhandler]
      rfl
  · cases hs

theorem disconnect_spec (h : Inv conversationID s) (hs : s.step conversationID .disconnect = some s') :
    Inv conversationID s' ∧ s'.NoneLost conversationID := by
  obtain rfl := Option.some.inj hs
  refine ⟨h.keep rfl rfl rfl (fun m hm => .inl ?_) ?_, nofun⟩
  · rcases hm with hm | hm | hm
    · exact .inl hm
    · cases hm
    · exact .inr (.inr hm)
  · have hshape := h.shape
    unfold Shape at hshape
    cases hhandler : s.handler with
    | connecting =>
        rw [hhandler] at hshape
        exact ⟨[], nofun, .inl hshape.1⟩
    | listed messages =>
        rw [hhandler] at hshape
        exact ⟨[], nofun, .inl hshape.2.1⟩
    | joining =>
        rw [hhandler] at hshape
        rcases hshape with ⟨hframes, hreceived⟩ | ⟨hframes, -⟩
        · exact ⟨[], nofun, .inr ⟨hframes, hreceived⟩⟩
        · exact ⟨[], nofun, .inl hframes⟩
    | live | closed =>
        rw [hhandler] at hshape
        exact hshape

/-- What is on its way after the next frame has arrived. -/
theorem onItsWay_cons {f : Frame} {frames : List Frame} {c : ChatController} {received : List ChatMessage}
    (hframes : s.frames = f :: frames) :
    s.OnItsWay m ↔ m ∈ f.messages ∨
      OnItsWay { s with frames := frames, controller := c, received := received } m := by
  unfold OnItsWay
  rw [hframes, carried_cons]
  tauto

/-- The page after the next frame has arrived. -/
def arrived (conversationID : String) (f : Frame) (frames : List Frame) (s : Conversation) : Conversation :=
  { s with
    frames := frames
    controller := s.controller.onEvent conversationID f
    received := s.received ++ f.messages }

theorem Inv.arrived (h : Inv conversationID s) {f : Frame} {frames : List Frame}
    (hframes : s.frames = f :: frames)
    (hnodup : (((s.controller.onEvent conversationID f).messagesOf conversationID).map
      ChatMessage.id).Nodup)
    (hlist : ∀ m ∈ (s.controller.onEvent conversationID f).messagesOf conversationID,
      s.Holds conversationID m)
    (hshape : (s.arrived conversationID f frames).Shape conversationID) :
    Inv conversationID (s.arrived conversationID f frames) where
  rows := h.rows
  history := h.history
  list := hnodup
  holds m hm := by
    refine h.holds m ?_
    rcases hm with hm | hm | hm | hm
    · exact .inl hm
    · exact .inr (.inl ((onItsWay_cons hframes).2 (.inr hm)))
    · exact .inr (.inr (.inl hm))
    · exact hlist m hm
  shape := hshape

/-- The history fits into the list of the page. -/
theorem Inv.messagesOf_history (h : Inv conversationID s) (hrows : s.rows.length ≤ 100) :
    (s.controller.onEvent conversationID (.history conversationID s.history)).messagesOf conversationID =
      s.history := by
  refine ChatController.messagesOf_onHistory (le_trans (length_le_of_ids h.history fun m hm => ?_) hrows)
  exact (h.holds m (.inr (.inr (.inl hm)))).1

/-- A message of the subscription replaces the one with its id. -/
theorem Inv.messagesOf_message (h : Inv conversationID s) (hrows : s.rows.length ≤ 100)
    (hm : s.Holds conversationID m) :
    (s.controller.onEvent conversationID (.message m)).messagesOf conversationID =
        ((s.controller.messagesOf conversationID).filter fun item => item.id ≠ m.id) ++ [m] ∧
      ((((s.controller.messagesOf conversationID).filter fun item => item.id ≠ m.id) ++ [m]).map
        ChatMessage.id).Nodup := by
  have hnodup : ((((s.controller.messagesOf conversationID).filter fun item => item.id ≠ m.id) ++
      [m]).map ChatMessage.id).Nodup := by
    rw [List.map_append, List.nodup_append]
    refine ⟨(List.filter_sublist.map ChatMessage.id).nodup h.list, List.nodup_singleton _,
      fun id hid id' hid' => ?_⟩
    obtain ⟨item, hitem, rfl⟩ := List.mem_map.1 hid
    rw [List.map_singleton, List.mem_singleton] at hid'
    rw [hid']
    simpa using (List.mem_filter.1 hitem).2
  refine ⟨ChatController.messagesOf_onMessage (h.holds m hm).2
    (le_trans (length_le_of_ids hnodup fun m' hm' => ?_) hrows), hnodup⟩
  rcases List.mem_append.1 hm' with hm' | hm'
  · exact (h.holds m' (.inr (.inr (.inr (List.mem_of_mem_filter hm'))))).1
  · rw [List.mem_singleton.1 hm']
    exact (h.holds m hm).1

theorem Inv.history_arrived (h : Inv conversationID s) (hrows : s.rows.length ≤ 100) {frames : List Frame}
    (hframes : s.frames = .history conversationID s.history :: frames)
    (hshape : (s.arrived conversationID (.history conversationID s.history) frames).Shape
      conversationID) :
    Inv conversationID (s.arrived conversationID (.history conversationID s.history) frames) := by
  have hlist := h.messagesOf_history hrows
  refine h.arrived hframes ?_ (fun m hm => ?_) hshape
  · rw [hlist]
    exact h.history
  · rw [hlist] at hm
    exact .inr (.inr (.inl hm))

/-- After the history nothing that was delivered is missing, because nothing was. -/
theorem noneLost_history_arrived (h : Inv conversationID s) (hrows : s.rows.length ≤ 100)
    {frames : List Frame} (hframes : s.frames = .history conversationID s.history :: frames)
    (hreceived : s.received = []) (hnone : s.NoneLost conversationID) :
    (s.arrived conversationID (.history conversationID s.history) frames).NoneLost conversationID := by
  intro hlive m hm
  rcases hnone hlive m hm with hdelivered | hway
  · have hin := hdelivered.1
    rw [hreceived] at hin
    cases hin
  · rcases (onItsWay_cons hframes).1 hway with hin | hway
    · refine .inl ⟨List.mem_append_right _ hin, ?_⟩
      show m ∈ (s.controller.onEvent conversationID (.history conversationID s.history)).messagesOf
        conversationID
      rw [h.messagesOf_history hrows]
      exact hin
    · exact .inr hway

theorem holds_of_frame {frames : List Frame} (hframes : s.frames = .message m :: frames) : s.Holds conversationID m :=
  .inr (.inl (.inr (.inr ⟨.message m, by rw [hframes]; exact List.mem_cons_self, List.mem_singleton.2 rfl⟩)))

theorem Inv.message_arrived (h : Inv conversationID s) (hrows : s.rows.length ≤ 100) {frames : List Frame}
    (hframes : s.frames = .message m :: frames)
    (hshape : (s.arrived conversationID (.message m) frames).Shape conversationID) :
    Inv conversationID (s.arrived conversationID (.message m) frames) := by
  have hm : s.Holds conversationID m := holds_of_frame hframes
  obtain ⟨hlist, hnodup⟩ := h.messagesOf_message hrows hm
  refine h.arrived hframes ?_ (fun m' hm' => ?_) hshape
  · rwa [hlist]
  · rw [hlist] at hm'
    rcases List.mem_append.1 hm' with hm' | hm'
    · exact .inr (.inr (.inr (List.mem_of_mem_filter hm')))
    · rwa [List.mem_singleton.1 hm']

/-- After a message of the subscription the one with its id is gone. -/
theorem noneLost_message_arrived (h : Inv conversationID s) (hrows : s.rows.length ≤ 100)
    {frames : List Frame} (hframes : s.frames = .message m' :: frames)
    (hnone : s.NoneLost conversationID) :
    (s.arrived conversationID (.message m') frames).NoneLost conversationID ↔ s.HandsOver .arrive := by
  obtain ⟨hlist, -⟩ := h.messagesOf_message hrows (holds_of_frame hframes)
  have hdelivered : ∀ m, (s.arrived conversationID (.message m') frames).Delivered conversationID m ↔
      (m ∈ s.received ∨ m = m') ∧
        (m ∈ s.controller.messagesOf conversationID ∧ m.id ≠ m'.id ∨ m = m') := by
    intro m
    have hreceived : m ∈ (s.arrived conversationID (.message m') frames).received ↔
        m ∈ s.received ∨ m = m' := by
      rw [← List.mem_singleton, ← List.mem_append]
      exact Iff.rfl
    refine and_congr hreceived ?_
    show m ∈ (s.controller.onEvent conversationID (.message m')).messagesOf conversationID ↔ _
    rw [hlist, List.mem_append, List.mem_singleton, List.mem_filter, decide_eq_true_eq]
  have hway : ∀ m, s.OnItsWay m ↔ m = m' ∨ (s.arrived conversationID (.message m') frames).OnItsWay m := by
    intro m
    rw [← List.mem_singleton]
    exact onItsWay_cons hframes
  constructor
  · intro hafter hlive m'' hhead m hm hid
    rw [hframes] at hhead
    obtain rfl := Frame.message.inj (Option.some.inj hhead)
    rcases hafter hlive m hm with hdel | hon
    · rcases ((hdelivered m).1 hdel).2 with ⟨-, hne⟩ | heq
      · exact absurd hid hne
      · exact .inl heq
    · exact .inr ((hway m).2 (.inr hon))
  · intro hover hlive m hm
    by_cases hid : m.id = m'.id
    · rcases hover hlive m' (by rw [hframes]; rfl) m hm hid with heq | hon
      · exact .inl ((hdelivered m).2 ⟨.inr heq, .inr heq⟩)
      · rcases (hway m).1 hon with heq | hon
        · exact .inl ((hdelivered m).2 ⟨.inr heq, .inr heq⟩)
        · exact .inr hon
    · rcases hnone hlive m hm with ⟨hreceived, hin⟩ | hon
      · exact .inl ((hdelivered m).2 ⟨.inl hreceived, .inl ⟨hin, hid⟩⟩)
      · rcases (hway m).1 hon with heq | hon
        · exact absurd (congrArg ChatMessage.id heq) hid
        · exact .inr hon

theorem Ordered.tail {events : List Frame} {f : Frame} {frames : List Frame}
    (hevents : ∀ f ∈ events, ∃ m, f = .message m) (hf : events = f :: frames) :
    (∃ m, f = .message m) ∧ ∀ f ∈ frames, ∃ m, f = .message m := by
  rw [hf] at hevents
  exact ⟨hevents f List.mem_cons_self, fun f hf => hevents f (List.mem_cons_of_mem _ hf)⟩

/-- The next frame is a message, or the history and then nothing has arrived. -/
theorem Ordered.arrived {f : Frame} {frames : List Frame} (h : s.Ordered conversationID)
    (hframes : s.frames = f :: frames) :
    (s.arrived conversationID f frames).Ordered conversationID ∧
      ((∃ m, f = .message m) ∨ f = .history conversationID s.history ∧ s.received = []) := by
  obtain ⟨events, hevents, hf | ⟨hf, hreceived⟩⟩ := h
  · obtain ⟨hm, hrest⟩ := Ordered.tail hevents (hf.symm.trans hframes)
    exact ⟨⟨frames, hrest, .inl rfl⟩, .inl hm⟩
  · obtain ⟨rfl, rfl⟩ := List.cons.inj (hf.symm.trans hframes)
    exact ⟨⟨events, hevents, .inl rfl⟩, .inr ⟨rfl, hreceived⟩⟩

theorem handsOver_of_history {messages : List ChatMessage} {frames : List Frame}
    (hframes : s.frames = .history conversationID messages :: frames) : s.HandsOver .arrive := by
  intro _ m' hhead
  rw [hframes] at hhead
  cases Option.some.inj hhead

theorem arrive_spec (h : Inv conversationID s) (hrows : s.rows.length ≤ 100)
    (hnone : s.NoneLost conversationID) (hs : s.step conversationID .arrive = some s') :
    Inv conversationID s' ∧ (s'.NoneLost conversationID ↔ s.HandsOver .arrive) := by
  unfold step at hs
  dsimp only at hs
  split at hs
  · next f frames hframes =>
    obtain rfl := Option.some.inj hs
    change Inv conversationID (s.arrived conversationID f frames) ∧
      ((s.arrived conversationID f frames).NoneLost conversationID ↔ s.HandsOver .arrive)
    have hshape := h.shape
    unfold Shape at hshape
    cases hhandler : s.handler with
    | connecting =>
        rw [hhandler] at hshape
        rw [hshape.1] at hframes
        cases hframes
    | listed messages =>
        rw [hhandler] at hshape
        rw [hshape.2.1] at hframes
        cases hframes
    | joining =>
        rw [hhandler] at hshape
        rcases hshape with ⟨hf, hreceived⟩ | ⟨hf, -⟩
        · obtain ⟨rfl, rfl⟩ := List.cons.inj (hf.symm.trans hframes)
          refine ⟨h.history_arrived hrows hframes ?_, iff_of_true ?_ (handsOver_of_history hframes)⟩
          · unfold Shape
            rw [show (s.arrived conversationID (.history conversationID s.history) []).handler =
              .joining from hhandler]
            refine .inr ⟨rfl, ?_, h.messagesOf_history hrows⟩
            show s.received ++ s.history = s.history
            rw [hreceived, List.nil_append]
          · exact noneLost_history_arrived h hrows hframes hreceived hnone
        · rw [hf] at hframes
          cases hframes
    | live | closed =>
        rw [hhandler] at hshape
        obtain ⟨hafter, ⟨m, rfl⟩ | ⟨rfl, hreceived⟩⟩ := Ordered.arrived hshape hframes
        · refine ⟨h.message_arrived hrows hframes ?_, noneLost_message_arrived h hrows hframes hnone⟩
          unfold Shape
          rw [show (s.arrived conversationID (.message m) frames).handler = _ from hhandler]
          exact hafter
        · refine ⟨h.history_arrived hrows hframes ?_, iff_of_true
            (noneLost_history_arrived h hrows hframes hreceived hnone) (handsOver_of_history hframes)⟩
          unfold Shape
          rw [show (s.arrived conversationID (.history conversationID s.history) frames).handler = _
            from hhandler]
          exact hafter
  · cases hs

theorem step_spec (h : Inv conversationID s) (hnone : s.NoneLost conversationID)
    (hrows : s'.rows.length ≤ 100) (hs : s.step conversationID a = some s') :
    Inv conversationID s' ∧ (s'.NoneLost conversationID ↔ s.HandsOver a) := by
  cases a with
  | record =>
      obtain ⟨hinv, hkeep⟩ := record_spec h hs
      exact ⟨hinv, iff_of_true (hkeep hnone) trivial⟩
  | publish =>
      obtain ⟨hinv, hkeep⟩ := publish_spec h hs
      exact ⟨hinv, iff_of_true (hkeep hnone) trivial⟩
  | list =>
      obtain ⟨hinv, hafter⟩ := list_spec h hs
      exact ⟨hinv, iff_of_true hafter trivial⟩
  | writeHistory =>
      obtain ⟨hinv, hafter⟩ := writeHistory_spec h hs
      exact ⟨hinv, iff_of_true hafter trivial⟩
  | subscribe => exact subscribe_spec h hs
  | forward =>
      obtain ⟨hinv, hkeep⟩ := forward_spec h hs
      exact ⟨hinv, iff_of_true (hkeep hnone) trivial⟩
  | arrive =>
      have hsame : s'.rows = s.rows := by
        unfold step at hs
        dsimp only at hs
        split at hs
        · obtain rfl := Option.some.inj hs
          rfl
        · cases hs
      exact arrive_spec h (by rwa [← hsame]) hnone hs
  | disconnect =>
      obtain ⟨hinv, hafter⟩ := disconnect_spec h hs
      exact ⟨hinv, iff_of_true hafter trivial⟩

/-- In a conversation with at most 100 messages none is lost to a client that joins exactly when the hand-over
leaves no gap. -/
theorem noneLost_iff (conversationID : String) (as : List Act)
    (h : Run.Always (step conversationID) (fun s => s.rows.length ≤ 100) (init conversationID) as) :
    Run.Always (step conversationID) (NoneLost conversationID) (init conversationID) as ↔
      Run.Guarded (step conversationID) HandsOver (init conversationID) as := by
  refine Run.always_iff_guarded_of (fun s => Inv conversationID s ∧ s.NoneLost conversationID) ?_
    (fun _ h => h.2) ?_ ⟨inv_init conversationID, nofun⟩ h
  · rintro s a s' ⟨hinv, hnone⟩ hrows hC hs
    obtain ⟨hinv', hiff⟩ := step_spec hinv hnone hrows hs
    exact ⟨hinv', hiff.2 hC⟩
  · rintro s a s' ⟨hinv, hnone⟩ hrows hC hs hnone'
    exact hC ((step_spec hinv hnone hrows hs).2.1 hnone')

/-! ## Joining while a message is sent -/

def unpublishedDecidable (s : Conversation) (m : ChatMessage) :
    Decidable (∃ send, s.sends.lookup send = some m) :=
  decidable_of_iff (∃ send ∈ s.sends.keys, s.sends.lookup send = some m)
    ⟨fun ⟨send, _, h⟩ => ⟨send, h⟩, fun ⟨send, h⟩ => ⟨send, Assoc.mem_keys_iff_exists.2 ⟨m, h⟩, h⟩⟩

instance (s : Conversation) (m : ChatMessage) : Decidable (s.OnItsWay m) :=
  have := s.unpublishedDecidable m
  inferInstanceAs (Decidable (_ ∨ _))

instance (s : Conversation) : ∀ a, Decidable (s.HandsOver a)
  | .subscribe =>
      have := s.unpublishedDecidable
      inferInstanceAs (Decidable (∀ m ∈ s.rows, _ ∨ _))
  | .arrive =>
      match h : s.frames.head? with
      | some (.message m') =>
          decidable_of_iff
            (s.handler.isLive = true → ∀ m ∈ s.rows, m.id = m'.id → m = m' ∨ s.OnItsWay m)
            ⟨fun hover hlive m'' hhead => by
              obtain rfl := Frame.message.inj (Option.some.inj (h.symm.trans hhead))
              exact hover hlive,
            fun hover hlive => hover hlive m' h⟩
      | some (.history _ _) => .isTrue fun _ m'' hhead => by cases h.symm.trans hhead
      | none => .isTrue fun _ m'' hhead => by cases h.symm.trans hhead
  | .record _ _ | .publish _ | .list | .writeHistory | .forward | .disconnect => .isTrue trivial

def hello : Draft where
  id := "chat-1"
  senderUserID := "u2"
  body := "hello"
  createdAt := 1

/-- The message is recorded before the client is listed the messages, and published afterwards. -/
theorem noneLost_listedAndPublished :
    Run.Always (step "lobby:l1") (NoneLost "lobby:l1") (init "lobby:l1")
      [.record 0 hello, .list, .writeHistory, .subscribe, .publish 0, .arrive, .forward, .arrive] :=
  (noneLost_iff "lobby:l1" _ (by decide +kernel)).2 (by decide +kernel)

/-- The message is recorded and published between `ListChatMessages` and `Subscribe`. -/
theorem not_noneLost_sentMeanwhile :
    ¬ Run.Always (step "lobby:l1") (NoneLost "lobby:l1") (init "lobby:l1")
      [.list, .record 0 hello, .publish 0, .writeHistory, .subscribe] := by
  intro h
  have hrun : (Run.exec (step "lobby:l1") (init "lobby:l1")
      [.list, .record 0 hello, .publish 0, .writeHistory, .subscribe]).map
        (fun s => (s.handler, s.rows, s.received, decide (s.OnItsWay (hello.message "lobby:l1")))) =
      some (.live [], [hello.message "lobby:l1"], [], false) := by decide +kernel
  obtain ⟨s, hs, hend⟩ := Option.map_eq_some_iff.1 hrun
  simp only [Prod.mk.injEq, decide_eq_false_iff_not] at hend
  obtain ⟨hhandler, hrows, hreceived, hway⟩ := hend
  rcases h.exec hs (by rw [hhandler]; rfl) _ (by rw [hrows]; exact List.mem_cons_self) with hin | hin
  · rw [Delivered, hreceived] at hin
    cases hin.1
  · exact hway hin

end Conversation

end GeoDuels.Chat
