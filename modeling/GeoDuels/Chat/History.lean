import GeoDuels.Chat.NoneLost
import GeoDuels.Persistence.Lobbies

/-!
# The history of a conversation

`RecordChatMessage` and `ListChatMessages` (`pkg/persistence/store.go`) over the tables `chat_conversations`
and `chat_messages`.  The list is ordered by time and then cut off, so it holds the first messages of a
conversation and not the last ones (`listChatMessages_recorded`), and a player who joins a conversation that
is longer than the limit does not see what was said last (`latest_iff`, `page_iff`).  Times are in
microseconds since the zero time, as the column keeps them; the checks of the schema are left out, which
only refuse more.
-/

namespace GeoDuels.Chat.History

open Persistence (trim)

inductive ChatMessageKind where
  | text | emote
  deriving DecidableEq

inductive ChatEmote where
  | skull | sob | thinking | sunglasses
  deriving DecidableEq

/-- The message with the fields that the join leaves out; `emote` is empty in a text. -/
structure Message extends ChatMessage where
  matchID : String := ""
  senderDisplayName : String := ""
  kind : ChatMessageKind := .text
  emote : Option ChatEmote := none
  deriving DecidableEq

/-! ## Rows -/

/-- A row of `chat_messages`; `match_id`, `body` and `emote` may be null. -/
structure ChatRow where
  id : String
  conversationID : String
  matchID : Option String
  senderUserID : String
  senderDisplayName : String
  kind : ChatMessageKind
  body : Option String
  emote : Option ChatEmote
  createdAt : ℤ
  deriving DecidableEq

/-- A conversation has the kind and the id of its scope. -/
structure ChatDB where
  conversations : Assoc String (String × String) := ∅
  messages : List ChatRow := []

def nullable (v : String) : Option String := if v = "" then none else some v

@[simp] theorem getD_nullable (v : String) : (nullable v).getD "" = v := by
  unfold nullable
  split_ifs with hv
  · exact hv.symm
  · rfl

/-- The columns that `ListChatMessages` selects. -/
def ChatRow.message (row : ChatRow) : Message where
  id := row.id
  conversationID := row.conversationID
  matchID := row.matchID.getD ""
  senderUserID := row.senderUserID
  senderDisplayName := row.senderDisplayName
  kind := row.kind
  body := row.body.getD ""
  emote := row.emote
  createdAt := row.createdAt

namespace ChatDB

variable (db : ChatDB)

/-- The two statements of `recordChatMessage`, both `on conflict (id) do nothing`. -/
def recordChatMessageAt (conversationID scopeKind scopeID : String) (message : Message) (createdAt : ℤ) :
    ChatDB where
  conversations :=
    if conversationID ∈ db.conversations then db.conversations
    else db.conversations.insert conversationID (scopeKind, scopeID)
  messages :=
    if db.messages.any fun row => row.id = message.id then db.messages
    else
      db.messages ++
        [{ id := message.id
           conversationID := conversationID
           matchID := nullable message.matchID
           senderUserID := message.senderUserID
           senderDisplayName := message.senderDisplayName
           kind := message.kind
           body := nullable message.body
           emote := message.emote
           createdAt := createdAt }]

def recordChatMessage (conversationID scopeKind scopeID : String) (message : Message) (now : ℤ) :
    Except String ChatDB :=
  let conversationID := trim conversationID
  let scopeKind := trim scopeKind
  let scopeID := trim scopeID
  if conversationID = "" ∨ scopeKind = "" ∨ scopeID = "" then .error "conversation scope required"
  else
    .ok (db.recordChatMessageAt conversationID scopeKind scopeID message
      (if message.createdAt = 0 then now else message.createdAt))

end ChatDB

/-- `ListChatMessages`, with the rows of `chat_messages` in the order in which the query meets them. -/
def listChatMessages (rows : List ChatRow) (conversationID : String) (limit : ℤ) : List Message :=
  let conversationID := trim conversationID
  if conversationID = "" then []
  else
    let limit := if limit ≤ 0 ∨ 500 < limit then 200 else limit
    (((rows.filter fun row => row.conversationID = conversationID).insertionSort fun a b =>
      a.createdAt ≤ b.createdAt).take limit.toNat).map ChatRow.message

/-! ## Calls -/

/-- A call of `RecordChatMessage`; `now` is what the clock shows. -/
structure RecordCall where
  conversationID : String
  scopeKind : String
  scopeID : String
  message : Message
  now : ℤ

namespace RecordCall

def createdAt (c : RecordCall) : ℤ := if c.message.createdAt = 0 then c.now else c.message.createdAt

/-- The message that the call records. -/
def recorded (c : RecordCall) : Message :=
  { c.message with conversationID := trim c.conversationID, createdAt := c.createdAt }

/-- A successful call. -/
def step (db : ChatDB) (c : RecordCall) : Option ChatDB :=
  (db.recordChatMessage c.conversationID c.scopeKind c.scopeID c.message c.now).toOption

end RecordCall

/-- The messages of a conversation, in the order in which they were recorded. -/
def messagesOf (conversationID : String) (calls : List RecordCall) : List Message :=
  (calls.map RecordCall.recorded).filter fun m => m.conversationID = trim conversationID

variable {db db' : ChatDB} {c : RecordCall} {calls : List RecordCall} {rows : List ChatRow}

/-- A call with a new id adds the row of its message. -/
theorem RecordCall.step_eq (hs : c.step db = some db') (hid : ∀ row ∈ db.messages, row.id ≠ c.message.id) :
    trim c.conversationID ≠ "" ∧
      db'.messages.map ChatRow.message = db.messages.map ChatRow.message ++ [c.recorded] := by
  unfold RecordCall.step ChatDB.recordChatMessage at hs
  dsimp only at hs
  by_cases hblank : trim c.conversationID = "" ∨ trim c.scopeKind = "" ∨ trim c.scopeID = ""
  · rw [if_pos hblank] at hs
    cases hs
  · rw [if_neg hblank] at hs
    obtain rfl := Option.some.inj hs
    refine ⟨(not_or.1 hblank).1, ?_⟩
    have hnew : ¬ (db.messages.any fun row => row.id = c.message.id) = true := by simpa using hid
    unfold ChatDB.recordChatMessageAt
    dsimp only
    rw [if_neg hnew, List.map_append, List.map_singleton]
    simp only [ChatRow.message, getD_nullable]
    rfl

/-- The calls one after the other. -/
def run : ChatDB → List RecordCall → Option ChatDB := Run.exec fun db c => c.step db

theorem map_message_run (hrun : run {} calls = some db) (hids : (calls.map (·.message.id)).Nodup) :
    db.messages.map ChatRow.message = calls.map RecordCall.recorded ∧
      ∀ c ∈ calls, trim c.conversationID ≠ "" := by
  refine @Run.exec_induction _ _ _ (fun calls db => (calls.map (·.message.id)).Nodup →
    db.messages.map ChatRow.message = calls.map RecordCall.recorded ∧
      ∀ c ∈ calls, trim c.conversationID ≠ "") _ _ ?_ ?_ _ _ (Run.guarded_true _ _) hrun hids
  · exact fun _ => ⟨rfl, fun c hc => by cases hc⟩
  · intro calls db c db' _ hinv _ hs hids
    rw [List.map_append, List.map_singleton] at hids
    obtain ⟨hinit, -, hnew⟩ := List.nodup_append.1 hids
    obtain ⟨hmessages, htrim⟩ := hinv hinit
    have hid : ∀ row ∈ db.messages, row.id ≠ c.message.id := by
      intro row hrow heq
      have hmem : row.message ∈ calls.map RecordCall.recorded := by
        rw [← hmessages]
        exact List.mem_map_of_mem hrow
      obtain ⟨c', hc', hrec⟩ := List.mem_map.1 hmem
      refine hnew c'.message.id (List.mem_map_of_mem hc') c.message.id (List.mem_singleton.2 rfl) ?_
      have hsame : c'.message.id = row.id := congrArg (fun m : Message => m.id) hrec
      exact hsame.trans heq
    obtain ⟨hc, hnext⟩ := RecordCall.step_eq hs hid
    refine ⟨by rw [hnext, hmessages, List.map_append, List.map_singleton], fun c' hc' => ?_⟩
    rcases List.mem_append.1 hc' with hc' | hc'
    · exact htrim c' hc'
    · rwa [List.mem_singleton.1 hc']

/-! ## What is listed -/

/-- The rows that are listed, in terms of the messages. -/
theorem listChatMessages_eq {conversationID : String} {limit : ℤ} (hconversation : trim conversationID ≠ "")
    (hpos : 1 ≤ limit) (hmax : limit ≤ 500) :
    listChatMessages rows conversationID limit =
      (((rows.map ChatRow.message).filter fun m => m.conversationID = trim conversationID).insertionSort
        fun a b => a.createdAt ≤ b.createdAt).take limit.toNat := by
  unfold listChatMessages
  dsimp only
  have hsort := List.map_insertionSort (r := fun a b : ChatRow => a.createdAt ≤ b.createdAt)
    (s := fun a b : Message => a.createdAt ≤ b.createdAt) ChatRow.message
    (rows.filter fun row => row.conversationID = trim conversationID) fun _ _ _ _ => Iff.rfl
  rw [if_neg hconversation, if_neg (by omega), List.map_take, hsort, List.filter_map]
  rfl

/-- Sorting brings messages with increasing times into their order. -/
theorem insertionSort_eq {l l' : List Message} (hperm : l.Perm l')
    (hl' : l'.Pairwise (·.createdAt < ·.createdAt)) :
    l.insertionSort (fun a b => a.createdAt ≤ b.createdAt) = l' := by
  have hsorted := List.pairwise_insertionSort (fun a b : Message => a.createdAt ≤ b.createdAt) l
  have hsame := (List.perm_insertionSort (fun a b : Message => a.createdAt ≤ b.createdAt) l).trans hperm
  have hnodup : (l'.map (·.createdAt)).Nodup := List.pairwise_map.2 (hl'.imp ne_of_lt)
  refine hsame.eq_of_pairwise (fun a b ha hb hab hba => ?_) hsorted (hl'.imp le_of_lt)
  exact List.inj_on_of_nodup_map hnodup (hsame.mem_iff.1 ha) hb (le_antisymm hab hba)

theorem pairwise_recorded (htimes : (calls.map RecordCall.createdAt).Pairwise (· < ·)) :
    (calls.map RecordCall.recorded).Pairwise (·.createdAt < ·.createdAt) :=
  List.pairwise_map.2 (List.pairwise_map.1 htimes)

/-- What is listed are the first messages of the conversation. -/
theorem listChatMessages_recorded (hrun : run {} calls = some db)
    (hids : (calls.map (·.message.id)).Nodup)
    (htimes : (calls.map RecordCall.createdAt).Pairwise (· < ·)) (hrows : rows.Perm db.messages)
    (conversationID : String) {limit : ℤ} (hpos : 1 ≤ limit) (hmax : limit ≤ 500) :
    listChatMessages rows conversationID limit = (messagesOf conversationID calls).take limit.toNat := by
  obtain ⟨hmessages, htrim⟩ := map_message_run hrun hids
  by_cases hconversation : trim conversationID = ""
  · have hnone : messagesOf conversationID calls = [] := by
      rw [messagesOf, List.filter_eq_nil_iff]
      intro m hm
      obtain ⟨c, hc, rfl⟩ := List.mem_map.1 hm
      have hne : trim c.conversationID ≠ trim conversationID := by
        rw [hconversation]
        exact htrim c hc
      exact fun heq => hne (of_decide_eq_true heq)
    unfold listChatMessages
    dsimp only
    rw [if_pos hconversation, hnone, List.take_nil]
  · rw [listChatMessages_eq hconversation hpos hmax]
    congr 1
    refine insertionSort_eq ?_ ?_
    · unfold messagesOf
      rw [← hmessages]
      exact (hrows.map ChatRow.message).filter _
    · exact (pairwise_recorded htimes).filter _

/-! ## The latest messages -/

/-- The last `n` elements, or all if there are no more. -/
def latest {α : Type} (n : ℕ) (xs : List α) : List α := xs.drop (xs.length - n)

theorem take_eq_latest_iff {α : Type} {xs : List α} (hxs : xs.Nodup) {n : ℕ} (hn : 1 ≤ n) :
    xs.take n = latest n xs ↔ xs.length ≤ n := by
  unfold latest
  constructor
  · intro heq
    by_contra hlong
    have hlt : n < xs.length := Nat.not_le.1 hlong
    have hhead := congrArg (·[0]?) heq
    rw [List.getElem?_take_of_lt hn, List.getElem?_drop, Nat.add_zero] at hhead
    have hindex := (List.getElem?_inj (Nat.zero_lt_of_lt hlt) hxs).1 hhead
    omega
  · intro hle
    rw [List.take_of_length_le hle, Nat.sub_eq_zero_of_le hle, List.drop_zero]

/-- Messages that were recorded at different times differ, also in what the join keeps of them. -/
theorem nodup_toChatMessage (htimes : (calls.map RecordCall.createdAt).Pairwise (· < ·))
    (conversationID : String) : ((messagesOf conversationID calls).map Message.toChatMessage).Nodup := by
  refine List.pairwise_map.2 (((pairwise_recorded htimes).filter _).imp fun hlt heq => ?_)
  exact hlt.ne (congrArg (·.createdAt) heq)

/-- After every sequence of successful calls with distinct ids and increasing times: the list of a conversation
has its latest messages exactly when the conversation has no more than the limit. -/
theorem latest_iff (hrun : run {} calls = some db) (hids : (calls.map (·.message.id)).Nodup)
    (htimes : (calls.map RecordCall.createdAt).Pairwise (· < ·)) (hrows : rows.Perm db.messages)
    (conversationID : String) {limit : ℤ} (hpos : 1 ≤ limit) (hmax : limit ≤ 500) :
    listChatMessages rows conversationID limit = latest limit.toNat (messagesOf conversationID calls) ↔
      ((messagesOf conversationID calls).length : ℤ) ≤ limit := by
  rw [listChatMessages_recorded hrun hids htimes hrows conversationID hpos hmax,
    take_eq_latest_iff (nodup_toChatMessage htimes conversationID).of_map (by omega)]
  omega

/-- Two messages of a player in the chat of a match. -/
def twoMessages : List RecordCall :=
  [{ conversationID := "match:m", scopeKind := "match", scopeID := "m", now := 1
     message :=
      { id := "chat-1", conversationID := "match:m", senderUserID := "u_1", body := "hello", createdAt := 1
        matchID := "m", senderDisplayName := "Ann" } },
    { conversationID := "match:m", scopeKind := "match", scopeID := "m", now := 2
      message :=
      { id := "chat-2", conversationID := "match:m", senderUserID := "u_1", body := "bye", createdAt := 2
        matchID := "m", senderDisplayName := "Ann" } }]

theorem latest_twoMessages : ∃ db, run {} twoMessages = some db ∧
    (listChatMessages db.messages "match:m" 2 = latest 2 (messagesOf "match:m" twoMessages) ↔
      ((messagesOf "match:m" twoMessages).length : ℤ) ≤ 2) :=
  ⟨_, rfl, latest_iff rfl (by decide) (by decide) (.refl _) "match:m" (by decide) (by decide)⟩

/-- With a limit of one message the list has the first one. -/
theorem not_latest_twoMessages : (twoMessages.map (·.message.id)).Nodup ∧
    (twoMessages.map RecordCall.createdAt).Pairwise (· < ·) ∧
    ∃ db, run {} twoMessages = some db ∧
      listChatMessages db.messages "match:m" 1 ≠ latest 1 (messagesOf "match:m" twoMessages) :=
  ⟨by decide, by decide, _, rfl, by decide +kernel⟩

/-- What a page shows after the history of `chatWS` has arrived are the latest messages exactly when there are
no more than 100. -/
theorem page_iff (hrun : run {} calls = some db) (hids : (calls.map (·.message.id)).Nodup)
    (htimes : (calls.map RecordCall.createdAt).Pairwise (· < ·)) (hrows : rows.Perm db.messages)
    (conversationID : String) :
    ((ChatController.connect conversationID).onEvent conversationID
        (.history conversationID
          ((listChatMessages rows conversationID 100).map Message.toChatMessage))).messagesOf conversationID =
        latest 100 ((messagesOf conversationID calls).map Message.toChatMessage) ↔
      (messagesOf conversationID calls).length ≤ 100 := by
  have hlist : (listChatMessages rows conversationID 100).map Message.toChatMessage =
      ((messagesOf conversationID calls).map Message.toChatMessage).take 100 := by
    rw [listChatMessages_recorded hrun hids htimes hrows conversationID (by decide) (by decide),
      List.map_take]
    rfl
  rw [hlist, ChatController.messagesOf_onHistory (List.length_take_le _ _),
    take_eq_latest_iff (nodup_toChatMessage htimes conversationID) (by decide), List.length_map]

end GeoDuels.Chat.History
