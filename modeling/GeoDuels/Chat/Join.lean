import GeoDuels.Lib.Assoc
import GeoDuels.Lib.Run
import Mathlib.Data.List.Sort

/-!
# Joining a conversation

One conversation with its rows of `chat_messages`, the sends of its members, and one client that joins it:
the handler `chatWS`, the frames that it writes and that arrive in order, and the `ChatController` of the
page.  A send commits its row and publishes the message afterwards, to the subscription if there is one by
then.  Left out are failures, the other conversations, and the fields of a message that nothing reads.
-/

namespace GeoDuels.Chat

structure ChatMessage where
  id : String
  conversationID : String
  senderUserID : String
  body : String
  createdAt : ℤ
  deriving DecidableEq

/-! ## The store -/

/-- The second statement of `recordChatMessage`: `on conflict (id) do nothing`. -/
def recordChatMessage (rows : List ChatMessage) (message : ChatMessage) : List ChatMessage :=
  if rows.any fun row => row.id = message.id then rows else rows ++ [message]

/-- `ListChatMessages`; rows with one time come in the order in which they were inserted. -/
def listChatMessages (rows : List ChatMessage) (conversationID : String) (limit : ℕ) : List ChatMessage :=
  let limit := if limit = 0 ∨ 500 < limit then 200 else limit
  ((rows.filter fun row => row.conversationID = conversationID).insertionSort fun a b =>
    a.createdAt ≤ b.createdAt).take limit

/-! ## `ChatController` -/

inductive Frame where
  | history (conversationID : String) (messages : List ChatMessage)
  | message (message : ChatMessage)
  deriving DecidableEq

/-- The messages that a frame carries. -/
def Frame.messages : Frame → List ChatMessage
  | .history _ messages => messages
  | .message m => [m]

structure ChatController where
  conversationId : String
  messages : List ChatMessage
  messagesByConversation : Assoc String (List ChatMessage)

/-- `messages.slice(-n)`. -/
def sliceLast (n : ℕ) (messages : List ChatMessage) : List ChatMessage :=
  messages.drop (messages.length - n)

namespace ChatController

/-- After `setConversation` of a fresh page. -/
def connect (conversationId : String) : ChatController where
  conversationId := conversationId
  messages := []
  messagesByConversation := ∅

def messagesOf (c : ChatController) (conversationId : String) : List ChatMessage :=
  (c.messagesByConversation.lookup conversationId).getD []

def storeMessages (conversationId : String) (messages : List ChatMessage) (c : ChatController) :
    ChatController :=
  let next := sliceLast 100 messages
  { c with
    messagesByConversation := c.messagesByConversation.insert conversationId next
    messages := if c.conversationId = conversationId then next else c.messages }

/-- The handler that `setConversation` gives to its connection. -/
def onEvent (nextConversationId : String) (event : Frame) (c : ChatController) : ChatController :=
  match event with
  | .history conversationId messages =>
      if conversationId ≠ nextConversationId then c else c.storeMessages nextConversationId messages
  | .message message =>
      if message.conversationID ≠ "" ∧ message.conversationID ≠ nextConversationId then c
      else
        let current := c.messagesOf nextConversationId
        c.storeMessages nextConversationId ((current.filter fun item => item.id ≠ message.id) ++ [message])

end ChatController

/-! ## The conversation -/

/-- Where `chatWS` is; `listed` holds what `ListChatMessages` has returned, and `live` the messages of the
subscription that have not been forwarded. -/
inductive Handler where
  | connecting
  | listed (messages : List ChatMessage)
  | joining
  | live (chatEvents : List ChatMessage)
  | closed
  deriving DecidableEq

/-- A publish reaches the subscription that is active. -/
def Handler.publish (message : ChatMessage) : Handler → Handler
  | .live chatEvents => .live (chatEvents ++ [message])
  | handler => handler

/-- `sends` are the members that have recorded a message and not published it, `history` is what the client
has been listed, and `received` what has arrived at its page. -/
structure Conversation where
  rows : List ChatMessage := []
  sends : Assoc ℕ ChatMessage := ∅
  handler : Handler := .connecting
  history : List ChatMessage := []
  frames : List Frame := []
  controller : ChatController
  received : List ChatMessage := []

/-- What a member sends, with the id and the time that the message is given. -/
structure Draft where
  id : String
  senderUserID : String
  body : String
  createdAt : ℤ

def Draft.message (conversationID : String) (d : Draft) : ChatMessage where
  id := d.id
  conversationID := conversationID
  senderUserID := d.senderUserID
  body := d.body
  createdAt := d.createdAt

inductive Act where
  | record (send : ℕ) (draft : Draft)
  | publish (send : ℕ)
  | list
  | writeHistory
  | subscribe
  | forward
  | arrive
  | disconnect

namespace Conversation

variable (conversationID : String)

def init : Conversation where
  controller := .connect conversationID

def step (s : Conversation) : Act → Option Conversation
  | .record send draft =>
      if send ∈ s.sends then none
      else
        let message := draft.message conversationID
        some
          { s with
            rows := recordChatMessage s.rows message
            sends := s.sends.insert send message }
  | .publish send =>
      (s.sends.lookup send).map fun message =>
        { s with sends := s.sends.erase send, handler := s.handler.publish message }
  | .list =>
      match s.handler with
      | .connecting =>
          let messages := listChatMessages s.rows conversationID 100
          some { s with handler := .listed messages, history := messages }
      | _ => none
  | .writeHistory =>
      match s.handler with
      | .listed messages =>
          some
            { s with
              handler := .joining
              frames := if messages = [] then s.frames else s.frames ++ [.history conversationID messages] }
      | _ => none
  | .subscribe =>
      match s.handler with
      | .joining => some { s with handler := .live [] }
      | _ => none
  | .forward =>
      match s.handler with
      | .live (message :: chatEvents) =>
          some { s with handler := .live chatEvents, frames := s.frames ++ [.message message] }
      | _ => none
  | .arrive =>
      match s.frames with
      | frame :: frames =>
          some
            { s with
              frames := frames
              controller := s.controller.onEvent conversationID frame
              received := s.received ++ frame.messages }
      | [] => none
  | .disconnect => some { s with handler := .closed }

end Conversation

end GeoDuels.Chat
