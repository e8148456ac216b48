import GeoDuels.Lib.Assoc
import GeoDuels.Lib.Slice
import GeoDuels.Lib.SlidingWindow
import GeoDuels.Persistence.Lobbies
import Mathlib.Algebra.Order.Group.Int

/-!
# The rate limiter of the chat

`allowChatSend` keeps for each key the times of the sends that it has accepted, and drops those that are
too old only when the key sends again.  Nothing that it has dropped counts at a later time (`Stored`), so it
is an exact sliding window.  The key joins the conversation and the user with a colon, which stands in no id
of a user.
-/

namespace GeoDuels.Chat

open SlidingWindow (admitted Within Exact exact_nil exact_concat Answers)

/-! ## `allowChatSend` -/

def chatRateLimitBurst : ℕ := 5

/-- Ten seconds, in nanoseconds. -/
def chatRateLimitWindow : ℤ := 10 * 1000000000

abbrev ChatRecent := Assoc String (List ℤ)

def chatKey (conversationID userID : String) : String := conversationID ++ ":" ++ userID

/-- The answer, and `chatRecent` afterwards; a key without an entry has the empty slice. -/
def allowChatSend (chatRecent : ChatRecent) (conversationID userID : String) (now : ℤ) :
    Bool × ChatRecent :=
  let key := chatKey conversationID userID
  let cutoff := now - chatRateLimitWindow
  let recent := (chatRecent.lookup key).getD []
  let kept := Slice.filterInPlace (fun ts => cutoff < ts) recent
  if chatRateLimitBurst ≤ kept.length then (false, chatRecent.insert key kept)
  else (true, chatRecent.insert key (kept ++ [now]))

/-- A call of `allowChatSend`. -/
structure Send where
  conversationID : String
  userID : String
  now : ℤ
  deriving DecidableEq

def Send.key (c : Send) : String := chatKey c.conversationID c.userID

/-- The calls one after the other, with their answers. -/
def sends (chatRecent : ChatRecent) : List Send → List (Send × Bool)
  | [] => []
  | c :: calls =>
      let r := allowChatSend chatRecent c.conversationID c.userID c.now
      (c, r.1) :: sends r.2 calls

theorem map_fst_sends (chatRecent : ChatRecent) (calls : List Send) :
    (sends chatRecent calls).map Prod.fst = calls := by
  induction calls generalizing chatRecent with
  | nil => rfl
  | cons c calls ih => rw [sends, List.map_cons, ih]

/-- The times under the key of a call that its cutoff keeps. -/
def Send.kept (c : Send) (chatRecent : ChatRecent) : List ℤ :=
  ((chatRecent.lookup c.key).getD []).filter (c.now - chatRateLimitWindow < ·)

theorem allowChatSend_cases (c : Send) (chatRecent : ChatRecent) :
    (c.kept chatRecent).length < chatRateLimitBurst ∧
        allowChatSend chatRecent c.conversationID c.userID c.now =
          (true, chatRecent.insert c.key (c.kept chatRecent ++ [c.now])) ∨
      chatRateLimitBurst ≤ (c.kept chatRecent).length ∧
        allowChatSend chatRecent c.conversationID c.userID c.now =
          (false, chatRecent.insert c.key (c.kept chatRecent)) := by
  have hkept : Slice.filterInPlace (c.now - chatRateLimitWindow < ·)
      ((chatRecent.lookup (chatKey c.conversationID c.userID)).getD []) = c.kept chatRecent :=
    Slice.filterInPlace_eq_filter ..
  unfold allowChatSend
  dsimp only
  rw [hkept]
  split_ifs with hfull
  · exact .inr ⟨hfull, rfl⟩
  · exact .inl ⟨Nat.not_le.1 hfull, rfl⟩

/-! ## What is stored -/

/-- What is stored for a key counts at any later time as much as all that was accepted. -/
def Stored (log : List (Send × Bool)) (chatRecent : ChatRecent) : Prop :=
  ∀ k t, (∀ e ∈ log, e.1.now ≤ t) →
    ((chatRecent.lookup k).getD []).countP (t - chatRateLimitWindow < ·) =
      admitted Send.key Send.now (Within chatRateLimitWindow t) k log

variable {log : List (Send × Bool)} {chatRecent : ChatRecent} {c : Send} {calls : List Send}

theorem stored_empty : Stored [] ∅ := fun _ _ _ => rfl

theorem Stored.length_kept (h : Stored log chatRecent) (hlast : ∀ e ∈ log, e.1.now ≤ c.now) :
    (c.kept chatRecent).length =
      admitted Send.key Send.now (Within chatRateLimitWindow c.now) c.key log := by
  unfold Send.kept
  rw [← List.countP_eq_length_filter]
  exact h c.key c.now hlast

/-- What is kept counts at a later time as much as what was stored. -/
theorem countP_kept {t : ℤ} (ht : c.now ≤ t) :
    (c.kept chatRecent).countP (t - chatRateLimitWindow < ·) =
      ((chatRecent.lookup c.key).getD []).countP (t - chatRateLimitWindow < ·) := by
  unfold Send.kept
  rw [List.countP_filter]
  refine List.countP_congr fun ts _ => ?_
  simp only [Bool.and_eq_true, decide_eq_true_eq]
  exact and_iff_left_of_imp fun hts => by omega

/-- The times of a key are replaced by those that count as much, with the call if it was accepted. -/
theorem Stored.insert (h : Stored log chatRecent) (hlast : ∀ e ∈ log, e.1.now ≤ c.now) {ok : Bool}
    {times : List ℤ} (htimes : ∀ t, c.now ≤ t → times.countP (t - chatRateLimitWindow < ·) =
      ((chatRecent.lookup c.key).getD []).countP (t - chatRateLimitWindow < ·) +
        if ok = true ∧ Within chatRateLimitWindow t c.now then 1 else 0) :
    Stored (log ++ [(c, ok)]) (chatRecent.insert c.key times) := by
  intro k t ht
  have hc : c.now ≤ t := ht _ List.mem_concat_self
  have hold := h k t fun e he => (hlast e he).trans hc
  unfold admitted at hold ⊢
  rw [List.countP_append, List.countP_singleton, ← hold, Assoc.lookup_insert]
  by_cases hk : k = c.key
  · subst hk
    rw [if_pos rfl, Option.getD_some, htimes t hc]
    simp
  · rw [if_neg hk]
    simp [Ne.symm hk]

theorem Stored.next (h : Stored log chatRecent) (hlast : ∀ e ∈ log, e.1.now ≤ c.now) :
    let r := allowChatSend chatRecent c.conversationID c.userID c.now
    Answers Send.key Send.now chatRateLimitBurst chatRateLimitWindow log (c, r.1) ∧
      Stored (log ++ [(c, r.1)]) r.2 := by
  have hlen := h.length_kept hlast
  obtain ⟨hroom, hr⟩ | ⟨hfull, hr⟩ := allowChatSend_cases c chatRecent
  · rw [hlen] at hroom
    rw [hr]
    refine ⟨iff_of_true rfl hroom, h.insert hlast fun t ht => ?_⟩
    rw [List.countP_append, List.countP_singleton, countP_kept ht]
    simp [Within, ht]
  · rw [hlen] at hfull
    rw [hr]
    refine ⟨iff_of_false Bool.false_ne_true (Nat.not_lt.2 hfull), h.insert hlast fun t ht => ?_⟩
    rw [countP_kept ht]
    simp

/-- The log of all calls, if that of the earlier ones is exact. -/
theorem exact_append_sends (hlog : Exact Send.key Send.now chatRateLimitBurst chatRateLimitWindow log)
    (hstored : Stored log chatRecent)
    (hsorted : (log.map Prod.fst ++ calls).Pairwise (·.now ≤ ·.now)) :
    Exact Send.key Send.now chatRateLimitBurst chatRateLimitWindow (log ++ sends chatRecent calls) := by
  induction calls generalizing log chatRecent with
  | nil => rwa [sends, List.append_nil]
  | cons c calls ih =>
      have hlast : ∀ e ∈ log, e.1.now ≤ c.now := fun e he =>
        (List.pairwise_append.1 hsorted).2.2 e.1 (List.mem_map_of_mem he) c List.mem_cons_self
      obtain ⟨hanswer, hnext⟩ := hstored.next hlast
      rw [sends, List.append_cons]
      refine ih (exact_concat.2 ⟨hlog, hanswer⟩) hnext ?_
      rwa [List.map_append, List.map_singleton, ← List.append_cons]

/-! ## Keys -/

/-- The last separator of a list divides it. -/
theorem append_cons_inj {α : Type} {a : α} {xs ys xs' ys' : List α} (hy : a ∉ ys) (hy' : a ∉ ys')
    (h : xs ++ a :: ys = xs' ++ a :: ys') : xs = xs' ∧ ys = ys' := by
  obtain ⟨as, hxs, has⟩ | ⟨as, hxs, has⟩ := List.append_eq_append_iff.1 h
  · cases as with
    | nil => exact ⟨by rw [hxs, List.append_nil], List.tail_eq_of_cons_eq has⟩
    | cons b as =>
        refine absurd ?_ hy
        rw [List.tail_eq_of_cons_eq has]
        exact List.mem_append_right _ List.mem_cons_self
  · cases as with
    | nil => exact ⟨by rw [hxs, List.append_nil], (List.tail_eq_of_cons_eq has).symm⟩
    | cons b as =>
        refine absurd ?_ hy'
        rw [List.tail_eq_of_cons_eq has]
        exact List.mem_append_right _ List.mem_cons_self

/-- The key tells the users of the conversations apart, if no user has a colon in his id. -/
theorem chatKey_inj {c c' : Send} (hc : ':' ∉ c.userID.toList) (hc' : ':' ∉ c'.userID.toList) :
    c.key = c'.key ↔ (c.conversationID, c.userID) = (c'.conversationID, c'.userID) := by
  constructor
  · intro hkey
    have hlist := congrArg String.toList hkey
    have hcolon : ":".toList = [':'] := rfl
    simp only [Send.key, chatKey, String.toList_append, hcolon, List.append_assoc,
      List.singleton_append] at hlist
    obtain ⟨hconversation, huser⟩ := append_cons_inj hc hc' hlist
    rw [String.toList_injective hconversation, String.toList_injective huser]
  · intro hpair
    obtain ⟨hconversation, huser⟩ := Prod.mk.inj hpair
    rw [Send.key, Send.key, hconversation, huser]

/-- `newUserID`, from the digits of the twelve bytes that it reads. -/
def newUserID (random : List (Fin 16)) : String :=
  "u_" ++ String.ofList ((random.take 24).map Persistence.hexDigit)

theorem colon_notMem_newUserID (random : List (Fin 16)) : ':' ∉ (newUserID random).toList := by
  have hdigit : ∀ d, Persistence.hexDigit d ≠ ':' := by decide
  rw [newUserID, String.toList_append, List.mem_append, not_or]
  refine ⟨by decide, fun hmem => ?_⟩
  rw [String.toList_ofList] at hmem
  obtain ⟨d, -, hd⟩ := List.mem_map.1 hmem
  exact hdigit d hd

/-! ## The window -/

/-- The limiter is an exact sliding window over the keys of the calls: a call is accepted exactly when fewer
than five earlier ones with its key were in the ten seconds up to it, no half-open window of ten seconds holds
more than five, a rejected call changes no other answer, and neither do the calls with other keys. -/
structure ExactWindow {κ : Type} [DecidableEq κ] (key : Send → κ) (calls : List Send) : Prop where
  exact : ∀ pre c ok post, sends ∅ calls = pre ++ (c, ok) :: post →
    (ok = true ↔ admitted key Send.now (Within chatRateLimitWindow c.now) (key c) pre < 5)
  bounded : ∀ k t,
    admitted key Send.now (fun s => t - chatRateLimitWindow < s ∧ s ≤ t) k (sends ∅ calls) ≤ 5 ∧
      admitted key Send.now (fun s => t ≤ s ∧ s < t + chatRateLimitWindow) k (sends ∅ calls) ≤ 5
  undelayed : ∀ pre c post, sends ∅ calls = pre ++ (c, false) :: post →
    sends ∅ (pre.map Prod.fst ++ post.map Prod.fst) = pre ++ post
  independent : ∀ k, sends ∅ (calls.filter fun c => key c = k) =
    (sends ∅ calls).filter fun e => key e.1 = k

section ExactWindow

variable {κ : Type} [DecidableEq κ] {key : Send → κ}

theorem exact_sends (hkey : ∀ c ∈ calls, ∀ c' ∈ calls, c.key = c'.key ↔ key c = key c')
    (hsorted : calls.Pairwise (·.now ≤ ·.now)) :
    Exact key Send.now chatRateLimitBurst chatRateLimitWindow (sends ∅ calls) := by
  have hexact : Exact Send.key Send.now chatRateLimitBurst chatRateLimitWindow ([] ++ sends ∅ calls) :=
    exact_append_sends exact_nil stored_empty hsorted
  have hmem : ∀ e ∈ sends ∅ calls, e.1 ∈ calls := fun e he => by
    rw [← map_fst_sends ∅ calls]
    exact List.mem_map_of_mem he
  exact hexact.congr_key fun e he e' he' => hkey e.1 (hmem e he) e'.1 (hmem e' he')

theorem exactWindow_of_key (hkey : ∀ c ∈ calls, ∀ c' ∈ calls, c.key = c'.key ↔ key c = key c')
    (hsorted : calls.Pairwise (·.now ≤ ·.now)) : ExactWindow key calls := by
  have hexact := exact_sends hkey hsorted
  have hreq := map_fst_sends ∅ calls
  have hlog : (sends ∅ calls).Pairwise (Send.now ·.1 ≤ Send.now ·.1) := by
    rw [← hreq] at hsorted
    exact hsorted.of_map Prod.fst fun _ _ hle => hle
  have hsub : ∀ calls', calls'.Sublist calls →
      Exact key Send.now chatRateLimitBurst chatRateLimitWindow (sends ∅ calls') := fun calls' hsub =>
    exact_sends (fun c hc c' hc' => hkey c (hsub.subset hc) c' (hsub.subset hc')) (hsorted.sublist hsub)
  refine ⟨fun pre c ok post hsends => hexact pre (c, ok) post hsends, fun k t => ⟨?_, ?_⟩,
    fun pre c post hsends => ?_, fun k => ?_⟩
  · exact hexact.admitted_le hlog (fun s s' hs hs' => by omega) k
  · exact hexact.admitted_le hlog (fun s s' hs hs' => by omega) k
  · rw [hsends] at hexact hreq
    refine (hsub _ ?_).unique hexact.remove ?_
    · rw [← hreq, List.map_append, List.map_cons]
      exact (List.sublist_cons_self _ _).append_left _
    · rw [map_fst_sends, List.map_append]
  · refine (hsub _ List.filter_sublist).unique (hexact.filter fun e he hk e' he' hok hkey' => ?_) ?_
    · rw [hkey']
      exact hk
    · rw [map_fst_sends]
      conv_lhs => rw [← hreq, List.filter_map]
      rfl

end ExactWindow

/-- For every sequence of calls the limiter is an exact sliding window over its own keys; these are the
pairs of a conversation and a user wherever no user has a colon in his id (`newUserID`). -/
theorem allowChatSend_window {calls : List Send} (hsorted : calls.Pairwise (·.now ≤ ·.now)) :
    ExactWindow Send.key calls ∧
      ((∀ c ∈ calls, ':' ∉ c.userID.toList) →
        ExactWindow (fun c => (c.conversationID, c.userID)) calls) :=
  ⟨exactWindow_of_key (fun _ _ _ _ => Iff.rfl) hsorted, fun hcolon =>
    exactWindow_of_key (fun c hc c' hc' => chatKey_inj (hcolon c hc) (hcolon c' hc')) hsorted⟩

/-- Six messages within ten seconds, one in another conversation, and one when the first is ten seconds old. -/
def eightSends : List Send :=
  [⟨"lobby:a", "u_1", 0⟩, ⟨"lobby:a", "u_1", 1000000000⟩, ⟨"lobby:a", "u_1", 2000000000⟩,
    ⟨"lobby:a", "u_1", 3000000000⟩, ⟨"lobby:a", "u_1", 4000000000⟩, ⟨"lobby:a", "u_1", 5000000000⟩,
    ⟨"match:b", "u_1", 5000000000⟩, ⟨"lobby:a", "u_1", 10000000000⟩]

/-- The sixth message is rejected, and the first of the window has left it when the last one is sent. -/
theorem allowChatSend_window_eightSends :
    (sends ∅ eightSends).map Prod.snd = [true, true, true, true, true, false, true, true] ∧
      ExactWindow Send.key eightSends ∧
      ExactWindow (fun c => (c.conversationID, c.userID)) eightSends :=
  have hwindow := @allowChatSend_window eightSends (by decide +kernel)
  ⟨by decide +kernel, hwindow.1, hwindow.2 (by decide +kernel)⟩

end GeoDuels.Chat
