import GeoDuels.AuthSessions.CookieJar
import GeoDuels.Decimal

/-!
# The sessions of the pages

`SessionController` of the web client keeps the promise of a request in progress and gives it to every other
caller, so a page has at most one `bootstrapSession` and one `refreshSession` in progress.  But both rotate the
cookie, and all pages of a browser share it.  The browser stays logged in exactly when, each time that nothing
is in progress any more, the response that came last is the one to the request that rotated last
(`staysLoggedIn_iff`).  A page that makes one kind of request only is never logged out by its own calls
(`staysLoggedIn_of_callsOnly`).  No page is closed while it waits here, and no response is lost.
-/

namespace GeoDuels.AuthSessions.SessionController

open ReadCommitted (view update rowsAffected)
open CookieJar (Accepts cookie get_eq_some get_eq_none)

/-- `bootstrapSession` asks the handler `session`, and `refreshSession` the handler `refresh`. -/
inductive Kind where
  | bootstrapSession | refreshSession
  deriving DecidableEq

/-- What a promise waits for: the server works on the request, or its response is on the way with the cookie
that it sets. -/
inductive Stage where
  | request (number : ℕ) (proc : SessionProc)
  | response (number : ℕ) (cookie : Option TokenHash)

def Stage.number : Stage → ℕ
  | .request n _ | .response n _ => n

/-- The promises of all pages, and the request that rotated the session last. -/
structure World where
  db : DB
  jar : Option TokenHash
  promises : Assoc (ℕ × Kind) Stage := ∅
  sent : ℕ := 0
  rotated : Option ℕ := none

inductive Act where
  | call (page : ℕ) (kind : Kind)
  | run (page : ℕ) (kind : Kind) (e : Moment)
  | settle (page : ℕ) (kind : Kind)

namespace World

/-- A request is sent with the cookie of the browser; without one the handlers refuse it. -/
def send (next : ℕ → TokenHash) (w : World) (key : ℕ × Kind) : World :=
  { w with
    promises := w.promises.insert key
      (match w.jar with
        | some hash => .request w.sent (.refresh hash (next w.sent) .get)
        | none => .response w.sent none)
    sent := w.sent + 1 }

/-- The server has run the request `n` to its end. -/
def respond (next : ℕ → TokenHash) (w : World) (key : ℕ × Kind) (n : ℕ) (rows : DB) : World :=
  { w with
    db := view rows w.db
    promises := w.promises.insert key (.response n (cookie (next n) rows))
    rotated := if rowsAffected rows = 0 then w.rotated else some n }

/-- A call of the controller, the next statement of a request, or a response that arrives; the request `n`
makes the token `next n`. -/
def step (ttl : ℕ) (next : ℕ → TokenHash) (w : World) : Act → Option World
  | .call page kind => some (if (page, kind) ∈ w.promises then w else w.send next (page, kind))
  | .run page kind e =>
      match w.promises.lookup (page, kind) with
      | some (.request n p) =>
          match p.run ttl w.db e with
          | (rows, some p') =>
              some { w with
                db := view rows w.db
                promises := w.promises.insert (page, kind) (.request n p') }
          | (rows, none) => some (w.respond next (page, kind) n rows)
      | _ => none
  | .settle page kind =>
      match w.promises.lookup (page, kind) with
      | some (.response _ c) => some { w with jar := c, promises := w.promises.erase (page, kind) }
      | _ => none

end World

/-- The browser has a cookie, and its pages wait for nothing. -/
def World.init (db : DB) (hash : TokenHash) : World := { db := db, jar := some hash }

/-- The server knows the cookie as that of the session and accepts it until the session expires. -/
def LoggedIn (sid : SessionID) (w : World) : Prop :=
  ∃ row, w.db.lookup sid = some row ∧ ∀ now ≤ row.expiresAt, ∃ t ∈ w.jar, Accepts w.db t now

/-- A response after which nothing is in progress is the one to the request that has rotated last. -/
def LastRotated (w : World) : Act → Prop
  | .settle page kind => (w.promises.erase (page, kind)).keys = [] →
      ∀ s ∈ w.promises.lookup (page, kind), w.rotated = some s.number
  | _ => True

instance (w : World) : DecidablePred (LastRotated w)
  | .settle page kind => inferInstanceAs (Decidable ((w.promises.erase (page, kind)).keys = [] →
      ∀ s ∈ w.promises.lookup (page, kind), w.rotated = some s.number))
  | .call .. | .run .. => .isTrue trivial

/-! ## The numbers of the requests -/

/-- No two requests in progress have one number. -/
structure Numbered (promises : Assoc (ℕ × Kind) Stage) (sent : ℕ) : Prop where
  lt : ∀ key s, promises.lookup key = some s → s.number < sent
  distinct : ∀ key key' s s', promises.lookup key = some s → promises.lookup key' = some s' →
    s.number = s'.number → key = key'

namespace Numbered

variable {promises : Assoc (ℕ × Kind) Stage} {sent : ℕ} {key : ℕ × Kind} {s s' : Stage}

theorem send (h : Numbered promises sent) (hs : s.number = sent) :
    Numbered (promises.insert key s) (sent + 1) where
  lt k r hr := by
    rcases Assoc.of_lookup_insert hr with ⟨-, rfl⟩ | ⟨-, hr⟩
    · omega
    · exact Nat.lt_succ_of_lt (h.lt k r hr)
  distinct k k' r r' hr hr' heq := by
    rcases Assoc.of_lookup_insert hr with ⟨rfl, rfl⟩ | ⟨-, hold⟩ <;>
      rcases Assoc.of_lookup_insert hr' with ⟨rfl, rfl⟩ | ⟨-, hold'⟩
    · rfl
    · have hlt := h.lt k' r' hold'
      omega
    · have hlt := h.lt k r hold
      omega
    · exact h.distinct k k' r r' hold hold' heq

theorem replace (h : Numbered promises sent) (hs : promises.lookup key = some s)
    (hnumber : s'.number = s.number) : Numbered (promises.insert key s') sent where
  lt k r hr := by
    rcases Assoc.of_lookup_insert hr with ⟨-, rfl⟩ | ⟨-, hr⟩
    · exact hnumber ▸ h.lt key s hs
    · exact h.lt k r hr
  distinct k k' r r' hr hr' heq := by
    rcases Assoc.of_lookup_insert hr with ⟨rfl, rfl⟩ | ⟨-, hold⟩ <;>
      rcases Assoc.of_lookup_insert hr' with ⟨rfl, rfl⟩ | ⟨-, hold'⟩
    · rfl
    · exact h.distinct _ k' s r' hs hold' (hnumber.symm.trans heq)
    · exact h.distinct k _ r s hold hs (heq.trans hnumber)
    · exact h.distinct k k' r r' hold hold' heq

theorem erase (h : Numbered promises sent) : Numbered (promises.erase key) sent where
  lt k r hr := h.lt k r (Assoc.of_lookup_erase hr).2
  distinct k k' r r' hr hr' :=
    h.distinct k k' r r' (Assoc.of_lookup_erase hr).2 (Assoc.of_lookup_erase hr').2

end Numbered

/-! ## The session and its tokens -/

section

variable {ttl : ℕ} {next : ℕ → TokenHash} {db : DB} {sid : SessionID} {row : SessionRow} {w w' : World}
  {a : Act} {t : TokenHash} {key : ℕ × Kind} {n : ℕ} {p : SessionProc}

/-- The session is not revoked, and the tokens that the requests make are new. -/
structure Started (next : ℕ → TokenHash) (db : DB) (sid : SessionID) (row : SessionRow) : Prop where
  unique : UniqueHashes db
  session : db.lookup sid = some row
  live : row.revokedAt = none
  injective : Function.Injective next
  fresh : ∀ n id row', db.lookup id = some row' → row'.refreshTokenHash ≠ next n

/-- The token of the session. -/
def current (next : ℕ → TokenHash) (row : SessionRow) (rotated : Option ℕ) : TokenHash :=
  rotated.elim row.refreshTokenHash next

/-- The first token of the session, or one that a request has made. -/
def Known (next : ℕ → TokenHash) (row : SessionRow) (t : TokenHash) : Prop :=
  t = row.refreshTokenHash ∨ ∃ n, t = next n

/-- What holds of a promise: a request that is in progress has not rotated, and the response to the one that
has rotated last brings the token of the session. -/
def Fine (next : ℕ → TokenHash) (sid : SessionID) (row : SessionRow) (rotated : Option ℕ) : Stage → Prop
  | .request n p => rotated ≠ some n ∧ ∃ t, Known next row t ∧
      (p = .refresh t (next n) .get ∨ p = .refresh t (next n) (.rotate sid))
  | .response n c => (∀ t ∈ c, t = next n) ∧ (rotated = some n → c = some (next n))

structure Inv (next : ℕ → TokenHash) (db : DB) (sid : SessionID) (row : SessionRow) (w : World) : Prop where
  others : ∀ id, id ≠ sid → w.db.lookup id = db.lookup id
  session : ∃ r, w.db.lookup sid = some r ∧ r.refreshTokenHash = current next row w.rotated ∧
    r.revokedAt = none
  numbered : Numbered w.promises w.sent
  rotated : ∀ n ∈ w.rotated, n < w.sent
  promises : ∀ key s, w.promises.lookup key = some s → Fine next sid row w.rotated s
  jar : ∀ t ∈ w.jar, Known next row t

theorem Known.current (next : ℕ → TokenHash) (row : SessionRow) (rotated : Option ℕ) :
    Known next row (current next row rotated) := by
  cases rotated with
  | none => exact .inl rfl
  | some n => exact .inr ⟨n, rfl⟩

theorem current_eq_next (h : Started next db sid row) {rotated : Option ℕ}
    (heq : current next row rotated = next n) : rotated = some n := by
  cases rotated with
  | none => exact absurd heq (h.fresh n sid row h.session)
  | some m => rw [h.injective heq]

/-- Only the session has a token that is known. -/
theorem Inv.eq_sid (hw : Inv next db sid row w) (h : Started next db sid row) (ht : Known next row t)
    {id : SessionID} {r : SessionRow} (hr : w.db.lookup id = some r) (hhash : r.refreshTokenHash = t) :
    id = sid := by
  by_contra hid
  rw [hw.others id hid] at hr
  rcases ht with rfl | ⟨n, rfl⟩
  · exact hid (h.unique id sid r row hr h.session hhash)
  · exact h.fresh n id r hr hhash

theorem Inv.unique (hw : Inv next db sid row w) (h : Started next db sid row) : UniqueHashes w.db := by
  intro i j r r' hr hr' heq
  obtain ⟨s, hs, hhash, -⟩ := hw.session
  have hknown : Known next row s.refreshTokenHash := hhash ▸ Known.current next row w.rotated
  by_cases hi : i = sid
  · rw [hi, hs] at hr
    rw [hi, hw.eq_sid h hknown hr' (by rw [← heq, Option.some.inj hr])]
  by_cases hj : j = sid
  · rw [hj, hs] at hr'
    rw [hj, hw.eq_sid h hknown hr (by rw [heq, Option.some.inj hr'])]
  · rw [hw.others i hi] at hr
    rw [hw.others j hj] at hr'
    exact h.unique i j r r' hr hr' heq

theorem Inv.get (hw : Inv next db sid row w) (h : Started next db sid row) (ht : Known next row t)
    {id : SessionID} {r : SessionRow} (hget : getAuthSessionByRefreshToken w.db t = some (id, r)) :
    id = sid ∧ w.db.lookup sid = some r ∧ r.refreshTokenHash = t := by
  unfold getAuthSessionByRefreshToken at hget
  obtain ⟨entry, hfind, heq⟩ := Option.map_eq_some_iff.1 hget
  obtain ⟨rfl, rfl⟩ := Prod.mk.inj heq
  have hlookup : w.db.lookup entry.1 = some entry.2 :=
    Assoc.mem_entries_iff.1 (List.mem_of_find?_eq_some hfind)
  have hhash : entry.2.refreshTokenHash = t := by simpa using List.find?_some hfind
  have hid := hw.eq_sid h ht hlookup hhash
  exact ⟨hid, hid ▸ hlookup, hhash⟩

/-- The browser is logged in with the token of the session, and with no other cookie. -/
theorem Inv.loggedIn_iff (hw : Inv next db sid row w) (h : Started next db sid row) :
    LoggedIn sid w ↔ w.jar = some (current next row w.rotated) := by
  obtain ⟨r, hr, hhash, hlive⟩ := hw.session
  constructor
  · rintro ⟨r', hr', haccepts⟩
    obtain ⟨t, ht, id, s, hget, -⟩ := haccepts r'.expiresAt le_rfl
    obtain ⟨-, hs, rfl⟩ := hw.get h (hw.jar t ht) hget
    rw [hr] at hs
    rw [Option.mem_def.1 ht, ← hhash, Option.some.inj hs]
  · intro hjar
    exact ⟨r, hr, fun now hnow => ⟨_, hjar, sid, r, get_eq_some (hw.unique h) hr hhash, hlive, hnow⟩⟩

/-! ## The steps -/

/-- The statements of a request read the session, rotate it, or end the request in vain. -/
theorem Inv.run_cases (hw : Inv next db sid row w) (h : Started next db sid row) (ttl : ℕ) (e : Moment)
    (hp : Fine next sid row w.rotated (.request n p)) :
    (∃ t, Known next row t ∧ p.run ttl w.db e = (∅, some (.refresh t (next n) (.rotate sid)))) ∨
      p.run ttl w.db e = (∅, none) ∨
      ∃ r, r.refreshTokenHash = next n ∧ r.revokedAt = none ∧
        p.run ttl w.db e = (AList.insert sid r ∅, none) := by
  obtain ⟨-, t, ht, rfl | rfl⟩ := hp
  · cases hget : getAuthSessionByRefreshToken w.db t with
    | none => exact .inr (.inl (by simp [SessionProc.run, hget]))
    | some found =>
        obtain ⟨id, r⟩ := found
        obtain ⟨rfl, -⟩ := hw.get h ht hget
        by_cases hgone : r.revokedAt ≠ none ∨ r.expiresAt < e.now 0
        · exact .inr (.inl (by simp only [SessionProc.run, hget, if_pos hgone]))
        · exact .inl ⟨t, ht, by simp only [SessionProc.run, hget, if_neg hgone]⟩
  · refine .inr ?_
    simp only [SessionProc.run, rotateAuthSession]
    rcases update_cases w.db sid fun r => if r.refreshTokenHash = t ∧ r.revokedAt = none then
        some { r with refreshTokenHash := next n, expiresAt := e.now 0 + ttl, lastUsedAt := e.now 1 }
      else none with hnone | ⟨r, r', -, hr', hinsert⟩
    · exact .inl (by rw [hnone])
    · split_ifs at hr' with hlive
      have heq := Option.some.inj hr'
      exact .inr ⟨r', by rw [← heq], by rw [← heq]; exact hlive.2, by rw [hinsert]⟩

theorem Inv.send (hw : Inv next db sid row w) : Inv next db sid row (w.send next key) where
  others := hw.others
  session := hw.session
  numbered := hw.numbered.send (by cases w.jar <;> rfl)
  rotated m hm := Nat.lt_succ_of_lt (hw.rotated m hm)
  promises k s hs := by
    rcases Assoc.of_lookup_insert hs with ⟨-, rfl⟩ | ⟨-, hs⟩
    · have hne : w.rotated ≠ some w.sent := fun heq => Nat.lt_irrefl _ (hw.rotated _ heq)
      cases hjar : w.jar with
      | none => exact ⟨fun _ ht => (Option.not_mem_none _ ht).elim, fun heq => absurd heq hne⟩
      | some hash => exact ⟨hne, hash, hw.jar hash hjar, .inl rfl⟩
    · exact hw.promises k s hs
  jar := hw.jar

/-- A request goes on. -/
theorem Inv.goOn (hw : Inv next db sid row w) (hlookup : w.promises.lookup key = some (.request n p))
    (ht : Known next row t) :
    Inv next db sid row { w with
      db := view ∅ w.db
      promises := w.promises.insert key (.request n (.refresh t (next n) (.rotate sid))) } where
  others id hid := by rw [ReadCommitted.view_empty, hw.others id hid]
  session := by simpa using hw.session
  numbered := hw.numbered.replace hlookup rfl
  rotated := hw.rotated
  promises k s hs := by
    rcases Assoc.of_lookup_insert hs with ⟨-, rfl⟩ | ⟨-, hs⟩
    · exact ⟨(hw.promises key _ hlookup).1, t, ht, .inr rfl⟩
    · exact hw.promises k s hs
  jar := hw.jar

/-- A request ends in vain. -/
theorem Inv.fail (hw : Inv next db sid row w) (hlookup : w.promises.lookup key = some (.request n p)) :
    Inv next db sid row (w.respond next key n ∅) where
  others id hid := (congrArg _ (ReadCommitted.view_empty w.db)).trans (hw.others id hid)
  session := by
    show ∃ r, (view ∅ w.db).lookup sid = some r ∧ _
    rw [ReadCommitted.view_empty]
    exact hw.session
  numbered := hw.numbered.replace hlookup rfl
  rotated := hw.rotated
  promises k s hs := by
    rcases Assoc.of_lookup_insert hs with ⟨-, rfl⟩ | ⟨-, hs⟩
    · exact ⟨fun _ ht => (Option.not_mem_none _ ht).elim,
        fun heq => absurd heq (hw.promises key _ hlookup).1⟩
    · exact hw.promises k s hs
  jar := hw.jar

/-- A request rotates the session. -/
theorem Inv.rotate (hw : Inv next db sid row w) (hlookup : w.promises.lookup key = some (.request n p))
    {r : SessionRow} (hhash : r.refreshTokenHash = next n) (hlive : r.revokedAt = none) :
    Inv next db sid row (w.respond next key n (AList.insert sid r ∅)) where
  others id hid := by
    show (view (AList.insert sid r ∅) w.db).lookup id = _
    rw [lookup_view_insert, if_neg hid, hw.others id hid]
  session := ⟨r, by
    show (view (AList.insert sid r ∅) w.db).lookup sid = _
    rw [lookup_view_insert, if_pos rfl], hhash, hlive⟩
  numbered := hw.numbered.replace hlookup rfl
  rotated m hm := by
    obtain rfl := Option.some.inj hm
    exact hw.numbered.lt key _ hlookup
  promises k s hs := by
    rcases Assoc.of_lookup_insert hs with ⟨-, rfl⟩ | ⟨hk, hs⟩
    · exact ⟨fun t ht => (Option.some.inj ht).symm, fun _ => rfl⟩
    · -- the other promises have other numbers
      have hne : some n ≠ some s.number := fun heq =>
        hk (hw.numbered.distinct k key s _ hs hlookup (Option.some.inj heq).symm)
      have hfine := hw.promises k s hs
      cases s with
      | request m q => exact ⟨hne, hfine.2⟩
      | response m c => exact ⟨hfine.1, fun heq => absurd heq hne⟩
  jar := hw.jar

theorem Inv.settle (hw : Inv next db sid row w) {c : Option TokenHash}
    (hlookup : w.promises.lookup key = some (.response n c)) :
    Inv next db sid row { w with jar := c, promises := w.promises.erase key } where
  others := hw.others
  session := hw.session
  numbered := hw.numbered.erase
  rotated := hw.rotated
  promises k s hs := hw.promises k s (Assoc.of_lookup_erase hs).2
  jar t ht := .inr ⟨n, (hw.promises key _ hlookup).1 t ht⟩

theorem Inv.init (h : Started next db sid row) :
    Inv next db sid row (World.init db row.refreshTokenHash) where
  others _ _ := rfl
  session := ⟨row, h.session, rfl, h.live⟩
  numbered := ⟨fun _ _ hs => (by cases hs), fun _ _ _ _ hs => by cases hs⟩
  rotated _ hm := by cases hm
  promises _ _ hs := by cases hs
  jar _ ht := .inl (Option.some.inj ht).symm

theorem Inv.step (hw : Inv next db sid row w) (h : Started next db sid row)
    (hs : w.step ttl next a = some w') : Inv next db sid row w' := by
  cases a with
  | call page kind =>
      simp only [World.step, Option.some.injEq] at hs
      subst hs
      split_ifs
      · exact hw
      · exact hw.send
  | run page kind e =>
      simp only [World.step] at hs
      split at hs
      · next n p hlookup =>
        rcases hw.run_cases h ttl e (hw.promises _ _ hlookup) with
          ⟨t, ht, hrun⟩ | hrun | ⟨r, hhash, hlive, hrun⟩ <;> rw [hrun] at hs <;>
          obtain rfl := Option.some.inj hs
        · exact hw.goOn hlookup ht
        · exact hw.fail hlookup
        · exact hw.rotate hlookup hhash hlive
      · cases hs
  | settle page kind =>
      simp only [World.step] at hs
      split at hs
      · next n c hlookup =>
        obtain rfl := Option.some.inj hs
        exact hw.settle hlookup
      · cases hs

theorem keys_ne_nil {promises : Assoc (ℕ × Kind) Stage} (h : key ∈ promises) : promises.keys ≠ [] :=
  List.ne_nil_of_mem (AList.mem_keys.1 h)

/-- The pages wait for nothing any more when a response has arrived. -/
theorem settled_of_quiet (hs : w.step ttl next a = some w') (hquiet : w'.promises.keys = []) :
    ∃ page kind n c, a = .settle page kind ∧ w.promises.lookup (page, kind) = some (.response n c) ∧
      w' = { w with jar := c, promises := w.promises.erase (page, kind) } := by
  cases a with
  | call page kind =>
      simp only [World.step, Option.some.injEq] at hs
      subst hs
      split_ifs at hquiet with hpending
      · exact absurd hquiet (keys_ne_nil hpending)
      · exact absurd hquiet (keys_ne_nil ((AList.mem_insert _).2 (.inl rfl)))
  | run page kind e =>
      simp only [World.step] at hs
      split at hs
      · split at hs <;> obtain rfl := Option.some.inj hs <;>
          exact absurd hquiet (keys_ne_nil ((AList.mem_insert _).2 (.inl rfl)))
      · cases hs
  | settle page kind =>
      simp only [World.step] at hs
      split at hs
      · next n c hlookup => exact ⟨page, kind, n, c, rfl, hlookup, (Option.some.inj hs).symm⟩
      · cases hs

/-- However the pages of a browser call `bootstrapSession` and `refreshSession`, and however their requests
run: whenever none of them waits, the browser is logged in, exactly if each response after which nothing was in
progress was the one to the request that had rotated last. -/
theorem staysLoggedIn_iff (ttl : ℕ) (next : ℕ → TokenHash) (db : DB) (sid : SessionID) (row : SessionRow)
    (h : Started next db sid row) (as : List Act) :
    Run.Always (World.step ttl next) (fun w => w.promises.keys = [] → LoggedIn sid w)
        (World.init db row.refreshTokenHash) as ↔
      Run.Guarded (World.step ttl next) LastRotated (World.init db row.refreshTokenHash) as := by
  refine Run.always_iff_guarded (fun w => Inv next db sid row w ∧
    (w.promises.keys = [] → w.jar = some (current next row w.rotated))) ?_ ?_ ?_ ⟨.init h, fun _ => rfl⟩
  · rintro w a w' ⟨hw, -⟩ hlast hs
    refine ⟨hw.step h hs, fun hquiet => ?_⟩
    obtain ⟨page, kind, n, c, rfl, hlookup, rfl⟩ := settled_of_quiet hs hquiet
    have hrotated : w.rotated = some n := hlast hquiet _ hlookup
    have hc : c = some (next n) := (hw.promises _ _ hlookup).2 hrotated
    show c = some (current next row w.rotated)
    rw [hc, hrotated]
    rfl
  · rintro w ⟨hw, hjar⟩ hquiet
    exact (hw.loggedIn_iff h).2 (hjar hquiet)
  · rintro w a w' ⟨hw, -⟩ hnot hs hlogged
    refine hnot ?_
    cases a with
    | call page kind => trivial
    | run page kind e => trivial
    | settle page kind =>
        intro hquiet s hlookup
        simp only [World.step] at hs
        split at hs
        · next n c hresponse =>
          obtain rfl := Option.some.inj hs
          obtain rfl := Option.some.inj (hresponse.symm.trans hlookup)
          have hjar := ((hw.settle hresponse).loggedIn_iff h).1 (hlogged hquiet)
          exact current_eq_next h ((hw.promises _ _ hresponse).1 _ hjar)
        · cases hs

/-! ## One request at a time -/

/-- No request finds the session expired. -/
def InTime (sid : SessionID) (w : World) : Act → Prop
  | .run _ _ e => ∀ r ∈ w.db.lookup sid, e.now 0 ≤ r.expiresAt
  | .call .. | .settle .. => True

instance (sid : SessionID) (w : World) : DecidablePred (InTime sid w)
  | .run _ _ e => inferInstanceAs (Decidable (∀ r ∈ w.db.lookup sid, e.now 0 ≤ r.expiresAt))
  | .call .. | .settle .. => .isTrue trivial

/-- A request is sent when no other one is in progress, and none finds the session expired. -/
def OneAtATime (sid : SessionID) (w : World) : Act → Prop
  | .call page kind => ∀ key ∈ w.promises.keys, key = (page, kind)
  | a => InTime sid w a

def Act.CallsOnly (page : ℕ) (kind : Kind) : Act → Prop
  | .call page' kind' => page' = page ∧ kind' = kind
  | .run .. | .settle .. => True

instance (page : ℕ) (kind : Kind) : DecidablePred (Act.CallsOnly page kind)
  | .call .. => inferInstanceAs (Decidable (_ ∧ _))
  | .run .. | .settle .. => .isTrue trivial

/-- What holds of the only promise: its request has been sent with the token of the session, and its response
brings the next one. -/
def Sole (next : ℕ → TokenHash) (sid : SessionID) (row : SessionRow) (rotated : Option ℕ) : Stage → Prop
  | .request n p => p = .refresh (current next row rotated) (next n) .get ∨
      p = .refresh (current next row rotated) (next n) (.rotate sid)
  | .response n _ => rotated = some n

/-- At most one request is in progress. -/
structure Single (next : ℕ → TokenHash) (sid : SessionID) (row : SessionRow) (w : World) : Prop where
  one : ∀ key ∈ w.promises, ∀ key' ∈ w.promises, key = key'
  promises : ∀ key s, w.promises.lookup key = some s → Sole next sid row w.rotated s
  quiet : w.promises.keys = [] → w.jar = some (current next row w.rotated)

theorem single_of_insert {promises : Assoc (ℕ × Kind) Stage} {s : Stage}
    (hpromises : w.promises = promises.insert key s) (hkey : ∀ k ∈ promises, k = key)
    (hs : Sole next sid row w.rotated s) : Single next sid row w := by
  have hmem (k : ℕ × Kind) (hk : k ∈ w.promises) : k = key := by
    rw [hpromises] at hk
    exact ((AList.mem_insert _).1 hk).elim id (hkey k)
  refine ⟨fun k hk k' hk' => (hmem k hk).trans (hmem k' hk').symm, fun k r hr => ?_, fun hkeys => ?_⟩
  · rw [hpromises] at hr
    rcases Assoc.of_lookup_insert hr with ⟨-, rfl⟩ | ⟨hk, hold⟩
    · exact hs
    · exact absurd (hkey k (Assoc.mem_iff_exists.2 ⟨r, hold⟩)) hk
  · rw [hpromises] at hkeys
    exact absurd hkeys (keys_ne_nil ((AList.mem_insert _).2 (.inl rfl)))

theorem Single.send (hw : Single next sid row w) (hquiet : w.promises.keys = []) :
    Single next sid row (w.send next key) := by
  have hnone (k : ℕ × Kind) (hk : k ∈ w.promises) : k = key := by
    rw [AList.mem_keys, hquiet] at hk
    cases hk
  unfold World.send
  rw [hw.quiet hquiet]
  exact single_of_insert rfl hnone (.inl rfl)

/-- The only request reads the session and then rotates it. -/
theorem Single.run_cases (hw : Single next sid row w) (hinv : Inv next db sid row w)
    (h : Started next db sid row) (ttl : ℕ) {e : Moment}
    (htime : ∀ r ∈ w.db.lookup sid, e.now 0 ≤ r.expiresAt)
    (hlookup : w.promises.lookup key = some (.request n p)) :
    p.run ttl w.db e = (∅, some (.refresh (current next row w.rotated) (next n) (.rotate sid))) ∨
      ∃ r, p.run ttl w.db e = (AList.insert sid r ∅, none) := by
  obtain ⟨r, hr, hhash, hlive⟩ := hinv.session
  rcases hw.promises key _ hlookup with rfl | rfl
  · exact .inl (CookieJar.run_get (get_eq_some (hinv.unique h) hr hhash) hlive (htime r hr))
  · exact .inr ⟨_, CookieJar.run_rotate hr hhash hlive⟩

theorem Single.settle (hw : Single next sid row w) (hinv : Inv next db sid row w) {c : Option TokenHash}
    (hlookup : w.promises.lookup key = some (.response n c)) :
    Single next sid row { w with jar := c, promises := w.promises.erase key } := by
  have hnone (k : ℕ × Kind) : k ∉ w.promises.erase key := by
    intro hk
    obtain ⟨hne, hmem⟩ := AList.mem_erase.1 hk
    exact hne (hw.one k hmem key (Assoc.mem_iff_exists.2 ⟨_, hlookup⟩))
  refine ⟨fun k hk => absurd hk (hnone k), fun k s hs => ?_, fun _ => ?_⟩
  · exact absurd (Assoc.mem_iff_exists.2 ⟨s, hs⟩) (hnone k)
  · have hrotated : w.rotated = some n := hw.promises key _ hlookup
    have hc : c = some (next n) := (hinv.promises key _ hlookup).2 hrotated
    show c = some (current next row w.rotated)
    rw [hc, hrotated]
    rfl

theorem Single.step (hw : Single next sid row w) (hinv : Inv next db sid row w)
    (h : Started next db sid row) (hone : OneAtATime sid w a) (hs : w.step ttl next a = some w') :
    Single next sid row w' := by
  cases a with
  | call page kind =>
      simp only [World.step, Option.some.injEq] at hs
      subst hs
      split_ifs with hpending
      · exact hw
      · refine hw.send (List.eq_nil_iff_forall_not_mem.2 fun k hk => hpending ?_)
        rw [← hone k hk]
        exact AList.mem_keys.2 hk
  | run page kind e =>
      simp only [World.step] at hs
      split at hs
      · next n p hlookup =>
        have hkey (k : ℕ × Kind) (hk : k ∈ w.promises) : k = (page, kind) :=
          hw.one k hk _ (Assoc.mem_iff_exists.2 ⟨_, hlookup⟩)
        rcases hw.run_cases hinv h ttl hone hlookup with hrun | ⟨r, hrun⟩ <;> rw [hrun] at hs <;>
          obtain rfl := Option.some.inj hs
        · exact single_of_insert rfl hkey (.inr rfl)
        · exact single_of_insert rfl hkey rfl
      · cases hs
  | settle page kind =>
      simp only [World.step] at hs
      split at hs
      · next n c hlookup =>
        obtain rfl := Option.some.inj hs
        exact hw.settle hinv hlookup
      · cases hs

/-- The browser stays logged in when its pages send their requests one after the other. -/
theorem staysLoggedIn_of_alone (ttl : ℕ) (next : ℕ → TokenHash) (db : DB) (sid : SessionID)
    (row : SessionRow) (h : Started next db sid row) (as : List Act)
    (halone : Run.Guarded (World.step ttl next) (OneAtATime sid) (World.init db row.refreshTokenHash) as) :
    Run.Always (World.step ttl next) (fun w => w.promises.keys = [] → LoggedIn sid w)
      (World.init db row.refreshTokenHash) as := by
  have hinit : Single next sid row (World.init db row.refreshTokenHash) :=
    ⟨fun _ hk => absurd hk (AList.notMem_empty _), fun _ _ hs => (by cases hs), fun _ => rfl⟩
  have hinv : Run.Always (World.step ttl next)
      (fun w => Inv next db sid row w ∧ Single next sid row w) (World.init db row.refreshTokenHash) as :=
    Run.always_of_invariant
      (fun w a w' hw hone hs => ⟨hw.1.step h hs, hw.2.step hw.1 h hone hs⟩) ⟨.init h, hinit⟩ halone
  exact hinv.mono fun w hw hquiet => (hw.1.loggedIn_iff h).2 (hw.2.quiet hquiet)

/-- Only a call makes a promise. -/
theorem mem_promises_step (hs : w.step ttl next a = some w') (hkey : key ∈ w'.promises) :
    key ∈ w.promises ∨ a = .call key.1 key.2 := by
  cases a with
  | call page kind =>
      simp only [World.step, Option.some.injEq] at hs
      subst hs
      split_ifs at hkey
      · exact .inl hkey
      · rcases (AList.mem_insert _).1 hkey with rfl | hkey
        · exact .inr rfl
        · exact .inl hkey
  | run page kind e =>
      simp only [World.step] at hs
      split at hs
      · next n p hlookup =>
        have hmem : (page, kind) ∈ w.promises := Assoc.mem_iff_exists.2 ⟨_, hlookup⟩
        split at hs <;> obtain rfl := Option.some.inj hs <;>
          exact .inl (((AList.mem_insert _).1 hkey).elim (fun heq => heq ▸ hmem) id)
      · cases hs
  | settle page kind =>
      simp only [World.step] at hs
      split at hs
      · obtain rfl := Option.some.inj hs
        exact .inl (AList.mem_erase.1 hkey).2
      · cases hs

theorem alone_of_callsOnly {page : ℕ} {kind : Kind} {as : List Act} {hash : TokenHash}
    (honly : ∀ a ∈ as, a.CallsOnly page kind)
    (htime : Run.Guarded (World.step ttl next) (InTime sid) (World.init db hash) as) :
    Run.Guarded (World.step ttl next) (OneAtATime sid) (World.init db hash) as := by
  refine @Run.along_of_invariant _ _ _ (fun w => ∀ key ∈ w.promises, key = (page, kind)) _ _ ?_ _ _ ?_
    (htime.and_forall honly)
  · rintro w a w' hkeys ⟨honly, htime⟩ hs
    refine ⟨fun key hkey => ?_, ?_⟩
    · rcases mem_promises_step hs hkey with hkey | rfl
      · exact hkeys key hkey
      · exact Prod.ext honly.1 honly.2
    · cases a with
      | call page' kind' =>
          obtain ⟨rfl, rfl⟩ := honly
          exact fun key hkey => hkeys key (AList.mem_keys.2 hkey)
      | run page' kind' e => exact htime
      | settle page' kind' => trivial
  · exact fun key hkey => absurd hkey (AList.notMem_empty _)

/-- The calls of a page for one kind of request never log it out, however many of them wait at once. -/
theorem staysLoggedIn_of_callsOnly (ttl : ℕ) (next : ℕ → TokenHash) (db : DB) (sid : SessionID)
    (row : SessionRow) (h : Started next db sid row) (page : ℕ) (kind : Kind) (as : List Act)
    (honly : ∀ a ∈ as, a.CallsOnly page kind)
    (htime : Run.Guarded (World.step ttl next) (InTime sid) (World.init db row.refreshTokenHash) as) :
    Run.Always (World.step ttl next) (fun w => w.promises.keys = [] → LoggedIn sid w)
      (World.init db row.refreshTokenHash) as :=
  staysLoggedIn_of_alone ttl next db sid row h as (alone_of_callsOnly honly htime)

end

/-! ### Two kinds of requests -/

def pageToken (n : ℕ) : TokenHash := "u" ++ strconv n

theorem started_oneSession : Started pageToken oneSession "s"
    { userID := "u", refreshTokenHash := "t0", expiresAt := 9, createdAt := 0, lastUsedAt := 0 } where
  unique := uniqueHashes_oneSession
  session := rfl
  live := rfl
  injective m n heq := strconv_injective ((String.append_right_inj "u").1 heq)
  fresh n id row hrow := by
    rcases Assoc.of_lookup_insert hrow with ⟨-, rfl⟩ | ⟨-, hrow⟩
    · intro heq
      have hlist : "t0".toList = "u".toList ++ (strconv n).toList := by
        rw [← String.toList_append]
        exact congrArg String.toList heq
      have hchar : 't' = 'u' := Option.some.inj (congrArg List.head? hlist)
      exact absurd hchar (by decide)
    · cases hrow

/-- A page is loaded and refreshes at once; the refresh comes too late, and its response last. -/
def bothKinds : List Act :=
  [.call 0 .bootstrapSession, .call 0 .refreshSession, .run 0 .bootstrapSession {},
    .run 0 .bootstrapSession {}, .run 0 .refreshSession {}, .settle 0 .bootstrapSession,
    .settle 0 .refreshSession]

theorem not_staysLoggedIn_bothKinds :
    ¬ Run.Always (World.step 5 pageToken) (fun w => w.promises.keys = [] → LoggedIn "s" w)
      (World.init oneSession "t0") bothKinds := by
  rw [staysLoggedIn_iff 5 pageToken oneSession "s" _ started_oneSession bothKinds]
  decide +kernel

/-- Two callers wait for one refresh, and a third one asks for the next. -/
def threeCallers : List Act :=
  [.call 0 .refreshSession, .run 0 .refreshSession {}, .call 0 .refreshSession, .run 0 .refreshSession {},
    .settle 0 .refreshSession, .call 0 .refreshSession, .run 0 .refreshSession {},
    .run 0 .refreshSession {}, .settle 0 .refreshSession]

theorem staysLoggedIn_threeCallers :
    (Run.exec (World.step 5 pageToken) (World.init oneSession "t0") threeCallers).isSome ∧
      Run.Always (World.step 5 pageToken) (fun w => w.promises.keys = [] → LoggedIn "s" w)
        (World.init oneSession "t0") threeCallers :=
  ⟨by decide +kernel, staysLoggedIn_of_callsOnly 5 pageToken oneSession "s" _ started_oneSession 0
    .refreshSession threeCallers (by decide) (by decide +kernel)⟩

end GeoDuels.AuthSessions.SessionController
