import GeoDuels.AuthSessions.SingleUse

/-!
# The refresh cookie of a browser

A browser sends several requests with the same refresh cookie.  Each runs the two statements of
`rotateSessionFromCookie`; one of them exchanges the token, and `session` and `refresh` clear the cookie
on behalf of the others.  The browser is still logged in exactly when the response of the request that
came first to its second statement is applied last (`accepted_iff`).
-/

namespace GeoDuels.AuthSessions.CookieJar

open ReadCommitted (view update rowsAffected)

/-- The sessions, the requests in progress, the responses on their way to the browser with the cookie
that they set (`none` clears it), and the cookie that the browser has. -/
structure Browser where
  db : DB
  requests : Assoc ℕ SessionProc
  responses : Assoc ℕ (Option TokenHash)
  jar : Option TokenHash

inductive Act where
  | run (id : ℕ) (e : Moment)
  | deliver (id : ℕ)

/-- `setRefreshCookie` after a rotation that has updated its row, and else `clearRefreshCookie`. -/
def cookie (nextHash : TokenHash) (rows : DB) : Option TokenHash :=
  if rowsAffected rows = 0 then none else some nextHash

/-- A statement of a request, or a response that the browser applies; the request `id` makes the token
`next id`. -/
def Browser.step (ttl : ℕ) (next : ℕ → TokenHash) (b : Browser) : Act → Option Browser
  | .run id e =>
      (b.requests.lookup id).map fun p =>
        let r := p.run ttl b.db e
        match r.2 with
        | some p' => { b with db := view r.1 b.db, requests := b.requests.insert id p' }
        | none =>
            { b with
              db := view r.1 b.db
              requests := b.requests.erase id
              responses := b.responses.insert id (cookie (next id) r.1) }
  | .deliver id =>
      (b.responses.lookup id).map fun c => { b with responses := b.responses.erase id, jar := c }

/-- The requests `ids` have been sent with the token `hash`. -/
def Browser.init (db : DB) (hash : TokenHash) (next : ℕ → TokenHash) (ids : List ℕ) : Browser where
  db := db
  requests := ids.foldl (fun rs id => rs.insert id (.refresh hash (next id) .get)) ∅
  responses := ∅
  jar := some hash

/-- The server accepts the token at `now`. -/
def Accepts (db : DB) (hash : TokenHash) (now : ℕ) : Prop :=
  ∃ id row, getAuthSessionByRefreshToken db hash = some (id, row) ∧ row.revokedAt = none ∧
    now ≤ row.expiresAt

/-- The request that came first to its second statement, among those that are not in `seen`. -/
def firstToRotate : List ℕ → List Act → Option ℕ
  | _, [] => none
  | seen, .run id _ :: as => if id ∈ seen then some id else firstToRotate (seen ++ [id]) as
  | seen, .deliver _ :: as => firstToRotate seen as

def delivered (as : List Act) : List ℕ :=
  as.filterMap fun
    | .deliver id => some id
    | .run _ _ => none

/-- The requests that have run a statement. -/
def ran (as : List Act) : List ℕ :=
  as.filterMap fun
    | .run id _ => some id
    | .deliver _ => none

@[simp] theorem ran_run (id : ℕ) (e : Moment) (as : List Act) : ran (.run id e :: as) = id :: ran as := rfl

@[simp] theorem ran_deliver (id : ℕ) (as : List Act) : ran (.deliver id :: as) = ran as := rfl

theorem firstToRotate_concat (seen : List ℕ) (as : List Act) (a : Act) :
    firstToRotate seen (as ++ [a]) = (firstToRotate seen as).or
      (match a with
        | .run id _ => if id ∈ seen ++ ran as then some id else none
        | .deliver _ => none) := by
  induction as generalizing seen with
  | nil => cases a <;> simp [firstToRotate, ran]
  | cons b bs ih =>
      cases b with
      | run id e =>
          by_cases hid : id ∈ seen
          · simp [firstToRotate, hid]
          · cases a <;> simp [firstToRotate, hid, ih]
      | deliver id => cases a <;> simp [firstToRotate, ih]

theorem mem_ran_concat {j : ℕ} {as : List Act} {a : Act} :
    j ∈ ran (as ++ [a]) ↔ j ∈ ran as ∨ ∃ e, a = .run j e := by
  unfold ran
  rw [List.filterMap_append, List.mem_append]
  cases a <;> simp [eq_comm]

theorem delivered_concat_run (as : List Act) (id : ℕ) (e : Moment) :
    delivered (as ++ [.run id e]) = delivered as := by
  simp [delivered]

theorem delivered_concat_deliver (as : List Act) (id : ℕ) :
    delivered (as ++ [.deliver id]) = delivered as ++ [id] := by
  simp [delivered]

/-! ## The session of the cookie -/

variable {db : DB} {id : SessionID} {hash : TokenHash} {row : SessionRow}

theorem get_eq_some (hdb : UniqueHashes db) (hrow : db.lookup id = some row)
    (hhash : row.refreshTokenHash = hash) : getAuthSessionByRefreshToken db hash = some (id, row) := by
  have hmem : (⟨id, row⟩ : Sigma fun _ => SessionRow) ∈ db.entries := Assoc.mem_entries_iff.2 hrow
  unfold getAuthSessionByRefreshToken
  cases hfind : db.entries.find? fun e => e.2.refreshTokenHash = hash with
  | none =>
      have hnone := List.find?_eq_none.1 hfind _ hmem
      simp [hhash] at hnone
  | some e =>
      have hlookup : db.lookup e.1 = some e.2 := Assoc.mem_entries_iff.1 (List.mem_of_find?_eq_some hfind)
      have heq : e.2.refreshTokenHash = hash := by simpa using List.find?_some hfind
      have hid := hdb e.1 id e.2 row hlookup hrow (heq.trans hhash.symm)
      rw [hid, hrow] at hlookup
      rw [Option.map_some, hid, Option.some.inj hlookup]

theorem get_eq_none (h : ∀ id row, db.lookup id = some row → row.refreshTokenHash ≠ hash) :
    getAuthSessionByRefreshToken db hash = none := by
  unfold getAuthSessionByRefreshToken
  rw [Option.map_eq_none_iff, List.find?_eq_none]
  intro e he
  simpa using h e.1 e.2 (Assoc.mem_entries_iff.1 he)

/-! ## Statements of a request -/

variable {ttl : ℕ} {nextHash : TokenHash} {e : Moment}

theorem run_get (hget : getAuthSessionByRefreshToken db hash = some (id, row)) (hlive : row.revokedAt = none)
    (htime : e.now 0 ≤ row.expiresAt) :
    SessionProc.run ttl (.refresh hash nextHash .get) db e =
      (∅, some (.refresh hash nextHash (.rotate id))) := by
  simp [SessionProc.run, hget, hlive, htime]

theorem run_get_gone (hget : getAuthSessionByRefreshToken db hash = none) :
    SessionProc.run ttl (.refresh hash nextHash .get) db e = (∅, none) := by
  simp [SessionProc.run, hget]

theorem run_rotate (hrow : db.lookup id = some row) (hhash : row.refreshTokenHash = hash)
    (hlive : row.revokedAt = none) :
    SessionProc.run ttl (.refresh hash nextHash (.rotate id)) db e =
      (AList.insert id { row with
        refreshTokenHash := nextHash, expiresAt := e.now 0 + ttl, lastUsedAt := e.now 1 } ∅, none) := by
  simp [SessionProc.run, rotateAuthSession, update, hrow, hhash, hlive]

theorem run_rotate_late (hrow : db.lookup id = some row) (hhash : row.refreshTokenHash ≠ hash) :
    SessionProc.run ttl (.refresh hash nextHash (.rotate id)) db e = (∅, none) := by
  simp [SessionProc.run, rotateAuthSession, update, hrow, hhash]

/-! ## The requests -/

/-- Requests `ids` of a session that is not revoked: none of them finds it expired, their tokens are
new, and at `now` the token of the rotation has not expired either. -/
structure Overlapping (ttl now : ℕ) (db : DB) (sid : SessionID) (row : SessionRow) (next : ℕ → TokenHash)
    (ids : List ℕ) (as : List Act) : Prop where
  unique : UniqueHashes db
  session : db.lookup sid = some row
  live : row.revokedAt = none
  unexpired : now ≤ row.expiresAt
  inTime : ∀ id e, .run id e ∈ as → e.now 0 ≤ row.expiresAt ∧ now ≤ e.now 0 + ttl
  fresh : ∀ i ∈ ids, ∀ id row', db.lookup id = some row' → row'.refreshTokenHash ≠ next i

/-- The state until one of the requests has rotated the session. -/
structure Before (db : DB) (hash : TokenHash) (ids : List ℕ) (as : List Act) (b : Browser) : Prop where
  db : b.db = db
  requests : ∀ j ∈ ids, j ∈ b.requests
  responses : b.responses = ∅
  delivered : delivered as = []
  jar : b.jar = some hash

/-- The cookie of the response to `j` when `i` has rotated the session. -/
def cookieOf (next : ℕ → TokenHash) (i j : ℕ) : Option TokenHash := if j = i then some (next i) else none

/-- The state when the request `i` has rotated the session. -/
structure After (now : ℕ) (db : DB) (sid : SessionID) (next : ℕ → TokenHash) (i : ℕ) (as : List Act)
    (b : Browser) : Prop where
  session : ∃ row, b.db = view (AList.insert sid row ∅) db ∧ row.refreshTokenHash = next i ∧
    row.revokedAt = none ∧ now ≤ row.expiresAt
  notMem : i ∉ b.requests
  arrives : i ∈ b.responses ∨ i ∈ delivered as
  responses : ∀ j c, b.responses.lookup j = some c → c = cookieOf next i j
  jar : ∀ j, (delivered as).getLast? = some j → b.jar = cookieOf next i j

/-- Every request in progress reads the session first and rotates it next, and the browser is in the
one state or the other. -/
structure Inv (now : ℕ) (db : DB) (sid : SessionID) (row : SessionRow) (next : ℕ → TokenHash)
    (ids : List ℕ) (as : List Act) (b : Browser) : Prop where
  requests : ∀ j p, b.requests.lookup j = some p → j ∈ ids ∧
    p = .refresh row.refreshTokenHash (next j) (if j ∈ ran as then .rotate sid else .get)
  phase : (firstToRotate [] as).elim (Before db row.refreshTokenHash ids as b) fun i =>
    i ∈ ids ∧ After now db sid next i as b

section

variable {now : ℕ} {sid : SessionID} {next : ℕ → TokenHash} {ids : List ℕ} {as : List Act} {a : Act}
  {b b' : Browser}

theorem Overlapping.left (h : Overlapping ttl now db sid row next ids (as ++ [a])) :
    Overlapping ttl now db sid row next ids as :=
  { h with inTime := fun id e he => h.inTime id e (List.mem_append_left _ he) }

theorem lookup_init (db : DB) (hash : TokenHash) (next : ℕ → TokenHash) (ids : List ℕ) (j : ℕ) :
    (Browser.init db hash next ids).requests.lookup j =
      if j ∈ ids then some (.refresh hash (next j) .get) else none := by
  unfold Browser.init
  rw [Assoc.lookup_foldl_insert fun id => SessionProc.refresh hash (next id) .get, AList.lookup_empty]

theorem Inv.init : Inv now db sid row next ids [] (Browser.init db row.refreshTokenHash next ids) := by
  refine ⟨fun j p hp => ?_, ⟨rfl, fun j hj => ?_, rfl, rfl, rfl⟩⟩
  · rw [lookup_init] at hp
    split_ifs at hp with hj
    exact ⟨hj, (Option.some.inj hp).symm⟩
  · rw [← AList.lookup_isSome, lookup_init, if_pos hj]
    rfl

/-- What an action does. -/
inductive Steps (ttl : ℕ) (next : ℕ → TokenHash) (b : Browser) : Act → Browser → Prop
  | goOn (id : ℕ) (e : Moment) (p p' : SessionProc) (rows : DB) (mem : b.requests.lookup id = some p)
      (run : p.run ttl b.db e = (rows, some p')) :
      Steps ttl next b (.run id e)
        { b with db := view rows b.db, requests := b.requests.insert id p' }
  | answer (id : ℕ) (e : Moment) (p : SessionProc) (rows : DB) (mem : b.requests.lookup id = some p)
      (run : p.run ttl b.db e = (rows, none)) :
      Steps ttl next b (.run id e)
        { b with
          db := view rows b.db
          requests := b.requests.erase id
          responses := b.responses.insert id (cookie (next id) rows) }
  | deliver (id : ℕ) (c : Option TokenHash) (mem : b.responses.lookup id = some c) :
      Steps ttl next b (.deliver id) { b with responses := b.responses.erase id, jar := c }

theorem steps_of_step (h : b.step ttl next a = some b') : Steps ttl next b a b' := by
  cases a with
  | run id e =>
      obtain ⟨p, hp, h⟩ := Option.map_eq_some_iff.1 h
      rcases hr : p.run ttl b.db e with ⟨rows, _ | p'⟩ <;> simp only [hr] at h <;> subst h
      · exact .answer id e p rows hp hr
      · exact .goOn id e p p' rows hp hr
  | deliver id =>
      obtain ⟨c, hc, rfl⟩ := Option.map_eq_some_iff.1 h
      exact .deliver id c hc

/-- The requests in progress after a statement of one of them. -/
theorem Inv.requests_run {id : ℕ} {rest : Assoc ℕ SessionProc}
    (h : Inv now db sid row next ids as b)
    (hrest : ∀ j p, rest.lookup j = some p → j = id ∧ id ∈ ids ∧
        p = .refresh row.refreshTokenHash (next id) (.rotate sid) ∨
      j ≠ id ∧ b.requests.lookup j = some p) (j : ℕ) (p : SessionProc) (hp : rest.lookup j = some p) :
    j ∈ ids ∧ p = .refresh row.refreshTokenHash (next j)
      (if j ∈ ran (as ++ [.run id e]) then .rotate sid else .get) := by
  rcases hrest j p hp with ⟨rfl, hmem, rfl⟩ | ⟨hj, hp⟩
  · exact ⟨hmem, by rw [if_pos (mem_ran_concat.2 (.inr ⟨e, rfl⟩))]⟩
  · obtain ⟨hmem, rfl⟩ := h.requests j p hp
    have hran : j ∈ ran (as ++ [.run id e]) ↔ j ∈ ran as := by
      rw [mem_ran_concat]
      simp [Ne.symm hj]
    exact ⟨hmem, by simp only [hran]⟩

theorem firstToRotate_run (id : ℕ) (e : Moment) :
    firstToRotate [] (as ++ [.run id e]) =
      (firstToRotate [] as).or (if id ∈ ran as then some id else none) := by
  simp [firstToRotate_concat]

theorem firstToRotate_deliver (id : ℕ) : firstToRotate [] (as ++ [.deliver id]) = firstToRotate [] as := by
  simp [firstToRotate_concat]

/-- A request reads the session, or rotates it as the first one. -/
theorem Before.step (ho : Overlapping ttl now db sid row next ids (as ++ [a]))
    (hinv : Inv now db sid row next ids as b) (hfirst : firstToRotate [] as = none)
    (h : Before db row.refreshTokenHash ids as b) (hs : Steps ttl next b a b') :
    Inv now db sid row next ids (as ++ [a]) b' := by
  have hget := get_eq_some ho.unique ho.session rfl
  cases hs with
  | goOn id e p p' rows mem run =>
      obtain ⟨hid, rfl⟩ := hinv.requests id p mem
      have htime := ho.inTime id e (by simp)
      have hran : id ∉ ran as := by
        intro hran
        rw [if_pos hran, h.db, run_rotate ho.session rfl ho.live] at run
        cases (Prod.ext_iff.1 run).2
      rw [if_neg hran, h.db, run_get hget ho.live htime.1] at run
      obtain ⟨rfl, hp'⟩ := Prod.mk.inj run
      obtain rfl := Option.some.inj hp'
      refine ⟨hinv.requests_run fun j p hp => ?_, ?_⟩
      · rcases Assoc.of_lookup_insert hp with ⟨rfl, rfl⟩ | hother
        · exact .inl ⟨rfl, hid, rfl⟩
        · exact .inr hother
      · rw [firstToRotate_run, hfirst, if_neg hran]
        exact ⟨(ReadCommitted.view_empty b.db).trans h.db,
          fun j hj => (AList.mem_insert _).2 (.inr (h.requests j hj)), h.responses,
          (delivered_concat_run as id e).trans h.delivered, h.jar⟩
  | answer id e p rows mem run =>
      obtain ⟨hid, rfl⟩ := hinv.requests id p mem
      have htime := ho.inTime id e (by simp)
      have hran : id ∈ ran as := by
        by_contra hran
        rw [if_neg hran, h.db, run_get hget ho.live htime.1] at run
        cases (Prod.ext_iff.1 run).2
      rw [if_pos hran, h.db, run_rotate ho.session rfl ho.live] at run
      obtain ⟨rfl, -⟩ := Prod.mk.inj run
      refine ⟨hinv.requests_run fun j p hp => .inr (Assoc.of_lookup_erase hp), ?_⟩
      rw [firstToRotate_run, hfirst, if_pos hran]
      refine ⟨hid, ⟨_, congrArg (view _) h.db, rfl, ho.live, htime.2⟩, fun hmem => ?_, .inl ?_,
        fun j c hc => ?_, fun j hj => ?_⟩
      · exact ((AList.mem_erase).1 hmem).1 rfl
      · exact (AList.mem_insert _).2 (.inl rfl)
      · rcases Assoc.of_lookup_insert hc with ⟨rfl, rfl⟩ | ⟨-, hc⟩
        · rw [cookieOf, if_pos rfl]
          rfl
        · rw [h.responses] at hc
          cases hc
      · rw [delivered_concat_run, h.delivered] at hj
        cases hj
  | deliver id c mem =>
      rw [h.responses] at mem
      cases mem

/-- The token of the cookie that the requests were sent with is gone. -/
theorem After.gone {i : ℕ} (ho : Overlapping ttl now db sid row next ids as) (hi : i ∈ ids)
    (h : After now db sid next i as b) (id : SessionID) (row' : SessionRow)
    (hrow : b.db.lookup id = some row') : row'.refreshTokenHash ≠ row.refreshTokenHash := by
  obtain ⟨new, hdb, hnew, -⟩ := h.session
  rw [hdb, lookup_view_insert] at hrow
  split_ifs at hrow with hid
  · rw [← Option.some.inj hrow, hnew]
    exact Ne.symm (ho.fresh i hi sid row ho.session)
  · exact fun heq => hid (ho.unique id sid row' row hrow ho.session heq)

/-- The other requests fail. -/
theorem After.run {i id : ℕ} {p : SessionProc} {e : Moment}
    (ho : Overlapping ttl now db sid row next ids as) (hinv : Inv now db sid row next ids as b)
    (hi : i ∈ ids) (h : After now db sid next i as b) (mem : b.requests.lookup id = some p) :
    p.run ttl b.db e = (∅, none) := by
  obtain ⟨-, rfl⟩ := hinv.requests id p mem
  split_ifs
  · obtain ⟨new, hdb, hnew, -⟩ := h.session
    have hsid : b.db.lookup sid = some new := by rw [hdb, lookup_view_insert, if_pos rfl]
    exact run_rotate_late hsid (h.gone ho hi sid new hsid)
  · exact run_get_gone (get_eq_none (h.gone ho hi))

theorem After.step {i : ℕ} (ho : Overlapping ttl now db sid row next ids (as ++ [a]))
    (hinv : Inv now db sid row next ids as b) (hfirst : firstToRotate [] as = some i) (hi : i ∈ ids)
    (h : After now db sid next i as b) (hs : Steps ttl next b a b') :
    Inv now db sid row next ids (as ++ [a]) b' := by
  cases hs with
  | goOn id e p p' rows mem run =>
      rw [h.run ho.left hinv hi mem] at run
      cases (Prod.ext_iff.1 run).2
  | answer id e p rows mem run =>
      rw [h.run ho.left hinv hi mem] at run
      obtain ⟨rfl, -⟩ := Prod.mk.inj run
      have hne : id ≠ i := by
        rintro rfl
        exact h.notMem (Assoc.mem_iff_exists.2 ⟨p, mem⟩)
      refine ⟨hinv.requests_run fun j p hp => .inr (Assoc.of_lookup_erase hp), ?_⟩
      rw [firstToRotate_run, hfirst, Option.some_or]
      refine ⟨hi, by simpa using h.session, fun hmem => h.notMem (AList.mem_erase.1 hmem).2, ?_,
        fun j c hc => ?_, fun j hj => h.jar j ?_⟩
      · rw [delivered_concat_run]
        exact h.arrives.imp_left fun hmem => (AList.mem_insert _).2 (.inr hmem)
      · rcases Assoc.of_lookup_insert hc with ⟨rfl, rfl⟩ | ⟨-, hc⟩
        · rw [cookieOf, if_neg hne]
          rfl
        · exact h.responses j c hc
      · rwa [delivered_concat_run] at hj
  | deliver id c mem =>
      refine ⟨fun j p hp => ?_, ?_⟩
      · obtain ⟨hj, rfl⟩ := hinv.requests j p hp
        have hran : j ∈ ran (as ++ [.deliver id]) ↔ j ∈ ran as := by simp [mem_ran_concat]
        exact ⟨hj, by simp only [hran]⟩
      · rw [firstToRotate_deliver, hfirst]
        refine ⟨hi, h.session, h.notMem, ?_, fun j c' hc => ?_, fun j hj => ?_⟩
        · rw [delivered_concat_deliver, List.mem_append, List.mem_singleton]
          by_cases heq : i = id
          · exact .inr (.inr heq)
          · exact h.arrives.imp (fun hmem => AList.mem_erase.2 ⟨heq, hmem⟩) .inl
        · exact h.responses j c' (Assoc.of_lookup_erase hc).2
        · rw [delivered_concat_deliver, List.getLast?_concat] at hj
          obtain rfl := Option.some.inj hj
          exact h.responses id c mem

theorem Inv.step (ho : Overlapping ttl now db sid row next ids (as ++ [a]))
    (h : Inv now db sid row next ids as b) (hs : b.step ttl next a = some b') :
    Inv now db sid row next ids (as ++ [a]) b' := by
  have hsteps := steps_of_step hs
  have hphase := h.phase
  cases hfirst : firstToRotate [] as with
  | none =>
      rw [hfirst] at hphase
      exact Before.step ho h hfirst hphase hsteps
  | some i =>
      rw [hfirst] at hphase
      exact After.step ho h hfirst hphase.1 hphase.2 hsteps

theorem Inv.exec (ho : Overlapping ttl now db sid row next ids as)
    (hb : Run.exec (Browser.step ttl next) (Browser.init db row.refreshTokenHash next ids) as = some b) :
    Inv now db sid row next ids as b :=
  @Run.exec_induction _ _ _
    (fun as b => Overlapping ttl now db sid row next ids as → Inv now db sid row next ids as b) _ _
    (fun _ => .init) (fun _ _ _ _ _ hinv _ hs ho => (hinv ho.left).step ho hs) _ _
    (Run.guarded_true _ as) hb ho

/-! ## The cookie at the end -/

theorem After.accepts {i : ℕ} (ho : Overlapping ttl now db sid row next ids as) (hi : i ∈ ids)
    (h : After now db sid next i as b) : Accepts b.db (next i) now := by
  obtain ⟨new, hdb, hnew, hlive, hnow⟩ := h.session
  have hlookup : ∀ j, b.db.lookup j = if j = sid then some new else db.lookup j := fun j => by
    rw [hdb, lookup_view_insert]
  have hunique : UniqueHashes b.db := by
    intro j k r r' hr hr' heq
    rw [hlookup] at hr hr'
    split_ifs at hr hr' with hj hk
    · rw [hj, hk]
    · rw [← Option.some.inj hr, hnew] at heq
      exact absurd heq.symm (ho.fresh i hi k r' hr')
    · rw [← Option.some.inj hr', hnew] at heq
      exact absurd heq (ho.fresh i hi j r hr)
    · exact ho.unique j k r r' hr hr' heq
  exact ⟨sid, new, get_eq_some hunique (by rw [hlookup, if_pos rfl]) hnew, hlive, hnow⟩

/-- When the browser has the responses to all requests, the server accepts its cookie exactly if the
response that was applied last is that of the request that came first to its second statement. -/
theorem accepted_iff (ttl now : ℕ) (db : DB) (sid : SessionID) (row : SessionRow) (next : ℕ → TokenHash)
    (ids : List ℕ) (as : List Act) (ho : Overlapping ttl now db sid row next ids as) (b : Browser)
    (hb : Run.exec (Browser.step ttl next) (Browser.init db row.refreshTokenHash next ids) as = some b)
    (hrequests : b.requests.keys = []) (hresponses : b.responses.keys = []) :
    (∃ t ∈ b.jar, Accepts b.db t now) ↔
      ids = [] ∨ ∃ i, firstToRotate [] as = some i ∧ (delivered as).getLast? = some i := by
  have hphase := (Inv.exec ho hb).phase
  cases hfirst : firstToRotate [] as with
  | none =>
      rw [hfirst] at hphase
      have hids : ids = [] := by
        refine List.eq_nil_iff_forall_not_mem.2 fun j hj => ?_
        have hmem := AList.mem_keys.1 (hphase.requests j hj)
        rw [hrequests] at hmem
        cases hmem
      refine iff_of_true ⟨row.refreshTokenHash, hphase.jar, sid, row, ?_, ho.live, ho.unexpired⟩ (.inl hids)
      rw [hphase.db]
      exact get_eq_some ho.unique ho.session rfl
  | some i =>
      rw [hfirst] at hphase
      obtain ⟨hi, hafter⟩ := hphase
      have harrived : i ∈ delivered as := by
        refine hafter.arrives.resolve_left fun hmem => ?_
        rw [AList.mem_keys, hresponses] at hmem
        cases hmem
      have hne : ids ≠ [] := List.ne_nil_of_mem hi
      cases hlast : (delivered as).getLast? with
      | none =>
          rw [List.getLast?_eq_none_iff.1 hlast] at harrived
          cases harrived
      | some j =>
          rw [hafter.jar j hlast]
          unfold cookieOf
          by_cases hj : j = i
          · rw [if_pos hj]
            exact iff_of_true ⟨next i, rfl, hafter.accepts ho hi⟩ (.inr ⟨i, rfl, by rw [hj]⟩)
          · rw [if_neg hj]
            refine iff_of_false (fun ⟨t, ht, _⟩ => by cases ht) ?_
            rintro (hnil | ⟨k, hk, hk'⟩)
            · exact hne hnil
            · obtain rfl := Option.some.inj hk
              exact hj (Option.some.inj hk')

end

/-! ### Two tabs -/

/-- Two requests read the session, and the one with the number 1 rotates it first. -/
def twoTabs : List Act := [.run 0 {}, .run 1 {}, .run 1 {}, .run 0 {}]

def tabToken (i : ℕ) : TokenHash := if i = 0 then "t1" else "t2"

theorem overlapping_twoTabs (deliveries : List ℕ) :
    Overlapping 5 3 oneSession "s"
      { userID := "u", refreshTokenHash := "t0", expiresAt := 9, createdAt := 0, lastUsedAt := 0 }
      tabToken [0, 1] (twoTabs ++ deliveries.map .deliver) := by
  refine ⟨uniqueHashes_oneSession, rfl, rfl, by decide, fun id e he => ?_, fun i hi id row' hrow => ?_⟩
  · rcases List.mem_append.1 he with he | he
    · simp only [twoTabs, List.mem_cons, Act.run.injEq, List.not_mem_nil, or_false] at he
      rcases he with ⟨-, rfl⟩ | ⟨-, rfl⟩ | ⟨-, rfl⟩ | ⟨-, rfl⟩ <;> decide
    · simp at he
  · rcases Assoc.of_lookup_insert hrow with ⟨-, rfl⟩ | ⟨-, hrow⟩
    · unfold tabToken
      split_ifs <;> decide
    · cases hrow

/-- The response to the other request is applied first. -/
theorem accepted_twoTabs :
    ∃ b, Run.exec (Browser.step 5 tabToken) (Browser.init oneSession "t0" tabToken [0, 1])
        (twoTabs ++ [0, 1].map .deliver) = some b ∧ b.requests.keys = [] ∧ b.responses.keys = [] ∧
      ∃ t ∈ b.jar, Accepts b.db t 3 := by
  have hrun : ∃ b ∈ Run.exec (Browser.step 5 tabToken) (Browser.init oneSession "t0" tabToken [0, 1])
      (twoTabs ++ [0, 1].map .deliver), b.requests.keys = [] ∧ b.responses.keys = [] := by
    decide +kernel
  obtain ⟨b, hb, hrequests, hresponses⟩ := hrun
  exact ⟨b, hb, hrequests, hresponses, (accepted_iff 5 3 oneSession "s" _ tabToken [0, 1] _
    (overlapping_twoTabs [0, 1]) b hb hrequests hresponses).2 (.inr ⟨1, rfl, rfl⟩)⟩

/-- The response of the request that has lost clears the cookie. -/
theorem not_accepted_twoTabs :
    Overlapping 5 3 oneSession "s"
      { userID := "u", refreshTokenHash := "t0", expiresAt := 9, createdAt := 0, lastUsedAt := 0 }
      tabToken [0, 1] (twoTabs ++ [1, 0].map .deliver) ∧
    ∃ b, Run.exec (Browser.step 5 tabToken) (Browser.init oneSession "t0" tabToken [0, 1])
        (twoTabs ++ [1, 0].map .deliver) = some b ∧ b.requests.keys = [] ∧ b.responses.keys = [] ∧
      ¬ ∃ t ∈ b.jar, Accepts b.db t 3 := by
  have hrun : ∃ b ∈ Run.exec (Browser.step 5 tabToken) (Browser.init oneSession "t0" tabToken [0, 1])
      (twoTabs ++ [1, 0].map .deliver),
      b.requests.keys = [] ∧ b.responses.keys = [] ∧ b.jar = none := by
    decide +kernel
  obtain ⟨b, hb, hrequests, hresponses, hjar⟩ := hrun
  refine ⟨overlapping_twoTabs [1, 0], b, hb, hrequests, hresponses, fun ⟨t, ht, _⟩ => ?_⟩
  rw [hjar] at ht
  cases ht

end GeoDuels.AuthSessions.CookieJar
