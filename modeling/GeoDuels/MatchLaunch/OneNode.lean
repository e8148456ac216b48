import GeoDuels.Lib.Run
import GeoDuels.MatchLaunch.Launcher

/-!
# One node for each match

Any number of calls of `EnsureAssignment` for one match, over nodes that report their loads.  The
lock lets one call at a time create and save the match, but a call that finds no assignment, waits
until the lock is free again and takes it does not look the assignment up again: it creates the match
a second time, on the node that is then the least loaded.  `oneNode_iff` says that this is the only
way in which the calls come to differ.
-/

namespace GeoDuels.MatchLaunch

open Coordinator

structure World where
  store : Store
  calls : Assoc ℕ Call
  /-- The assignments that calls have returned. -/
  returned : List Assignment
  /-- The nodes to which a create request for the match was sent. -/
  created : List NodeID

def World.init : World := ⟨{}, ∅, [], []⟩

inductive Op where
  | register (rec : NodeRecord) (now : ℤ)
  | ensure (id : ℕ) (suffix : String)
  | run (id : ℕ) (now : ℤ)
  | giveUp (id : ℕ)

/-- A registration is possible, and one of a known node changes nothing but its load. -/
def Steady (s : Store) (rec : NodeRecord) (now : ℤ) : Prop :=
  rec.nodeID ≠ "" ∧ rec.internalURL ≠ "" ∧ ∀ old ∈ s.getNodeByID rec.nodeID,
    old.ownerEpoch = rec.ownerEpoch ∧ old.internalURL = rec.internalURL ∧
      old.publicRoute = (Store.nodeRecord rec now).publicRoute ∧ old.draining = rec.draining

instance (s : Store) (rec : NodeRecord) (now : ℤ) : Decidable (Steady s rec now) :=
  inferInstanceAs (Decidable (_ ∧ _ ∧ _))

/-- What the result of a command of the call `id` makes of the world. -/
def World.settle (w : World) (id : ℕ) (r : Result) : World where
  store := r.store
  calls :=
    match r.next with
    | .inl c => w.calls.insert id c
    | .inr _ => w.calls.erase id
  returned :=
    match r.next with
    | .inr (.ok assigned) => assigned :: w.returned
    | _ => w.returned
  created :=
    match r.sent with
    | some target => target.nodeID :: w.created
    | none => w.created

variable (found : MatchFound) (singleTTL : ℤ)

/-- No request fails; a call that waits may give up, by its deadline or its context. -/
def World.step (w : World) : Op → Option World
  | .register rec now =>
      if Steady w.store rec now then
        some { w with
          store := w.store.registerNode (w.store.getNodeByID rec.nodeID) rec now }
      else none
  | .ensure id suffix =>
      if id ∈ w.calls then none
      else some { w with calls := w.calls.insert id (Call.start found suffix) }
  | .run id now =>
      (w.calls.lookup id).map fun c => w.settle id (c.run w.store singleTTL now true)
  | .giveUp id =>
      match w.calls.lookup id with
      | some ⟨_, _, .wait⟩ => some { w with calls := w.calls.erase id }
      | _ => none

/-- All returned assignments are on the node of the stored one, and one node at most was asked to
create the match. -/
structure OneNode (w : World) : Prop where
  returned : ∀ r ∈ w.returned, ∃ a, w.store.getAssignmentByMatch found.matchID = some a ∧
    r.nodeID = a.nodeID ∧ r.publicRoute = a.publicRoute
  created : ∀ x ∈ w.created, ∀ y ∈ w.created, x = y

/-- A create request that is sent from here while the match has an assignment goes to the node of the
assignment. -/
def At.SameNode (s : Store) : At → Prop
  | .create target => ∀ a ∈ s.getAssignmentByMatch found.matchID, target.nodeID = a.nodeID
  | _ => True

instance (s : Store) (at_ : At) : Decidable (at_.SameNode found s) :=
  match at_ with
  | .create target => inferInstanceAs (Decidable
      (∀ a ∈ s.getAssignmentByMatch found.matchID, target.nodeID = a.nodeID))
  | .check | .tryLock | .wait | .list | .read .. | .dropStale .. | .save .. | .unlock .. =>
      .isTrue trivial

/-- No call sends its create request to another node than that of the assignment of the match. -/
def SameNode (w : World) : Op → Prop
  | .run id _ => ∀ c ∈ w.calls.lookup id, c.at_.SameNode found w.store
  | _ => True

instance (w : World) (op : Op) : Decidable (SameNode found w op) :=
  match op with
  | .run id _ => inferInstanceAs (Decidable (∀ c ∈ w.calls.lookup id, c.at_.SameNode found w.store))
  | .register .. | .ensure .. | .giveUp .. => .isTrue trivial

/-! ## The invariant -/

/-- The holder of the lock is here. -/
def At.Critical : At → Prop
  | .check | .tryLock | .wait => False
  | _ => True

/-- Every node is stored under its id and has a route. -/
def Registered (s : Store) : Prop :=
  ∀ id rec, s.node.lookup id = some rec → rec.nodeID = id ∧ id ≠ "" ∧ rec.publicRoute ≠ ""

/-- The node `id` has the route `route`. -/
def Located (s : Store) (id : NodeID) (route : String) : Prop :=
  id ≠ "" ∧ route ≠ "" ∧ ∃ rec, s.node.lookup id = some rec ∧ rec.publicRoute = route

/-- The assignment is on the node of the stored one. -/
def Agrees (s : Store) (r : Assignment) : Prop :=
  ∃ a, s.getAssignmentByMatch found.matchID = some a ∧ r.nodeID = a.nodeID ∧
    r.publicRoute = a.publicRoute

/-- What a call may rely on where it is. -/
def At.Ok (s : Store) (created : List NodeID) : At → Prop
  | .read _ _ nodes _ | .dropStale nodes _ => ∀ x ∈ nodes, Located s x.nodeID x.publicRoute
  | .create target => Located s target.nodeID target.publicRoute
  | .save target => Located s target.nodeID target.publicRoute ∧ target.nodeID ∈ created ∧
      ∀ a, s.getAssignmentByMatch found.matchID = some a → target.nodeID = a.nodeID
  | .unlock (.ok r) => Agrees found s r
  | _ => True

structure Inv (w : World) : Prop where
  nodes : Registered w.store
  same : ∀ i c, w.calls.lookup i = some c → c.found = normalizeFound found
  lock : ∀ i c, w.calls.lookup i = some c → c.at_.Critical →
    found.matchID ≠ "" ∧ w.store.lock.lookup found.matchID = some c.holder
  alone : ∀ i c j d, w.calls.lookup i = some c → w.calls.lookup j = some d → c.at_.Critical →
    d.at_.Critical → i = j
  ok : ∀ i c, w.calls.lookup i = some c → c.at_.Ok found w.store w.created
  stored : ∀ a, w.store.getAssignmentByMatch found.matchID = some a →
    a.nodeID ∈ w.created ∧ Located w.store a.nodeID a.publicRoute
  created : ∀ x ∈ w.created, (∃ a, w.store.getAssignmentByMatch found.matchID = some a ∧ a.nodeID = x) ∨
    ∃ i c target, w.calls.lookup i = some c ∧ c.at_ = .save target ∧ target.nodeID = x
  returned : ∀ r ∈ w.returned, Agrees found w.store r

variable {found singleTTL} {w w' : World}

theorem Inv.init : Inv found World.init where
  nodes := fun _ _ h => by cases h
  same := fun _ _ h => by cases h
  lock := fun _ _ h => by cases h
  alone := fun _ _ _ _ h => by cases h
  ok := fun _ _ h => by cases h
  stored := fun _ h => by cases h
  created := fun _ h => by cases h
  returned := fun _ h => by cases h

theorem Inv.oneNode (h : Inv found w) : OneNode found w where
  returned := h.returned
  created x hx y hy := by
    -- a stored node and one that is being saved are the same, and only one call saves
    have hsave : ∀ {i c target a}, w.calls.lookup i = some c → c.at_ = .save target →
        w.store.getAssignmentByMatch found.matchID = some a → target.nodeID = a.nodeID := by
      intro i c target a hi hc ha
      have hok := h.ok i c hi
      rw [hc] at hok
      exact hok.2.2 a ha
    rcases h.created x hx with ⟨a, ha, rfl⟩ | ⟨i, c, s, hi, hc, rfl⟩ <;>
      rcases h.created y hy with ⟨b, hb, rfl⟩ | ⟨j, d, t, hj, hd, rfl⟩
    · rw [Option.some.inj (ha.symm.trans hb)]
    · exact (hsave hj hd ha).symm
    · exact hsave hi hc hb
    · have hij := h.alone i c j d hi hj (by rw [hc]; trivial) (by rw [hd]; trivial)
      subst hij
      rw [hi, Option.some.injEq] at hj
      rw [hj, hd, At.save.injEq] at hc
      rw [hc]

/-! ### Nodes -/

theorem Registered.getNodeByID {s : Store} (h : Registered s) {id : NodeID} {rec : NodeRecord}
    (hid : s.getNodeByID id = some rec) : Located s rec.nodeID rec.publicRoute := by
  obtain ⟨hrec, -⟩ := Option.filter_eq_some_iff.1 hid
  obtain ⟨rfl, hne, hroute⟩ := h id rec hrec
  exact ⟨hne, hroute, rec, hrec, rfl⟩

theorem Located.route_eq {s : Store} {id : NodeID} {route route' : String}
    (h : Located s id route) (h' : Located s id route') : route = route' := by
  obtain ⟨-, -, rec, hrec, rfl⟩ := h
  obtain ⟨-, -, rec', hrec', rfl⟩ := h'
  rw [hrec, Option.some.injEq] at hrec'
  rw [hrec']

theorem pick_ok {s : Store} {created : List NodeID} {nodes : List NodeRecord}
    (h : ∀ x ∈ nodes, Located s x.nodeID x.publicRoute) : (At.pick nodes).Ok found s created := by
  unfold At.pick
  cases ht : pickLeastLoadedNode (nodes.filter (!·.draining)) with
  | none => trivial
  | some target => exact h target (List.mem_of_mem_filter (mem_of_pickLeastLoadedNode ht))

theorem reading_ok {s : Store} {created : List NodeID} {nodes : List NodeRecord}
    (h : ∀ x ∈ nodes, Located s x.nodeID x.publicRoute) (stale ids : List NodeID) :
    (At.reading nodes stale ids).Ok found s created := by
  unfold At.reading
  cases ids with
  | cons id ids => exact h
  | nil =>
      dsimp only
      split_ifs
      · exact pick_ok h
      · exact h

/-! ### Steps of one call -/

theorem At.ok_of_not_critical {at_ : At} (h : ¬ at_.Critical) (s : Store) (created : List NodeID) :
    at_.Ok found s created := by
  cases at_ with
  | check | tryLock | wait | list => trivial
  | read | dropStale | create | save | unlock => exact absurd trivial h

/-- A step of a call that does not have the lock, before and after it. -/
theorem Inv.idle (h : Inv found w) {i : ℕ} (hprev : ∀ c, w.calls.lookup i = some c → ¬ c.at_.Critical)
    (hcalls : ∀ j, j ≠ i → w'.calls.lookup j = w.calls.lookup j) (store : w'.store = w.store)
    (created : w'.created = w.created)
    (hnew : ∀ c, w'.calls.lookup i = some c → c.found = normalizeFound found ∧ ¬ c.at_.Critical)
    (returned : ∀ r ∈ w'.returned, Agrees found w.store r) : Inv found w' := by
  have hold : ∀ j c, w'.calls.lookup j = some c → c.at_.Critical →
      j ≠ i ∧ w.calls.lookup j = some c := by
    intro j c hj hc
    by_cases hji : j = i
    · subst hji
      exact absurd hc (hnew c hj).2
    · exact ⟨hji, by rwa [hcalls j hji] at hj⟩
  refine ⟨by rw [store]; exact h.nodes, fun j c hj => ?_, fun j c hj hc => ?_,
    fun j c k d hj hk hc hd => ?_, fun j c hj => ?_, ?_, ?_, by rw [store]; exact returned⟩
  · by_cases hji : j = i
    · subst hji
      exact (hnew c hj).1
    · exact h.same j c (by rwa [hcalls j hji] at hj)
  · rw [store]
    exact h.lock j c (hold j c hj hc).2 hc
  · exact h.alone j c k d (hold j c hj hc).2 (hold k d hk hd).2 hc hd
  · by_cases hc : c.at_.Critical
    · rw [store, created]
      exact h.ok j c (hold j c hj hc).2
    · exact At.ok_of_not_critical hc ..
  · rw [store, created]
    exact h.stored
  · intro x hx
    rw [created] at hx
    rw [store]
    rcases h.created x hx with hx | ⟨j, c, target, hj, hc, hx⟩
    · exact .inl hx
    · have hji : j ≠ i := by
        rintro rfl
        exact hprev c hj (by rw [hc]; trivial)
      exact .inr ⟨j, c, target, by rwa [hcalls j hji], hc, hx⟩

/-- A step of a call when no other one has the lock. -/
theorem Inv.held (h : Inv found w) {i : ℕ}
    (hothers : ∀ j c, j ≠ i → w.calls.lookup j = some c → ¬ c.at_.Critical)
    (hcalls : ∀ j, j ≠ i → w'.calls.lookup j = w.calls.lookup j) (nodes : Registered w'.store)
    (hnew : ∀ c, w'.calls.lookup i = some c → c.found = normalizeFound found ∧
      c.at_.Ok found w'.store w'.created ∧ (c.at_.Critical → found.matchID ≠ "" ∧
        w'.store.lock.lookup found.matchID = some c.holder))
    (stored : ∀ a, w'.store.getAssignmentByMatch found.matchID = some a →
      a.nodeID ∈ w'.created ∧ Located w'.store a.nodeID a.publicRoute)
    (created : ∀ x ∈ w'.created,
      (∃ a, w'.store.getAssignmentByMatch found.matchID = some a ∧ a.nodeID = x) ∨
        ∃ c target, w'.calls.lookup i = some c ∧ c.at_ = .save target ∧ target.nodeID = x)
    (returned : ∀ r ∈ w'.returned, Agrees found w'.store r) : Inv found w' := by
  have hold : ∀ j c, w'.calls.lookup j = some c → c.at_.Critical → j = i := by
    intro j c hj hc
    by_contra hji
    rw [hcalls j hji] at hj
    exact hothers j c hji hj hc
  refine ⟨nodes, fun j c hj => ?_, fun j c hj hc => ?_, fun j c k d hj hk hc hd => ?_,
    fun j c hj => ?_, stored, fun x hx => ?_, returned⟩
  · by_cases hji : j = i
    · subst hji
      exact (hnew c hj).1
    · exact h.same j c (by rwa [hcalls j hji] at hj)
  · obtain rfl := hold j c hj hc
    exact (hnew c hj).2.2 hc
  · rw [hold j c hj hc, hold k d hk hd]
  · by_cases hji : j = i
    · subst hji
      exact (hnew c hj).2.1
    · rw [hcalls j hji] at hj
      exact At.ok_of_not_critical (hothers j c hji hj) ..
  · exact (created x hx).imp_right fun ⟨c, target, hi, hc⟩ => ⟨i, c, target, hi, hc⟩

theorem lookup_settle (w : World) (id j : ℕ) (r : Result) :
    (w.settle id r).calls.lookup j = if j = id then r.next.getLeft? else w.calls.lookup j := by
  unfold World.settle
  cases r.next with
  | inl c => exact Assoc.lookup_insert ..
  | inr _ => exact Assoc.lookup_erase ..

theorem lookup_settle_ne (w : World) {id j : ℕ} (h : j ≠ id) (r : Result) :
    (w.settle id r).calls.lookup j = w.calls.lookup j := by
  rw [lookup_settle, if_neg h]

/-- The holder of the lock goes on to another place; it has saved nothing yet. -/
theorem Inv.carry (h : Inv found w) {i : ℕ} {c : Call} (hi : w.calls.lookup i = some c)
    (hc : c.at_.Critical) (hsave : ∀ target, c.at_ ≠ .save target) {s : Store}
    (node : s.node = w.store.node) (activeMatch : s.activeMatch = w.store.activeMatch)
    (lock : s.lock = w.store.lock) {at_ : At} (hok : at_.Ok found w.store w.created) :
    Inv found (w.settle i { store := s, next := .inl { c with at_ := at_ } }) := by
  have hmatch : s.getAssignmentByMatch found.matchID =
      w.store.getAssignmentByMatch found.matchID := by
    unfold Store.getAssignmentByMatch
    rw [activeMatch]
  have hlocated : ∀ id route, Located w.store id route ↔ Located s id route := by
    intro id route
    unfold Located
    rw [node]
  refine h.held (i := i) (fun j d hji hj hd => hji (h.alone j d i c hj hi hd hc))
    (fun j hji => lookup_settle_ne w hji _) ?_ (fun d hd => ?_) (fun a ha => ?_) (fun x hx => ?_)
    (fun r hr => ?_)
  · exact fun id rec hid => h.nodes id rec (by rwa [← node])
  · rw [lookup_settle, if_pos rfl] at hd
    obtain rfl := Option.some.inj hd
    refine ⟨h.same i c hi, ?_, fun _ => ⟨(h.lock i c hi hc).1, ?_⟩⟩
    · cases at_ with
      | check | tryLock | wait | list => trivial
      | read | dropStale => exact fun x hx => (hlocated _ _).1 (hok x hx)
      | create target => exact (hlocated _ _).1 hok
      | save target => exact ⟨(hlocated _ _).1 hok.1, hok.2.1, fun a ha => hok.2.2 a (by rwa [← hmatch])⟩
      | unlock result =>
          cases result with
          | error => trivial
          | ok r =>
              obtain ⟨a, ha, hr⟩ := hok
              exact ⟨a, by rwa [← hmatch] at ha, hr⟩
    · show s.lock.lookup found.matchID = some c.holder
      rw [lock]
      exact (h.lock i c hi hc).2
  · obtain ⟨hmem, hloc⟩ := h.stored a (by rwa [← hmatch])
    exact ⟨hmem, (hlocated _ _).1 hloc⟩
  · rcases h.created x hx with ⟨a, ha, hax⟩ | ⟨j, d, target, hj, hd, -⟩
    · exact .inl ⟨a, by rwa [← hmatch] at ha, hax⟩
    · have hji : j = i := h.alone j d i c hj hi (by rw [hd]; trivial) hc
      subst hji
      rw [hi, Option.some.injEq] at hj
      exact absurd (hj ▸ hd) (hsave target)
  · obtain ⟨a, ha, hra⟩ := h.returned r hr
    exact ⟨a, by rwa [← hmatch] at ha, hra⟩

/-- A call that has not got the lock goes on without a write. -/
theorem Inv.wait (h : Inv found w) {i : ℕ} {c : Call} (hi : w.calls.lookup i = some c)
    (hc : ¬ c.at_.Critical) {at_ : At} (hat : ¬ at_.Critical) :
    Inv found (w.settle i { store := w.store, next := .inl { c with at_ := at_ } }) := by
  refine h.idle (i := i) (fun d hd => ?_) (fun j hji => lookup_settle_ne w hji _) rfl rfl
    (fun d hd => ?_) h.returned
  · rw [hi, Option.some.injEq] at hd
    rwa [← hd]
  · rw [lookup_settle, if_pos rfl] at hd
    obtain rfl := Option.some.inj hd
    exact ⟨h.same i c hi, hat⟩

/-- A call that has not got the lock returns. -/
theorem Inv.leave (h : Inv found w) {i : ℕ} {c : Call} (hi : w.calls.lookup i = some c)
    (hc : ¬ c.at_.Critical) {res : Except String Assignment}
    (hres : ∀ r, res = .ok r → Agrees found w.store r) :
    Inv found (w.settle i { store := w.store, next := .inr res }) := by
  refine h.idle (i := i) (fun d hd => ?_) (fun j hji => lookup_settle_ne w hji _) rfl rfl
    (fun d hd => ?_) (fun r hr => ?_)
  · rw [hi, Option.some.injEq] at hd
    rwa [← hd]
  · rw [lookup_settle, if_pos rfl] at hd
    cases hd
  · cases res with
    | error => exact h.returned r hr
    | ok a =>
        rcases List.mem_cons.1 hr with rfl | hr
        · exact hres r rfl
        · exact h.returned r hr

/-- The lock is taken. -/
theorem Inv.acquire (h : Inv found w) {i : ℕ} {c : Call} (hi : w.calls.lookup i = some c)
    (hid : found.matchID ≠ "") (hfree : found.matchID ∉ w.store.lock) :
    Inv found (w.settle i
      { store := { w.store with lock := w.store.lock.insert found.matchID c.holder }
        next := .inl { c with at_ := .list } }) := by
  have hothers : ∀ j d, w.calls.lookup j = some d → ¬ d.at_.Critical := by
    intro j d hj hd
    exact hfree (Assoc.mem_iff_exists.2 ⟨d.holder, (h.lock j d hj hd).2⟩)
  refine h.held (i := i) (fun j d _ => hothers j d) (fun j hji => lookup_settle_ne w hji _) h.nodes
    (fun d hd => ?_) h.stored (fun x hx => ?_) h.returned
  · rw [lookup_settle, if_pos rfl] at hd
    obtain rfl := Option.some.inj hd
    exact ⟨h.same i c hi, trivial, fun _ => ⟨hid, AList.lookup_insert _⟩⟩
  · rcases h.created x hx with hx | ⟨j, d, target, hj, hd, -⟩
    · exact .inl hx
    · exact absurd (by rw [hd]; trivial) (hothers j d hj)

/-- The create request is sent to the node of the stored assignment, if there is one. -/
theorem Inv.create (h : Inv found w) {i : ℕ} {c : Call} {target : NodeRecord}
    (hi : w.calls.lookup i = some c) (hc : c.at_ = .create target)
    (hnode : ∀ a, w.store.getAssignmentByMatch found.matchID = some a → target.nodeID = a.nodeID) :
    Inv found (w.settle i
      { store := w.store, next := .inl { c with at_ := .save target }, sent := some target }) := by
  have hcrit : c.at_.Critical := by rw [hc]; trivial
  refine h.held (i := i) (fun j d hji hj hd => hji (h.alone j d i c hj hi hd hcrit))
    (fun j hji => lookup_settle_ne w hji _) h.nodes (fun d hd => ?_) (fun a ha => ?_)
    (fun x hx => ?_) h.returned
  · rw [lookup_settle, if_pos rfl] at hd
    obtain rfl := Option.some.inj hd
    have hok := h.ok i c hi
    rw [hc] at hok
    exact ⟨h.same i c hi, ⟨hok, List.mem_cons_self, hnode⟩, fun _ => h.lock i c hi hcrit⟩
  · exact ⟨List.mem_cons_of_mem _ (h.stored a ha).1, (h.stored a ha).2⟩
  · rcases List.mem_cons.1 hx with rfl | hx
    · exact .inr ⟨_, target, by rw [lookup_settle, if_pos rfl]; rfl, rfl, rfl⟩
    · rcases h.created x hx with hx | ⟨j, d, t, hj, hd, -⟩
      · exact .inl hx
      · have hji : j = i := h.alone j d i c hj hi (by rw [hd]; trivial) hcrit
        subst hji
        rw [hi, Option.some.injEq] at hj
        rw [hj, hd] at hc
        cases hc

theorem saveAssignment_eq (s : Store) (singleTTL : ℤ) (rec : Assignment) (now : ℤ)
    (hid : rec.matchID ≠ "") (hnode : rec.nodeID ≠ "") (hplayers : rec.players ≠ []) :
    ∃ s', s.saveAssignment singleTTL rec now = .ok s' ∧ s'.node = s.node ∧ s'.lock = s.lock ∧
      s'.getAssignmentByMatch rec.matchID = some (Store.savedAssignment singleTTL rec now) := by
  unfold Store.saveAssignment
  rw [if_neg (by simp [hid, hnode, hplayers])]
  refine ⟨_, rfl, rfl, rfl, ?_⟩
  unfold Store.getAssignmentByMatch Store.getAssignment
  dsimp only
  rw [AList.lookup_insert]
  simp [Store.savedAssignment, hid]

/-- The assignment is saved. -/
theorem Inv.save (hplayers : found.players ≠ []) (h : Inv found w) {i : ℕ} {c : Call}
    {target : NodeRecord} (hi : w.calls.lookup i = some c) (hc : c.at_ = .save target) (now : ℤ) :
    Inv found (w.settle i (c.run w.store singleTTL now true)) := by
  have hcrit : c.at_.Critical := by rw [hc]; trivial
  obtain ⟨hid, hlock⟩ := h.lock i c hi hcrit
  have hok := h.ok i c hi
  rw [hc] at hok
  obtain ⟨hloc, hmem, hnode⟩ := hok
  have hsame := h.same i c hi
  have hmatch : (assignmentTo c.found target).matchID = found.matchID := by rw [hsame]; rfl
  obtain ⟨s', hsave, hnodes, hlocks, hstored⟩ := saveAssignment_eq w.store singleTTL
    (assignmentTo c.found target) now (by rwa [hmatch]) hloc.1 (by rw [hsame]; exact hplayers)
  rw [hmatch] at hstored
  have hrun : c.run w.store singleTTL now true =
      { store := s', next := .inl { c with at_ := .unlock (.ok (assignmentTo c.found target)) } } := by
    unfold Call.run
    rw [hc]
    dsimp only
    rw [hsave]
  have hroute : (Store.savedAssignment singleTTL (assignmentTo c.found target) now).publicRoute =
      target.publicRoute := if_neg hloc.2.1
  have hlocated : ∀ id route, Located w.store id route → Located s' id route := by
    intro id route hl
    unfold Located
    rwa [hnodes]
  -- the returned assignments are on the node that is saved again
  have hagrees : ∀ r ∈ w.returned, Agrees found s' r := by
    intro r hr
    obtain ⟨a, ha, hid, hrr⟩ := h.returned r hr
    have hl := (h.stored a ha).2
    rw [← hnode a ha] at hl
    exact ⟨_, hstored, hid.trans (hnode a ha).symm,
      hrr.trans ((hl.route_eq hloc).trans hroute.symm)⟩
  rw [hrun]
  refine h.held (i := i) (fun j d hji hj hd => hji (h.alone j d i c hj hi hd hcrit))
    (fun j hji => lookup_settle_ne w hji _) (fun id rec hrec => ?_) (fun d hd => ?_) (fun a ha => ?_)
    (fun x hx => ?_) hagrees
  · exact h.nodes id rec (by rwa [← hnodes])
  · rw [lookup_settle, if_pos rfl] at hd
    obtain rfl := Option.some.inj hd
    refine ⟨hsame, ⟨_, hstored, rfl, hroute.symm⟩, fun _ => ⟨hid, ?_⟩⟩
    show s'.lock.lookup found.matchID = some c.holder
    rwa [hlocks]
  · obtain rfl := Option.some.inj (hstored.symm.trans ha)
    refine ⟨hmem, ?_⟩
    rw [hroute]
    exact hlocated _ _ hloc
  · rcases h.created x hx with ⟨a, ha, rfl⟩ | ⟨j, d, t, hj, hd, rfl⟩
    · exact .inl ⟨_, hstored, hnode a ha⟩
    · have hji : j = i := h.alone j d i c hj hi (by rw [hd]; trivial) hcrit
      subst hji
      rw [hi, Option.some.injEq] at hj
      rw [hj, hd, At.save.injEq] at hc
      exact .inl ⟨_, hstored, by rw [hc]; rfl⟩

theorem unlockMatch_eq (s : Store) (matchID : MatchID) (holder : String) :
    ∃ l, s.unlockMatch matchID holder = { s with lock := l } := by
  unfold Store.unlockMatch
  split_ifs
  · exact ⟨_, rfl⟩
  · exact ⟨s.lock, rfl⟩

/-- The lock is released and the call returns. -/
theorem Inv.unlock (h : Inv found w) {i : ℕ} {c : Call} {res : Except String Assignment}
    (hi : w.calls.lookup i = some c) (hc : c.at_ = .unlock res) :
    Inv found (w.settle i
      { store := w.store.unlockMatch c.found.matchID c.holder, next := .inr res }) := by
  have hcrit : c.at_.Critical := by rw [hc]; trivial
  obtain ⟨l, hl⟩ := unlockMatch_eq w.store c.found.matchID c.holder
  rw [hl]
  refine h.held (i := i) (fun j d hji hj hd => hji (h.alone j d i c hj hi hd hcrit))
    (fun j hji => lookup_settle_ne w hji _) h.nodes (fun d hd => ?_) h.stored (fun x hx => ?_)
    (fun r hr => ?_)
  · rw [lookup_settle, if_pos rfl] at hd
    cases hd
  · rcases h.created x hx with hx | ⟨j, d, t, hj, hd, -⟩
    · exact .inl hx
    · have hji : j = i := h.alone j d i c hj hi (by rw [hd]; trivial) hcrit
      subst hji
      rw [hi, Option.some.injEq] at hj
      rw [hj, hd] at hc
      cases hc
  · cases res with
    | error => exact h.returned r hr
    | ok a =>
        rcases List.mem_cons.1 hr with rfl | hr
        · have hok := h.ok i c hi
          rw [hc] at hok
          exact hok
        · exact h.returned r hr

/-! ### The other steps -/

theorem getNodeByID_of_registered {s : Store} (h : Registered s) {id : NodeID} {rec : NodeRecord}
    (hid : s.node.lookup id = some rec) : s.getNodeByID id = some rec := by
  obtain ⟨rfl, hne, -⟩ := h id rec hid
  unfold Store.getNodeByID Store.getNode
  rw [hid]
  simp [hne]

/-- A node reports its load. -/
theorem Inv.register (h : Inv found w) {rec : NodeRecord} {now : ℤ} (hsteady : Steady w.store rec now) :
    Inv found { w with
      store := w.store.registerNode (w.store.getNodeByID rec.nodeID) rec now } := by
  obtain ⟨hne, -, hold⟩ := hsteady
  have hwritten : (Store.nodeRecord rec now).publicRoute ≠ "" := by
    unfold Store.nodeRecord
    dsimp only
    split_ifs with hroute
    · exact hne
    · exact hroute
  have hlookup : ∀ id, (w.store.registerNode (w.store.getNodeByID rec.nodeID) rec now).node.lookup id =
      if id = rec.nodeID then some (Store.nodeRecord rec now) else w.store.node.lookup id :=
    fun id => Assoc.lookup_insert ..
  have hlocated : ∀ id route, Located w.store id route → Located
      (w.store.registerNode (w.store.getNodeByID rec.nodeID) rec now) id route := by
    rintro id route ⟨hid, hroute, x, hx, rfl⟩
    refine ⟨hid, hroute, ?_⟩
    rw [hlookup]
    split_ifs with heq
    · subst heq
      exact ⟨_, rfl, (hold x (getNodeByID_of_registered h.nodes hx)).2.2.1.symm⟩
    · exact ⟨x, hx, rfl⟩
  refine ⟨fun id x hx => ?_, h.same, h.lock, h.alone, fun i c hi => ?_, fun a ha => ?_, h.created,
    h.returned⟩
  · rw [hlookup] at hx
    split_ifs at hx with heq
    · obtain rfl := Option.some.inj hx
      exact ⟨heq.symm, by rwa [heq], hwritten⟩
    · exact h.nodes id x hx
  · have hok := h.ok i c hi
    cases hc : c.at_ with
    | check | tryLock | wait | list => trivial
    | read | dropStale =>
        rw [hc] at hok
        exact fun x hx => hlocated _ _ (hok x hx)
    | create target =>
        rw [hc] at hok
        exact hlocated _ _ hok
    | save target =>
        rw [hc] at hok
        exact ⟨hlocated _ _ hok.1, hok.2⟩
    | unlock res =>
        rw [hc] at hok
        cases res with
        | error => trivial
        | ok r => exact hok
  · exact ⟨(h.stored a ha).1, hlocated _ _ (h.stored a ha).2⟩

theorem Inv.ensure (h : Inv found w) {i : ℕ} (hi : i ∉ w.calls) (suffix : String) :
    Inv found { w with calls := w.calls.insert i (Call.start found suffix) } := by
  refine h.idle (i := i) (fun c hc => ?_) (fun j hji => AList.lookup_insert_ne hji) rfl rfl
    (fun c hc => ?_) h.returned
  · exact absurd (Assoc.mem_iff_exists.2 ⟨c, hc⟩) hi
  · obtain rfl := Option.some.inj ((AList.lookup_insert _).symm.trans hc)
    exact ⟨rfl, id⟩

theorem Inv.giveUp (h : Inv found w) {i : ℕ} {c : Call} (hi : w.calls.lookup i = some c)
    (hc : ¬ c.at_.Critical) : Inv found { w with calls := w.calls.erase i } := by
  refine h.idle (i := i) (fun d hd => ?_) (fun j hji => AList.lookup_erase_ne hji) rfl rfl
    (fun d hd => ?_) h.returned
  · rw [hi, Option.some.injEq] at hd
    rwa [← hd]
  · cases (AList.lookup_erase ..).symm.trans hd

/-! ## The run -/

theorem Inv.run (hplayers : found.players ≠ []) (h : Inv found w) {i : ℕ} {c : Call} {now : ℤ}
    (hi : w.calls.lookup i = some c) (hC : SameNode found w (.run i now)) :
    Inv found (w.settle i (c.run w.store singleTTL now true)) := by
  obtain ⟨f, holder, at_⟩ := c
  obtain rfl : f = normalizeFound found := h.same i _ hi
  have hok : at_.Ok found w.store w.created := h.ok i _ hi
  have hagrees : ∀ a, w.store.getAssignmentByMatch found.matchID = some a →
      ∀ r, (.ok a : Except String Assignment) = .ok r → Agrees found w.store r := by
    intro a ha r hr
    rw [← Except.ok.inj hr]
    exact ⟨a, ha, rfl, rfl⟩
  cases at_ with
  | check =>
      unfold Call.run
      dsimp only [normalizeFound]
      cases ha : w.store.getAssignmentByMatch found.matchID with
      | none => exact h.wait hi id id
      | some a => exact h.leave hi id (hagrees a ha)
  | tryLock =>
      have hmatch : (normalizeFound found).matchID = found.matchID := rfl
      unfold Call.run Store.tryLockMatch
      dsimp only
      by_cases hid : found.matchID = ""
      · rw [hmatch, if_pos hid]
        exact h.leave hi id fun r hr => by cases hr
      · by_cases hlock : found.matchID ∈ w.store.lock
        · rw [hmatch, if_neg hid, if_pos hlock]
          exact h.wait hi id id
        · rw [hmatch, if_neg hid, if_neg hlock]
          exact h.acquire hi hid hlock
  | wait =>
      unfold Call.run
      dsimp only [normalizeFound]
      cases ha : w.store.getAssignmentByMatch found.matchID with
      | none => exact h.wait hi id id
      | some a => exact h.leave hi id (hagrees a ha)
  | list =>
      exact h.carry hi trivial (fun _ => At.noConfusion) rfl rfl rfl
        (reading_ok (fun x hx => absurd hx List.not_mem_nil) ..)
  | read id ids nodes stale =>
      unfold Call.run
      dsimp only
      cases hid : w.store.getNodeByID id with
      | none => exact h.carry hi trivial (fun _ => At.noConfusion) rfl rfl rfl (reading_ok hok ..)
      | some rec =>
          refine h.carry hi trivial (fun _ => At.noConfusion) rfl rfl rfl (reading_ok ?_ ..)
          intro x hx
          rcases List.mem_append.1 hx with hx | hx
          · exact hok x hx
          · rw [List.mem_singleton.1 hx]
            exact h.nodes.getNodeByID hid
  | dropStale nodes stale =>
      unfold Call.run
      dsimp only
      refine h.carry hi trivial (fun _ => At.noConfusion) ?_ ?_ ?_ (pick_ok hok) <;> rfl
  | create target =>
      refine h.create hi rfl fun a ha => ?_
      exact hC _ hi a ha
  | save target => exact h.save hplayers hi rfl now
  | unlock res => exact h.unlock hi rfl

theorem Inv.step (hplayers : found.players ≠ []) (h : Inv found w) {op : Op}
    (hC : SameNode found w op) (hs : w.step found singleTTL op = some w') : Inv found w' := by
  cases op with
  | register rec now =>
      unfold World.step at hs
      dsimp only at hs
      split_ifs at hs with hsteady
      obtain rfl := Option.some.inj hs
      exact h.register hsteady
  | ensure i suffix =>
      unfold World.step at hs
      dsimp only at hs
      split_ifs at hs with hi
      obtain rfl := Option.some.inj hs
      exact h.ensure hi suffix
  | run i now =>
      obtain ⟨c, hi, rfl⟩ := Option.map_eq_some_iff.1 hs
      exact h.run hplayers hi hC
  | giveUp i =>
      unfold World.step at hs
      dsimp only at hs
      split at hs
      · rename_i hi
        obtain rfl := Option.some.inj hs
        exact h.giveUp hi id
      · cases hs

/-- A create request to a node other than that of the stored assignment is a second one. -/
theorem not_oneNode_of_not_sameNode (h : Inv found w) {op : Op} (hC : ¬ SameNode found w op)
    (hs : w.step found singleTTL op = some w') : ¬ OneNode found w' := by
  cases op with
  | register | ensure | giveUp => exact absurd trivial hC
  | run i now =>
      obtain ⟨c, hi, rfl⟩ := Option.map_eq_some_iff.1 hs
      intro hone
      refine hC fun d hd => ?_
      obtain rfl : c = d := Option.some.inj (hi.symm.trans hd)
      obtain ⟨f, holder, at_⟩ := c
      cases at_ with
      | create target =>
          intro a ha
          exact hone.created _ List.mem_cons_self _ (List.mem_cons_of_mem _ (h.stored a ha).1)
      | _ => trivial

/-- The calls agree on one node throughout a run exactly when each create request that is sent while
the match has an assignment goes to the node of the assignment. -/
theorem oneNode_iff (found : MatchFound) (hplayers : found.players ≠ []) (singleTTL : ℤ)
    (ops : List Op) :
    Run.Always (World.step found singleTTL) (OneNode found) World.init ops ↔
      Run.Guarded (World.step found singleTTL) (SameNode found) World.init ops :=
  Run.always_iff_guarded (Inv found) (fun _ _ _ h hC hs => h.step hplayers hC hs)
    (fun _ h => h.oneNode) (fun _ _ _ h hC hs => not_oneNode_of_not_sameNode h hC hs) Inv.init

/-! ### Two calls for one match -/

def twoPlayers : MatchFound := { matchID := "m-1", mode := .duel, players := ["u1", "u2"] }

/-- Two nodes without a match register. -/
def twoNodes : List Op :=
  [.register { nodeID := "n1", internalURL := "http://n1" } 0,
    .register { nodeID := "n2", internalURL := "http://n2" } 0]

/-- The second call finds the lock taken, waits and returns the assignment of the first. -/
def waitingRun : List Op :=
  twoNodes ++ [.ensure 1 "a", .ensure 2 "b", .run 1 1, .run 2 1, .run 1 1, .run 2 1, .run 1 1,
    .run 1 1, .run 1 1, .run 1 1, .run 2 2, .run 1 2, .run 2 3, .run 1 3]

theorem oneNode_waitingRun :
    Run.Always (World.step twoPlayers 0) (OneNode twoPlayers) World.init waitingRun :=
  (oneNode_iff twoPlayers (by decide) 0 waitingRun).2 (by decide +kernel)

/-- The second call finds no assignment, and takes the lock when the first has returned and its node
has reported the match. -/
def lateLockRun : List Op :=
  twoNodes ++ [.ensure 1 "a", .ensure 2 "b", .run 1 1, .run 2 1, .run 1 1, .run 1 1, .run 1 1,
    .run 1 1, .run 1 1, .run 1 2, .run 1 2,
    .register { nodeID := "n1", internalURL := "http://n1", activeMatches := 1 } 3,
    .run 2 3, .run 2 3, .run 2 3, .run 2 3, .run 2 3]

theorem not_oneNode_lateLockRun :
    ¬ Run.Always (World.step twoPlayers 0) (OneNode twoPlayers) World.init lateLockRun :=
  fun h => absurd (h.mono fun _ hw => hw.created) (by decide +kernel)

end GeoDuels.MatchLaunch
