import GeoDuels.LocationSampler.Store
import GeoDuels.Lib.Slice

/-!
# The pool of the sampler

Draws, runs of `Init` and refills of one sampler (`pkg/locationsampler/sampler.go`), with one step for each
critical section of the mutex, each operation on `refilling` and each fetch.  No row is handed out twice
(`Accounted`).  A draw that finds the pool empty refills it and then takes the mutex again; by then other
draws may have taken what it has fetched, and it fails although the catalog has rows.  It does not while no
draw takes the last row when another one waits (`pool_of_leavesRow`).
-/

namespace GeoDuels.LocationSampler

open MapRevisions (DB MapKey RevisionID activeRevision locationsOf)
open scoped List

/-! ## The sampler -/

structure Config where
  poolTarget : ℤ := 0
  lowWatermark : ℤ := 0
  refillBatch : ℤ := 0

/-- The defaults of `New`. -/
def Config.withDefaults (cfg : Config) : Config where
  poolTarget := if cfg.poolTarget ≤ 0 then 20000 else cfg.poolTarget
  lowWatermark := if cfg.lowWatermark ≤ 0 then 4000 else cfg.lowWatermark
  refillBatch := if cfg.refillBatch ≤ 0 then 16000 else cfg.refillBatch

structure Sampler where
  cfg : Config
  catalogID : RevisionID := ""
  pool : List SampledRow := []
  refilling : Bool := false

/-- Who runs `refillSync`; `refillAsync` is the goroutine. -/
inductive Caller where
  | init | draw | refillAsync

/-- Where a goroutine is: in `Init`, between the critical sections of `draw`, or in `refillSync`. -/
inductive At where
  | activeCatalogID | setCatalogID (catalogID : RevisionID)
  | lock | lockAgain | refillAsync
  | readCatalogID (want : ℤ) | fetchRows (catalogID : RevisionID) (want : ℤ)
  | appendRows (rows : List SampledRow)
  | notRefilling
  deriving DecidableEq

structure Proc where
  caller : Caller
  at_ : At

/-- The sampler and the goroutines that use it, with all rows that refills have appended, the rows that draws
have taken to return them, and the errors that draws have returned. -/
structure World extends Sampler where
  procs : Assoc ℕ Proc := ∅
  appended : List SampledRow := []
  handedOut : List SampledRow := []
  errors : List String := []

/-- `New`. -/
def World.new (cfg : Config) : World where
  cfg := cfg.withDefaults

/-- The random numbers, and the orders in which the queries meet the rows. -/
structure Choice where
  i : ℕ := 0
  after : ℚ := 0
  first : List LocationEntry := []
  second : List LocationEntry := []

inductive Act where
  | init (id : ℕ)
  | draw (id : ℕ)
  | run (id : ℕ) (c : Choice)

namespace World

variable (w : World) (id : ℕ)

def goto (p : Proc) : World := { w with procs := w.procs.insert id p }

def done : World := { w with procs := w.procs.erase id }

/-- A draw fails. -/
def fail (err : String) : World := { w.done id with errors := err :: w.errors }

/-- `refillSync` returns to its caller. -/
def refilled : Caller → World
  | .init => w.done id
  | .draw => w.goto id ⟨.draw, .lockAgain⟩
  | .refillAsync => w.goto id ⟨.refillAsync, .notRefilling⟩

/-- `refillSync` returns an error to its caller. -/
def notRefilled (err : String) : Caller → World
  | .init => w.done id
  | .draw => w.fail id err
  | .refillAsync => w.goto id ⟨.refillAsync, .notRefilling⟩

/-- A draw takes the row at `i`, and unlocks. -/
def take (i : ℕ) : Option World :=
  w.pool[i]?.map fun entry =>
    let w := { w with pool := Slice.swapRemove w.pool i, handedOut := entry :: w.handedOut }
    if (w.pool.length : ℤ) < w.cfg.lowWatermark then w.goto id ⟨.draw, .refillAsync⟩ else w.done id

/-- The next step of a goroutine.  A draw that starts `refillAsync` returns, and the new goroutine goes on
in its place. -/
def run (db : DB) (mapKey : MapKey) (p : Proc) (c : Choice) : Option World :=
  match p.at_ with
  | .activeCatalogID =>
      match activeRevision db mapKey with
      | some catalogID => some (w.goto id { p with at_ := .setCatalogID catalogID })
      | none => some (w.done id)
  | .setCatalogID catalogID =>
      some ({ w with catalogID := catalogID }.goto id { p with at_ := .readCatalogID w.cfg.poolTarget })
  | .lock =>
      if w.pool = [] then some (w.goto id { p with at_ := .readCatalogID w.cfg.refillBatch })
      else w.take id c.i
  | .lockAgain => if w.pool = [] then some (w.fail id "location pool is empty") else w.take id c.i
  | .refillAsync =>
      if w.refilling then some (w.done id)
      else some ({ w with refilling := true }.goto id ⟨.refillAsync, .readCatalogID w.cfg.refillBatch⟩)
  | .readCatalogID want =>
      if w.catalogID = "" then some (w.notRefilled id "catalog not initialized" p.caller)
      else some (w.goto id { p with at_ := .fetchRows w.catalogID want })
  | .fetchRows catalogID want =>
      if c.first ~ locations db ∧ c.second ~ locations db then
        match fetchRows c.first c.second catalogID c.after want.toNat with
        | [] => some (w.refilled id p.caller)
        | rows => some (w.goto id { p with at_ := .appendRows rows })
      else none
  | .appendRows rows =>
      some ({ w with pool := w.pool ++ rows, appended := w.appended ++ rows }.refilled id p.caller)
  | .notRefilling => some ({ w with refilling := false }.done id)

def step (db : DB) (mapKey : MapKey) (w : World) : Act → Option World
  | .init id => if id ∈ w.procs then none else some (w.goto id ⟨.init, .activeCatalogID⟩)
  | .draw id => if id ∈ w.procs then none else some (w.goto id ⟨.draw, .lock⟩)
  | .run id c => (w.procs.lookup id).bind fun p => w.run id db mapKey p c

end World

/-! ## What a step does to the pool -/

variable {db : DB} {mapKey : MapKey} {w w' : World} {id : ℕ} {p : Proc} {c : Choice} {a : Act}

/-- What a step does to the rows and to the errors of draws. -/
inductive Effect (w : World) (p : Proc) (w' : World) : Prop
  | other (pool : w'.pool = w.pool) (appended : w'.appended = w.appended)
      (handedOut : w'.handedOut = w.handedOut)
      (errors : w'.errors = w.errors ∨ w'.errors = "catalog not initialized" :: w.errors)
  | takes (i : ℕ) (hi : i < w.pool.length) (pool : w'.pool = Slice.swapRemove w.pool i)
      (appended : w'.appended = w.appended) (handedOut : w'.handedOut = w.pool[i] :: w.handedOut)
      (errors : w'.errors = w.errors)
  | appends (rows : List SampledRow) (at_ : p.at_ = .appendRows rows) (pool : w'.pool = w.pool ++ rows)
      (appended : w'.appended = w.appended ++ rows) (handedOut : w'.handedOut = w.handedOut)
      (errors : w'.errors = w.errors)
  | fails (at_ : p.at_ = .lockAgain) (empty : w.pool = []) (pool : w'.pool = w.pool)
      (appended : w'.appended = w.appended) (handedOut : w'.handedOut = w.handedOut)
      (errors : w'.errors = "location pool is empty" :: w.errors)

theorem Effect.goto (w : World) (p : Proc) (id : ℕ) (q : Proc) : Effect w p (w.goto id q) :=
  .other rfl rfl rfl (.inl rfl)

theorem Effect.done (w : World) (p : Proc) (id : ℕ) : Effect w p (w.done id) := .other rfl rfl rfl (.inl rfl)

theorem Effect.refilled (w : World) (p : Proc) (id : ℕ) (caller : Caller) :
    Effect w p (w.refilled id caller) := by
  cases caller with
  | init => exact .done w p id
  | draw | refillAsync => exact .goto w p id _

theorem Effect.notRefilled (w : World) (p : Proc) (id : ℕ) (caller : Caller) :
    Effect w p (w.notRefilled id "catalog not initialized" caller) := by
  cases caller with
  | init => exact .done w p id
  | draw => exact .other rfl rfl rfl (.inr rfl)
  | refillAsync => exact .goto w p id _

theorem Effect.take {i : ℕ} (h : w.take id i = some w') : Effect w p w' := by
  obtain ⟨entry, hentry, rfl⟩ := Option.map_eq_some_iff.1 h
  obtain ⟨hi, rfl⟩ := List.getElem?_eq_some_iff.1 hentry
  dsimp only
  split_ifs <;> exact .takes i hi rfl rfl rfl rfl

theorem effect_of_run (h : w.run id db mapKey p c = some w') : Effect w p w' := by
  unfold World.run at h
  split at h
  · split at h <;> obtain rfl := Option.some.inj h
    · exact .goto w p id _
    · exact .done w p id
  · obtain rfl := Option.some.inj h
    exact .other rfl rfl rfl (.inl rfl)
  · split_ifs at h
    · obtain rfl := Option.some.inj h
      exact .goto w p id _
    · exact .take h
  · next hat =>
    split_ifs at h with hempty
    · obtain rfl := Option.some.inj h
      exact .fails hat hempty rfl rfl rfl rfl
    · exact .take h
  · split_ifs at h <;> obtain rfl := Option.some.inj h
    · exact .done w p id
    · exact .other rfl rfl rfl (.inl rfl)
  · split_ifs at h <;> obtain rfl := Option.some.inj h
    · exact .notRefilled w p id _
    · exact .goto w p id _
  · split_ifs at h
    split at h <;> obtain rfl := Option.some.inj h
    · exact .refilled w p id _
    · exact .goto w p id _
  · next rows hat =>
    obtain rfl := Option.some.inj h
    cases hcaller : p.caller <;> exact .appends rows hat rfl rfl rfl rfl
  · obtain rfl := Option.some.inj h
    exact .other rfl rfl rfl (.inl rfl)

/-! ## Every row once -/

/-- The rows that have been appended are those in the pool and those that have been handed out. -/
def Accounted (w : World) : Prop := w.pool ++ w.handedOut ~ w.appended

theorem Accounted.effect (h : Accounted w) (he : Effect w p w') : Accounted w' := by
  unfold Accounted at h ⊢
  cases he with
  | other hpool happended hhandedOut | fails _ _ hpool happended hhandedOut =>
      rwa [hpool, happended, hhandedOut]
  | takes i hi hpool happended hhandedOut =>
      rw [hpool, happended, hhandedOut]
      calc Slice.swapRemove w.pool i ++ w.pool[i] :: w.handedOut
          ~ w.pool[i] :: Slice.swapRemove w.pool i ++ w.handedOut := List.perm_middle
        _ ~ w.pool ++ w.handedOut := (Slice.perm_swapRemove hi).append_right _
        _ ~ w.appended := h
  | appends rows _ hpool happended hhandedOut =>
      rw [hpool, happended, hhandedOut]
      calc w.pool ++ rows ++ w.handedOut
          ~ w.pool ++ (rows ++ w.handedOut) := .of_eq (List.append_assoc ..)
        _ ~ w.pool ++ (w.handedOut ++ rows) := List.perm_append_comm.append_left w.pool
        _ ~ w.pool ++ w.handedOut ++ rows := .of_eq (List.append_assoc ..).symm
        _ ~ w.appended ++ rows := h.append_right rows

theorem Accounted.step (h : Accounted w) (hs : w.step db mapKey a = some w') : Accounted w' := by
  cases a with
  | init id | draw id =>
      simp only [World.step] at hs
      split_ifs at hs
      obtain rfl := Option.some.inj hs
      exact h
  | run id c =>
      obtain ⟨p, -, hrun⟩ := Option.bind_eq_some_iff.1 hs
      exact h.effect (effect_of_run hrun)

/-! ## Draws that fail -/

/-- No draw has failed with an empty pool. -/
def NeverDry (w : World) : Prop := "location pool is empty" ∉ w.errors

/-- A catalog with one row. -/
def oneRow : DB :=
  AList.insert (.location 0)
    ({ mapRevisionID := "world-0f8c5b1e7a2d", location := ⟨48, 2, "", none, none, none, 0⟩ } :
      MapRevisions.LocationRow)
    (AList.insert (.mapAlias "world")
      ({ activeRevisionID := some "world-0f8c5b1e7a2d" } : MapRevisions.AliasRow) ∅)

/-- The fetch of the row. -/
def fetchOne (id : ℕ) : Act := .run id { first := locations oneRow, second := locations oneRow }

/-- The sampler starts, a draw takes the row, and the refill that it starts has to wait.  The next draw finds
the pool empty and fetches the row again, and a third one takes it before the second has the mutex. -/
def takenBetween : List Act :=
  [.init 0, .run 0 {}, .run 0 {}, .run 0 {}, fetchOne 0, .run 0 {}, .draw 1, .run 1 {}, .run 1 {},
    .draw 2, .run 2 {}, .run 2 {}, fetchOne 2, .run 2 {}, .draw 3, .run 3 {}, .run 2 {}]

/-- The second draw fails. -/
theorem takenBetween_dry :
    ¬ Run.Always (World.step oneRow "world") NeverDry
      (.new { poolTarget := 1, lowWatermark := 1, refillBatch := 1 }) takenBetween := by
  intro h
  have hrun : (Run.exec (World.step oneRow "world")
      (.new { poolTarget := 1, lowWatermark := 1, refillBatch := 1 }) takenBetween).map (fun w => w.errors) =
        some ["location pool is empty"] := by decide +kernel
  obtain ⟨w, hw, herrors⟩ := Option.map_eq_some_iff.1 hrun
  have hdry := h.exec hw
  rw [NeverDry, herrors] at hdry
  exact hdry List.mem_cons_self

/-! ## Draws that leave a row -/

/-- The next step of the goroutine may take a row. -/
def MayTake (p : Proc) : Prop := p.at_ = .lock ∨ p.at_ = .lockAgain

instance (p : Proc) : Decidable (MayTake p) := inferInstanceAs (Decidable (_ ∨ _))

/-- Another draw has refilled the pool and waits to take the mutex again. -/
def OtherWaits (w : World) (id : ℕ) : Prop := ∃ e ∈ w.procs.entries, e.1 ≠ id ∧ e.2.at_ = .lockAgain

/-- No draw takes the last row while another one waits to take the mutex again. -/
def LeavesRow (w : World) : Act → Prop
  | .run id _ => ∀ p ∈ w.procs.lookup id, MayTake p → w.pool.length = 1 → ¬ OtherWaits w id
  | _ => True

instance (w : World) (id : ℕ) : Decidable (OtherWaits w id) :=
  inferInstanceAs (Decidable (∃ e ∈ w.procs.entries, _))

instance (w : World) : ∀ a, Decidable (LeavesRow w a)
  | .run id _ => inferInstanceAs (Decidable (∀ p ∈ w.procs.lookup id, MayTake p → _))
  | .init _ | .draw _ => .isTrue trivial

/-- What a goroutine relies on. -/
def Ready (db : DB) (mapKey : MapKey) (pool : List SampledRow) (p : Proc) : Prop :=
  match p.at_ with
  | .setCatalogID catalogID => activeRevision db mapKey = some catalogID
  | .readCatalogID want => 0 < want
  | .fetchRows catalogID want => activeRevision db mapKey = some catalogID ∧ 0 < want
  | .appendRows rows => rows ≠ []
  | .lockAgain => pool ≠ []
  | _ => True

/-- Draws that wait to take the mutex again find a row; nothing is said of the goroutines that are busy with a
step. -/
structure Supplied (db : DB) (mapKey : MapKey) (busy : Set ℕ) (w : World) : Prop where
  poolTarget : 0 < w.cfg.poolTarget
  refillBatch : 0 < w.cfg.refillBatch
  catalogID : w.catalogID ≠ "" → activeRevision db mapKey = some w.catalogID
  ready : ∀ id p, id ∉ busy → w.procs.lookup id = some p → Ready db mapKey w.pool p

theorem Supplied.new (cfg : Config) : Supplied db mapKey ∅ (.new cfg) where
  poolTarget := by
    show 0 < if cfg.poolTarget ≤ 0 then (20000 : ℤ) else cfg.poolTarget
    split_ifs <;> omega
  refillBatch := by
    show 0 < if cfg.refillBatch ≤ 0 then (16000 : ℤ) else cfg.refillBatch
    split_ifs <;> omega
  catalogID h := absurd rfl h
  ready _ _ _ hp := by cases hp

theorem Ready.of_pool {pool pool' : List SampledRow} (h : Ready db mapKey pool p)
    (hpool : p.at_ = .lockAgain → pool' ≠ []) : Ready db mapKey pool' p := by
  unfold Ready at h ⊢
  split at h
  · exact h
  · exact h
  · exact h
  · exact h
  · next hat => exact hpool hat
  · trivial

namespace Supplied

variable {busy : Set ℕ} {q : Proc}

theorem others (h : Supplied db mapKey ∅ w) (id : ℕ) : Supplied db mapKey {id} w where
  poolTarget := h.poolTarget
  refillBatch := h.refillBatch
  catalogID := h.catalogID
  ready j p _ := h.ready j p (Set.notMem_empty j)

/-- The pool keeps a row for those that wait for one. -/
theorem withPool (h : Supplied db mapKey busy w) (pool appended handedOut : List SampledRow)
    (hpool : ∀ j q, j ∉ busy → w.procs.lookup j = some q → q.at_ = .lockAgain → pool ≠ []) :
    Supplied db mapKey busy { w with pool := pool, appended := appended, handedOut := handedOut } where
  poolTarget := h.poolTarget
  refillBatch := h.refillBatch
  catalogID := h.catalogID
  ready j q hj hq := (h.ready j q hj hq).of_pool (hpool j q hj hq)

theorem withFlag (h : Supplied db mapKey busy w) (refilling : Bool) (errors : List String) :
    Supplied db mapKey busy { w with refilling := refilling, errors := errors } where
  poolTarget := h.poolTarget
  refillBatch := h.refillBatch
  catalogID := h.catalogID
  ready := h.ready

theorem goto (h : Supplied db mapKey {id} w) (hq : Ready db mapKey w.pool q) :
    Supplied db mapKey ∅ (w.goto id q) where
  poolTarget := h.poolTarget
  refillBatch := h.refillBatch
  catalogID := h.catalogID
  ready j q' _ hj := by
    rcases Assoc.of_lookup_insert hj with ⟨-, rfl⟩ | ⟨hne, hj⟩
    · exact hq
    · exact h.ready j q' hne hj

theorem done (h : Supplied db mapKey {id} w) : Supplied db mapKey ∅ (w.done id) where
  poolTarget := h.poolTarget
  refillBatch := h.refillBatch
  catalogID := h.catalogID
  ready j q _ hj := by
    obtain ⟨hne, hj⟩ := Assoc.of_lookup_erase hj
    exact h.ready j q hne hj

theorem refilled (h : Supplied db mapKey {id} w) (hpool : w.pool ≠ []) (caller : Caller) :
    Supplied db mapKey ∅ (w.refilled id caller) := by
  cases caller with
  | init => exact h.done
  | draw => exact h.goto hpool
  | refillAsync => exact h.goto trivial

theorem notRefilled (h : Supplied db mapKey {id} w) (err : String) (caller : Caller) :
    Supplied db mapKey ∅ (w.notRefilled id err caller) := by
  cases caller with
  | init => exact h.done
  | draw => exact h.done.withFlag _ _
  | refillAsync => exact h.goto trivial

theorem take {i : ℕ} (h : Supplied db mapKey ∅ w) (ht : w.take id i = some w')
    (hleaves : w.pool.length = 1 → ¬ OtherWaits w id) :
    Supplied db mapKey ∅ w' := by
  obtain ⟨entry, hentry, rfl⟩ := Option.map_eq_some_iff.1 ht
  obtain ⟨hi, rfl⟩ := List.getElem?_eq_some_iff.1 hentry
  have hlen := (Slice.perm_swapRemove hi).length_eq
  have htaken := (h.others id).withPool (Slice.swapRemove w.pool i) w.appended
    (w.pool[i] :: w.handedOut) fun j q hj hq hat hnil => by
      rw [hnil] at hlen
      exact hleaves hlen.symm ⟨⟨j, q⟩, Assoc.mem_entries_iff.2 hq, hj, hat⟩
  dsimp only
  split_ifs
  · exact htaken.goto trivial
  · exact htaken.done

/-- A step of a goroutine, while the catalog has rows. -/
theorem run (h : Supplied db mapKey ∅ w)
    (hrows : ∀ catalogID, activeRevision db mapKey = some catalogID → locationsOf db catalogID ≠ [])
    (hp : w.procs.lookup id = some p)
    (hleaves : MayTake p → w.pool.length = 1 → ¬ OtherWaits w id)
    (hrun : w.run id db mapKey p c = some w') : Supplied db mapKey ∅ w' := by
  have hready := h.ready id p (Set.notMem_empty id) hp
  have hothers := h.others id
  obtain ⟨caller, at_⟩ := p
  cases at_ with
  | activeCatalogID =>
      simp only [World.run] at hrun
      split at hrun <;> obtain rfl := Option.some.inj hrun
      · next catalogID hactive => exact hothers.goto hactive
      · exact hothers.done
  | setCatalogID catalogID =>
      obtain rfl := Option.some.inj hrun
      have hset : Supplied db mapKey {id} { w with catalogID := catalogID } :=
        ⟨h.poolTarget, h.refillBatch, fun _ => hready, hothers.ready⟩
      exact hset.goto h.poolTarget
  | lock =>
      simp only [World.run] at hrun
      split_ifs at hrun
      · obtain rfl := Option.some.inj hrun
        exact hothers.goto h.refillBatch
      · exact h.take hrun (hleaves (.inl rfl))
  | lockAgain =>
      simp only [World.run] at hrun
      split_ifs at hrun with hempty
      · exact absurd hempty hready
      · exact h.take hrun (hleaves (.inr rfl))
  | refillAsync =>
      simp only [World.run] at hrun
      split_ifs at hrun <;> obtain rfl := Option.some.inj hrun
      · exact hothers.done
      · exact (hothers.withFlag true w.errors).goto h.refillBatch
  | readCatalogID want =>
      simp only [World.run] at hrun
      split_ifs at hrun with hnone <;> obtain rfl := Option.some.inj hrun
      · exact hothers.notRefilled _ caller
      · exact hothers.goto ⟨h.catalogID hnone, hready⟩
  | fetchRows catalogID want =>
      obtain ⟨hactive, hwant⟩ := hready
      simp only [World.run] at hrun
      split_ifs at hrun with hscan
      have hlen := (fetchRows_spec hscan.1 hscan.2 catalogID c.after want.toNat).1
      rw [length_catalogRows] at hlen
      have hpos := List.length_pos_iff.2 (hrows catalogID hactive)
      split at hrun
      · next hnil =>
        rw [hnil, List.length_nil] at hlen
        omega
      · next rows hne =>
        obtain rfl := Option.some.inj hrun
        exact hothers.goto hne
  | appendRows rows =>
      obtain rfl := Option.some.inj hrun
      have hne : w.pool ++ rows ≠ [] := List.append_ne_nil_of_right_ne_nil _ hready
      have happended := hothers.withPool (w.pool ++ rows) (w.appended ++ rows) w.handedOut
        fun _ _ _ _ _ => hne
      exact happended.refilled hne caller
  | notRefilling =>
      obtain rfl := Option.some.inj hrun
      exact (hothers.withFlag false w.errors).done

theorem step (h : Supplied db mapKey ∅ w)
    (hrows : ∀ catalogID, activeRevision db mapKey = some catalogID → locationsOf db catalogID ≠ [])
    (hleaves : LeavesRow w a) (hs : w.step db mapKey a = some w') : Supplied db mapKey ∅ w' := by
  cases a with
  | init id | draw id =>
      simp only [World.step] at hs
      split_ifs at hs
      obtain rfl := Option.some.inj hs
      exact (h.others id).goto trivial
  | run id c =>
      obtain ⟨p, hp, hrun⟩ := Option.bind_eq_some_iff.1 hs
      exact h.run hrows hp (hleaves p hp) hrun

end Supplied

/-- A draw that waits to take the mutex again finds a row. -/
theorem NeverDry.step (h : NeverDry w) (hsupplied : Supplied db mapKey ∅ w)
    (hs : w.step db mapKey a = some w') : NeverDry w' := by
  cases a with
  | init id | draw id =>
      simp only [World.step] at hs
      split_ifs at hs
      obtain rfl := Option.some.inj hs
      exact h
  | run id c =>
      obtain ⟨p, hp, hrun⟩ := Option.bind_eq_some_iff.1 hs
      unfold NeverDry at h ⊢
      cases effect_of_run hrun with
      | other _ _ _ herrors =>
          rcases herrors with herrors | herrors
          · rwa [herrors]
          · rw [herrors, List.mem_cons]
            exact not_or.2 ⟨by decide, h⟩
      | takes _ _ _ _ _ herrors | appends _ _ _ _ _ herrors => rwa [herrors]
      | fails hat hempty =>
          have hready := hsupplied.ready id p (Set.notMem_empty id) hp
          unfold Ready at hready
          rw [hat] at hready
          exact absurd hempty hready

/-- `FetchRows` returns rows of the catalog, as many as there are up to the limit, and none twice.  In every
run the rows that refills have appended are those in the pool and those that draws have handed out.  While the
catalog has rows, no draw fails with an empty pool in a run in which no draw takes the last row when another
one, whose refill has returned, waits to take the mutex again. -/
theorem pool_of_leavesRow (db : DB) (mapKey : MapKey) (cfg : Config) (as : List Act) :
    (∀ (first second : List LocationEntry) (catalogID : RevisionID) (after : ℚ) (limit : ℕ),
      first ~ locations db → second ~ locations db →
        let rows := fetchRows first second catalogID after limit
        rows.length = min limit (catalogRows db catalogID).length ∧ (rows.map SampledRow.id).Nodup ∧
          ∀ row ∈ rows, row ∈ catalogRows db catalogID) ∧
      Run.Always (World.step db mapKey) Accounted (.new cfg) as ∧
      ((∀ catalogID, activeRevision db mapKey = some catalogID → locationsOf db catalogID ≠ []) →
        Run.Guarded (World.step db mapKey) LeavesRow (.new cfg) as →
          Run.Always (World.step db mapKey) NeverDry (.new cfg) as) := by
  refine ⟨fun first second catalogID after limit hfirst hsecond => ?_, ?_, fun hrows hleaves => ?_⟩
  · exact fetchRows_spec hfirst hsecond catalogID after limit
  · exact Run.always_of_invariant (fun _ _ _ h _ hs => h.step hs) (.refl _) (Run.guarded_true _ as)
  · have hall : Run.Always (World.step db mapKey) (fun w => Supplied db mapKey ∅ w ∧ NeverDry w)
        (.new cfg) as := by
      refine Run.always_of_invariant ?_ ⟨.new cfg, List.not_mem_nil⟩ hleaves
      rintro w a w' ⟨hsupplied, hdry⟩ hleaves hs
      exact ⟨hsupplied.step hrows hleaves hs, hdry.step hsupplied hs⟩
    exact hall.mono fun _ hinv => hinv.2

/-- A catalog with two rows. -/
def twoRows : DB :=
  AList.insert (.location 1)
    ({ mapRevisionID := "world-0f8c5b1e7a2d", location := ⟨41, 12, "", none, none, none, mkRat 1 2⟩ } :
      MapRevisions.LocationRow) oneRow

def fetchTwo (id : ℕ) : Act := .run id { first := locations twoRows, second := locations twoRows }

/-- The sampler starts and two draws empty the pool; the refill that the second one starts has to wait.  The
third draw and the fourth both find the pool empty and fetch the two rows, a fifth one takes a row while they
wait for the mutex, and then they take theirs. -/
def leftBetween : List Act :=
  [.init 0, .run 0 {}, .run 0 {}, .run 0 {}, fetchTwo 0, .run 0 {}, .draw 1, .run 1 {}, .draw 2, .run 2 {},
    .draw 3, .run 3 {}, .draw 4, .run 4 {}, .run 3 {}, fetchTwo 3, .run 3 {}, .run 4 {}, fetchTwo 4, .run 4 {},
    .draw 5, .run 5 {}, .run 4 {}, .run 3 {}]

/-- All five draws have their rows. -/
theorem pool_leftBetween :
    (Run.exec (World.step twoRows "world")
      (.new { poolTarget := 2, lowWatermark := 1, refillBatch := 2 }) leftBetween).map
        (fun w => (w.handedOut.map SampledRow.id, w.pool.length)) = some ([0, 1, 0, 1, 0], 1) ∧
      Run.Always (World.step twoRows "world") NeverDry
        (.new { poolTarget := 2, lowWatermark := 1, refillBatch := 2 }) leftBetween := by
  refine ⟨by decide +kernel, (pool_of_leavesRow twoRows "world" _ _).2.2 ?_ (by decide +kernel)⟩
  intro catalogID hactive
  have hid : activeRevision twoRows "world" = some "world-0f8c5b1e7a2d" := by decide +kernel
  obtain rfl := Option.some.inj (hid.symm.trans hactive)
  exact by decide +kernel

end GeoDuels.LocationSampler
