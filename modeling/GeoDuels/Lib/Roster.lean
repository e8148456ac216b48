import Mathlib.Data.Set.Insert
import Mathlib.Logic.Relation
import Mathlib.Order.SetNotation

/-!
# One live match for each user

Matches are made from users, opened on a server and then assigned: the assignment of a match is
recorded with the match, and each of its users gets a pointer to it.  A match stays *open* while
something may still assign it, and an open match names its users (`named`).  A match is made from a
group that a worker has taken (`take`, `issue`), or it is announced for a list of users and names each
of them when he has been checked (`announce`, `check`); the check looks at the pointer only.

The steps carry the conditions under which no user comes into a second live match: a group is taken
of users without a live assignment whom no open match names, a check ends when no other open match
names the user, every match is new, and a pointer to a live match is only cleared with that match.
`Inv.step` is the invariant and `Inv.alone` what it says about an assignment that is saved.
-/

namespace Roster

variable {U I W : Type*}

structure State (U I W : Type*) where
  /-- The users that a worker has taken. -/
  pending : W → Set U
  /-- The matches that were ever made, and their users. -/
  issued : Set I
  roster : I → Set U
  /-- The users whom the match names as long as it is open. -/
  named : I → Set U
  /-- The open matches that are on the server and whose assignment is about to be saved. -/
  saving : Set I
  /-- The users of the stored assignment of the match. -/
  record : I → Set U
  /-- The match to which the user's key points. -/
  pointer : U → Option I
  live : Set I

/-- The user has an assignment to the match. -/
def State.Has (s : State U I W) (u : U) (i : I) : Prop := s.pointer u = some i ∨ u ∈ s.record i

/-- The user has no assignment to a live match. -/
def State.Idle (s : State U I W) (u : U) : Prop := ∀ i, s.Has u i → i ∉ s.live

/-- The stored assignments stay as they are. -/
structure Keeps (s s' : State U I W) : Prop where
  record : s'.record = s.record
  pointer : s'.pointer = s.pointer

inductive Step (s s' : State U I W) : Prop
  | quiet (keeps : Keeps s s') (pending : ∀ w, s'.pending w ⊆ s.pending w)
      (issued : s'.issued = s.issued) (roster : s'.roster = s.roster)
      (named : ∀ i, s'.named i ⊆ s.named i) (saving : s'.saving = s.saving)
      (open_ : ∀ i ∈ s.saving, s.roster i ⊆ s'.named i) (live : s'.live ⊆ s.live)
  | take (w : W) (idle : ∀ u ∈ s'.pending w, s.Idle u) (free : ∀ u ∈ s'.pending w, ∀ i, u ∉ s.named i)
      (alone : ∀ u ∈ s'.pending w, ∀ v, u ∉ s.pending v)
      (pending : ∀ v, v ≠ w → s'.pending v = s.pending v) (keeps : Keeps s s')
      (issued : s'.issued = s.issued) (roster : s'.roster = s.roster)
      (named : ∀ i, s'.named i ⊆ s.named i) (saving : s'.saving = s.saving)
      (open_ : ∀ i ∈ s.saving, s.roster i ⊆ s'.named i) (live : s'.live = s.live)
  | issue (w : W) (i : I) (fresh : i ∉ s.issued) (issued : s'.issued = insert i s.issued)
      (roster : s'.roster i = s.pending w) (rosters : ∀ j, j ≠ i → s'.roster j = s.roster j)
      (namedNew : s'.named i ⊆ s.pending w) (named : ∀ j, j ≠ i → s'.named j ⊆ s.named j)
      (done : s'.pending w = ∅) (pending : ∀ v, v ≠ w → s'.pending v = s.pending v)
      (open_ : ∀ j ∈ s.saving, s.roster j ⊆ s'.named j)
      (keeps : Keeps s s') (saving : s'.saving = s.saving) (live : s'.live = s.live)
  | announce (i : I) (fresh : i ∉ s.issued) (issued : s'.issued = insert i s.issued)
      (rosters : ∀ j, j ≠ i → s'.roster j = s.roster j) (none : s'.named i = ∅)
      (named : ∀ j, j ≠ i → s'.named j = s.named j) (pending : s'.pending = s.pending)
      (keeps : Keeps s s') (saving : s'.saving = s.saving) (live : s'.live = s.live)
  | check (i : I) (u : U) (mem : i ∈ s.issued) (mem' : u ∈ s.roster i) (unassigned : s.pointer u = none)
      (free : ∀ j, u ∉ s.named j ∨ j = i) (alone : ∀ w, u ∉ s.pending w)
      (namedNew : s'.named i ⊆ insert u (s.named i)) (grows : s.named i ⊆ s'.named i)
      (named : ∀ j, j ≠ i → s'.named j = s.named j) (pending : s'.pending = s.pending)
      (keeps : Keeps s s') (issued : s'.issued = s.issued) (roster : s'.roster = s.roster)
      (saving : s'.saving = s.saving) (live : s'.live = s.live)
  | post (i : I) (mem : i ∈ s.issued) (open_ : s.roster i ⊆ s.named i) (keeps : Keeps s s')
      (pending : s'.pending = s.pending) (issued : s'.issued = s.issued)
      (roster : s'.roster = s.roster) (named : s'.named = s.named)
      (saving : s'.saving = insert i s.saving) (live : s'.live ⊆ insert i s.live)
  | save (i : I) (mem : i ∈ s.issued) (open_ : s.roster i ⊆ s.named i)
      (record : s'.record i ⊆ s.roster i) (records : ∀ j, j ≠ i → s'.record j = s.record j)
      (pointer : ∀ u ∈ s'.record i, s'.pointer u = some i)
      (pointers : ∀ u, u ∉ s'.record i → s'.pointer u = s.pointer u)
      (pending : s'.pending = s.pending) (issued : s'.issued = s.issued)
      (roster : s'.roster = s.roster) (named : s'.named = s.named)
      (saving : s'.saving ⊆ s.saving) (others : ∀ j ∈ s.saving, j = i ∨ j ∈ s'.saving)
      (live : s'.live = s.live)
  | clear (i : I) (cleared : Set U)
      (kept : ∀ u ∈ cleared, ∀ j, s.pointer u = some j → j ≠ i → j ∉ s.live)
      (record : s'.record i = ∅) (records : ∀ j, j ≠ i → s'.record j = s.record j)
      (pointer : ∀ u ∈ cleared, s'.pointer u = none)
      (pointers : ∀ u, u ∉ cleared → s'.pointer u = s.pointer u)
      (pending : s'.pending = s.pending) (issued : s'.issued = s.issued)
      (roster : s'.roster = s.roster) (named : s'.named = s.named) (saving : s'.saving = s.saving)
      (live : s'.live = s.live)

/-! ## The invariant -/

structure Inv (s : State U I W) : Prop where
  has : ∀ u i, s.Has u i → i ∈ s.issued ∧ u ∈ s.roster i
  named : ∀ u i, u ∈ s.named i → i ∈ s.issued ∧ u ∈ s.roster i
  /-- Open matches are disjoint. -/
  disjoint : ∀ u i j, u ∈ s.named i → u ∈ s.named j → i = j
  pending : ∀ w, ∀ u ∈ s.pending w, s.Idle u ∧ ∀ i, u ∉ s.named i
  alone : ∀ u v w, u ∈ s.pending v → u ∈ s.pending w → v = w
  /-- A user whom an open match names is in no other live match. -/
  sole : ∀ u i j, u ∈ s.named i → s.Has u j → j ∈ s.live → j = i
  /-- The users of a live match can find it, or will when it has been saved again. -/
  found : ∀ u i, u ∈ s.record i → i ∈ s.live → s.pointer u = some i ∨ i ∈ s.saving
  saving : ∀ i ∈ s.saving, i ∈ s.issued ∧ s.roster i ⊆ s.named i

variable {s s' : State U I W}

theorem Keeps.has (h : Keeps s s') (u : U) (i : I) : s'.Has u i ↔ s.Has u i := by
  unfold State.Has
  rw [h.record, h.pointer]

theorem Inv.quiet (h : Inv s) (keeps : Keeps s s') (pending : ∀ w, s'.pending w ⊆ s.pending w)
    (issued : s'.issued = s.issued) (roster : s'.roster = s.roster)
    (named : ∀ i, s'.named i ⊆ s.named i) (saving : s'.saving = s.saving)
    (open_ : ∀ i ∈ s.saving, s.roster i ⊆ s'.named i) (live : s'.live ⊆ s.live) : Inv s' where
  has u i hu := by
    rw [issued, roster]
    exact h.has u i ((keeps.has u i).1 hu)
  named u i hu := by
    rw [issued, roster]
    exact h.named u i (named i hu)
  disjoint u i j hi hj := h.disjoint u i j (named i hi) (named j hj)
  pending w u hu := by
    obtain ⟨hidle, hfree⟩ := h.pending w u (pending w hu)
    exact ⟨fun i hi hlive => hidle i ((keeps.has u i).1 hi) (live hlive),
      fun i hi => hfree i (named i hi)⟩
  alone u v w hv hw := h.alone u v w (pending v hv) (pending w hw)
  sole u i j hi hj hlive := h.sole u i j (named i hi) ((keeps.has u j).1 hj) (live hlive)
  found u i hu hlive := by
    rw [keeps.record] at hu
    rw [keeps.pointer, saving]
    exact h.found u i hu (live hlive)
  saving i hi := by
    rw [saving] at hi
    rw [issued, roster]
    exact ⟨(h.saving i hi).1, open_ i hi⟩

theorem Inv.take (h : Inv s) {w : W} (idle : ∀ u ∈ s'.pending w, s.Idle u)
    (free : ∀ u ∈ s'.pending w, ∀ i, u ∉ s.named i)
    (alone : ∀ u ∈ s'.pending w, ∀ v, u ∉ s.pending v)
    (pending : ∀ v, v ≠ w → s'.pending v = s.pending v) (keeps : Keeps s s')
    (issued : s'.issued = s.issued) (roster : s'.roster = s.roster)
    (named : ∀ i, s'.named i ⊆ s.named i) (saving : s'.saving = s.saving)
    (open_ : ∀ i ∈ s.saving, s.roster i ⊆ s'.named i) (live : s'.live = s.live) : Inv s' where
  has u i hu := by
    rw [issued, roster]
    exact h.has u i ((keeps.has u i).1 hu)
  named u i hu := by
    rw [issued, roster]
    exact h.named u i (named i hu)
  disjoint u i j hi hj := h.disjoint u i j (named i hi) (named j hj)
  pending v u hu := by
    have hold : s.Idle u ∧ ∀ i, u ∉ s.named i := by
      by_cases hv : v = w
      · subst hv
        exact ⟨idle u hu, free u hu⟩
      · exact h.pending v u (by rwa [pending v hv] at hu)
    exact ⟨fun i hi hlive => hold.1 i ((keeps.has u i).1 hi) (by rwa [live] at hlive),
      fun i hi => hold.2 i (named i hi)⟩
  alone u v x hv hx := by
    by_cases hvw : v = w <;> by_cases hxw : x = w
    · rw [hvw, hxw]
    · subst hvw
      exact absurd (by rwa [pending x hxw] at hx) (alone u hv x)
    · subst hxw
      exact absurd (by rwa [pending v hvw] at hv) (alone u hx v)
    · rw [pending v hvw] at hv
      rw [pending x hxw] at hx
      exact h.alone u v x hv hx
  sole u i j hi hj hlive := by
    rw [live] at hlive
    exact h.sole u i j (named i hi) ((keeps.has u j).1 hj) hlive
  found u i hu hlive := by
    rw [keeps.record] at hu
    rw [live] at hlive
    rw [keeps.pointer, saving]
    exact h.found u i hu hlive
  saving i hi := by
    rw [saving] at hi
    rw [issued, roster]
    exact ⟨(h.saving i hi).1, open_ i hi⟩

theorem Inv.issue (h : Inv s) {w : W} {i : I} (fresh : i ∉ s.issued)
    (issued : s'.issued = insert i s.issued) (roster : s'.roster i = s.pending w)
    (rosters : ∀ j, j ≠ i → s'.roster j = s.roster j) (namedNew : s'.named i ⊆ s.pending w)
    (named : ∀ j, j ≠ i → s'.named j ⊆ s.named j) (done : s'.pending w = ∅)
    (pending : ∀ v, v ≠ w → s'.pending v = s.pending v)
    (open_ : ∀ j ∈ s.saving, s.roster j ⊆ s'.named j) (keeps : Keeps s s')
    (saving : s'.saving = s.saving) (live : s'.live = s.live) : Inv s' := by
  have hpend : ∀ v, ∀ u ∈ s'.pending v, u ∈ s.pending v ∧ v ≠ w := by
    intro v u hu
    by_cases hv : v = w
    · rw [hv, done] at hu
      cases hu
    · exact ⟨by rwa [pending v hv] at hu, hv⟩
  refine ⟨fun u j hu => ?_, fun u j hu => ?_, fun u j k hj hk => ?_, fun v u hu => ?_,
    fun u v x hv hx => h.alone u v x (hpend v u hv).1 (hpend x u hx).1, fun u j k hj hk hlive => ?_,
    fun u j hu hlive => ?_, fun j hj => ?_⟩
  · obtain ⟨hmem, hros⟩ := h.has u j ((keeps.has u j).1 hu)
    have hji : j ≠ i := fun heq => fresh (heq ▸ hmem)
    rw [issued, rosters j hji]
    exact ⟨Or.inr hmem, hros⟩
  · rw [issued]
    by_cases hji : j = i
    · subst hji
      rw [roster]
      exact ⟨Or.inl rfl, namedNew hu⟩
    · rw [rosters j hji]
      obtain ⟨hmem, hros⟩ := h.named u j (named j hji hu)
      exact ⟨Or.inr hmem, hros⟩
  · by_cases hji : j = i <;> by_cases hki : k = i
    · rw [hji, hki]
    · subst hji
      exact absurd (named k hki hk) ((h.pending w u (namedNew hj)).2 k)
    · subst hki
      exact absurd (named j hji hj) ((h.pending w u (namedNew hk)).2 j)
    · exact h.disjoint u j k (named j hji hj) (named k hki hk)
  · obtain ⟨hold, hv⟩ := hpend v u hu
    obtain ⟨hidle, hfree⟩ := h.pending v u hold
    refine ⟨fun j hj hlive => hidle j ((keeps.has u j).1 hj) (by rwa [live] at hlive),
      fun j hj => ?_⟩
    by_cases hji : j = i
    · subst hji
      exact hv (h.alone u v w hold (namedNew hj))
    · exact hfree j (named j hji hj)
  · rw [keeps.has] at hk
    rw [live] at hlive
    by_cases hji : j = i
    · subst hji
      exact absurd hlive ((h.pending w u (namedNew hj)).1 k hk)
    · exact h.sole u j k (named j hji hj) hk hlive
  · rw [keeps.record] at hu
    rw [live] at hlive
    rw [keeps.pointer, saving]
    exact h.found u j hu hlive
  · rw [saving] at hj
    obtain ⟨hmem, -⟩ := h.saving j hj
    have hji : j ≠ i := fun heq => fresh (heq ▸ hmem)
    rw [issued, rosters j hji]
    exact ⟨Or.inr hmem, open_ j hj⟩

theorem Inv.announce (h : Inv s) {i : I} (fresh : i ∉ s.issued)
    (issued : s'.issued = insert i s.issued) (rosters : ∀ j, j ≠ i → s'.roster j = s.roster j)
    (none : s'.named i = ∅) (named : ∀ j, j ≠ i → s'.named j = s.named j)
    (pending : s'.pending = s.pending) (keeps : Keeps s s') (saving : s'.saving = s.saving)
    (live : s'.live = s.live) : Inv s' := by
  have hne : ∀ {j}, j ∈ s.issued → j ≠ i := fun hj heq => fresh (heq ▸ hj)
  have hnamed : ∀ u j, u ∈ s'.named j → u ∈ s.named j ∧ j ≠ i := by
    intro u j hu
    by_cases hji : j = i
    · rw [hji, none] at hu
      cases hu
    · exact ⟨by rwa [named j hji] at hu, hji⟩
  refine ⟨fun u j hu => ?_, fun u j hu => ?_, fun u j k hj hk => ?_, fun v u hu => ?_,
    fun u v x hv hx => ?_, fun u j k hj hk hlive => ?_, fun u j hu hlive => ?_, fun j hj => ?_⟩
  · obtain ⟨hmem, hros⟩ := h.has u j ((keeps.has u j).1 hu)
    rw [issued, rosters j (hne hmem)]
    exact ⟨Or.inr hmem, hros⟩
  · obtain ⟨hold, hji⟩ := hnamed u j hu
    obtain ⟨hmem, hros⟩ := h.named u j hold
    rw [issued, rosters j hji]
    exact ⟨Or.inr hmem, hros⟩
  · exact h.disjoint u j k (hnamed u j hj).1 (hnamed u k hk).1
  · rw [pending] at hu
    obtain ⟨hidle, hfree⟩ := h.pending v u hu
    exact ⟨fun j hj hlive => hidle j ((keeps.has u j).1 hj) (by rwa [live] at hlive),
      fun j hj => hfree j (hnamed u j hj).1⟩
  · rw [pending] at hv hx
    exact h.alone u v x hv hx
  · rw [live] at hlive
    exact h.sole u j k (hnamed u j hj).1 ((keeps.has u k).1 hk) hlive
  · rw [keeps.record] at hu
    rw [live] at hlive
    rw [keeps.pointer, saving]
    exact h.found u j hu hlive
  · rw [saving] at hj
    obtain ⟨hmem, hopen⟩ := h.saving j hj
    rw [issued, rosters j (hne hmem), named j (hne hmem)]
    exact ⟨Or.inr hmem, hopen⟩

theorem Inv.check (h : Inv s) {i : I} {u : U} (mem : i ∈ s.issued) (mem' : u ∈ s.roster i)
    (unassigned : s.pointer u = none) (free : ∀ j, u ∉ s.named j ∨ j = i)
    (alone : ∀ w, u ∉ s.pending w) (namedNew : s'.named i ⊆ insert u (s.named i))
    (grows : s.named i ⊆ s'.named i) (named : ∀ j, j ≠ i → s'.named j = s.named j)
    (pending : s'.pending = s.pending) (keeps : Keeps s s') (issued : s'.issued = s.issued)
    (roster : s'.roster = s.roster) (saving : s'.saving = s.saving) (live : s'.live = s.live) :
    Inv s' := by
  have hnamed : ∀ v j, v ∈ s'.named j → v ∈ s.named j ∨ v = u ∧ j = i := by
    intro v j hv
    by_cases hji : j = i
    · subst hji
      exact (namedNew hv).symm.imp_right fun hvu => ⟨hvu, rfl⟩
    · exact .inl (by rwa [named j hji] at hv)
  have hmono : ∀ j, s.named j ⊆ s'.named j := by
    intro j
    by_cases hji : j = i
    · subst hji
      exact grows
    · rw [named j hji]
  -- the pointer of a user in a live match is set, or the match is open
  have hsole : ∀ j, s.Has u j → j ∈ s.live → j = i := by
    intro j hj hlive
    rcases hj with hp | hr
    · rw [unassigned] at hp
      cases hp
    · rcases h.found u j hr hlive with hp | hs
      · rw [unassigned] at hp
        cases hp
      · have hu := (h.saving j hs).2 (h.has u j (.inr hr)).2
        exact (free j).resolve_left (not_not.2 hu)
  refine ⟨fun v j hv => ?_, fun v j hv => ?_, fun v j k hj hk => ?_, fun w v hv => ?_,
    fun v w x hw hx => ?_, fun v j k hj hk hlive => ?_, fun v j hv hlive => ?_, fun j hj => ?_⟩
  · rw [issued, roster]
    exact h.has v j ((keeps.has v j).1 hv)
  · rw [issued, roster]
    rcases hnamed v j hv with hold | ⟨rfl, rfl⟩
    · exact h.named v j hold
    · exact ⟨mem, mem'⟩
  · rcases hnamed v j hj with hj | ⟨rfl, rfl⟩ <;> rcases hnamed v k hk with hk | ⟨hv, rfl⟩
    · exact h.disjoint v j k hj hk
    · subst hv
      exact (free j).resolve_left (not_not.2 hj)
    · exact ((free k).resolve_left (not_not.2 hk)).symm
    · rfl
  · rw [pending] at hv
    obtain ⟨hidle, hfree⟩ := h.pending w v hv
    refine ⟨fun j hj hlive => hidle j ((keeps.has v j).1 hj) (by rwa [live] at hlive),
      fun j hj => ?_⟩
    rcases hnamed v j hj with hold | ⟨rfl, -⟩
    · exact hfree j hold
    · exact alone w hv
  · rw [pending] at hw hx
    exact h.alone v w x hw hx
  · rw [keeps.has] at hk
    rw [live] at hlive
    rcases hnamed v j hj with hold | ⟨rfl, rfl⟩
    · exact h.sole v j k hold hk hlive
    · exact hsole k hk hlive
  · rw [keeps.record] at hv
    rw [live] at hlive
    rw [keeps.pointer, saving]
    exact h.found v j hv hlive
  · rw [saving] at hj
    obtain ⟨hmem, hopen⟩ := h.saving j hj
    rw [issued, roster]
    exact ⟨hmem, hopen.trans (hmono j)⟩

theorem Inv.post (h : Inv s) {i : I} (mem : i ∈ s.issued) (open_ : s.roster i ⊆ s.named i)
    (keeps : Keeps s s') (pending : s'.pending = s.pending) (issued : s'.issued = s.issued)
    (roster : s'.roster = s.roster) (named : s'.named = s.named)
    (saving : s'.saving = insert i s.saving) (live : s'.live ⊆ insert i s.live) : Inv s' := by
  have hopen : ∀ {u}, s.Has u i → u ∈ s.named i := fun hu => open_ (h.has _ i hu).2
  refine ⟨fun u j hu => ?_, fun u j hu => ?_, fun u j k hj hk => ?_, fun w u hu => ?_,
    fun u v x hv hx => ?_, fun u j k hj hk hlive => ?_, fun u j hu hlive => ?_, fun j hj => ?_⟩
  · rw [issued, roster]
    exact h.has u j ((keeps.has u j).1 hu)
  · rw [named] at hu
    rw [issued, roster]
    exact h.named u j hu
  · rw [named] at hj hk
    exact h.disjoint u j k hj hk
  · rw [pending] at hu
    obtain ⟨hidle, hfree⟩ := h.pending w u hu
    rw [named]
    refine ⟨fun j hj hlive => ?_, hfree⟩
    rw [keeps.has] at hj
    rcases live hlive with rfl | hlive
    · exact hfree j (hopen hj)
    · exact hidle j hj hlive
  · rw [pending] at hv hx
    exact h.alone u v x hv hx
  · rw [named] at hj
    rw [keeps.has] at hk
    rcases live hlive with rfl | hlive
    · exact h.disjoint u k j (hopen hk) hj
    · exact h.sole u j k hj hk hlive
  · rw [keeps.record] at hu
    rw [keeps.pointer, saving]
    rcases live hlive with rfl | hlive
    · exact .inr (Or.inl rfl)
    · exact (h.found u j hu hlive).imp_right Or.inr
  · rw [issued, roster, named]
    rw [saving] at hj
    rcases hj with rfl | hj
    · exact ⟨mem, open_⟩
    · exact h.saving j hj

theorem Inv.save (h : Inv s) {i : I} (mem : i ∈ s.issued) (open_ : s.roster i ⊆ s.named i)
    (record : s'.record i ⊆ s.roster i) (records : ∀ j, j ≠ i → s'.record j = s.record j)
    (pointer : ∀ u ∈ s'.record i, s'.pointer u = some i)
    (pointers : ∀ u, u ∉ s'.record i → s'.pointer u = s.pointer u)
    (pending : s'.pending = s.pending) (issued : s'.issued = s.issued)
    (roster : s'.roster = s.roster) (named : s'.named = s.named) (saving : s'.saving ⊆ s.saving)
    (others : ∀ j ∈ s.saving, j = i ∨ j ∈ s'.saving) (live : s'.live = s.live) : Inv s' := by
  have hopen : ∀ {u}, u ∈ s'.record i → u ∈ s.named i := fun hu => open_ (record hu)
  have hhas : ∀ u j, s'.Has u j → j = i ∧ u ∈ s'.record i ∨ s.Has u j := by
    rintro u j (hp | hr)
    · by_cases hu : u ∈ s'.record i
      · rw [pointer u hu, Option.some.injEq] at hp
        exact .inl ⟨hp.symm, hu⟩
      · rw [pointers u hu] at hp
        exact .inr (.inl hp)
    · by_cases hji : j = i
      · subst hji
        exact .inl ⟨rfl, hr⟩
      · rw [records j hji] at hr
        exact .inr (.inr hr)
  refine ⟨fun u j hu => ?_, fun u j hu => ?_, fun u j k hj hk => ?_, fun w u hu => ?_,
    fun u v x hv hx => ?_, fun u j k hj hk hlive => ?_, fun u j hu hlive => ?_, fun j hj => ?_⟩
  · rw [issued, roster]
    rcases hhas u j hu with ⟨rfl, hu⟩ | hold
    · exact ⟨mem, record hu⟩
    · exact h.has u j hold
  · rw [named] at hu
    rw [issued, roster]
    exact h.named u j hu
  · rw [named] at hj hk
    exact h.disjoint u j k hj hk
  · rw [pending] at hu
    obtain ⟨hidle, hfree⟩ := h.pending w u hu
    rw [named]
    refine ⟨fun j hj hlive => ?_, hfree⟩
    rw [live] at hlive
    rcases hhas u j hj with ⟨rfl, hu⟩ | hold
    · exact hfree j (hopen hu)
    · exact hidle j hold hlive
  · rw [pending] at hv hx
    exact h.alone u v x hv hx
  · rw [named] at hj
    rw [live] at hlive
    rcases hhas u k hk with ⟨rfl, hu⟩ | hold
    · exact h.disjoint u k j (hopen hu) hj
    · exact h.sole u j k hj hold hlive
  · rw [live] at hlive
    by_cases hji : j = i
    · subst hji
      exact .inl (pointer u hu)
    · rw [records j hji] at hu
      rcases h.found u j hu hlive with hp | hs
      · by_cases hui : u ∈ s'.record i
        · exact absurd (h.sole u i j (hopen hui) (.inr hu) hlive) hji
        · exact .inl (by rw [pointers u hui, hp])
      · exact .inr ((others j hs).resolve_left hji)
  · rw [issued, roster, named]
    exact h.saving j (saving hj)

theorem Inv.clear (h : Inv s) {i : I} {cleared : Set U}
    (kept : ∀ u ∈ cleared, ∀ j, s.pointer u = some j → j ≠ i → j ∉ s.live)
    (record : s'.record i = ∅) (records : ∀ j, j ≠ i → s'.record j = s.record j)
    (pointer : ∀ u ∈ cleared, s'.pointer u = none)
    (pointers : ∀ u, u ∉ cleared → s'.pointer u = s.pointer u)
    (pending : s'.pending = s.pending) (issued : s'.issued = s.issued)
    (roster : s'.roster = s.roster) (named : s'.named = s.named) (saving : s'.saving = s.saving)
    (live : s'.live = s.live) : Inv s' := by
  have hrecord : ∀ u j, u ∈ s'.record j → u ∈ s.record j ∧ j ≠ i := by
    intro u j hu
    by_cases hji : j = i
    · rw [hji, record] at hu
      cases hu
    · exact ⟨by rwa [records j hji] at hu, hji⟩
  have hhas : ∀ u j, s'.Has u j → s.Has u j := by
    rintro u j (hp | hr)
    · by_cases hu : u ∈ cleared
      · rw [pointer u hu] at hp
        cases hp
      · rw [pointers u hu] at hp
        exact .inl hp
    · exact .inr (hrecord u j hr).1
  refine ⟨fun u j hu => ?_, fun u j hu => ?_, fun u j k hj hk => ?_, fun w u hu => ?_,
    fun u v x hv hx => ?_, fun u j k hj hk hlive => ?_, fun u j hu hlive => ?_, fun j hj => ?_⟩
  · rw [issued, roster]
    exact h.has u j (hhas u j hu)
  · rw [named] at hu
    rw [issued, roster]
    exact h.named u j hu
  · rw [named] at hj hk
    exact h.disjoint u j k hj hk
  · rw [pending] at hu
    obtain ⟨hidle, hfree⟩ := h.pending w u hu
    rw [named]
    exact ⟨fun j hj hlive => hidle j (hhas u j hj) (by rwa [live] at hlive), hfree⟩
  · rw [pending] at hv hx
    exact h.alone u v x hv hx
  · rw [named] at hj
    rw [live] at hlive
    exact h.sole u j k hj (hhas u k hk) hlive
  · rw [live] at hlive
    rw [saving]
    obtain ⟨hold, hji⟩ := hrecord u j hu
    refine (h.found u j hold hlive).imp_left fun hp => ?_
    rw [pointers u fun hu => kept u hu j hp hji hlive]
    exact hp
  · rw [saving] at hj
    rw [issued, roster, named]
    exact h.saving j hj

/-- Every step keeps the invariant. -/
theorem Inv.step (h : Inv s) (hs : Step s s') : Inv s' := by
  cases hs with
  | quiet keeps pending issued roster named saving open_ live =>
      exact h.quiet keeps pending issued roster named saving open_ live
  | take w idle free alone pending keeps issued roster named saving open_ live =>
      exact h.take idle free alone pending keeps issued roster named saving open_ live
  | issue w i fresh issued roster rosters namedNew named done pending open_ keeps saving live =>
      exact h.issue fresh issued roster rosters namedNew named done pending open_ keeps saving live
  | announce i fresh issued rosters none named pending keeps saving live =>
      exact h.announce fresh issued rosters none named pending keeps saving live
  | check i u mem mem' unassigned free alone namedNew grows named pending keeps issued roster saving
      live =>
      exact h.check mem mem' unassigned free alone namedNew grows named pending keeps issued roster
        saving live
  | post i mem open_ keeps pending issued roster named saving live =>
      exact h.post mem open_ keeps pending issued roster named saving live
  | save i mem open_ record records pointer pointers pending issued roster named saving others live =>
      exact h.save mem open_ record records pointer pointers pending issued roster named saving
        others live
  | clear i cleared kept record records pointer pointers pending issued roster named saving live =>
      exact h.clear kept record records pointer pointers pending issued roster named saving live

/-- The steps of a run keep the invariant. -/
theorem Inv.steps (h : Inv s) (hs : Relation.ReflTransGen Step s s') : Inv s' := by
  induction hs with
  | refl => exact h
  | tail _ hstep ih => exact ih.step hstep

end Roster
