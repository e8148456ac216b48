import Mathlib.Data.List.AList

/-!
# Association maps

A map with unordered iteration is Mathlib's `AList` at a constant value type; the order of its
entries stands for one iteration order.  This file adds the whole-map operations that loops over a
map need (`mapVals`, `modify`, `modifyAll`, `any`, `all`, `countP`), each with the lemma that says
what a lookup sees of it.
-/

/-- A map from `K` to `V` with finitely many keys. -/
abbrev Assoc (K : Type*) (V : Type*) := AList fun _ : K => V

namespace Assoc

variable {K V W : Type*}

/-- Replace every value, knowing its key. -/
def mapVals (f : K → V → W) (s : Assoc K V) : Assoc K W where
  entries := s.entries.map fun e => ⟨e.1, f e.1 e.2⟩
  nodupKeys := by
    have h : (s.entries.map Sigma.fst).Nodup := s.nodupKeys
    simpa [List.NodupKeys, List.keys, Function.comp_def] using h

@[simp] theorem keys_mapVals (f : K → V → W) (s : Assoc K V) : (mapVals f s).keys = s.keys := by
  simp [AList.keys, mapVals, List.keys, Function.comp_def]

@[simp] theorem mem_mapVals {f : K → V → W} {s : Assoc K V} {k : K} : k ∈ mapVals f s ↔ k ∈ s := by
  rw [AList.mem_keys, AList.mem_keys, keys_mapVals]

theorem mapVals_mapVals {X : Type*} (g : K → W → X) (f : K → V → W) (s : Assoc K V) :
    mapVals g (mapVals f s) = mapVals (fun k v => g k (f k v)) s := by
  refine AList.ext ?_
  simp [mapVals, Function.comp_def]

theorem mapVals_comm {f g : K → V → V} (h : ∀ k v, g k (f k v) = f k (g k v)) (s : Assoc K V) :
    mapVals g (mapVals f s) = mapVals f (mapVals g s) := by
  rw [mapVals_mapVals, mapVals_mapVals]
  congr 1
  funext k v
  exact h k v

variable [DecidableEq K]

theorem mapVals_insert (f : K → V → W) (k : K) (v : V) (s : Assoc K V) :
    mapVals f (s.insert k v) = (mapVals f s).insert k (f k v) := by
  refine AList.ext ?_
  simp [mapVals, List.kerase, List.eraseP_map, Function.comp_def]

theorem mem_entries_iff {s : Assoc K V} {k : K} {v : V} :
    (⟨k, v⟩ : Σ _ : K, V) ∈ s.entries ↔ s.lookup k = some v :=
  AList.mem_lookup_iff.symm

@[simp] theorem lookup_mapVals (f : K → V → W) (s : Assoc K V) (k : K) :
    (mapVals f s).lookup k = (s.lookup k).map (f k) := by
  rcases hk : s.lookup k with _ | v
  · rw [Option.map_none, AList.lookup_eq_none, mem_mapVals, ← AList.lookup_eq_none, hk]
  · rw [Option.map_some, ← mem_entries_iff]
    exact List.mem_map.2 ⟨⟨k, v⟩, mem_entries_iff.2 hk, rfl⟩

theorem mem_iff_exists {s : Assoc K V} {k : K} : k ∈ s ↔ ∃ v, s.lookup k = some v := by
  rw [← AList.lookup_isSome, Option.isSome_iff_exists]

theorem mem_keys_iff_exists {s : Assoc K V} {k : K} : k ∈ s.keys ↔ ∃ v, s.lookup k = some v := by
  rw [← AList.mem_keys, mem_iff_exists]

theorem lookup_insert (k k' : K) (v : V) (s : Assoc K V) :
    (s.insert k v).lookup k' = if k' = k then some v else s.lookup k' := by
  split_ifs with h
  · rw [h, AList.lookup_insert]
  · rw [AList.lookup_insert_ne h]

theorem lookup_erase (k k' : K) (s : Assoc K V) :
    (s.erase k).lookup k' = if k' = k then none else s.lookup k' := by
  split_ifs with h
  · rw [h, AList.lookup_erase]
  · rw [AList.lookup_erase_ne h]

theorem of_lookup_insert {k k' : K} {v v' : V} {s : Assoc K V}
    (h : (s.insert k v).lookup k' = some v') : k' = k ∧ v' = v ∨ k' ≠ k ∧ s.lookup k' = some v' := by
  rw [lookup_insert] at h
  split_ifs at h with heq
  · exact .inl ⟨heq, (Option.some.inj h).symm⟩
  · exact .inr ⟨heq, h⟩

theorem of_lookup_erase {k k' : K} {v : V} {s : Assoc K V} (h : (s.erase k).lookup k' = some v) :
    k' ≠ k ∧ s.lookup k' = some v := by
  rw [lookup_erase] at h
  split_ifs at h with heq
  exact ⟨heq, h⟩

/-- The values that a loop writes at the keys of a list. -/
theorem lookup_foldl_insert (f : K → V) (ks : List K) (s : Assoc K V) (k : K) :
    (ks.foldl (fun s k => s.insert k (f k)) s).lookup k =
      if k ∈ ks then some (f k) else s.lookup k := by
  induction ks generalizing s with
  | nil => rfl
  | cons k' ks ih =>
      rw [List.foldl_cons, ih, lookup_insert]
      by_cases hks : k ∈ ks
      · simp [hks]
      · by_cases hk : k = k'
        · subst hk
          simp [hks]
        · simp [hks, hk]

theorem lookup_foldl_erase (ks : List K) (s : Assoc K V) (k : K) :
    (ks.foldl (fun s k => s.erase k) s).lookup k = if k ∈ ks then none else s.lookup k := by
  induction ks generalizing s with
  | nil => rfl
  | cons k' ks ih =>
      rw [List.foldl_cons, ih, lookup_erase]
      by_cases hks : k ∈ ks <;> by_cases hk : k = k' <;> simp [hks, hk]

theorem erase_of_lookup_none {k : K} {s : Assoc K V} (h : s.lookup k = none) : s.erase k = s :=
  AList.ext (List.kerase_of_notMem_keys (AList.lookup_eq_none.1 h))

/-- Replace the value at one key, when there is one. -/
def modify (k : K) (f : V → V) (s : Assoc K V) : Assoc K V :=
  mapVals (fun k' v => if k' = k then f v else v) s

theorem lookup_modify (k k' : K) (f : V → V) (s : Assoc K V) :
    (modify k f s).lookup k' = if k' = k then (s.lookup k').map f else s.lookup k' := by
  rw [modify, lookup_mapVals]
  split_ifs <;> simp

@[simp] theorem lookup_modify_self (k : K) (f : V → V) (s : Assoc K V) :
    (modify k f s).lookup k = (s.lookup k).map f := by
  rw [lookup_modify, if_pos rfl]

theorem lookup_modify_ne {k k' : K} (h : k' ≠ k) (f : V → V) (s : Assoc K V) :
    (modify k f s).lookup k' = s.lookup k' := by
  rw [lookup_modify, if_neg h]

@[simp] theorem keys_modify (k : K) (f : V → V) (s : Assoc K V) : (modify k f s).keys = s.keys :=
  keys_mapVals _ _

@[simp] theorem mem_modify {k k' : K} {f : V → V} {s : Assoc K V} : k' ∈ modify k f s ↔ k' ∈ s :=
  mem_mapVals

/-- Writing the value that is already there changes nothing. -/
theorem modify_of_lookup {k : K} {f : V → V} {s : Assoc K V} {v : V} (h : s.lookup k = some v)
    (hf : f v = v) : modify k f s = s := by
  refine AList.ext ?_
  show s.entries.map (fun e => (⟨e.1, if e.1 = k then f e.2 else e.2⟩ : Σ _ : K, V)) = s.entries
  refine (List.map_congr_left fun e he => ?_).trans (List.map_id _)
  have he' := mem_entries_iff.1 he
  split_ifs with hk
  · rw [hk, h, Option.some.injEq] at he'
    rw [← he', hf, he']
    rfl
  · rfl

theorem modify_mapVals {f : K → V → W} {g : V → V} {g' : W → W} {k : K}
    (h : ∀ v, g' (f k v) = f k (g v)) (s : Assoc K V) :
    modify k g' (mapVals f s) = mapVals f (modify k g s) := by
  rw [modify, modify, mapVals_mapVals, mapVals_mapVals]
  congr 1
  funext k' v
  split_ifs with hk
  · rw [hk]
    exact h v
  · rfl

/-- Replace the values at the keys of a list, one after the other. -/
def modifyAll (ks : List K) (f : V → V) (s : Assoc K V) : Assoc K V :=
  ks.foldl (fun s k => modify k f s) s

@[simp] theorem keys_modifyAll (ks : List K) (f : V → V) (s : Assoc K V) :
    (modifyAll ks f s).keys = s.keys := by
  induction ks generalizing s with
  | nil => rfl
  | cons k ks ih => exact (ih _).trans (keys_modify _ _ _)

/-- An update that does nothing more when repeated is applied exactly at the listed keys. -/
theorem lookup_modifyAll {f : V → V} (hf : ∀ v, f (f v) = f v) (ks : List K) (s : Assoc K V)
    (k : K) : (modifyAll ks f s).lookup k = if k ∈ ks then (s.lookup k).map f else s.lookup k := by
  induction ks generalizing s with
  | nil => simp [modifyAll]
  | cons k' ks ih =>
      refine (ih (modify k' f s)).trans ?_
      rw [lookup_modify]
      by_cases hk : k = k' <;> by_cases hks : k ∈ ks <;>
        simp [hk, hks, Function.comp_def, hf]

/-- Keep the entries that satisfy the predicate. -/
def filter (p : K → V → Bool) (s : Assoc K V) : Assoc K V where
  entries := s.entries.filter fun e => p e.1 e.2
  nodupKeys := s.nodupKeys.sublist List.filter_sublist

theorem lookup_filter (p : K → V → Bool) (s : Assoc K V) (k : K) :
    (filter p s).lookup k = (s.lookup k).filter (p k) := by
  ext v
  rw [Option.filter_eq_some_iff, ← mem_entries_iff, ← mem_entries_iff]
  simp [filter]

/-- Some entry satisfies the predicate. -/
def any (p : K → V → Bool) (s : Assoc K V) : Bool := s.entries.any fun e => p e.1 e.2

/-- Every entry satisfies the predicate. -/
def all (p : K → V → Bool) (s : Assoc K V) : Bool := s.entries.all fun e => p e.1 e.2

/-- The number of entries that satisfy the predicate. -/
def countP (p : K → V → Bool) (s : Assoc K V) : ℕ := s.entries.countP fun e => p e.1 e.2

theorem any_eq_true {p : K → V → Bool} {s : Assoc K V} :
    any p s = true ↔ ∃ k v, s.lookup k = some v ∧ p k v = true := by
  simp only [any, List.any_eq_true, Sigma.exists, mem_entries_iff]

theorem all_eq_true {p : K → V → Bool} {s : Assoc K V} :
    all p s = true ↔ ∀ k v, s.lookup k = some v → p k v = true := by
  simp only [all, List.all_eq_true, Sigma.forall, mem_entries_iff]

theorem countP_eq_zero {p : K → V → Bool} {s : Assoc K V} :
    countP p s = 0 ↔ ∀ k v, s.lookup k = some v → p k v = false := by
  simp only [countP, List.countP_eq_zero, Sigma.forall, mem_entries_iff, Bool.not_eq_true]

omit [DecidableEq K] in
theorem all_mapVals (p : K → W → Bool) (f : K → V → W) (s : Assoc K V) :
    all p (mapVals f s) = all (fun k v => p k (f k v)) s := by
  simp [all, mapVals, Function.comp_def]

omit [DecidableEq K] in
theorem any_mapVals (p : K → W → Bool) (f : K → V → W) (s : Assoc K V) :
    any p (mapVals f s) = any (fun k v => p k (f k v)) s := by
  simp [any, mapVals, Function.comp_def]

omit [DecidableEq K] in
theorem countP_mapVals (p : K → W → Bool) (f : K → V → W) (s : Assoc K V) :
    countP p (mapVals f s) = countP (fun k v => p k (f k v)) s := by
  simp [countP, mapVals, List.countP_map, Function.comp_def]

theorem lookup_union (s s' : Assoc K V) (k : K) :
    (s ∪ s').lookup k = (s.lookup k).or (s'.lookup k) := by
  by_cases hk : k ∈ s
  · obtain ⟨v, hv⟩ := mem_iff_exists.1 hk
    rw [AList.lookup_union_left hk, hv, Option.some_or]
  · rw [AList.lookup_union_right hk, AList.lookup_eq_none.2 hk, Option.none_or]

/-! ## Deciding by the entries -/

instance [DecidableEq V] : DecidableEq (Assoc K V) := fun s s' =>
  decidable_of_iff (s.entries = s'.entries) ⟨AList.ext, congrArg _⟩

instance {P : K → V → Prop} [∀ k v, Decidable (P k v)] (s : Assoc K V) :
    Decidable (∀ k v, s.lookup k = some v → P k v) :=
  decidable_of_iff (∀ e ∈ s.entries, P e.1 e.2)
    ⟨fun h k v hk => h ⟨k, v⟩ (mem_entries_iff.2 hk), fun h e he => h e.1 e.2 (mem_entries_iff.1 he)⟩

instance {P : V → Prop} [DecidablePred P] (s : Assoc K V) (k : K) :
    Decidable (∃ v, s.lookup k = some v ∧ P v) :=
  decidable_of_iff (∃ v ∈ s.lookup k, P v) Iff.rfl

/-! ## Related maps -/

/-- The maps have the same keys, and their values at each key are related. -/
def Pointwise (R : K → V → W → Prop) (s : Assoc K V) (s' : Assoc K W) : Prop :=
  ∀ k, Option.Rel (R k) (s.lookup k) (s'.lookup k)

namespace Pointwise

variable {R : K → V → W → Prop} {s : Assoc K V} {s' : Assoc K W}

theorem right (h : Pointwise R s s') {k : K} {w : W} (hk : s'.lookup k = some w) :
    ∃ v, s.lookup k = some v ∧ R k v w := by
  have hrel := h k
  rw [hk] at hrel
  cases hs : s.lookup k with
  | none => rw [hs] at hrel; cases hrel
  | some v => rw [hs] at hrel; exact ⟨v, rfl, Option.rel_some_some.1 hrel⟩

theorem left (h : Pointwise R s s') {k : K} {v : V} (hk : s.lookup k = some v) :
    ∃ w, s'.lookup k = some w ∧ R k v w := by
  have hrel := h k
  rw [hk] at hrel
  cases hs : s'.lookup k with
  | none => rw [hs] at hrel; cases hrel
  | some w => rw [hs] at hrel; exact ⟨w, rfl, Option.rel_some_some.1 hrel⟩

theorem mem_iff (h : Pointwise R s s') {k : K} : k ∈ s' ↔ k ∈ s := by
  rw [mem_iff_exists, mem_iff_exists]
  constructor
  · rintro ⟨w, hw⟩
    obtain ⟨v, hv, -⟩ := h.right hw
    exact ⟨v, hv⟩
  · rintro ⟨v, hv⟩
    obtain ⟨w, hw, -⟩ := h.left hv
    exact ⟨w, hw⟩

theorem mono {R' : K → V → W → Prop} (h : Pointwise R s s') (hR : ∀ k v w, R k v w → R' k v w) :
    Pointwise R' s s' := by
  intro k
  have hrel := h k
  cases hs : s.lookup k with
  | none =>
      cases hs' : s'.lookup k with
      | none => exact .none
      | some w => rw [hs, hs'] at hrel; cases hrel
  | some v =>
      obtain ⟨w, hw, hR'⟩ := h.left hs
      rw [hw]
      exact .some (hR k v w hR')

end Pointwise

theorem Pointwise.of_lookup {R : K → V → W → Prop} {s : Assoc K V} {s' : Assoc K W}
    (hsome : ∀ k v, s.lookup k = some v → ∃ w, s'.lookup k = some w ∧ R k v w)
    (hnone : ∀ k, s.lookup k = none → s'.lookup k = none) : Pointwise R s s' := by
  intro k
  cases hs : s.lookup k with
  | none =>
      rw [hnone k hs]
      exact .none
  | some v =>
      obtain ⟨w, hw, hR⟩ := hsome k v hs
      rw [hw]
      exact .some hR

instance {R : K → V → W → Prop} [∀ k v w, Decidable (R k v w)] (s : Assoc K V) (s' : Assoc K W) :
    Decidable (Pointwise R s s') :=
  decidable_of_iff ((∀ k v, s.lookup k = some v → ∃ w, s'.lookup k = some w ∧ R k v w) ∧
      ∀ k w, s'.lookup k = some w → k ∈ s)
    ⟨fun h => .of_lookup h.1 fun k hk => Option.eq_none_iff_forall_ne_some.2 fun w hw =>
        AList.lookup_eq_none.1 hk (h.2 k w hw),
      fun h => ⟨fun _ _ hk => h.left hk, fun _ w hw => h.mem_iff.1 (mem_iff_exists.2 ⟨w, hw⟩)⟩⟩

theorem Pointwise.refl {R : K → V → V → Prop} (hR : ∀ k v, R k v v) (s : Assoc K V) :
    Pointwise R s s := by
  intro k
  cases s.lookup k with
  | none => exact .none
  | some v => exact .some (hR k v)

theorem Pointwise.trans {X : Type*} {R : K → V → W → Prop} {R' : K → W → X → Prop}
    {R'' : K → V → X → Prop} {s : Assoc K V} {s' : Assoc K W} {s'' : Assoc K X}
    (h : Pointwise R s s') (h' : Pointwise R' s' s'')
    (hR : ∀ k v w x, R k v w → R' k w x → R'' k v x) : Pointwise R'' s s'' := by
  intro k
  cases hs : s.lookup k with
  | none =>
      cases hs'' : s''.lookup k with
      | none => exact .none
      | some x =>
          obtain ⟨w, hw, -⟩ := h'.right hs''
          obtain ⟨v, hv, -⟩ := h.right hw
          rw [hs] at hv
          cases hv
  | some v =>
      obtain ⟨w, hw, hvw⟩ := h.left hs
      obtain ⟨x, hx, hwx⟩ := h'.left hw
      rw [hx]
      exact .some (hR k v w x hvw hwx)

theorem pointwise_mapVals {R : K → V → W → Prop} {f : K → V → W} {s : Assoc K V}
    (h : ∀ k v, s.lookup k = some v → R k v (f k v)) : Pointwise R s (mapVals f s) := by
  intro k
  rw [lookup_mapVals]
  cases hk : s.lookup k with
  | none => exact .none
  | some v => exact .some (h k v hk)

theorem pointwise_modify {R : K → V → V → Prop} (hR : ∀ k v, R k v v) {f : V → V} {k₀ : K}
    {s : Assoc K V} (h : ∀ v, s.lookup k₀ = some v → R k₀ v (f v)) :
    Pointwise R s (modify k₀ f s) := by
  refine pointwise_mapVals fun k v hk => ?_
  split_ifs with heq
  · subst heq
    exact h v hk
  · exact hR k v

/-! ## Loops over the keys -/

omit [DecidableEq K] in
theorem keys_perm {s : Assoc K V} {s' : Assoc K W} (h : ∀ k, k ∈ s ↔ k ∈ s') :
    s.keys.Perm s'.keys :=
  (List.perm_ext_iff_of_nodup (AList.keys_nodup s) (AList.keys_nodup s')).2 h

/-- The maps have the same entries, in whatever order. -/
def Same (s s' : Assoc K V) : Prop := ∀ k, s.lookup k = s'.lookup k

namespace Same

variable {s s' : Assoc K V}

theorem refl (s : Assoc K V) : Same s s := fun _ => rfl

theorem mapVals (h : Same s s') (f : K → V → W) : Same (mapVals f s) (Assoc.mapVals f s') := by
  intro k
  rw [lookup_mapVals, lookup_mapVals, h k]

theorem mem_iff (h : Same s s') {k : K} : k ∈ s ↔ k ∈ s' := by
  rw [mem_iff_exists, mem_iff_exists]
  simp only [h k]

/-- Writing at two keys that are there is writing over what is there. -/
theorem insert_insert {a b : K} (ha : a ∈ s') (hb : b ∈ s')
    (hother : ∀ k, k ≠ a → k ≠ b → s.lookup k = s'.lookup k) (x y : V) :
    Same ((s.insert a x).insert b y) ((s'.modify a fun _ => x).modify b fun _ => y) := by
  obtain ⟨va, ha⟩ := mem_iff_exists.1 ha
  obtain ⟨vb, hb⟩ := mem_iff_exists.1 hb
  intro k
  rw [lookup_insert, lookup_insert, lookup_modify, lookup_modify]
  by_cases hkb : k = b
  · subst hkb
    by_cases hka : k = a <;> simp [hka, hb]
  · by_cases hka : k = a
    · subst hka
      simp [hkb, ha]
    · rw [if_neg hkb, if_neg hka, if_neg hkb, if_neg hka, hother k hka hkb]

theorem any_eq (h : Same s s') (p : K → V → Bool) : any p s = any p s' := by
  rw [Bool.eq_iff_iff, any_eq_true, any_eq_true]
  simp only [h _]

end Same

/-- A loop whose body writes the cell of its own key only writes each cell of its list once, in
whatever order the list is. -/
theorem cell_foldl {σ C : Type*} {step : σ → K → σ} {cell : K → σ → C} {g : K → C → C}
    (hstep : ∀ s k k', cell k' (step s k) = if k' = k then g k (cell k s) else cell k' s)
    {ks : List K} (hnd : ks.Nodup) (s : σ) (k : K) :
    cell k (ks.foldl step s) = if k ∈ ks then g k (cell k s) else cell k s := by
  induction ks generalizing s with
  | nil => rfl
  | cons k' ks ih =>
      obtain ⟨hnot, hnd⟩ := List.nodup_cons.1 hnd
      rw [List.foldl_cons, ih hnd, hstep]
      by_cases hk : k = k'
      · subst hk
        simp [hnot]
      · simp [hk]

/-- A loop over all keys of a map that rewrites the value at each key it meets. -/
theorem same_foldl {σ : Type*} {step : σ → K → σ} (get : σ → Assoc K V) (f : K → V → V)
    (hstep : ∀ s k k', (get (step s k)).lookup k' =
      if k' = k then ((get s).lookup k).map (f k) else (get s).lookup k')
    {ks : List K} {s : σ} (hks : ks.Perm (get s).keys) :
    Same (get (ks.foldl step s)) (mapVals f (get s)) := by
  intro k
  have hnd : ks.Nodup := hks.nodup_iff.2 (AList.keys_nodup _)
  rw [lookup_mapVals]
  refine (@cell_foldl K _ σ (Option V) step (fun k s => (get s).lookup k)
    (fun k => Option.map (f k)) hstep ks hnd s k).trans ?_
  split_ifs with hk
  · rfl
  · rw [hks.mem_iff, ← AList.mem_keys, ← AList.lookup_eq_none] at hk
    rw [hk]
    rfl

omit [DecidableEq K] in
/-- A loop that raises a flag where its body finds reason to. -/
theorem flag_foldl {σ Φ : Type*} {step : σ → K → σ} (flag : σ → Φ) (raised : Φ)
    (out : K → σ → Bool) (hflag : ∀ s k, flag (step s k) = if out k s then raised else flag s)
    (hout : ∀ s k k', out k' (step s k) = out k' s) (ks : List K) (s : σ) :
    flag (ks.foldl step s) = if ks.any (out · s) then raised else flag s := by
  induction ks generalizing s with
  | nil => rfl
  | cons k ks ih =>
      rw [List.foldl_cons, ih, hflag]
      simp only [hout, List.any_cons, Bool.or_eq_true]
      by_cases hk : out k s = true <;> simp [hk]

theorem any_keys {ks : List K} {s : Assoc K V} (hks : ks.Perm s.keys) (p : V → Bool) :
    (ks.any fun k => (s.lookup k).any p) = any (fun _ => p) s := by
  rw [Bool.eq_iff_iff, any_eq_true, List.any_eq_true]
  constructor
  · rintro ⟨k, -, hk⟩
    obtain ⟨v, hv, hp⟩ := (Option.any_eq_true _ _).1 hk
    exact ⟨k, v, hv, hp⟩
  · rintro ⟨k, v, hv, hp⟩
    exact ⟨k, hks.mem_iff.2 (mem_keys_iff_exists.2 ⟨v, hv⟩), by simp [hv, hp]⟩

end Assoc
