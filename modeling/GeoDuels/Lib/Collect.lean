import GeoDuels.Lib.ReadCommitted

/-!
# What rows hold

`collect f rows` lists what `f` finds in the rows of a table.  A statement adds what it finds in the rows
that it writes, and a commit what it finds in the rows of the transaction.
-/

namespace ReadCommitted

variable {K : Type} {V : K → Type} {γ : Type}

def collect (f : Sigma V → List γ) (rows : AList V) : List γ := rows.entries.flatMap f

variable [DecidableEq K] {f : Sigma V → List γ} {rows own db : AList V} {k : K}

theorem mem_collect {x : γ} : x ∈ collect f rows ↔ ∃ k v, rows.lookup k = some v ∧ x ∈ f ⟨k, v⟩ := by
  unfold collect
  rw [List.mem_flatMap]
  constructor
  · rintro ⟨⟨k, v⟩, he, hx⟩
    exact ⟨k, v, List.mem_dlookup rows.nodupKeys he, hx⟩
  · rintro ⟨k, v, hv, hx⟩
    exact ⟨⟨k, v⟩, List.of_mem_dlookup hv, hx⟩

theorem flatMap_kerase (hf : ∀ v, f ⟨k, v⟩ = []) (es : List (Sigma V)) :
    (es.kerase k).flatMap f = es.flatMap f := by
  induction es with
  | nil => rfl
  | cons e es ih =>
      obtain ⟨k', v⟩ := e
      by_cases hk : k = k'
      · subst hk
        rw [@List.kerase_cons_eq _ _ _ k ⟨k, v⟩ es rfl, List.flatMap_cons, hf, List.nil_append]
      · rw [List.kerase_cons_ne hk, List.flatMap_cons, List.flatMap_cons, ih]

/-- The rows of two tables that have nothing that `f` finds in a row of the same key. -/
theorem collect_view (h : ∀ k ∈ own, k ∈ db → ∀ v, f ⟨k, v⟩ = []) :
    collect f (view own db) = collect f own ++ collect f db := by
  show (own.entries.kunion db.entries).flatMap f = own.entries.flatMap f ++ db.entries.flatMap f
  have hkeys : ∀ k ∈ own.entries.keys, k ∈ db.entries.keys → ∀ v, f ⟨k, v⟩ = [] := h
  generalize own.entries = es at hkeys
  generalize db.entries = es' at hkeys
  induction es generalizing es' with
  | nil => rfl
  | cons e es ih =>
      have hrest : ∀ k ∈ es.keys, k ∈ (es'.kerase e.1).keys → ∀ v, f ⟨k, v⟩ = [] := fun k hk hk' =>
        hkeys k (List.mem_cons_of_mem _ hk) (List.mem_keys_of_mem_keys_kerase hk')
      have herase : (es'.kerase e.1).flatMap f = es'.flatMap f := by
        by_cases he : e.1 ∈ es'.keys
        · exact flatMap_kerase (hkeys e.1 List.mem_cons_self he) es'
        · rw [List.kerase_of_notMem_keys he]
      rw [List.kunion_cons, List.flatMap_cons, List.flatMap_cons, ih _ hrest, herase, List.append_assoc]

/-- Rows in which `f` finds nothing. -/
theorem collect_view_of_nil (h : ∀ k ∈ rows, ∀ v, f ⟨k, v⟩ = []) (own : AList V) :
    collect f (view rows own) = collect f own := by
  have hnone : collect f rows = [] := by
    rw [List.eq_nil_iff_forall_not_mem]
    intro x hx
    obtain ⟨k, v, hv, hx⟩ := mem_collect.1 hx
    rw [h k (AList.lookup_isSome.1 (by rw [hv]; rfl)) v] at hx
    cases hx
  rw [collect_view fun k hk _ => h k hk, hnone, List.nil_append]

theorem collect_insert (v : V k) (h : k ∉ own) :
    collect f (own.insert k v) = f ⟨k, v⟩ ++ collect f own := by
  rw [collect, AList.entries_insert_of_notMem h, List.flatMap_cons]
  rfl

/-- A new row. -/
theorem collect_view_insert (v : V k) (h : k ∉ own) :
    collect f (view (AList.insert k v ∅) own) = f ⟨k, v⟩ ++ collect f own := by
  have hone : collect f (AList.insert k v (∅ : AList V)) = f ⟨k, v⟩ := List.append_nil _
  rw [collect_view, hone]
  intro k' hk' hown
  obtain rfl := ((AList.mem_insert _).1 hk').resolve_right (AList.notMem_empty k')
  exact absurd hown h

omit [DecidableEq K] in
/-- What `f` finds under different keys differs. -/
theorem nodup_collect {g : γ → K} (hf : ∀ e, ((f e).map g).Sublist [e.1]) (rows : AList V) :
    ((collect f rows).map g).Nodup := by
  have hsub : ((collect f rows).map g).Sublist rows.keys := by
    unfold collect AList.keys List.keys
    generalize rows.entries = es
    induction es with
    | nil => exact .slnil
    | cons e es ih =>
        rw [List.flatMap_cons, List.map_append]
        exact (hf e).append ih
  exact hsub.nodup rows.nodupKeys

end ReadCommitted
