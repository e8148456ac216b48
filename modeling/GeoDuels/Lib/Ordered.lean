import GeoDuels.Lib.Assoc

/-!
# Maps in insertion order

A map whose iteration follows the order in which its keys came in: writing at a key leaves the key in its
place, and a new key goes to the end.  `lookup_foldl_put` is what a loop leaves that comes to every key
once and writes there.
-/

namespace Assoc

variable {K V U : Type*} [DecidableEq K]

def set (s : Assoc K V) (k : K) (v : V) : Assoc K V :=
  if h : k ∈ s then modify k (fun _ => v) s
  else
    { entries := s.entries ++ [⟨k, v⟩]
      nodupKeys := by
        have hkeys : (s.entries.map Sigma.fst ++ [k]).Nodup :=
          List.nodup_append_comm.1 (List.nodup_cons.2 ⟨h, s.nodupKeys⟩)
        simpa [List.NodupKeys, List.keys] using hkeys }

/-- The values in their order. -/
def values (s : Assoc K V) : List V := s.entries.map Sigma.snd

theorem lookup_set (s : Assoc K V) (k : K) (v : V) (k' : K) :
    (s.set k v).lookup k' = if k' = k then some v else s.lookup k' := by
  unfold set
  split_ifs with hmem hk hk
  · obtain ⟨w, hw⟩ := mem_iff_exists.1 hmem
    rw [hk, lookup_modify_self, hw, Option.map_some]
  · exact lookup_modify_ne hk _ s
  · have hnone : s.entries.dlookup k = none := AList.lookup_eq_none.2 hmem
    rw [hk, AList.lookup, List.dlookup_append, hnone, Option.none_or]
    exact dif_pos rfl
  · have hne : List.dlookup k' [(⟨k, v⟩ : Σ _ : K, V)] = none := dif_neg (Ne.symm hk)
    rw [AList.lookup, List.dlookup_append, hne, Option.or_none]
    rfl

theorem mem_values {s : Assoc K V} {v : V} : v ∈ s.values ↔ ∃ k, s.lookup k = some v := by
  simp only [values, List.mem_map, Sigma.exists, mem_entries_iff]
  simp

/-- A loop that comes to every key once and writes there, with the value that it finds. -/
theorem lookup_foldl_put (put : Assoc K V → K → V → Assoc K V)
    (hput : ∀ s k v k', (put s k v).lookup k' = if k' = k then some v else s.lookup k') (key : U → K)
    (f : Option V → U → V) {us : List U} (hus : (us.map key).Nodup) (s : Assoc K V) (k : K) (v : V) :
    (us.foldl (fun s u => put s (key u) (f (s.lookup (key u)) u)) s).lookup k = some v ↔
      (∃ u ∈ us, key u = k ∧ f (s.lookup k) u = v) ∨ k ∉ us.map key ∧ s.lookup k = some v := by
  induction us generalizing s with
  | nil => simp
  | cons u us ih =>
      obtain ⟨hu, hus⟩ := List.nodup_cons.1 hus
      rw [List.foldl_cons, ih hus, hput, List.map_cons, List.mem_cons]
      by_cases hk : k = key u
      · subst hk
        have hlater : ∀ u' ∈ us, key u' ≠ key u := fun u' hu' heq =>
          hu (heq ▸ List.mem_map_of_mem hu')
        simp only [if_true, hu, not_false_eq_true, true_and, not_true_eq_false, false_and, or_false,
          Option.some.injEq, List.mem_cons, exists_eq_or_imp]
        refine or_comm.trans (or_congr_right ?_)
        exact ⟨fun ⟨u', hu', heq, _⟩ => absurd heq (hlater u' hu'),
          fun ⟨u', hu', heq, _⟩ => absurd heq (hlater u' hu')⟩
      · simp [hk, Ne.symm hk]

/-- A loop that comes to every key once. -/
theorem lookup_foldl_put_empty (put : Assoc K V → K → V → Assoc K V)
    (hput : ∀ s k v k', (put s k v).lookup k' = if k' = k then some v else s.lookup k') (key : V → K)
    {vs : List V} (hvs : (vs.map key).Nodup) (k : K) (v : V) :
    (vs.foldl (fun s v => put s (key v) v) ∅).lookup k = some v ↔ v ∈ vs ∧ key v = k := by
  rw [lookup_foldl_put put hput key (fun _ v => v) hvs, AList.lookup_empty]
  constructor
  · rintro (⟨v', hv', hk, rfl⟩ | ⟨-, h⟩)
    · exact ⟨hv', hk⟩
    · cases h
  · exact fun ⟨hv, hk⟩ => .inl ⟨v, hv, hk, rfl⟩

end Assoc
