import GeoDuels.Lib.Assoc

/-!
# Counting the entries of a map

How the number of the entries with a property depends on the property, and what writing at one key
changes in it.
-/

namespace Assoc

variable {K V : Type*} [DecidableEq K] {s : Assoc K V} {k : K} {v v' : V}

theorem countP_congr {p q : K → V → Bool} (h : ∀ k v, s.lookup k = some v → p k v = q k v) :
    countP p s = countP q s :=
  List.countP_congr fun e he => by rw [h e.1 e.2 (mem_entries_iff.1 he)]

theorem countP_mono {p q : K → V → Bool}
    (h : ∀ k v, s.lookup k = some v → p k v = true → q k v = true) : countP p s ≤ countP q s :=
  List.countP_mono_left fun e he => h e.1 e.2 (mem_entries_iff.1 he)

theorem countP_modify_le (p : K → V → Bool) (k : K) {f : V → V}
    (h : ∀ v, s.lookup k = some v → p k (f v) = true → p k v = true) :
    countP p (modify k f s) ≤ countP p s := by
  unfold modify
  rw [countP_mapVals]
  refine countP_mono fun k' v hv hp => ?_
  by_cases hk : k' = k
  · subst hk
    rw [if_pos rfl] at hp
    exact h v hv hp
  · rwa [if_neg hk] at hp

theorem countP_erase (p : K → V → Bool) (h : s.lookup k = some v) :
    countP p s = countP p (s.erase k) + if p k v then 1 else 0 := by
  have hmem : k ∈ s.entries.keys := List.mem_keys_of_mem (mem_entries_iff.2 h)
  obtain ⟨v', pre, post, hpre, hs, herase⟩ := List.exists_of_kerase hmem
  have hv : v' = v := by
    have hv' : s.lookup k = some v' := mem_entries_iff.1 (by rw [hs]; simp)
    exact Option.some.inj (hv'.symm.trans h)
  have herase' : (s.erase k).entries = pre ++ post := herase
  unfold countP
  rw [herase', hs, hv, List.countP_append, List.countP_append, List.countP_cons]
  dsimp only
  omega

theorem countP_insert (p : K → V → Bool) (s : Assoc K V) (k : K) (v : V) :
    countP p (s.insert k v) = countP p (s.erase k) + if p k v then 1 else 0 := by
  unfold countP
  rw [AList.entries_insert, List.countP_cons]
  rfl

theorem countP_insert_of_lookup_none (p : K → V → Bool) (h : s.lookup k = none) (v : V) :
    countP p (s.insert k v) = countP p s + if p k v then 1 else 0 := by
  rw [countP_insert, erase_of_lookup_none h]

/-- A write at a key that was there. -/
theorem countP_insert_of_lookup (p : K → V → Bool) (h : s.lookup k = some v) (v' : V) :
    countP p (s.insert k v') + (if p k v then 1 else 0) = countP p s + if p k v' then 1 else 0 := by
  rw [countP_insert, countP_erase p h]
  omega

end Assoc
