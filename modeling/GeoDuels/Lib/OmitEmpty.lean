import Mathlib.Data.List.AList

/-!
# Records without their empty fields

A record is sent as an object, a map from its fields to their values.  Fields that are marked for it
are left out when they have their zero value, and whoever reads the object takes a missing field for
its zero value.  Two objects are merged by laying the fields of the new one over those of the old one:
a field that has gone back to zero is then still there (`read_spread_encode`).
-/

namespace OmitEmpty

variable {K : Type} {V : K → Type}

/-- The fields of a record in their order, those that may be left out, and the zero values. -/
structure Fields (V : K → Type) where
  keys : List K
  nodup : keys.Nodup
  mem_keys : ∀ k, k ∈ keys
  omitempty : K → Bool
  zero : ∀ k, V k

/-- The value of a single field that may be left out. -/
def omitEmpty {α : Type} [DecidableEq α] (zero v : α) : Option α := if v = zero then none else some v

@[simp] theorem getD_omitEmpty {α : Type} [DecidableEq α] (zero v : α) :
    (omitEmpty zero v).getD zero = v := by
  unfold omitEmpty
  split_ifs with h
  · exact h.symm
  · rfl

/-- What may be left out of the new record was zero in the old one already. -/
def Fields.Keeps (F : Fields V) (old new : ∀ k, V k) : Prop :=
  ∀ k, F.omitempty k → new k = F.zero k → old k = F.zero k

theorem Fields.keeps_zero (F : Fields V) (x : ∀ k, V k) : F.Keeps F.zero x := fun _ _ _ => rfl

theorem Fields.keeps_refl (F : Fields V) (x : ∀ k, V k) : F.Keeps x x := fun _ _ h => h

variable [DecidableEq K]

/-- `{...old, ...new}`. -/
def spread (old new : AList V) : AList V := new ∪ old

theorem lookup_spread (old new : AList V) (k : K) :
    (spread old new).lookup k = (new.lookup k).or (old.lookup k) := by
  unfold spread
  cases h : new.lookup k with
  | none => rw [AList.lookup_union_right (AList.lookup_eq_none.1 h), Option.none_or]
  | some v =>
      have hmem : k ∈ new := by rw [← AList.lookup_isSome, h]; rfl
      rw [AList.lookup_union_left hmem, h, Option.some_or]

namespace Fields

variable (F : Fields V) [∀ k, DecidableEq (V k)]

/-- The field is left out. -/
def Omits (x : ∀ k, V k) (k : K) : Prop := F.omitempty k ∧ x k = F.zero k

instance (x : ∀ k, V k) (k : K) : Decidable (F.Omits x k) :=
  inferInstanceAs (Decidable (F.omitempty k ∧ x k = F.zero k))

def encode (x : ∀ k, V k) : AList V where
  entries := (F.keys.filter fun k => ¬ F.Omits x k).map fun k => ⟨k, x k⟩
  nodupKeys := by
    rw [List.NodupKeys, List.keys, List.map_map]
    simpa [Function.comp_def] using F.nodup.filter _

def read (o : AList V) (k : K) : V k := (o.lookup k).getD (F.zero k)

theorem lookup_encode (x : ∀ k, V k) (k : K) :
    (F.encode x).lookup k = if F.Omits x k then none else some (x k) := by
  split_ifs with h
  · rw [AList.lookup_eq_none, AList.mem_keys]
    simp [AList.keys, encode, List.keys, h]
  · rw [← Option.mem_def, AList.mem_lookup_iff]
    refine List.mem_map.2 ⟨k, ?_, rfl⟩
    simpa [F.mem_keys k] using h

omit [∀ k, DecidableEq (V k)] in
@[simp] theorem read_empty : F.read ∅ = F.zero := rfl

/-- What was encoded is read. -/
@[simp] theorem read_encode (x : ∀ k, V k) : F.read (F.encode x) = x := by
  funext k
  unfold read
  rw [lookup_encode]
  split_ifs with h
  · exact h.2.symm
  · rfl

theorem encode_injective : Function.Injective F.encode := by
  intro x y h
  rw [← F.read_encode x, h, read_encode]

/-- The fields that are left out of the new object are read in the old one. -/
theorem read_spread_encode (old : AList V) (x : ∀ k, V k) (k : K) :
    F.read (spread old (F.encode x)) k = if F.Omits x k then F.read old k else x k := by
  unfold read
  rw [lookup_spread, lookup_encode]
  split_ifs
  · rw [Option.none_or]
  · rfl

/-- When an object reads as the new record, after that has been laid over it. -/
theorem read_spread_encode_eq_iff (old : AList V) (x : ∀ k, V k) :
    F.read (spread old (F.encode x)) = x ↔ F.Keeps (F.read old) x := by
  rw [funext_iff]
  refine forall_congr' fun k => ?_
  rw [read_spread_encode]
  by_cases h : F.Omits x k
  · rw [if_pos h]
    refine ⟨fun heq _ hzero => heq.trans hzero, fun hkeeps => ?_⟩
    rw [hkeeps h.1 h.2, h.2]
  · rw [if_neg h]
    exact iff_of_true rfl fun homit hzero => absurd ⟨homit, hzero⟩ h

end Fields

end OmitEmpty
