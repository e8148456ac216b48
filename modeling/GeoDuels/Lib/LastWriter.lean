import Mathlib.Data.List.Induction

/-!
# Cells that the last writer wins

A state has a value in every cell, and a message brings values for some of the cells: what it brings
replaces what was there, and the other cells stay.  After a list of messages a cell has the value that
the last message brought that wrote it (`applyAll_eq_iff`), however the messages came in between.
-/

namespace LastWriter

variable {C : Type*} {V : C → Type*}

/-- The values that a message brings, `none` for the cells it does not write. -/
abbrev Message (V : C → Type*) := ∀ c, Option (V c)

def Message.Writes (m : Message V) (c : C) : Prop := (m c).isSome = true

/-- The state after a message. -/
def apply (s : ∀ c, V c) (m : Message V) : ∀ c, V c := fun c => (m c).getD (s c)

/-- The state after messages that arrive in this order. -/
def applyAll (s : ∀ c, V c) (ms : List (Message V)) : ∀ c, V c := ms.foldl apply s

/-- Every message that brings another value than `v` for the cell is followed by one that writes it. -/
def Overwritten (ms : List (Message V)) (c : C) (v : V c) : Prop :=
  ∀ pre m post w, ms = pre ++ m :: post → m c = some w → w ≠ v → ∃ m' ∈ post, m'.Writes c

theorem applyAll_concat (s : ∀ c, V c) (ms : List (Message V)) (m : Message V) :
    applyAll s (ms ++ [m]) = apply (applyAll s ms) m := by
  simp [applyAll]

theorem overwritten_of_forall {ms : List (Message V)} {c : C} {v : V c}
    (h : ∀ m ∈ ms, ∀ w, m c = some w → w = v) : Overwritten ms c v := by
  rintro pre m post w rfl hw hne
  exact absurd (h m (by simp) w hw) hne

/-- A message in a list that ends with `m` is this last one, or `m` comes later. -/
theorem eq_or_later {ms pre post : List (Message V)} {m m' : Message V}
    (h : ms ++ [m] = pre ++ m' :: post) :
    (post = [] ∧ m' = m) ∨ ∃ post₀, post = post₀ ++ [m] ∧ ms = pre ++ m' :: post₀ := by
  rcases List.eq_nil_or_concat post with rfl | ⟨post₀, last, rfl⟩
  · obtain ⟨-, hlast⟩ := List.append_inj' h rfl
    exact .inl ⟨rfl, (List.singleton_inj.1 hlast).symm⟩
  · rw [List.concat_eq_append, ← List.cons_append, ← List.append_assoc] at h
    obtain ⟨hms, hlast⟩ := List.append_inj' h rfl
    rw [List.concat_eq_append, ← List.singleton_inj.1 hlast]
    exact .inr ⟨post₀, rfl, hms⟩

/-- A last message that writes the cell decides it. -/
theorem overwritten_concat_some {ms : List (Message V)} {m : Message V} {c : C} {v w : V c}
    (h : m c = some w) : Overwritten (ms ++ [m]) c v ↔ w = v := by
  constructor
  · intro hover
    by_contra hne
    obtain ⟨m', hm', -⟩ := hover ms m [] w rfl h hne
    cases hm'
  · rintro rfl pre m' post w' hms hw' hne
    rcases eq_or_later hms with ⟨-, rfl⟩ | ⟨post₀, rfl, -⟩
    · rw [h, Option.some.injEq] at hw'
      exact absurd hw'.symm hne
    · exact ⟨m, by simp, by rw [Message.Writes, h]; rfl⟩

/-- A last message that does not write the cell changes nothing. -/
theorem overwritten_concat_none {ms : List (Message V)} {m : Message V} {c : C} {v : V c}
    (h : m c = none) : Overwritten (ms ++ [m]) c v ↔ Overwritten ms c v := by
  constructor
  · rintro hover pre m' post w rfl hw hne
    obtain ⟨m'', hm'', hwrites⟩ := hover pre m' (post ++ [m]) w (by simp) hw hne
    rcases List.mem_append.1 hm'' with hm'' | hm''
    · exact ⟨m'', hm'', hwrites⟩
    · rw [List.mem_singleton.1 hm'', Message.Writes, h] at hwrites
      cases hwrites
  · intro hover pre m' post w hms hw hne
    rcases eq_or_later hms with ⟨-, rfl⟩ | ⟨post₀, rfl, hbefore⟩
    · rw [h] at hw
      cases hw
    · obtain ⟨m'', hm'', hwrites⟩ := hover pre m' post₀ w hbefore hw hne
      exact ⟨m'', by simp [hm''], hwrites⟩

/-- A cell that some message writes ends with the value `v` exactly when every other value that was
brought for it has been overwritten. -/
theorem applyAll_eq_iff {ms : List (Message V)} {c : C} (h : ∃ m ∈ ms, m.Writes c) (s : ∀ c, V c)
    (v : V c) : applyAll s ms c = v ↔ Overwritten ms c v := by
  induction ms using List.reverseRecOn with
  | nil =>
      obtain ⟨m, hm, -⟩ := h
      cases hm
  | append_singleton ms m ih =>
      rw [applyAll_concat, apply]
      cases hm : m c with
      | some w => rw [Option.getD_some, overwritten_concat_some hm]
      | none =>
          have hms : ∃ m ∈ ms, m.Writes c := by
            obtain ⟨m', hm', hwrites⟩ := h
            rcases List.mem_append.1 hm' with hm' | hm'
            · exact ⟨m', hm', hwrites⟩
            · rw [List.mem_singleton.1 hm', Message.Writes, hm] at hwrites
              cases hwrites
          rw [Option.getD_none, overwritten_concat_none hm, ih hms]

end LastWriter
