import Mathlib.Data.Nat.Digits.Defs

/-!
# Decimal numerals

The engines (`strconv`) and the match store (`intStr`) print integers with loops of their own, from
the last digit to the first.
-/

namespace GeoDuels

/-- The numeral of a natural number. -/
def strconv (n : ℕ) : String :=
  if n = 0 then "0" else String.ofList ((Nat.digits 10 n).reverse.map Nat.digitChar)

/-- The numeral of an integer, with its sign. -/
def intStr (v : ℤ) : String := if v < 0 then "-" ++ strconv v.natAbs else strconv v.natAbs

theorem digitChar_injOn {a b : ℕ} (ha : a < 10) (hb : b < 10)
    (h : Nat.digitChar a = Nat.digitChar b) : a = b := by
  have digits : ∀ a b : Fin 10, Nat.digitChar a = Nat.digitChar b → a = b := by decide
  exact congrArg Fin.val (digits ⟨a, ha⟩ ⟨b, hb⟩ h)

theorem map_digitChar_inj {l₁ l₂ : List ℕ} (h₁ : ∀ d ∈ l₁, d < 10) (h₂ : ∀ d ∈ l₂, d < 10)
    (h : l₁.map Nat.digitChar = l₂.map Nat.digitChar) : l₁ = l₂ := by
  induction l₁ generalizing l₂ with
  | nil => simpa [eq_comm] using h
  | cons a l₁ ih =>
      cases l₂ with
      | nil => simp at h
      | cons b l₂ =>
          simp only [List.map_cons, List.cons.injEq] at h
          simp only [List.forall_mem_cons] at h₁ h₂
          rw [digitChar_injOn h₁.1 h₂.1 h.1, ih h₁.2 h₂.2 h.2]

theorem digits_reverse_lt {n d : ℕ} (h : d ∈ (Nat.digits 10 n).reverse) : d < 10 :=
  Nat.digits_lt_base (by norm_num) (List.mem_reverse.1 h)

/-- The numeral `0` belongs to no positive number. -/
theorem ofList_digits_ne_zero {n : ℕ} (hn : n ≠ 0) :
    String.ofList ((Nat.digits 10 n).reverse.map Nat.digitChar) ≠ "0" := by
  intro h
  have hl : (Nat.digits 10 n).reverse.map Nat.digitChar = [0].map Nat.digitChar := by
    have hl := congrArg String.toList h
    rwa [String.toList_ofList] at hl
  have hd := map_digitChar_inj (fun _ => digits_reverse_lt) (by simp) hl
  rw [List.reverse_eq_iff] at hd
  have hzero : Nat.ofDigits 10 (Nat.digits 10 n) = Nat.ofDigits 10 [0] := by rw [hd]; rfl
  rw [Nat.ofDigits_digits] at hzero
  exact hn (by simpa using hzero)

theorem strconv_injective : Function.Injective strconv := by
  intro m n h
  unfold strconv at h
  split_ifs at h with hm hn hn
  · rw [hm, hn]
  · exact absurd h.symm (ofList_digits_ne_zero hn)
  · exact absurd h (ofList_digits_ne_zero hm)
  · have hl := congrArg String.toList h
    simp only [String.toList_ofList] at hl
    have hd := map_digitChar_inj (fun _ => digits_reverse_lt) (fun _ => digits_reverse_lt) hl
    exact Nat.digits_inj_iff.1 (List.reverse_inj.1 hd)

/-- No numeral of a natural number has a sign. -/
theorem strconv_ne_neg (n : ℕ) (s : String) : strconv n ≠ "-" ++ s := by
  intro h
  unfold strconv at h
  split_ifs at h with hn
  · have hl := congrArg String.toList h
    simp at hl
  · have hmem : '-' ∈ (Nat.digits 10 n).reverse.map Nat.digitChar := by
      have hl := congrArg String.toList h
      rw [String.toList_ofList] at hl
      rw [hl]
      simp
    obtain ⟨d, hd, hchar⟩ := List.mem_map.1 hmem
    have digits : ∀ d : Fin 10, Nat.digitChar d ≠ '-' := by decide
    exact digits ⟨d, digits_reverse_lt hd⟩ hchar

theorem intStr_injective : Function.Injective intStr := by
  intro v w h
  unfold intStr at h
  split_ifs at h with hv hw hw
  · have hl := congrArg String.toList h
    simp only [String.toList_append, List.append_cancel_left_eq, String.toList_inj] at hl
    have := strconv_injective hl
    omega
  · exact absurd h.symm (strconv_ne_neg _ _)
  · exact absurd h (strconv_ne_neg _ _)
  · have := strconv_injective h
    omega

end GeoDuels
