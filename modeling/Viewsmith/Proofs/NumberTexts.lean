import Viewsmith.Number.Text

/-!
# The characters of numbers

Which characters the spellings of a number consist of. A decimal without an exponent has digits and
at most a point; the exponent adds a letter and a sign.

## Main statements

* `Decimal.forall_mem_positional`, `Decimal.forall_mem_scientific`: the characters of a decimal.
* `Number.plain_cases`: what is written without an exponent.
-/

namespace Viewsmith

namespace Decimal

variable {p : Char → Prop} (hdigit : ∀ c, c.isDigit = true → p c)

include hdigit

/-- What holds of digits holds of the digits of a decimal. -/
theorem forall_mem_digitChars (d : Decimal) : ∀ c ∈ d.digitChars, p c :=
  fun c hc => hdigit c (Nat.isDigit_of_mem_toDigits (by decide) (by decide) hc)

/-- What holds of digits holds of zeros. -/
theorem forall_mem_zeros (n : Nat) : ∀ c ∈ List.replicate n '0', p c := by
  intro c hc
  rw [List.eq_of_mem_replicate hc]
  exact hdigit '0' (by decide)

/-- Without an exponent a decimal has digits and a point. -/
theorem forall_mem_positional (hpoint : p '.') (d : Decimal) : ∀ c ∈ d.positional.toList, p c := by
  have hdigits := forall_mem_digitChars hdigit d
  unfold positional
  dsimp only
  split
  · rw [String.toList_ofList]
    intro c hc
    exact (List.mem_append.mp hc).elim (hdigits c) (forall_mem_zeros hdigit _ c)
  · have hpadded :
        ∀ c ∈ List.replicate ((-d.exponent).toNat + 1 - d.digitChars.length) '0' ++ d.digitChars,
          p c :=
      fun c hc => (List.mem_append.mp hc).elim (forall_mem_zeros hdigit _ c) (hdigits c)
    rw [String.toList_ofList]
    intro c hc
    rcases List.mem_append.mp hc with hc | hc
    · exact hpadded c (List.mem_of_mem_take hc)
    · rcases List.mem_cons.mp hc with rfl | hc
      · exact hpoint
      · exact hpadded c (List.mem_of_mem_drop hc)

/-- With an exponent it also has a letter and a sign. -/
theorem forall_mem_scientific (hpoint : p '.') (he : p 'e') (hplus : p '+') (hminus : p '-')
    (d : Decimal) : ∀ c ∈ d.scientific.toList, p c := by
  have hdigits := forall_mem_digitChars hdigit d
  have hexponent : ∀ c ∈ Nat.toDigits 10 d.lead.natAbs, p c :=
    fun c hc => hdigit c (Nat.isDigit_of_mem_toDigits (by decide) (by decide) hc)
  have hsign : p (if 0 ≤ d.lead then '+' else '-') := by
    split
    · exact hplus
    · exact hminus
  unfold scientific
  dsimp only
  rw [String.toList_ofList]
  intro c hc
  rcases List.mem_append.mp hc with hc | hc
  · cases hd : d.digitChars with
    | nil =>
      rw [hd] at hc
      rw [List.mem_singleton.mp hc]
      exact hdigit '0' (by decide)
    | cons first rest =>
      rw [hd] at hc hdigits
      cases rest with
      | nil => exact hdigits c hc
      | cons second rest =>
        rcases List.mem_cons.mp hc with rfl | hc
        · exact hdigits c List.mem_cons_self
        rcases List.mem_cons.mp hc with rfl | hc
        · exact hpoint
        · exact hdigits c (List.mem_cons_of_mem _ hc)
  · rcases List.mem_cons.mp hc with rfl | hc
    · exact he
    rcases List.mem_cons.mp hc with rfl | hc
    · exact hsign
    · exact hexponent c hc

end Decimal

/-- A decimal in positional notation has some characters. -/
theorem Decimal.toList_positional_ne_nil (d : Decimal) : d.positional.toList ≠ [] := by
  unfold positional
  dsimp only
  split
  · have hdigits : d.digitChars ≠ [] := Nat.toDigits_ne_nil
    simp [hdigits]
  · simp

/-- What is written without an exponent: a word for what is no finite number, else a decimal, with a
sign before it if it is negative. -/
theorem Number.plain_cases (x : Float) :
    Number.plain x ∈ ["NaN", "inf", "-inf"] ∨
      ∃ negative d, Number.plain x = Number.sign negative ++ Decimal.positional d := by
  unfold plain
  split
  · exact Or.inl (by decide)
  · rename_i negative _
    exact Or.inl (by cases negative <;> decide)
  · exact Or.inr ⟨_, _, rfl⟩

end Viewsmith
