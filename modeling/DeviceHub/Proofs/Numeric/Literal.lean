import DeviceHub.Numeric.Literal
import Mathlib.Data.List.TakeWhile

/-
  The characters of numbers: there is no blank among them.

  Main statements:
    * `Literal.blankless_of_integer?`
    * `Literal.blankless_of_isReal`
-/

namespace DeviceHub

namespace Literal

variable {cs : List Char}

------------------------------------------------------------
-- Digits And Signs
------------------------------------------------------------

theorem blankless_of_forall_isDigit
    (hDigits : ∀ c ∈ cs, isDigit c = true) :
    ' ' ∉ cs :=
  fun hMem => absurd (hDigits ' ' hMem) (by decide)

theorem blankless_of_digits?
    (hDigits : (digits? cs).isSome = true) :
    ' ' ∉ cs := by
  unfold digits? at hDigits
  split at hDigits
  · rename_i hAll
    rw [Bool.and_eq_true, List.all_eq_true] at hAll
    exact blankless_of_forall_isDigit hAll.2
  · cases hDigits

/- A sign is not a blank. -/
theorem blankless_of_dropSign
    (hRest : ' ' ∉ dropSign cs) :
    ' ' ∉ cs := by
  unfold dropSign at hRest
  split at hRest
  · exact List.not_mem_cons_of_ne_of_not_mem (by decide) hRest
  · exact List.not_mem_cons_of_ne_of_not_mem (by decide) hRest
  · exact hRest

------------------------------------------------------------
-- Integers
------------------------------------------------------------

theorem isSome_signed?
    (cs : List Char) :
    (signed? cs).isSome = (digits? (dropSign cs)).isSome := by
  unfold signed? dropSign
  split <;> exact Option.isSome_map

theorem blankless_of_integer?
    {s : String}
    (hInteger : (integer? s).isSome = true) :
    ' ' ∉ s.toList := by
  unfold integer? at hInteger
  rw [isSome_signed?] at hInteger
  exact blankless_of_dropSign (blankless_of_digits? hInteger)

------------------------------------------------------------
-- Real Numbers
------------------------------------------------------------

theorem blankless_of_isExponentPart
    (hExponent : isExponentPart cs = true) :
    ' ' ∉ cs := by
  unfold isExponentPart at hExponent
  split at hExponent
  · exact List.not_mem_nil
  · rename_i c rest
    rw [Bool.and_eq_true, beq_iff_eq] at hExponent
    refine List.not_mem_cons_of_ne_of_not_mem ?_
      (blankless_of_dropSign
        (blankless_of_digits? hExponent.2))
    rintro rfl
    exact absurd hExponent.1 (by decide)

/- What follows the first digits decides. -/
theorem blankless_of_dropWhile_isDigit
    (hRest : ' ' ∉ cs.dropWhile isDigit) :
    ' ' ∉ cs := by
  rw [← List.takeWhile_append_dropWhile (p := isDigit) (l := cs),
    List.mem_append, not_or]
  exact ⟨blankless_of_forall_isDigit fun c =>
    List.mem_takeWhile_imp, hRest⟩

theorem blankless_of_isUnsignedReal
    (hReal : isUnsignedReal cs = true) :
    ' ' ∉ cs := by
  refine blankless_of_dropWhile_isDigit ?_
  unfold isUnsignedReal at hReal
  split at hReal
  · rename_i rest hPoint
    rw [Bool.and_eq_true] at hReal
    rw [hPoint]
    exact List.not_mem_cons_of_ne_of_not_mem (by decide)
      (blankless_of_dropWhile_isDigit
        (blankless_of_isExponentPart hReal.2))
  · rw [Bool.and_eq_true] at hReal
    exact blankless_of_isExponentPart hReal.2

theorem blankless_of_isNamedReal
    (hReal : isNamedReal cs = true) :
    ' ' ∉ cs := by
  unfold isNamedReal at hReal
  intro hMem
  have hLower := List.mem_map_of_mem (f := asciiLower) hMem
  rw [← String.toList_ofList (l := cs.map asciiLower)] at hLower
  rw [List.contains_iff_mem] at hReal
  have hNames : ∀ name ∈ ["inf", "infinity", "nan"],
      asciiLower ' ' ∉ name.toList := by decide
  exact hNames _ hReal hLower

theorem blankless_of_isReal
    {s : String}
    (hReal : isReal s = true) :
    ' ' ∉ s.toList := by
  unfold isReal at hReal
  rw [Bool.or_eq_true] at hReal
  exact blankless_of_dropSign (hReal.elim
    blankless_of_isUnsignedReal blankless_of_isNamedReal)

end Literal

end DeviceHub
