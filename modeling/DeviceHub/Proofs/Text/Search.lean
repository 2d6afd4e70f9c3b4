import DeviceHub.Proofs.Text.Replacement
import Mathlib.Data.List.TakeWhile

/-
  What is found in a text, and where a text is split.

  Main statements:
    * `Text.occursInChars_iff`
    * `Text.splitFirst?_append`
    * `Text.append_cons_inj_of_first`
    * `Text.splitFirst?_eq_none`
-/

namespace DeviceHub

namespace Text

variable {pat cs : List Char} {sep : Char}

/- A text is found exactly if it is a part. -/
theorem occursInChars_iff :
    occursInChars pat cs = true ↔ pat <:+: cs := by
  induction cs with
  | nil =>
      rw [occursInChars, List.isEmpty_iff, List.infix_nil]
  | cons c rest ih =>
      rw [occursInChars, Bool.or_eq_true, ih,
        List.infix_cons_iff, Option.isSome_iff_ne_none, ne_eq,
        cutPrefix?_eq_none_iff, not_not]

/- The first separator is the first one. -/
theorem splitFirst?_append
    (hNot : sep ∉ cs)
    (ds : List Char) :
    splitFirst? sep (String.ofList (cs ++ sep :: ds)) =
      some (String.ofList cs, String.ofList ds) := by
  have hOthers : ∀ c ∈ cs, (c != sep) = true := by
    intro c hMem
    rw [bne_iff_ne]
    rintro rfl
    exact hNot hMem
  have hStop : (sep != sep) = false := bne_self_eq_false sep
  unfold splitFirst?
  simp only [String.toList_ofList,
    List.dropWhile_append_of_pos hOthers,
    List.takeWhile_append_of_pos hOthers, List.dropWhile_cons,
    List.takeWhile_cons, hStop, Bool.false_eq_true, if_false,
    List.append_nil]

/- What stands before the first separator is told by a text. -/
theorem append_cons_inj_of_first
    {cs' ds ds' : List Char}
    (hNot : sep ∉ cs)
    (hNot' : sep ∉ cs')
    (hSame : cs ++ sep :: ds = cs' ++ sep :: ds') :
    cs = cs' ∧ ds = ds' := by
  have hSplit := splitFirst?_append hNot ds
  rw [hSame, splitFirst?_append hNot' ds',
    Option.some.injEq, Prod.mk.injEq, String.ofList_inj,
    String.ofList_inj] at hSplit
  exact ⟨hSplit.1.symm, hSplit.2.symm⟩

/- Without separator there is nothing to split. -/
theorem splitFirst?_eq_none
    {s : String}
    (hNot : sep ∉ s.toList) :
    splitFirst? sep s = none := by
  have hNothing : s.toList.dropWhile (· != sep) = [] := by
    rw [List.dropWhile_eq_nil_iff]
    intro c hMem
    rw [bne_iff_ne]
    rintro rfl
    exact hNot hMem
  unfold splitFirst?
  simp only [hNothing]

end Text

end DeviceHub
