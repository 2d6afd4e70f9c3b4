import DeviceHub.Text.Blank
import Mathlib.Data.List.DropRight

/-
  White space at the ends of texts.

  A text is blank exactly if nothing is left of it without
  the white space at its ends.

  Key definitions include:
    * `Text.Padded`
    * `Text.Says`

  Main statements:
    * `Text.trim_eq_empty_iff`
    * `Text.Padded.trim_eq`
    * `Text.trimChars_around`
    * `Text.nonBlank?_eq_some_iff`
-/

namespace DeviceHub

namespace Text

------------------------------------------------------------
-- Trimming
------------------------------------------------------------

theorem trimChars_append_left
    {spaces : List Char}
    (hSpaces : ∀ c ∈ spaces, isSpace c = true)
    (cs : List Char) :
    trimChars (spaces ++ cs) = trimChars cs := by
  unfold trimChars
  rw [List.dropWhile_append_of_pos hSpaces]

theorem trimChars_append_right
    {spaces : List Char}
    (hSpaces : ∀ c ∈ spaces, isSpace c = true)
    (cs : List Char) :
    trimChars (cs ++ spaces) = trimChars cs := by
  have hBack (ds : List Char) :
      (ds ++ spaces).reverse.dropWhile isSpace =
        ds.reverse.dropWhile isSpace := by
    rw [List.reverse_append, List.dropWhile_append_of_pos]
    intro c hMem
    exact hSpaces c (List.mem_reverse.1 hMem)
  unfold trimChars
  rw [List.dropWhile_append]
  split
  · rename_i hNothing
    rw [List.isEmpty_iff.1 hNothing,
      List.dropWhile_eq_nil_iff.2 hSpaces]
  · rw [hBack]

/- A text with blanks around it. -/
def Padded
    (s padded : String) : Prop :=
  ∃ front back, isBlank front = true ∧
    isBlank back = true ∧ padded = front ++ s ++ back

/- The blanks do not count. -/
theorem Padded.trim_eq
    {s padded : String}
    (hPadded : Padded s padded) :
    trim padded = trim s := by
  rcases hPadded with ⟨front, back, hFront, hBack, rfl⟩
  unfold isBlank at hFront hBack
  rw [List.all_eq_true] at hFront hBack
  unfold trim
  rw [String.toList_append, String.toList_append,
    trimChars_append_right hBack,
    trimChars_append_left hFront]

/- They bring in no other characters. -/
theorem Padded.mem_of_mem
    {s padded : String}
    (hPadded : Padded s padded)
    {c : Char}
    (hSolid : isSpace c = false)
    (hMem : c ∈ padded.toList) :
    c ∈ s.toList := by
  have hNot {blank : String} (hBlank : isBlank blank = true) :
      c ∉ blank.toList := by
    unfold isBlank at hBlank
    rw [List.all_eq_true] at hBlank
    intro hInside
    rw [hBlank c hInside] at hSolid
    cases hSolid
  rcases hPadded with ⟨front, back, hFront, hBack, rfl⟩
  rw [String.toList_append, String.toList_append,
    List.mem_append, List.mem_append] at hMem
  exact (hMem.resolve_right (hNot hBack)).resolve_left
    (hNot hFront)

/-
  To trim a text with another character inside is to drop
  the white space in front of what comes before, and the
  white space behind what comes after.
-/
theorem trimChars_around
    {c : Char}
    (hSolid : isSpace c = false)
    (cs ds : List Char) :
    trimChars (cs ++ c :: ds) =
      cs.dropWhile isSpace ++
        c :: (ds.reverse.dropWhile isSpace).reverse := by
  have hStop (fs gs : List Char) :
      (fs ++ c :: gs).dropWhile isSpace =
        fs.dropWhile isSpace ++ c :: gs := by
    rw [List.dropWhile_append]
    split
    · rename_i hNothing
      rw [List.isEmpty_iff.1 hNothing,
        List.dropWhile_cons_of_neg (by rw [hSolid]; decide),
        List.nil_append]
    · rfl
  unfold trimChars
  rw [hStop, List.reverse_append, List.reverse_cons,
    List.append_assoc, List.singleton_append, hStop,
    List.reverse_append, List.reverse_cons,
    List.reverse_reverse, List.append_assoc,
    List.singleton_append]

theorem trimChars_dropWhile
    (cs : List Char) :
    trimChars (cs.dropWhile isSpace) = trimChars cs := by
  unfold trimChars
  rw [List.dropWhile_idempotent]

theorem trimChars_dropWhile_reverse
    (cs : List Char) :
    trimChars (cs.reverse.dropWhile isSpace).reverse =
      trimChars cs := by
  have hSplit : cs =
      (cs.reverse.dropWhile isSpace).reverse ++
        (cs.reverse.takeWhile isSpace).reverse := by
    rw [← List.reverse_append, List.takeWhile_append_dropWhile,
      List.reverse_reverse]
  conv => rhs; rw [hSplit]
  refine (trimChars_append_right ?_ _).symm
  intro c hMem
  exact List.mem_takeWhile_imp (List.mem_reverse.1 hMem)

------------------------------------------------------------
-- Blank Texts
------------------------------------------------------------

theorem trimChars_eq_nil_iff
    {cs : List Char} :
    trimChars cs = [] ↔ ∀ c ∈ cs, isSpace c = true := by
  unfold trimChars
  rw [List.reverse_eq_nil_iff, List.dropWhile_eq_nil_iff]
  simp only [List.mem_reverse]
  constructor
  · intro hAll
    -- What is not dropped at the front begins with no space.
    cases hRest : cs.dropWhile isSpace with
    | nil => exact List.dropWhile_eq_nil_iff.1 hRest
    | cons c rest =>
        have hFirst := List.head_dropWhile_not isSpace
          (l := cs) (by rw [hRest]; exact List.cons_ne_nil _ _)
        have hSpace : isSpace c = true :=
          hAll c (by rw [hRest]; exact List.mem_cons_self)
        simp only [hRest, List.head_cons, hSpace] at hFirst
        cases hFirst
  · intro hAll c hMem
    exact hAll c ((List.dropWhile_sublist _).subset hMem)

/- Nothing is left of a blank text. -/
theorem trim_eq_empty_iff
    {s : String} :
    trim s = "" ↔ isBlank s = true := by
  unfold trim isBlank
  rw [List.all_eq_true, ← trimChars_eq_nil_iff]
  exact String.ofList_eq_empty_iff

/- An optional text that is given, and not blank. -/
def Says
    (s : Option String)
    (t : String) : Prop :=
  ∃ raw, s = some raw ∧ trim raw = t ∧ t ≠ ""

theorem nonBlank?_eq_some_iff
    {s : Option String}
    {t : String} :
    nonBlank? s = some t ↔ Says s t := by
  unfold nonBlank? Says
  rw [Option.bind_eq_some_iff]
  refine exists_congr fun raw => and_congr_right fun _ => ?_
  by_cases hBlank : isBlank raw = true
  · have hEmpty := trim_eq_empty_iff.2 hBlank
    rw [if_pos hBlank, hEmpty]
    constructor
    · intro hNone
      cases hNone
    · rintro ⟨hSame, hNot⟩
      exact absurd hSame.symm hNot
  · rw [if_neg hBlank, Option.some.injEq]
    refine (and_iff_left_of_imp ?_).symm
    rintro rfl hEmpty
    exact hBlank (trim_eq_empty_iff.1 hEmpty)

theorem nonBlank?_eq_none_iff
    {s : Option String} :
    nonBlank? s = none ↔ ∀ t, ¬ Says s t := by
  rw [Option.eq_none_iff_forall_ne_some]
  simp only [ne_eq, nonBlank?_eq_some_iff]

end Text

end DeviceHub
