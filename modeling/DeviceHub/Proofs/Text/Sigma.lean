import DeviceHub.Proofs.Text.LowerCase
import Mathlib.Tactic.Push

/-
  The lower-case form of a piece of a text.

  Only a capital sigma can be lower-cased in two ways, so a
  piece has in a text the form that it has by itself if each
  of its sigmas is final in both or in neither.  Whether a
  sigma is final can be settled within the piece; if it is
  not, one more letter beside the piece changes its form.

  Key definitions include:
    * `Text.KeepsSigmas`
    * `Text.Settled`
    * `Text.SettlesSigmas`

  Main statements:
    * `Text.lowerBetween_eq_iff`
    * `Text.isFinalSigma_of_settled`
    * `Text.exists_missed_of_unsettled`
-/

namespace DeviceHub

namespace Text

variable {near near' far far' : List Char}
variable {front back piece : List Char}

------------------------------------------------------------
-- Pieces with the Same Form
------------------------------------------------------------

theorem lowerAt_sigma
    (near far : List Char) :
    lowerAt near far 'Σ' =
      if isFinalSigma near far then ['ς'] else ['σ'] :=
  rfl

/- The form of a sigma tells whether it is final. -/
theorem isFinalSigma_inj
    (hSame : lowerAt near far 'Σ' = lowerAt near' far' 'Σ') :
    isFinalSigma near far = isFinalSigma near' far' := by
  rw [lowerAt_sigma, lowerAt_sigma] at hSame
  cases hHere : isFinalSigma near far <;>
    cases hThere : isFinalSigma near' far' <;>
    simp [hHere, hThere] at hSame ⊢

theorem lowerAt_of_ne_sigma
    {c : Char}
    (hOther : c ≠ 'Σ')
    (near far near' far' : List Char) :
    lowerAt near far c = lowerAt near' far' c := by
  have hCode : ¬ (c.toNat == 0x3A3) = true := by
    rw [beq_iff_eq]
    exact fun hSame => hOther (Char.toNat_inj.1 hSame)
  unfold lowerAt
  rw [if_neg hCode, if_neg hCode]

/-
  A piece has the same form in two places exactly if each of
  its capital sigmas is final in both or in neither.
-/
theorem lowerBetween_eq_iff :
    lowerBetween near far piece =
        lowerBetween near' far' piece ↔
      ∀ front back, piece = front ++ 'Σ' :: back →
        isFinalSigma (front.reverse ++ near) (back ++ far) =
          isFinalSigma (front.reverse ++ near')
            (back ++ far') := by
  constructor
  · rintro hSame front back rfl
    rw [lowerBetween_append, lowerBetween_append] at hSame
    have hRest := List.append_inj_right hSame
      (length_lowerBetween _ _ _ _ front)
    exact isFinalSigma_inj (List.append_inj_left hRest
      (length_lowerAt _ _ _ _ 'Σ'))
  · intro hSigmas
    induction piece generalizing near near' with
    | nil => rfl
    | cons c rest ih =>
        have hRest : lowerBetween (c :: near) far rest =
            lowerBetween (c :: near') far' rest := by
          refine ih fun front back hSplit => ?_
          have hHere := hSigmas (c :: front) back
            (congrArg (c :: ·) hSplit)
          simpa using hHere
        have hFirst : lowerAt near (rest ++ far) c =
            lowerAt near' (rest ++ far') c := by
          by_cases hSigma : c = 'Σ'
          · subst hSigma
            have hHere := hSigmas [] rest rfl
            rw [lowerAt_sigma, lowerAt_sigma]
            simp only [List.reverse_nil, List.nil_append]
              at hHere
            rw [hHere]
          · exact lowerAt_of_ne_sigma hSigma _ _ _ _
        rw [lowerBetween, lowerBetween, hFirst, hRest]

/-
  The capital sigmas of a piece are final in a text exactly
  if they are in the piece by itself.
-/
def KeepsSigmas
    (before piece after : List Char) : Prop :=
  ∀ front back, piece = front ++ 'Σ' :: back →
    isFinalSigma (front.reverse ++ before.reverse)
      (back ++ after) = isFinalSigma front.reverse back

theorem KeepsSigmas.lowerBetween_eq
    {before after : List Char}
    (hKeeps : KeepsSigmas before piece after) :
    lowerBetween before.reverse after piece =
      lowerBetween [] [] piece := by
  rw [lowerBetween_eq_iff]
  simp only [List.append_nil]
  exact hKeeps

/- Then the form of the piece is part of the text's form. -/
theorem KeepsSigmas.infix_lowerChars
    {before after : List Char}
    (hKeeps : KeepsSigmas before piece after) :
    lowerChars [] piece <:+:
      lowerChars [] (before ++ (piece ++ after)) := by
  rw [lowerChars_append, lowerChars_eq before.reverse,
    lowerBetween_append, List.append_nil,
    hKeeps.lowerBetween_eq, ← lowerChars_eq,
    ← List.append_assoc]
  exact List.infix_append _ _ _

------------------------------------------------------------
-- Settled Sigmas
------------------------------------------------------------

/-
  A sigma is settled if a cased letter follows, or if it is
  known what comes before and, where that is a cased letter,
  also what follows; case-ignorable characters aside.  What
  is in front is listed nearest first.
-/
def Settled
    (front back : List Char) : Prop :=
  leadsToCased back = true ∨
    ((∃ c ∈ front, isCaseIgnorable c = false) ∧
      (leadsToCased front = true →
        ∃ c ∈ back, isCaseIgnorable c = false))

/- All capital sigmas of a piece are settled in it. -/
def SettlesSigmas
    (piece : List Char) : Prop :=
  ∀ front back, piece = front ++ 'Σ' :: back →
    Settled front.reverse back

theorem exists_noticed_of_leadsToCased
    {cs : List Char}
    (hCased : leadsToCased cs = true) :
    ∃ c ∈ cs, isCaseIgnorable c = false := by
  by_contra hNone
  have hAll : ∀ c ∈ cs, isCaseIgnorable c = true := by
    intro c hMem
    by_contra hNot
    exact hNone ⟨c, hMem, Bool.not_eq_true _ ▸ hNot⟩
  rw [leadsToCased_of_ignorable hAll] at hCased
  cases hCased

/- No neighbours change the form of a settled sigma. -/
theorem isFinalSigma_of_settled
    (hSettled : Settled front back)
    (near far : List Char) :
    isFinalSigma (front ++ near) (back ++ far) =
      isFinalSigma front back := by
  unfold isFinalSigma
  rcases hSettled with hCased | ⟨hFront, hBack⟩
  · rw [leadsToCased_append_of_exists
      (exists_noticed_of_leadsToCased hCased), hCased,
      Bool.not_true, Bool.and_false, Bool.and_false]
  · rw [leadsToCased_append_of_exists hFront]
    cases hCased : leadsToCased front with
    | false => rfl
    | true =>
        rw [leadsToCased_append_of_exists (hBack hCased)]

theorem SettlesSigmas.keeps
    (hSettles : SettlesSigmas piece)
    (before after : List Char) :
    KeepsSigmas before piece after := by
  intro front back hSplit
  exact isFinalSigma_of_settled (hSettles front back hSplit) _ _

------------------------------------------------------------
-- Unsettled Sigmas
------------------------------------------------------------

/- A cased letter that is lower-cased from itself only. -/
def kra : Char := 'ĸ'

theorem kra_still : IsStill kra := by
  decide +kernel

theorem kra_noticed : isCaseIgnorable kra = false := by
  decide +kernel

theorem leadsToCased_kra : leadsToCased [kra] = true := by
  decide +kernel

/-
  The form of an unsettled sigma changes with a letter behind
  the piece or in front of it.  Between the sigma and that
  letter nothing is noticed.
-/
theorem changes_of_unsettled
    (hNot : ¬ Settled front back) :
    ((∀ c ∈ back, isCaseIgnorable c = true) ∧
      isFinalSigma front (back ++ [kra]) ≠
        isFinalSigma front back) ∨
    ((∀ c ∈ front, isCaseIgnorable c = true) ∧
      isFinalSigma (front ++ [kra]) back ≠
        isFinalSigma front back) := by
  have hBack : leadsToCased back = false := by
    rw [← Bool.not_eq_true]
    exact fun hCased => hNot (.inl hCased)
  by_cases hFront : ∀ c ∈ front, isCaseIgnorable c = true
  · refine .inr ⟨hFront, ?_⟩
    unfold isFinalSigma
    rw [leadsToCased_append_of_ignorable hFront,
      leadsToCased_kra, leadsToCased_of_ignorable hFront,
      hBack]
    decide
  · have hSome : ∃ c ∈ front, isCaseIgnorable c = false := by
      simpa using hFront
    have hRest : leadsToCased front = true ∧
        ¬ ∃ c ∈ back, isCaseIgnorable c = false := by
      rw [← Classical.not_imp]
      exact fun hKnown => hNot (.inr ⟨hSome, hKnown⟩)
    have hAll : ∀ c ∈ back, isCaseIgnorable c = true := by
      simpa using hRest.2
    refine .inl ⟨hAll, ?_⟩
    unfold isFinalSigma
    rw [leadsToCased_append_of_ignorable hAll,
      leadsToCased_kra, hRest.1, hBack]
    decide

/- A form begins with a still character only if the text does. -/
theorem head_lowerBetween
    {c d : Char}
    (hStill : IsStill d)
    (hHead : (lowerBetween near far (c :: piece)).head? =
      some d) :
    d = c := by
  rw [lowerBetween,
    List.head?_append_of_ne_nil _ lowerAt_ne_nil] at hHead
  exact hStill.eq_of_mem (List.mem_of_head? hHead)

/- It ends with one only if the text does. -/
theorem getLast_lowerBetween
    {c d : Char}
    (hStill : IsStill d)
    (hLast : (lowerBetween near far (piece ++ [c])).getLast? =
      some d) :
    d = c := by
  rw [lowerBetween_append, lowerBetween, lowerBetween,
    List.append_nil,
    List.getLast?_append_of_ne_nil _ lowerAt_ne_nil] at hLast
  exact hStill.eq_of_mem (List.mem_of_getLast? hLast)

/- With a letter behind it, the piece is not found. -/
theorem not_infix_append_kra
    (hAll : ∀ c ∈ back, isCaseIgnorable c = true)
    (hChanges : isFinalSigma front.reverse (back ++ [kra]) ≠
      isFinalSigma front.reverse back) :
    ¬ lowerChars [] (front ++ 'Σ' :: back) <:+:
      lowerChars [] (front ++ 'Σ' :: back ++ [kra]) := by
  have hEnd : ∃ init c, 'Σ' :: back = init ++ [c] ∧ c ≠ kra := by
    refine ⟨_, _, (List.dropLast_append_getLast
      (List.cons_ne_nil 'Σ' back)).symm, ?_⟩
    rcases List.mem_cons.1 (List.getLast_mem
      (List.cons_ne_nil 'Σ' back)) with hSigma | hBack
    · rw [hSigma]
      decide
    · intro hKra
      have hIgnorable := hAll _ hBack
      rw [hKra, kra_noticed] at hIgnorable
      cases hIgnorable
  have hText := lowerChars_append
    (front ++ 'Σ' :: back) [kra]
  rw [lowerChars_eq (front ++ 'Σ' :: back).reverse,
    lowerBetween, kra_still.lowerAt_eq, lowerBetween,
    List.append_nil] at hText
  rw [hText, lowerChars_eq, List.infix_concat_iff]
  rintro (⟨others, hSuffix⟩ | hInside)
  · rcases hEnd with ⟨init, c, hSplit, hOther⟩
    have hLast := congrArg List.getLast? hSuffix
    rw [List.getLast?_append_of_ne_nil _
        (mt lowerBetween_eq_nil_iff.1 (by simp)),
      List.getLast?_concat, hSplit, ← List.append_assoc]
      at hLast
    exact hOther (getLast_lowerBetween kra_still hLast).symm
  · have hSame := hInside.eq_of_length
      (length_lowerBetween _ _ _ _ _)
    have hHere := lowerBetween_eq_iff.1 hSame front back rfl
    simp only [List.append_nil] at hHere
    exact hChanges hHere.symm

/- With a letter in front of it, the piece is not found. -/
theorem not_infix_cons_kra
    (hAll : ∀ c ∈ front, isCaseIgnorable c = true)
    (hChanges : isFinalSigma (front.reverse ++ [kra]) back ≠
      isFinalSigma front.reverse back) :
    ¬ lowerChars [] (front ++ 'Σ' :: back) <:+:
      lowerChars [] (kra :: (front ++ 'Σ' :: back)) := by
  have hStart : ∃ c rest,
      front ++ 'Σ' :: back = c :: rest ∧ c ≠ kra := by
    cases front with
    | nil => exact ⟨'Σ', back, rfl, by decide⟩
    | cons c rest =>
        refine ⟨c, rest ++ 'Σ' :: back, rfl, ?_⟩
        rintro rfl
        have hIgnorable := hAll kra List.mem_cons_self
        rw [kra_noticed] at hIgnorable
        cases hIgnorable
  rw [lowerChars_eq, lowerChars_eq, lowerBetween,
    kra_still.lowerAt_eq, List.singleton_append,
    List.infix_cons_iff]
  rintro (⟨others, hPrefix⟩ | hInside)
  · rcases hStart with ⟨c, rest, hSplit, hOther⟩
    have hHead := congrArg List.head? hPrefix
    rw [List.head?_append_of_ne_nil _
        (mt lowerBetween_eq_nil_iff.1 (by simp)),
      List.head?_cons, hSplit] at hHead
    exact hOther (head_lowerBetween kra_still hHead).symm
  · have hSame := hInside.eq_of_length
      (length_lowerBetween _ _ _ _ _)
    have hHere := lowerBetween_eq_iff.1 hSame front back rfl
    simp only [List.append_nil] at hHere
    exact hChanges hHere.symm

/- A piece with an unsettled sigma is missed in some text. -/
theorem exists_missed_of_unsettled
    (hNot : ¬ SettlesSigmas piece) :
    ∃ text, piece <:+: text ∧
      ¬ lowerChars [] piece <:+: lowerChars [] text := by
  unfold SettlesSigmas at hNot
  push Not at hNot
  rcases hNot with ⟨front, back, rfl, hUnsettled⟩
  rcases changes_of_unsettled hUnsettled with
    ⟨hAll, hChanges⟩ | ⟨hAll, hChanges⟩
  · exact ⟨_, (List.prefix_append _ [kra]).isInfix,
      not_infix_append_kra hAll hChanges⟩
  · refine ⟨_, (List.suffix_cons kra _).isInfix,
      not_infix_cons_kra (fun c hMem => hAll c ?_) hChanges⟩
    exact List.mem_reverse.2 hMem

end Text

end DeviceHub
