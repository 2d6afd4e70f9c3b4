import DeviceHub.Proofs.Text.Blank
import DeviceHub.Text.LowerCase
import Mathlib.Data.List.Induction

/-
  Lower-casing a text part by part.

  The lower-case form of a part depends on what stands around
  it, and through one thing only: whether the text leads to a
  cased letter on either side.  Next to a character that is
  neither cased nor case-ignorable a part is lower-cased as
  if it stood alone.

  Key definitions include:
    * `Text.lowerBetween`
    * `Text.moves`
    * `Text.IsStill`
    * `Text.IsBreak`

  Main statements:
    * `Text.lowerChars_append`
    * `Text.lowerBetween_congr`
    * `Text.lowerChars_break`
    * `Text.trim_lowerCase`
-/

namespace DeviceHub

namespace Text

variable {before after cs : List Char} {c d : Char}

------------------------------------------------------------
-- Characters Between Others
------------------------------------------------------------

/-
  The lower-case form of a character; `before` holds the
  characters in front of it, nearest first.
-/
def lowerAt
    (before after : List Char)
    (c : Char) : List Char :=
  if c.toNat == 0x3A3 then
    if isFinalSigma before after then
      [Char.ofNat 0x3C2]
    else
      [Char.ofNat 0x3C3]
  else
    lowerChar c

/- The lower-case form of characters between others. -/
def lowerBetween
    (before after : List Char) : List Char → List Char
  | [] => []
  | c :: rest =>
      lowerAt before (rest ++ after) c ++
        lowerBetween (c :: before) after rest

theorem lowerChars_eq
    (before cs : List Char) :
    lowerChars before cs = lowerBetween before [] cs := by
  induction cs generalizing before with
  | nil => rfl
  | cons c rest ih =>
      rw [lowerChars, lowerBetween, ih, List.append_nil]
      rfl

/- Parts are lower-cased one after the other. -/
theorem lowerBetween_append
    (before after cs ds : List Char) :
    lowerBetween before after (cs ++ ds) =
      lowerBetween before (ds ++ after) cs ++
        lowerBetween (cs.reverse ++ before) after ds := by
  induction cs generalizing before with
  | nil => rfl
  | cons c rest ih =>
      rw [List.cons_append, lowerBetween, lowerBetween, ih]
      simp only [List.append_assoc, List.reverse_cons,
        List.singleton_append]

theorem lowerChars_append
    (cs ds : List Char) :
    lowerChars [] (cs ++ ds) =
      lowerBetween [] ds cs ++ lowerChars cs.reverse ds := by
  simp only [lowerChars_eq, lowerBetween_append,
    List.append_nil]

/- No character vanishes. -/
theorem lowerAt_ne_nil : lowerAt before after c ≠ [] := by
  unfold lowerAt lowerChar
  split
  · split <;> exact List.cons_ne_nil _ _
  · split <;> exact List.cons_ne_nil _ _

/- Neighbours do not decide how long a form is. -/
theorem length_lowerAt
    (before after before' after' : List Char)
    (c : Char) :
    (lowerAt before after c).length =
      (lowerAt before' after' c).length := by
  unfold lowerAt
  split
  · split <;> split <;> rfl
  · rfl

theorem length_lowerBetween
    (before after before' after' cs : List Char) :
    (lowerBetween before after cs).length =
      (lowerBetween before' after' cs).length := by
  induction cs generalizing before before' with
  | nil => rfl
  | cons c rest ih =>
      rw [lowerBetween, lowerBetween, List.length_append,
        List.length_append, ih _ (c :: before'),
        length_lowerAt before _ before' (rest ++ after')]

theorem lowerBetween_eq_nil_iff :
    lowerBetween before after cs = [] ↔ cs = [] := by
  cases cs with
  | nil => exact iff_of_true rfl rfl
  | cons c rest =>
      rw [lowerBetween, List.append_eq_nil_iff]
      exact iff_of_false
        (fun hNone => lowerAt_ne_nil hNone.1)
        (List.cons_ne_nil c rest)

theorem mem_lowerBetween
    (hMem : d ∈ lowerBetween before after cs) :
    ∃ c ∈ cs, ∃ near far, d ∈ lowerAt near far c := by
  induction cs generalizing before with
  | nil => cases hMem
  | cons c rest ih =>
      rw [lowerBetween, List.mem_append] at hMem
      rcases hMem with hHere | hLater
      · exact ⟨c, List.mem_cons_self, _, _, hHere⟩
      · rcases ih hLater with ⟨e, hRest, hForm⟩
        exact ⟨e, List.mem_cons_of_mem c hRest, hForm⟩

------------------------------------------------------------
-- What Neighbours Decide
------------------------------------------------------------

theorem leadsToCased_cons
    (c : Char)
    (cs : List Char) :
    leadsToCased (c :: cs) =
      if isCaseIgnorable c then leadsToCased cs
      else isCased c := by
  unfold leadsToCased
  rw [List.dropWhile_cons]
  by_cases hIgnorable : isCaseIgnorable c = true
  · rw [if_pos hIgnorable, if_pos hIgnorable]
  · rw [if_neg hIgnorable, if_neg hIgnorable]

/- Ignorable characters are passed over. -/
theorem leadsToCased_append_of_ignorable
    (hAll : ∀ c ∈ cs, isCaseIgnorable c = true)
    (after : List Char) :
    leadsToCased (cs ++ after) = leadsToCased after := by
  unfold leadsToCased
  rw [List.dropWhile_append_of_pos hAll]

/- At another character the search ends. -/
theorem leadsToCased_append_of_exists
    (hSome : ∃ c ∈ cs, isCaseIgnorable c = false)
    (after : List Char) :
    leadsToCased (cs ++ after) = leadsToCased cs := by
  induction cs with
  | nil =>
      rcases hSome with ⟨c, hMem, -⟩
      cases hMem
  | cons c rest ih =>
      rw [List.cons_append, leadsToCased_cons,
        leadsToCased_cons]
      by_cases hIgnorable : isCaseIgnorable c = true
      · rw [if_pos hIgnorable, if_pos hIgnorable]
        refine ih ?_
        rcases hSome with ⟨d, hMem, hNot⟩
        rcases List.mem_cons.1 hMem with rfl | hRest
        · rw [hIgnorable] at hNot
          cases hNot
        · exact ⟨d, hRest, hNot⟩
      · rw [if_neg hIgnorable, if_neg hIgnorable]

theorem leadsToCased_of_ignorable
    (hAll : ∀ c ∈ cs, isCaseIgnorable c = true) :
    leadsToCased cs = false := by
  have hPassed := leadsToCased_append_of_ignorable hAll []
  rw [List.append_nil] at hPassed
  exact hPassed

theorem leadsToCased_append_congr
    {after' : List Char}
    (hAfter : leadsToCased after = leadsToCased after')
    (cs : List Char) :
    leadsToCased (cs ++ after) =
      leadsToCased (cs ++ after') := by
  induction cs with
  | nil => exact hAfter
  | cons c rest ih =>
      rw [List.cons_append, List.cons_append,
        leadsToCased_cons, leadsToCased_cons, ih]

theorem lowerAt_congr
    {before' after' : List Char}
    (hBefore : leadsToCased before = leadsToCased before')
    (hAfter : leadsToCased after = leadsToCased after')
    (c : Char) :
    lowerAt before after c = lowerAt before' after' c := by
  unfold lowerAt isFinalSigma
  rw [hBefore, hAfter]

/- Nothing else of the neighbours matters. -/
theorem lowerBetween_congr
    {before' after' : List Char}
    (hBefore : leadsToCased before = leadsToCased before')
    (hAfter : leadsToCased after = leadsToCased after')
    (cs : List Char) :
    lowerBetween before after cs =
      lowerBetween before' after' cs := by
  induction cs generalizing before before' with
  | nil => rfl
  | cons c rest ih =>
      have hNext : leadsToCased (c :: before) =
          leadsToCased (c :: before') :=
        leadsToCased_append_congr hBefore [c]
      rw [lowerBetween, lowerBetween, ih hNext,
        lowerAt_congr hBefore
          (leadsToCased_append_congr hAfter rest)]

------------------------------------------------------------
-- Where Letters Go
------------------------------------------------------------

/-
  All that lower-casing does to characters: ASCII capitals,
  the two characters of the dotted capital I, the final
  sigma, and the mappings beyond ASCII.
-/
def moves : List CaseRun :=
  [⟨65, 90, 1, 32⟩, ⟨0x130, 0x130, 1, 0x69 - 0x130⟩,
    ⟨0x130, 0x130, 1, 0x307 - 0x130⟩,
    ⟨0x3A3, 0x3A3, 1, 0x3C2 - 0x3A3⟩,
    ⟨0x3A3, 0x3A3, 1, 0x3C3 - 0x3A3⟩] ++ lowerRuns

/- A run takes one character to another. -/
structure CaseRun.Takes
    (r : CaseRun)
    (c d : Char) : Prop where
  first : r.first ≤ c.toNat
  last : c.toNat ≤ r.last
  there : (d.toNat : Int) = c.toNat + r.offset

/- Runs end at characters. -/
theorem valid_of_mem_moves :
    ∀ r ∈ moves,
      (0 ≤ r.first + r.offset ∧
        r.last + r.offset < 0xD800) ∨
      (0xE000 ≤ r.first + r.offset ∧
        r.last + r.offset < 0x110000) := by
  decide +kernel

theorem CaseRun.takes_ofNat
    {r : CaseRun}
    (hRun : r ∈ moves)
    (hFirst : r.first ≤ c.toNat)
    (hLast : c.toNat ≤ r.last)
    {n : Nat}
    (hThere : (n : Int) = c.toNat + r.offset) :
    r.Takes c (Char.ofNat n) := by
  have hValid := valid_of_mem_moves r hRun
  have hChar : n.isValidChar := by
    unfold Nat.isValidChar
    omega
  have hCode : (Char.ofNat n).toNat = n := by
    unfold Char.ofNat
    rw [dif_pos hChar]
    rfl
  exact ⟨hFirst, hLast, by rw [hCode, hThere]⟩

theorem lowerCode_eq
    (n : Nat) :
    lowerCode n = n ∨ ∃ r ∈ moves,
      r.first ≤ n ∧ n ≤ r.last ∧
        (lowerCode n : Int) = (n + r.offset).toNat := by
  unfold lowerCode
  split
  · split
    · rename_i hCapital
      refine .inr ⟨⟨65, 90, 1, 32⟩, List.mem_cons_self, ?_⟩
      simp only [Bool.and_eq_true, decide_eq_true_eq]
        at hCapital
      exact ⟨hCapital.1, hCapital.2, rfl⟩
    · exact .inl rfl
  · split
    · rename_i r hFound
      have hHere := List.find?_some hFound
      simp only [Bool.and_eq_true, decide_eq_true_eq]
        at hHere
      exact .inr ⟨r, List.mem_append_right _
        (List.mem_of_find?_eq_some hFound), hHere.1.1,
        hHere.1.2, rfl⟩
    · exact .inl rfl

theorem lowerChar_eq
    (c : Char) :
    lowerChar c = [c] ∨
      ∀ d ∈ lowerChar c, ∃ r ∈ moves, r.Takes c d := by
  unfold lowerChar
  split
  · rename_i hDotted
    rw [beq_iff_eq] at hDotted
    refine .inr fun d hMem => ?_
    have hPlace : ∀ r ∈ moves, r.first = 0x130 →
        r.last = 0x130 → ∀ n : Nat,
        (n : Int) = 0x130 + r.offset →
          d = Char.ofNat n → ∃ r ∈ moves, r.Takes c d := by
      rintro r hRun hFirst hLast n hThere rfl
      exact ⟨r, hRun, CaseRun.takes_ofNat hRun (by omega)
        (by omega) (by omega)⟩
    rcases List.mem_cons.1 hMem with hFirst | hRest
    · exact hPlace _ (.tail _ (.head _)) rfl rfl 0x69
        (by decide) hFirst
    · exact hPlace _ (.tail _ (.tail _ (.head _))) rfl rfl
        0x307 (by decide) (List.mem_singleton.1 hRest)
  · rcases lowerCode_eq c.toNat with
      hSame | ⟨r, hRun, hFirst, hLast, hCode⟩
    · rw [hSame, Char.ofNat_toNat]
      exact .inl rfl
    · have hValid := valid_of_mem_moves r hRun
      refine .inr fun d hMem => ⟨r, hRun, ?_⟩
      rw [List.mem_singleton.1 hMem]
      exact CaseRun.takes_ofNat hRun hFirst hLast (by omega)

theorem lowerAt_eq
    (before after : List Char)
    (c : Char) :
    lowerAt before after c = [c] ∨
      ∀ d ∈ lowerAt before after c,
        ∃ r ∈ moves, r.Takes c d := by
  unfold lowerAt
  split
  · rename_i hSigma
    rw [beq_iff_eq] at hSigma
    refine .inr fun d hMem => ?_
    split at hMem
    · rw [List.mem_singleton.1 hMem]
      exact ⟨_, .tail _ (.tail _ (.tail _ (.head _))),
        hSigma.ge, hSigma.le, by rw [hSigma]; decide⟩
    · rw [List.mem_singleton.1 hMem]
      exact ⟨_, .tail _ (.tail _ (.tail _ (.tail _
        (.head _)))), hSigma.ge, hSigma.le,
        by rw [hSigma]; decide⟩
  · exact lowerChar_eq c

------------------------------------------------------------
-- Characters That Stay
------------------------------------------------------------

/- A character that is taken nowhere, and none is taken to. -/
def IsStill
    (c : Char) : Prop :=
  ∀ r ∈ moves,
    (c.toNat < r.first ∨ r.last < c.toNat) ∧
      ((c.toNat : Int) < r.first + r.offset ∨
        r.last + r.offset < c.toNat)

instance : Decidable (IsStill c) :=
  List.decidableBAll _ moves

theorem IsStill.lowerAt_eq
    (hStill : IsStill c)
    (before after : List Char) :
    lowerAt before after c = [c] := by
  rcases Text.lowerAt_eq before after c with hSame | hMoved
  · exact hSame
  · cases hForm : lowerAt before after c with
    | nil => exact absurd hForm lowerAt_ne_nil
    | cons d rest =>
        rw [hForm] at hMoved
        rcases hMoved d List.mem_cons_self with
          ⟨r, hRun, hTakes⟩
        have hFirst := hTakes.first
        have hLast := hTakes.last
        have hNot := (hStill r hRun).1
        omega

/- It comes from itself only. -/
theorem IsStill.eq_of_mem
    (hStill : IsStill d)
    (hMem : d ∈ lowerAt before after c) :
    d = c := by
  rcases Text.lowerAt_eq before after c with hSame | hMoved
  · rw [hSame] at hMem
    exact List.mem_singleton.1 hMem
  · rcases hMoved d hMem with ⟨r, hRun, hTakes⟩
    have hFirst := hTakes.first
    have hLast := hTakes.last
    have hThere := hTakes.there
    have hNot := (hStill r hRun).2
    omega

theorem IsStill.mem_of_mem_lowerBetween
    (hStill : IsStill d)
    (hMem : d ∈ lowerBetween before after cs) :
    d ∈ cs := by
  rcases mem_lowerBetween hMem with ⟨c, hText, _, _, hForm⟩
  rw [hStill.eq_of_mem hForm]
  exact hText

------------------------------------------------------------
-- Breaks
------------------------------------------------------------

/- A character that keeps its two sides apart. -/
structure IsBreak
    (c : Char) : Prop where
  still : IsStill c
  caseless : isCased c = false
  noticed : isCaseIgnorable c = false

theorem IsBreak.leadsToCased_eq
    (hBreak : IsBreak c)
    (cs : List Char) :
    leadsToCased (c :: cs) = leadsToCased [] := by
  rw [leadsToCased_cons, hBreak.noticed, hBreak.caseless]
  rfl

/- Both sides of a break are lower-cased by themselves. -/
theorem lowerChars_break
    (hBreak : IsBreak c)
    (cs ds : List Char) :
    lowerChars [] (cs ++ c :: ds) =
      lowerChars [] cs ++ c :: lowerChars [] ds := by
  have hFront : lowerBetween [] (c :: ds) cs =
      lowerBetween [] [] cs :=
    lowerBetween_congr rfl (hBreak.leadsToCased_eq ds) cs
  have hBack : lowerBetween (c :: cs.reverse) [] ds =
      lowerBetween [] [] ds :=
    lowerBetween_congr (hBreak.leadsToCased_eq _) rfl ds
  rw [lowerChars_append, lowerChars_eq, lowerChars_eq,
    lowerChars_eq, lowerBetween, hFront, hBack,
    hBreak.still.lowerAt_eq, List.singleton_append]

------------------------------------------------------------
-- White Space
------------------------------------------------------------

/- The characters of white space. -/
def spaces : List Char :=
  [9, 10, 11, 12, 13, 32, 0x85, 0xA0, 0x1680, 0x2000, 0x2001,
    0x2002, 0x2003, 0x2004, 0x2005, 0x2006, 0x2007, 0x2008,
    0x2009, 0x200A, 0x2028, 0x2029, 0x202F, 0x205F,
    0x3000].map Char.ofNat

theorem mem_spaces
    (hSpace : isSpace c = true) :
    c ∈ spaces := by
  refine List.mem_map.2 ⟨c.toNat, ?_, Char.ofNat_toNat c⟩
  unfold isSpace at hSpace
  simp only [Bool.or_eq_true, Bool.and_eq_true,
    decide_eq_true_eq, beq_iff_eq] at hSpace
  simp only [List.mem_cons, List.not_mem_nil, or_false]
  omega

theorem isBreak_of_isSpace
    (hSpace : isSpace c = true) :
    IsBreak c := by
  have hAll : spaces.all (fun c => IsStill c ∧
      isCased c = false ∧ isCaseIgnorable c = false) := by
    decide +kernel
  rw [List.all_eq_true] at hAll
  rcases of_decide_eq_true (hAll c (mem_spaces hSpace)) with
    ⟨hStill, hCaseless, hNoticed⟩
  exact ⟨hStill, hCaseless, hNoticed⟩

/- No other character becomes white space. -/
theorem isSpace_of_mem_lowerAt
    (hMem : d ∈ lowerAt before after c)
    (hSolid : isSpace c = false) :
    isSpace d = false := by
  by_contra hSpace
  rw [Bool.not_eq_false] at hSpace
  have hSame := (isBreak_of_isSpace hSpace).still.eq_of_mem
    hMem
  rw [hSame, hSolid] at hSpace
  cases hSpace

/- Leading white space is dropped before or after. -/
theorem dropWhile_lowerChars
    (cs : List Char) :
    (lowerChars [] cs).dropWhile isSpace =
      lowerChars [] (cs.dropWhile isSpace) := by
  induction cs with
  | nil => rfl
  | cons c rest ih =>
      by_cases hSpace : isSpace c = true
      · have hFirst := lowerChars_break
          (isBreak_of_isSpace hSpace) [] rest
        rw [List.nil_append] at hFirst
        rw [hFirst, List.dropWhile_cons_of_pos hSpace, ← ih]
        exact List.dropWhile_cons_of_pos hSpace
      · rw [List.dropWhile_cons_of_neg hSpace, lowerChars_eq,
          lowerBetween]
        cases hForm : lowerAt [] (rest ++ []) c with
        | nil => exact absurd hForm lowerAt_ne_nil
        | cons d more =>
            have hSolid := isSpace_of_mem_lowerAt
              (hForm ▸ List.mem_cons_self)
              (Bool.not_eq_true _ ▸ hSpace)
            rw [List.cons_append,
              List.dropWhile_cons_of_neg
                (by rw [hSolid]; decide)]

/- So is the white space at the end. -/
theorem dropWhile_reverse_lowerChars
    (cs : List Char) :
    ((lowerChars [] cs).reverse.dropWhile isSpace).reverse =
      lowerChars []
        (cs.reverse.dropWhile isSpace).reverse := by
  induction cs using List.reverseRecOn with
  | nil => rfl
  | append_singleton rest c ih =>
      by_cases hSpace : isSpace c = true
      · have hLast := lowerChars_break
          (isBreak_of_isSpace hSpace) rest []
        rw [hLast, List.reverse_append, List.reverse_append]
        simp only [lowerChars, List.reverse_cons,
          List.reverse_nil, List.nil_append,
          List.singleton_append]
        rw [List.dropWhile_cons_of_pos hSpace, ih,
          List.dropWhile_cons_of_pos hSpace]
      · rw [List.reverse_append, List.reverse_singleton,
          List.singleton_append,
          List.dropWhile_cons_of_neg hSpace,
          List.reverse_cons, List.reverse_reverse,
          lowerChars_append, lowerChars_eq, lowerBetween,
          lowerBetween, List.append_nil]
        cases hForm :
            (lowerAt rest.reverse ([] ++ []) c).reverse with
        | nil =>
            exact absurd (List.reverse_eq_nil_iff.1 hForm)
              lowerAt_ne_nil
        | cons d more =>
            have hMem : d ∈
                (lowerAt rest.reverse ([] ++ []) c).reverse :=
              hForm ▸ List.mem_cons_self
            have hSolid := isSpace_of_mem_lowerAt
              (List.mem_reverse.1 hMem)
              (Bool.not_eq_true _ ▸ hSpace)
            rw [List.reverse_append, hForm, List.cons_append,
              List.dropWhile_cons_of_neg
                (by rw [hSolid]; decide),
              ← List.cons_append, ← hForm,
              ← List.reverse_append, List.reverse_reverse]

/- Trimming and lower-casing do not disturb each other. -/
theorem trimChars_lowerChars
    (cs : List Char) :
    trimChars (lowerChars [] cs) =
      lowerChars [] (trimChars cs) := by
  unfold trimChars
  rw [dropWhile_lowerChars, dropWhile_reverse_lowerChars]

------------------------------------------------------------
-- Texts
------------------------------------------------------------

theorem toList_lowerCase
    (s : String) :
    (lowerCase s).toList = lowerChars [] s.toList :=
  String.toList_ofList

theorem trim_lowerCase
    (s : String) :
    trim (lowerCase s) = lowerCase (trim s) := by
  unfold trim
  rw [toList_lowerCase, trimChars_lowerChars]
  unfold lowerCase
  rw [String.toList_ofList]

theorem lowerCase_eq_empty_iff
    {s : String} :
    lowerCase s = "" ↔ s = "" := by
  unfold lowerCase
  rw [String.ofList_eq_empty_iff, lowerChars_eq,
    lowerBetween_eq_nil_iff, String.toList_eq_nil_iff]

theorem isBlank_lowerCase
    (s : String) :
    isBlank (lowerCase s) = isBlank s := by
  rw [Bool.eq_iff_iff, ← trim_eq_empty_iff, trim_lowerCase,
    lowerCase_eq_empty_iff, trim_eq_empty_iff]

end Text

end DeviceHub
