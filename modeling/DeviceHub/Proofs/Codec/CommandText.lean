import DeviceHub.Proofs.Text.Search

/-
  How lines of plain text spell names and values.

  A line marks where a name begins by a blank and where its
  value begins by an equals sign, but not where a value ends.
  So two lists of entries with the same spelling are equal,
  or in one of them a value runs on over the next entry of
  the other.

  Key definitions include:
    * `CommandText.IsPlain`
    * `CommandText.spell`
    * `CommandText.spelled`
    * `CommandText.Overruns`

  Main statements:
    * `CommandText.spell_of_runOn`
    * `CommandText.eq_or_overruns`
    * `CommandText.mem_of_blankless`
-/

namespace DeviceHub

namespace CommandText

------------------------------------------------------------
-- Spelling
------------------------------------------------------------

/- A name that cannot be taken apart. -/
def IsPlain
    (name : String) : Prop :=
  ' ' ∉ name.toList ∧ '=' ∉ name.toList

instance
    (name : String) : Decidable (IsPlain name) :=
  inferInstanceAs (Decidable (_ ∧ _))

/- Entries, each with a blank and an equals sign. -/
def spell
    (entries : List (String × String)) : List Char :=
  entries.flatMap fun e =>
    ' ' :: (e.1.toList ++ '=' :: e.2.toList)

theorem spell_cons
    (name value : String)
    (rest : List (String × String)) :
    spell ((name, value) :: rest) =
      ' ' :: (name.toList ++
        '=' :: (value.toList ++ spell rest)) := by
  simp [spell]

theorem spell_append
    (entries rest : List (String × String)) :
    spell (entries ++ rest) = spell entries ++ spell rest :=
  List.flatMap_append

/- The spelling, as a text. -/
def spelled
    (entries : List (String × String)) : String :=
  String.ofList (spell entries)

@[simp] theorem toList_spelled
    (entries : List (String × String)) :
    (spelled entries).toList = spell entries :=
  String.toList_ofList

/- A value that goes on with entries is another one. -/
theorem append_spelled_ne
    {entries : List (String × String)}
    (hEntries : entries ≠ [])
    (value : String) :
    value ++ spelled entries ≠ value := by
  intro hSame
  rw [← String.toList_inj, String.toList_append,
    toList_spelled, List.append_right_eq_self] at hSame
  rcases entries with _ | ⟨e, rest⟩
  · exact hEntries rfl
  · rw [spell_cons] at hSame
    cases hSame

/- A spelling begins with a blank, if with anything. -/
theorem eq_blank_of_spell
    {entries : List (String × String)}
    {c : Char}
    {cs : List Char}
    (hSpell : spell entries = c :: cs) :
    c = ' ' := by
  cases entries with
  | nil => cases hSpell
  | cons e rest =>
      rw [spell_cons] at hSpell
      exact (List.cons.inj hSpell).1.symm

------------------------------------------------------------
-- Values That Run On
------------------------------------------------------------

/- A value that goes on with an entry stands for both. -/
theorem spell_of_runOn
    (before after : List (String × String))
    (name value next last : String) :
    spell (before ++
        (name, value ++ spelled [(next, last)]) :: after) =
      spell (before ++
        (name, value) :: (next, last) :: after) := by
  simp [spell]

/-
  Of two values either one can go on with the second entry,
  and with all that stands between them.
-/
theorem spell_of_either_runOn
    (before between after : List (String × String))
    (name value next last : String) :
    let more := spelled (between ++ [(next, last)])
    spell (before ++
        (name, value ++ more) ::
          (between ++ (next, last) :: after)) =
      spell (before ++
        (name, value) ::
          (between ++ (next, last ++ more) :: after)) := by
  simp [spell]

/-
  After the same entries, the second list has a value that
  goes on with the next entry of the first.
-/
def Overruns
    (entries others : List (String × String)) : Prop :=
  ∃ common name value next after rest value' rest' tail,
    entries =
      common ++ (name, value) :: (next, after) :: rest ∧
    others = common ++ (name, value') :: rest' ∧
    value'.toList = value.toList ++
      ' ' :: (next.toList ++ '=' :: tail) ∧
    after.toList ++ spell rest = tail ++ spell rest'

theorem Overruns.cons
    {entries others : List (String × String)}
    (hOver : Overruns entries others)
    (e : String × String) :
    Overruns (e :: entries) (e :: others) := by
  rcases hOver with ⟨common, name, value, next, after, rest,
    value', rest', tail, rfl, rfl, hValue, hTail⟩
  exact ⟨e :: common, name, value, next, after, rest, value',
    rest', tail, rfl, rfl, hValue, hTail⟩

/- What a value has too much begins with an entry. -/
theorem exists_next_of_longer
    {rest rest' : List (String × String)}
    (hPlain : ∀ e ∈ rest, IsPlain e.1)
    {more : List Char}
    (hMore : more ≠ [])
    (hSame : spell rest = more ++ spell rest') :
    ∃ next after tail rest'',
      rest = (next, after) :: rest'' ∧
      more = ' ' :: (next.toList ++ '=' :: tail) ∧
      after.toList ++ spell rest'' =
        tail ++ spell rest' := by
  rcases rest with _ | ⟨⟨next, after⟩, rest''⟩
  · exact absurd (List.append_eq_nil_iff.1 hSame.symm).1 hMore
  · rcases more with _ | ⟨c, more⟩
    · exact absurd rfl hMore
    · rw [spell_cons, List.cons_append, List.cons.injEq]
        at hSame
      rcases hSame with ⟨rfl, hSame⟩
      -- The other spelling cannot begin inside the name.
      rcases List.append_eq_append_iff.1 hSame with
        ⟨rest₁, rfl, hRest⟩ | ⟨name₁, hName, hRest⟩
      · rcases rest₁ with _ | ⟨d, tail⟩
        · rw [List.nil_append] at hRest
          exact absurd (eq_blank_of_spell hRest.symm)
            (by decide)
        · rw [List.cons_append, List.cons.injEq] at hRest
          rcases hRest with ⟨rfl, hTail⟩
          exact ⟨next, after, tail, rest'', rfl, rfl, hTail⟩
      · rcases name₁ with _ | ⟨d, name₁⟩
        · exact absurd (eq_blank_of_spell hRest) (by decide)
        · have hBlank := eq_blank_of_spell hRest
          subst hBlank
          refine absurd ?_ (hPlain _ List.mem_cons_self).1
          rw [hName]
          exact List.mem_append_right more List.mem_cons_self

/- The longer of two values of one name runs on. -/
theorem overruns_of_longer
    {name value value' : String}
    {rest rest' : List (String × String)}
    (hPlain : ∀ e ∈ rest, IsPlain e.1)
    {more : List Char}
    (hValue : value'.toList = value.toList ++ more)
    (hNe : value ≠ value')
    (hSame : spell rest = more ++ spell rest') :
    Overruns ((name, value) :: rest)
      ((name, value') :: rest') := by
  have hMore : more ≠ [] := by
    rintro rfl
    rw [List.append_nil, String.toList_inj] at hValue
    exact hNe hValue.symm
  rcases exists_next_of_longer hPlain hMore hSame with
    ⟨next, after, tail, rest'', rfl, rfl, hTail⟩
  exact ⟨[], name, value, next, after, rest'', value', rest',
    tail, rfl, rfl, hValue, hTail⟩

/-
  Entries with the same spelling are equal, unless a value of
  one list runs on over the next entry of the other.
-/
theorem eq_or_overruns
    {entries others : List (String × String)}
    (hPlain : ∀ e ∈ entries, IsPlain e.1)
    (hPlain' : ∀ e ∈ others, IsPlain e.1)
    (hSame : spell entries = spell others) :
    entries = others ∨ Overruns entries others ∨
      Overruns others entries := by
  induction entries generalizing others with
  | nil =>
      rcases others with _ | ⟨⟨name, value⟩, rest⟩
      · exact .inl rfl
      · rw [spell_cons] at hSame
        cases hSame
  | cons e rest ih =>
      rcases e with ⟨name, value⟩
      rcases others with _ | ⟨⟨name', value'⟩, rest'⟩
      · rw [spell_cons] at hSame
        cases hSame
      · rw [spell_cons, spell_cons, List.cons.injEq,
          and_iff_right rfl] at hSame
        rw [List.forall_mem_cons] at hPlain hPlain'
        rcases Text.append_cons_inj_of_first hPlain.1.2
            hPlain'.1.2 hSame with ⟨hName, hValues⟩
        rw [String.toList_inj] at hName
        subst hName
        by_cases hValue : value = value'
        · subst hValue
          exact (ih hPlain.2 hPlain'.2
            (List.append_cancel_left hValues)).imp
              (congrArg _) (.imp (·.cons _) (·.cons _))
        · -- One value goes on after the other one.
          rcases List.append_eq_append_iff.1 hValues with
            ⟨more, hMore, hRest⟩ | ⟨more, hMore, hRest⟩
          · exact .inr (.inl (overruns_of_longer hPlain.2
              hMore hValue hRest))
          · exact .inr (.inr (overruns_of_longer hPlain'.2
              hMore (Ne.symm hValue) hRest))

------------------------------------------------------------
-- Values Without Blanks
------------------------------------------------------------

/- The first blank stands behind what has none. -/
theorem exists_gap
    {front before cs ds : List Char}
    (hFront : ' ' ∉ front)
    (hSame : front ++ cs = before ++ ' ' :: ds) :
    ∃ gap, before = front ++ gap ∧ cs = gap ++ ' ' :: ds := by
  rcases List.append_eq_append_iff.1 hSame with
    ⟨gap, hBefore, hRest⟩ | ⟨gap, hGap, hRest⟩
  · exact ⟨gap, hBefore, hRest⟩
  · rcases gap with _ | ⟨d, gap⟩
    · rw [List.append_nil] at hGap
      exact ⟨[], by rw [hGap, List.append_nil], hRest.symm⟩
    · rw [List.cons_append, List.cons.injEq] at hRest
      refine absurd ?_ hFront
      rw [hGap, ← hRest.1]
      exact List.mem_append_right before List.mem_cons_self

/- Where no value has a blank, what looks like an entry is. -/
theorem mem_of_blankless
    {rest : List (String × String)}
    (hPlain : ∀ e ∈ rest, IsPlain e.1)
    (hBlankless : ∀ e ∈ rest, ' ' ∉ e.2.toList)
    {name : String}
    (hName : IsPlain name)
    {front before tail : List Char}
    (hFront : ' ' ∉ front)
    (hSame : front ++ spell rest =
      before ++ ' ' :: (name.toList ++ '=' :: tail)) :
    ∃ value, (name, value) ∈ rest := by
  induction rest generalizing front before with
  | nil =>
      rcases exists_gap hFront hSame with ⟨gap, -, hRest⟩
      exact absurd (List.append_eq_nil_iff.1 hRest.symm).2
        (List.cons_ne_nil _ _)
  | cons e rest ih =>
      rcases e with ⟨key, value⟩
      rw [List.forall_mem_cons] at hPlain hBlankless
      rcases exists_gap hFront hSame with ⟨gap, -, hRest⟩
      rw [spell_cons] at hRest
      rcases gap with _ | ⟨d, gap⟩
      · rw [List.nil_append, List.cons.injEq,
          and_iff_right rfl] at hRest
        have hKey := (Text.append_cons_inj_of_first
          hPlain.1.2 hName.2 hRest).1
        rw [String.toList_inj] at hKey
        exact ⟨value, hKey ▸ List.mem_cons_self⟩
      · rw [List.cons_append, List.cons.injEq] at hRest
        have hFront' :
            ' ' ∉ key.toList ++ '=' :: value.toList := by
          rw [List.mem_append, List.mem_cons, not_or, not_or]
          exact ⟨hPlain.1.1, by decide, hBlankless.1⟩
        have hSame' : (key.toList ++ '=' :: value.toList) ++
              spell rest =
            gap ++ ' ' :: (name.toList ++ '=' :: tail) := by
          rw [List.append_assoc, List.cons_append]
          exact hRest.2
        rcases ih hPlain.2 hBlankless.2 hFront' hSame' with
          ⟨value', hMem⟩
        exact ⟨value', List.mem_cons_of_mem _ hMem⟩

end CommandText

end DeviceHub
