import DeviceHub.Proofs.Codec.CommandLines
import Mathlib.Data.List.Nodup

/-
  What the line of a command tells of its parameters.

  A line does not say where a value ends.  So a text value
  can go on with what reads as the entry of a later
  parameter.  Two maps of parameters share a line in this
  way only, and it depends on the types of the parameters
  and on which of them are required whether a command has
  such maps.

  Key definitions include:
    * `CommandDefinition.Swallows`
    * `CommandDefinition.Next`
    * `CommandDefinition.KeepsApart`

  Main statements:
    * `CommandDefinition.eq_or_swallows`
    * `CommandDefinition.eq_of_keepsApart`
    * `CommandDefinition.keepsApart_of_determined`
    * `CommandDefinition.line_determines_exactly`
-/

namespace DeviceHub

namespace CommandDefinition

variable {c : CommandDefinition}
variable {values values' : Dict String} {line : String}

------------------------------------------------------------
-- Maps That Share a Line
------------------------------------------------------------

/-
  A text value of the first map goes on, after what it is in
  the second one, with an entry of a later parameter, which
  the second map has too.
-/
def Swallows
    (c : CommandDefinition)
    (values values' : Dict String) : Prop :=
  ∃ p ∈ c.parameters, ∃ q ∈ c.parameters,
    p.parameterType = .string ∧ p.name < q.name ∧
    ∃ value tail,
      values'.get? p.name = some value ∧
      (values'.get? q.name).isSome = true ∧
      values.get? p.name = some
        (value ++ " " ++ q.name ++ "=" ++ tail)

/- The two maps are not equal. -/
theorem Swallows.ne
    (hSwallows : c.Swallows values values') :
    values ≠ values' := by
  rcases hSwallows with
    ⟨p, -, q, -, -, -, value, tail, hValue', -, hValue⟩
  rintro rfl
  rw [hValue', Option.some.injEq, ← String.toList_inj]
    at hValue
  have hLength := congrArg List.length hValue
  simp at hLength

/- A value with a blank is of a text parameter. -/
theorem Permits.string_of_blank
    (hPermits : c.Permits values)
    {p : CommandParameter}
    (hp : p ∈ c.parameters)
    {value : String}
    (hValue : values.get? p.name = some value)
    (hBlank : ' ' ∈ value.toList) :
    p.parameterType = .string := by
  by_contra hType
  exact ParameterType.blankless_of_accepts
    (hPermits.accepts hp hValue) hType hBlank

/- Names in a map are plain if all declared ones are. -/
theorem Permits.isPlain
    (hPermits : c.Permits values)
    (hPlain : ∀ p ∈ c.parameters, CommandText.IsPlain p.name) :
    ∀ e ∈ values.entries, CommandText.IsPlain e.1 := by
  intro e hMem
  rcases hPermits.exists_declared
    (Dict.mem_entries_iff.1 hMem) with ⟨p, hp, hName⟩
  exact hName ▸ hPlain p hp

/- Maps share a line only if a value of one runs on. -/
theorem eq_or_overruns_of_sends
    (hPlain : ∀ p ∈ c.parameters, CommandText.IsPlain p.name)
    (hSends : c.Sends values line)
    (hSends' : c.Sends values' line) :
    values = values' ∨
      CommandText.Overruns values.entries values'.entries ∨
      CommandText.Overruns values'.entries values.entries :=
  have hPermits := (sends_iff.1 hSends).1
  have hPermits' := (sends_iff.1 hSends').1
  (CommandText.eq_or_overruns (hPermits.isPlain hPlain)
    (hPermits'.isPlain hPlain)
    (spell_eq_of_sends hSends hSends')).imp_left
      Dict.ext_entries

/- Values run on in a text parameter over a later entry. -/
theorem swallows_of_overruns
    (hPermits : c.Permits values)
    (hPermits' : c.Permits values')
    (hOver : CommandText.Overruns values'.entries
      values.entries) :
    c.Swallows values values' := by
  rcases hOver with ⟨common, name, value', next, after, rest,
    value, rest', tail, hEntries', hEntries, hValue, -⟩
  have hMem := Dict.get?_of_split hEntries
  have hMem' := Dict.get?_of_split hEntries'
  have hNext := Dict.get?_of_split
    (hEntries'.trans (List.append_cons ..))
  have hLess : name < next :=
    (Dict.split_ordered hEntries').2 (next, after)
      List.mem_cons_self
  rcases hPermits.exists_declared hMem with ⟨p, hp, rfl⟩
  rcases hPermits'.exists_declared hNext with ⟨q, hq, rfl⟩
  refine ⟨p, hp, q, hq, hPermits.string_of_blank hp hMem ?_,
    hLess, value', String.ofList tail, hMem',
    by rw [hNext, Option.isSome_some], ?_⟩
  · rw [hValue]
    exact List.mem_append_right _ List.mem_cons_self
  · rw [hMem, Option.some.injEq, ← String.toList_inj, hValue]
    simp

/- Maps share a line only if one swallows of the other. -/
theorem eq_or_swallows
    (hPlain : ∀ p ∈ c.parameters, CommandText.IsPlain p.name)
    (hSends : c.Sends values line)
    (hSends' : c.Sends values' line) :
    values = values' ∨ c.Swallows values values' ∨
      c.Swallows values' values := by
  have hPermits := (sends_iff.1 hSends).1
  have hPermits' := (sends_iff.1 hSends').1
  rcases eq_or_overruns_of_sends hPlain hSends hSends' with
    hSame | hOver | hOver
  · exact .inl hSame
  · exact .inr (.inr
      (swallows_of_overruns hPermits' hPermits hOver))
  · exact .inr (.inl
      (swallows_of_overruns hPermits hPermits' hOver))

------------------------------------------------------------
-- Commands Without Such Maps
------------------------------------------------------------

/- The second parameter is the next one in order of names. -/
def Next
    (c : CommandDefinition)
    (p q : CommandParameter) : Prop :=
  p.name < q.name ∧ ∀ r ∈ c.parameters,
    p.name < r.name → q.name ≤ r.name

/-
  After a text parameter comes no other one, and the next
  parameter is always given.
-/
def KeepsApart
    (c : CommandDefinition) : Prop :=
  ∀ p ∈ c.parameters, p.parameterType = .string →
    ∀ q ∈ c.parameters,
      (p.name < q.name → q.parameterType ≠ .string) ∧
      (c.Next p q → q.required = true)

/- If there are later parameters, one of them is next. -/
theorem exists_next
    {p q : CommandParameter}
    (hq : q ∈ c.parameters)
    (hLater : p.name < q.name) :
    ∃ r ∈ c.parameters, c.Next p r := by
  let later := c.parameters.filter (p.name < ·.name)
  have hMem {r : CommandParameter} :
      r ∈ later ↔ r ∈ c.parameters ∧ p.name < r.name := by
    rw [List.mem_filter, decide_eq_true_iff]
  have hNe : later ≠ [] :=
    List.ne_nil_of_mem (hMem.2 ⟨hq, hLater⟩)
  have hFirst := hMem.1
    (List.minOn_mem (f := CommandParameter.name) (h := hNe))
  exact ⟨_, hFirst.1, hFirst.2, fun r hr hLess =>
    List.apply_minOn_le_of_mem (hMem.2 ⟨hr, hLess⟩)⟩

/- No value after that of a text parameter has a blank. -/
theorem KeepsApart.blankless_later
    (hApart : c.KeepsApart)
    (hPermits : c.Permits values)
    {p : CommandParameter}
    (hp : p ∈ c.parameters)
    (hString : p.parameterType = .string)
    {name value : String}
    (hValue : values.get? name = some value)
    (hLater : p.name < name) :
    ' ' ∉ value.toList := by
  rcases hPermits.exists_declared hValue with ⟨q, hq, rfl⟩
  exact fun hBlank => (hApart p hp hString q hq).1 hLater
    (hPermits.string_of_blank hq hValue hBlank)

/-
  No value runs on: the next parameter would have to be given
  twice, and where no value has a blank it cannot.
-/
theorem KeepsApart.not_overruns
    (hApart : c.KeepsApart)
    (hPlain : ∀ p ∈ c.parameters, CommandText.IsPlain p.name)
    (hPermits : c.Permits values)
    (hPermits' : c.Permits values') :
    ¬ CommandText.Overruns values.entries values'.entries := by
  rintro ⟨common, name, value, next, after, rest, value',
    rest', tail, hEntries, hEntries', hValue, hTail⟩
  have hSplit := hEntries.trans (List.append_cons ..)
  have hMem' := Dict.get?_of_split hEntries'
  rcases hPermits'.exists_declared hMem' with ⟨p, hp, rfl⟩
  have hString : p.parameterType = .string := by
    refine hPermits'.string_of_blank hp hMem' ?_
    rw [hValue]
    exact List.mem_append_right _ List.mem_cons_self
  have hBlankless : ∀ e ∈ (next, after) :: rest,
      ' ' ∉ e.2.toList := by
    intro e hMem
    refine hApart.blankless_later hPermits hp hString
      (Dict.mem_entries_iff.1 ?_)
      ((Dict.split_ordered hEntries).2 e hMem)
    rw [hEntries]
    exact List.mem_append_right _ (List.mem_cons_of_mem _ hMem)
  rcases hPermits.exists_declared (Dict.get?_of_split hSplit)
    with ⟨q, hq, rfl⟩
  have hLater : p.name < q.name :=
    (Dict.split_ordered hEntries).2 _ List.mem_cons_self
  rcases exists_next hq hLater with ⟨r, hr, hNext⟩
  -- The longer value is followed by the next parameter, too.
  rcases hPermits'.exists_value hr
      ((hApart p hp hString r hr).2 hNext) with
    ⟨last, hLast⟩
  rcases List.append_of_mem
      (Dict.mem_after_of_lt hEntries' hLast hNext.1) with
    ⟨before, behind, hRest'⟩
  rw [hRest', CommandText.spell_append, CommandText.spell_cons,
    ← List.append_assoc] at hTail
  have hRestPlain : ∀ e ∈ rest, CommandText.IsPlain e.1 := by
    intro e hMem
    refine hPermits.isPlain hPlain e ?_
    rw [hSplit]
    exact List.mem_append_right _ (List.mem_cons_of_mem _ hMem)
  rcases CommandText.mem_of_blankless hRestPlain
      (fun e hMem => hBlankless e
        (List.mem_cons_of_mem _ hMem))
      (hPlain r hr) (hBlankless _ List.mem_cons_self) hTail
    with ⟨again, hAgain⟩
  -- So it comes after one that does not come before it.
  exact absurd
    ((Dict.split_ordered hSplit).2 (r.name, again) hAgain)
    (String.not_lt.2 (hNext.2 q hq hLater))

/- Then a line has one map. -/
theorem eq_of_keepsApart
    (hPlain : ∀ p ∈ c.parameters, CommandText.IsPlain p.name)
    (hApart : c.KeepsApart)
    (hSends : c.Sends values line)
    (hSends' : c.Sends values' line) :
    values = values' := by
  have hPermits := (sends_iff.1 hSends).1
  have hPermits' := (sends_iff.1 hSends').1
  rcases eq_or_overruns_of_sends hPlain hSends hSends' with
    hSame | hOver | hOver
  · exact hSame
  · exact absurd hOver
      (hApart.not_overruns hPlain hPermits hPermits')
  · exact absurd hOver
      (hApart.not_overruns hPlain hPermits' hPermits)

------------------------------------------------------------
-- Commands With Such Maps
------------------------------------------------------------

/- All lines of the command have one map each. -/
def Determined
    (c : CommandDefinition) : Prop :=
  ∀ values values' line, c.Sends values line →
    c.Sends values' line → values = values'

/- Then maps with the same spelling are equal. -/
theorem Determined.eq_of_spell
    (hDetermined : c.Determined)
    (hPermits : c.Permits values)
    (hPermits' : c.Permits values')
    (hSame : CommandText.spell values.entries =
      CommandText.spell values'.entries) :
    values = values' := by
  rcases hPermits.exists_line with ⟨line, hSends⟩
  refine hDetermined values values' line hSends
    (sends_iff.2 ⟨hPermits', ?_⟩)
  rw [← hSame]
  exact (sends_iff.1 hSends).2

/- A text value that goes on may be sent as well. -/
theorem Permits.runOn
    (hPermits : c.Permits values)
    (hNodup : (c.parameters.map (·.name)).Nodup)
    {p : CommandParameter}
    (hp : p ∈ c.parameters)
    (hString : p.parameterType = .string)
    {value : String}
    (hValue : values.get? p.name = some value)
    (more : String) :
    c.Permits (values.insert p.name (value ++ more)) := by
  refine hPermits.insert hp ?_ ?_
  · intro q hq hName
    rw [List.inj_on_of_nodup_map hNodup hq hp hName, hString]
    rfl
  · have hSolid := hPermits.solid _ _ hValue
    rw [ne_eq, Text.trim_eq_empty_iff, Text.isBlank]
      at hSolid ⊢
    rw [String.toList_append, List.all_append,
      Bool.and_eq_true]
    exact fun hBlank => hSolid hBlank.1

/- Of two text parameters either one can go on. -/
theorem Determined.not_string
    (hDetermined : c.Determined)
    (hNodup : (c.parameters.map (·.name)).Nodup)
    {p q : CommandParameter}
    (hp : p ∈ c.parameters)
    (hq : q ∈ c.parameters)
    (hString : p.parameterType = .string)
    (hLater : p.name < q.name) :
    q.parameterType ≠ .string := by
  intro hString'
  have hPermits := permits_sample hNodup
  have hValue := (get?_sample_iff hNodup).2 ⟨p, hp, rfl, rfl⟩
  have hLast := (get?_sample_iff hNodup).2 ⟨q, hq, rfl, rfl⟩
  rcases Dict.exists_split hValue hLast hLater with
    ⟨before, between, after, hEntries, hEntries'⟩
  let more := CommandText.spelled
    (between ++ [(q.name, q.parameterType.sample)])
  have hSame := hDetermined.eq_of_spell
    (hPermits.runOn hNodup hp hString hValue more)
    (hPermits.runOn hNodup hq hString' hLast more) (by
      rw [Dict.entries_insert_of_split hEntries,
        Dict.entries_insert_of_split hEntries',
        List.append_assoc, List.cons_append]
      exact CommandText.spell_of_either_runOn ..)
  have hLook := congrArg (Dict.get? · p.name) hSame
  simp only [Dict.get?_insert, if_pos,
    if_neg (String.ne_of_lt hLater), hValue,
    Option.some.injEq] at hLook
  exact CommandText.append_spelled_ne (by simp) _ hLook

/- Between a parameter and the next one stands no other. -/
theorem Permits.split_next
    (hPermits : c.Permits values)
    {p q : CommandParameter}
    (hNext : c.Next p q)
    {value last : String}
    (hValue : values.get? p.name = some value)
    (hLast : values.get? q.name = some last) :
    ∃ before after, values.entries =
      before ++ (p.name, value) :: (q.name, last) :: after := by
  rcases Dict.exists_split hValue hLast hNext.1 with
    ⟨before, between, after, hEntries, hEntries'⟩
  have hNothing : between = [] := by
    rw [List.eq_nil_iff_forall_not_mem]
    intro e hMem
    have hThere : e ∈ values.entries := by
      rw [hEntries]
      simp [hMem]
    rcases hPermits.exists_declared
        (Dict.mem_entries_iff.1 hThere) with
      ⟨r, hr, hName⟩
    have hAfter : p.name < e.1 :=
      (Dict.split_ordered hEntries).2 e
        (List.mem_append_left _ hMem)
    have hBefore : e.1 < q.name :=
      (Dict.split_ordered hEntries').1 e
        (List.mem_append_right _ (List.mem_cons_of_mem _ hMem))
    rw [← hName] at hAfter hBefore
    exact String.not_lt.2 (hNext.2 r hr hAfter) hBefore
  subst hNothing
  exact ⟨before, after, hEntries⟩

/- A text value can go on with an entry that is left out. -/
theorem Determined.required
    (hDetermined : c.Determined)
    (hNodup : (c.parameters.map (·.name)).Nodup)
    {p q : CommandParameter}
    (hp : p ∈ c.parameters)
    (hq : q ∈ c.parameters)
    (hString : p.parameterType = .string)
    (hNext : c.Next p q) :
    q.required = true := by
  by_contra hOptional
  rw [Bool.not_eq_true] at hOptional
  have hPermits := permits_sample hNodup
  have hValue := (get?_sample_iff hNodup).2 ⟨p, hp, rfl, rfl⟩
  have hLast := (get?_sample_iff hNodup).2 ⟨q, hq, rfl, rfl⟩
  rcases hPermits.split_next hNext hValue hLast with
    ⟨before, after, hEntries⟩
  have hErased : (c.sample.erase q.name).entries =
      before ++ (p.name, p.parameterType.sample) :: after := by
    rw [List.append_cons] at hEntries
    rw [Dict.entries_erase_of_split hEntries,
      List.append_assoc, List.singleton_append]
  have hKept : (c.sample.erase q.name).get? p.name =
      some p.parameterType.sample := by
    rw [Dict.get?_erase, if_neg (String.ne_of_lt hNext.1)]
    exact hValue
  have hWithout : c.Permits (c.sample.erase q.name) := by
    refine hPermits.erase fun r hr hName => ?_
    rw [List.inj_on_of_nodup_map hNodup hr hq hName]
    exact hOptional
  let more := CommandText.spelled
    [(q.name, q.parameterType.sample)]
  have hSame := hDetermined.eq_of_spell
    (hWithout.runOn hNodup hp hString hKept more) hPermits (by
      rw [Dict.entries_insert_of_split hErased, hEntries]
      exact CommandText.spell_of_runOn ..)
  have hLook := congrArg (Dict.get? · p.name) hSame
  simp only [Dict.get?_insert, if_pos, hValue,
    Option.some.injEq] at hLook
  exact CommandText.append_spelled_ne (by simp) _ hLook

theorem keepsApart_of_determined
    (hNodup : (c.parameters.map (·.name)).Nodup)
    (hDetermined : c.Determined) :
    c.KeepsApart :=
  fun _ hp hString _ hq =>
    ⟨hDetermined.not_string hNodup hp hq hString,
      hDetermined.required hNodup hp hq hString⟩

------------------------------------------------------------
-- What Lines Determine
------------------------------------------------------------

/-
  How far a line determines the parameters it was made from.
  Maps that share a line differ exactly if in one of them a
  text value goes on with an entry of a later parameter of
  the other.  A command whose parameters have different names
  has no such maps exactly if it keeps its values apart.
-/
theorem line_determines_exactly
    {c : CommandDefinition}
    (hPlain : ∀ p ∈ c.parameters,
      CommandText.IsPlain p.name) :
    (∀ values values' line,
      c.Sends values line → c.Sends values' line →
        (values ≠ values' ↔ c.Swallows values values' ∨
          c.Swallows values' values)) ∧
    ((c.parameters.map (·.name)).Nodup →
      (c.Determined ↔ c.KeepsApart)) := by
  constructor
  · intro values values' line hSends hSends'
    constructor
    · exact (eq_or_swallows hPlain hSends hSends').resolve_left
    · rintro (hSwallows | hSwallows)
      · exact hSwallows.ne
      · exact hSwallows.ne.symm
  · intro hNodup
    constructor
    · exact keepsApart_of_determined hNodup
    · intro hApart values values' line hSends hSends'
      exact eq_of_keepsApart hPlain hApart hSends hSends'

/- A mode that goes on with a rate reads as both. -/
theorem line_of_two_modes :
    let c : CommandDefinition :=
      { CommandDefinition.new "set-mode" "setMode" with
        parameters :=
          [⟨"mode", .string, true⟩, ⟨"rate", .string, false⟩] }
    let values := Dict.ofList [("mode", "eco"), ("rate", "9")]
    let values' := Dict.ofList [("mode", "eco rate=9")]
    let line := "setMode mode=eco rate=9"
    (CommandText.IsPlain c.name ∧
      ∀ p ∈ c.parameters, CommandText.IsPlain p.name) ∧
    c.Sends values line ∧ c.Sends values' line ∧
      values ≠ values' := by
  intro c values values' line
  let e (given : Dict String) : CommandExecution :=
    { command := c
      invocation :=
        { CommandInvocation.new "i-1" "set-mode" with
          parameterValues := given }
      hardwareId := "d-1"
      assignmentToken := "a-1" }
  refine ⟨by decide, ⟨e values, rfl, rfl, by decide⟩,
    ⟨e values', rfl, rfl, by decide⟩, fun hSame => ?_⟩
  exact absurd (congrArg Dict.size hSame) (by decide)

/- With a number after the mode, no line has two readings. -/
theorem line_determines_exactly_rate :
    let c : CommandDefinition :=
      { CommandDefinition.new "set-rate" "setRate" with
        parameters :=
          [⟨"seconds", .int32, true⟩,
            ⟨"mode", .string, false⟩] }
    (∀ p ∈ c.parameters, CommandText.IsPlain p.name) ∧
      (c.parameters.map (·.name)).Nodup ∧
      c.KeepsApart ∧ c.Determined := by
  intro c
  have hPlain : ∀ p ∈ c.parameters,
      CommandText.IsPlain p.name := by decide
  have hNodup : (c.parameters.map (·.name)).Nodup := by decide
  have hApart : c.KeepsApart := by
    unfold KeepsApart Next
    decide
  exact ⟨hPlain, hNodup, hApart,
    ((line_determines_exactly hPlain).2 hNodup).2 hApart⟩

end CommandDefinition

end DeviceHub
