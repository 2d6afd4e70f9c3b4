import DeviceHub.Codec.CommandFrame
import DeviceHub.Proofs.Codec.CommandText
import DeviceHub.Proofs.Codec.Parameters
import DeviceHub.Proofs.Except
import DeviceHub.Proofs.Numeric.Literal

/-
  The maps of parameters that a command may be sent with, and
  the lines that they are sent as.

  The check of the parameters lets exactly these maps pass
  unchanged, and it never yields another one.

  Key definitions include:
    * `CommandDefinition.Permits`
    * `CommandDefinition.sample`
    * `CommandDefinition.Sends`

  Main statements:
    * `ParameterType.blankless_of_accepts`
    * `CommandDefinition.Permits.check`
    * `CommandDefinition.permits_of_check`
    * `CommandDefinition.permits_sample`
    * `CommandDefinition.sends_iff`
-/

namespace DeviceHub

------------------------------------------------------------
-- Values of a Type
------------------------------------------------------------

namespace ParameterType

/- Only text values have blanks. -/
theorem blankless_of_accepts
    {t : ParameterType}
    {value : String}
    (hAccepts : t.accepts value = true)
    (hType : t ≠ .string) :
    ' ' ∉ value.toList := by
  unfold accepts at hAccepts
  cases t with
  | string => exact absurd rfl hType
  | int32 =>
      refine Literal.blankless_of_integer? ?_
      rw [Option.isSome_filter] at hAccepts
      exact Option.isSome_of_any hAccepts
  | int64 =>
      refine Literal.blankless_of_integer? ?_
      simp only [Literal.int64?, Option.isSome_filter]
        at hAccepts
      exact Option.isSome_of_any hAccepts
  | float => exact Literal.blankless_of_isReal hAccepts
  | double => exact Literal.blankless_of_isReal hAccepts
  | bool =>
      rw [Bool.or_eq_true, beq_iff_eq, beq_iff_eq] at hAccepts
      rcases hAccepts with rfl | rfl <;> decide

/- Some value of a type. -/
def sample : ParameterType → String
  | bool => "true"
  | _ => "1"

theorem accepts_sample
    (t : ParameterType) :
    t.accepts t.sample = true := by
  cases t <;> rfl

theorem trim_sample
    (t : ParameterType) :
    Text.trim t.sample ≠ "" := by
  cases t <;> decide

end ParameterType

namespace CommandDefinition

variable {c : CommandDefinition}
variable {values values' : Dict String} {line : String}

------------------------------------------------------------
-- Maps That May Be Sent
------------------------------------------------------------

/- Values that agree with the declarations, none of them blank. -/
structure Permits
    (c : CommandDefinition)
    (values : Dict String) : Prop where
  declared : ∀ name ∈ values.keys,
    ∃ p ∈ c.parameters, p.name = name
  solid : ∀ name value, values.get? name = some value →
    Text.trim value ≠ ""
  met : ∀ p ∈ c.parameters, Meets values p

/- The check lets them pass as they are. -/
theorem Permits.check
    (hPermits : c.Permits values) :
    c.checkParameters values = .ok values := by
  rw [checkParameters_of_declared hPermits.declared]
  rcases checkDeclared_of_meets (c := c) hPermits.met
      (collected_nil values) with ⟨all, hAll, hCollected⟩
  rw [hAll, hCollected.eq_filter hPermits.declared,
    Except.ok.injEq]
  refine Dict.ext_get? fun name => Option.ext fun value => ?_
  rw [Dict.get?_filter, Option.filter_eq_some_iff,
    decide_eq_true_iff]
  exact and_iff_left_of_imp (hPermits.solid name value)

/- Blank values count as none. -/
theorem gives_filter_iff
    {given : Dict String}
    {name value : String} :
    Gives (given.filter fun _ value => Text.trim value ≠ "")
      name value ↔ Gives given name value := by
  unfold Gives
  rw [Dict.get?_filter, Option.filter_eq_some_iff,
    decide_eq_true_iff, and_assoc, and_self_iff]

/- What the check lets pass agrees with the declarations. -/
theorem permits_of_check
    {given : Dict String}
    (hCheck : c.checkParameters given = .ok values) :
    c.Permits values := by
  have hDeclared : ∀ name ∈ given.keys,
      ∃ p ∈ c.parameters, p.name = name := by
    by_contra hNot
    rcases checkParameters_of_undeclared (c := c) (by
        simpa only [not_forall, exists_prop] using hNot)
      with ⟨name, -, -, hError⟩
    rw [hError] at hCheck
    cases hCheck
  rw [checkParameters_of_declared hDeclared] at hCheck
  rcases all_meet_or_first_violation c given c.parameters with
    hMeets | ⟨before, p, after, e, hSplit, hBefore, hViolation⟩
  · rcases checkDeclared_of_meets (c := c) hMeets
        (collected_nil given) with ⟨all, hAll, hCollected⟩
    rw [hAll, hCollected.eq_filter hDeclared,
      Except.ok.injEq] at hCheck
    subst hCheck
    refine ⟨fun name hMem => hDeclared name ?_, ?_, ?_⟩
    · rw [Dict.mem_keys_iff, Dict.get?_filter,
        Option.isSome_filter] at hMem
      rw [Dict.mem_keys_iff]
      exact Option.isSome_of_any hMem
    · intro name value hValue
      rw [Dict.get?_filter, Option.filter_eq_some_iff,
        decide_eq_true_iff] at hValue
      exact hValue.2
    · intro p hp
      unfold Meets
      simp only [gives_filter_iff]
      exact hMeets p hp
  · rw [hSplit, checkDeclared_of_violation hBefore hViolation
      (collected_nil given) after] at hCheck
    cases hCheck

/- A value that is there has a declaration. -/
theorem Permits.exists_declared
    (hPermits : c.Permits values)
    {name value : String}
    (hValue : values.get? name = some value) :
    ∃ p ∈ c.parameters, p.name = name :=
  hPermits.declared name (by
    rw [Dict.mem_keys_iff, hValue, Option.isSome_some])

/- It is of the declared type. -/
theorem Permits.accepts
    (hPermits : c.Permits values)
    {p : CommandParameter}
    (hp : p ∈ c.parameters)
    {value : String}
    (hValue : values.get? p.name = some value) :
    p.parameterType.accepts value = true := by
  rcases hPermits.met p hp with
    ⟨other, hGiven, hAccepts⟩ | ⟨hNone, -⟩
  · rw [← Option.some.inj (hGiven.1.symm.trans hValue)]
    exact hAccepts
  · exact absurd ⟨hValue, hPermits.solid _ _ hValue⟩
      (hNone value)

/- A required value is there. -/
theorem Permits.exists_value
    (hPermits : c.Permits values)
    {p : CommandParameter}
    (hp : p ∈ c.parameters)
    (hRequired : p.required = true) :
    ∃ value, values.get? p.name = some value := by
  rcases hPermits.met p hp with
    ⟨value, hGiven, -⟩ | ⟨-, hOptional⟩
  · exact ⟨value, hGiven.1⟩
  · rw [hRequired] at hOptional
    cases hOptional

/- A map that differs at one name is judged by that name. -/
theorem Permits.change
    (hPermits : c.Permits values)
    {name : String}
    (hElse : ∀ other, other ≠ name →
      values'.get? other = values.get? other)
    (hDeclared : (values'.get? name).isSome = true →
      ∃ p ∈ c.parameters, p.name = name)
    (hSolid : ∀ value, values'.get? name = some value →
      Text.trim value ≠ "")
    (hMet : ∀ q ∈ c.parameters, q.name = name →
      Meets values' q) :
    c.Permits values' := by
  refine ⟨fun other hMem => ?_, fun other value hValue => ?_,
    fun q hq => ?_⟩
  · rw [Dict.mem_keys_iff] at hMem
    by_cases hOther : other = name
    · subst hOther
      exact hDeclared hMem
    · rw [hElse other hOther, ← Dict.mem_keys_iff] at hMem
      exact hPermits.declared other hMem
  · by_cases hOther : other = name
    · subst hOther
      exact hSolid value hValue
    · rw [hElse other hOther] at hValue
      exact hPermits.solid other value hValue
  · by_cases hOther : q.name = name
    · exact hMet q hq hOther
    · unfold Meets Gives
      rw [hElse q.name hOther]
      exact hPermits.met q hq

/- Another value of the declared types may take its place. -/
theorem Permits.insert
    (hPermits : c.Permits values)
    {p : CommandParameter}
    (hp : p ∈ c.parameters)
    {value : String}
    (hAccepts : ∀ q ∈ c.parameters, q.name = p.name →
      q.parameterType.accepts value = true)
    (hSolid : Text.trim value ≠ "") :
    c.Permits (values.insert p.name value) := by
  have hHere := Dict.get?_insert_self values p.name value
  have hElse (other : String) (hOther : other ≠ p.name) :
      (values.insert p.name value).get? other =
        values.get? other := by
    rw [Dict.get?_insert, if_neg hOther]
  refine hPermits.change hElse (fun _ => ⟨p, hp, rfl⟩) ?_ ?_
  · intro other hOther
    rw [hHere, Option.some.injEq] at hOther
    exact hOther ▸ hSolid
  · intro q hq hName
    exact .inl ⟨value, ⟨hName ▸ hHere, hSolid⟩,
      hAccepts q hq hName⟩

/- A value that no declaration requires may be left out. -/
theorem Permits.erase
    (hPermits : c.Permits values)
    {name : String}
    (hOptional : ∀ q ∈ c.parameters, q.name = name →
      q.required = false) :
    c.Permits (values.erase name) := by
  have hHere : (values.erase name).get? name = none := by
    rw [Dict.get?_erase, if_pos rfl]
  have hElse (other : String) (hOther : other ≠ name) :
      (values.erase name).get? other = values.get? other := by
    rw [Dict.get?_erase, if_neg hOther]
  refine hPermits.change hElse ?_ ?_ ?_
  · intro hSome
    rw [hHere] at hSome
    cases hSome
  · intro value hValue
    rw [hHere] at hValue
    cases hValue
  · intro q hq hName
    refine .inr ⟨fun value hGiven => ?_,
      hOptional q hq hName⟩
    rw [hName] at hGiven
    exact absurd (hHere.symm.trans hGiven.1) nofun

/- A value for every declared parameter. -/
def sample
    (c : CommandDefinition) : Dict String :=
  .ofList (c.parameters.map fun p =>
    (p.name, p.parameterType.sample))

theorem get?_sample_iff
    (hNodup : (c.parameters.map (·.name)).Nodup)
    {name value : String} :
    c.sample.get? name = some value ↔
      ∃ p ∈ c.parameters, p.name = name ∧
        p.parameterType.sample = value := by
  unfold sample
  rw [Dict.get?_ofList (by simpa [Function.comp_def]),
    List.mem_map]
  simp only [Prod.mk.injEq]

theorem permits_sample
    (hNodup : (c.parameters.map (·.name)).Nodup) :
    c.Permits c.sample := by
  refine ⟨?_, ?_, ?_⟩
  · intro name hMem
    rw [Dict.mem_keys_iff, Option.isSome_iff_exists] at hMem
    rcases hMem with ⟨value, hValue⟩
    rcases (get?_sample_iff hNodup).1 hValue with
      ⟨p, hp, hName, -⟩
    exact ⟨p, hp, hName⟩
  · intro name value hValue
    rcases (get?_sample_iff hNodup).1 hValue with
      ⟨p, -, -, rfl⟩
    exact p.parameterType.trim_sample
  · intro p hp
    exact .inl ⟨p.parameterType.sample,
      ⟨(get?_sample_iff hNodup).2 ⟨p, hp, rfl, rfl⟩,
        p.parameterType.trim_sample⟩,
      p.parameterType.accepts_sample⟩

------------------------------------------------------------
-- Lines
------------------------------------------------------------

/- An execution of the command sends the values as the line. -/
def Sends
    (c : CommandDefinition)
    (values : Dict String)
    (line : String) : Prop :=
  ∃ e : CommandExecution, e.command = c ∧
    e.parameters = .ok values ∧ e.toLine = .ok line

/- The line is the name and the spelling of the values. -/
theorem sends_iff :
    c.Sends values line ↔ c.Permits values ∧
      line.toList = c.name.toList ++
        CommandText.spell values.entries := by
  have hLine : (c.name ++ String.join
        (values.entries.map fun e =>
          " " ++ e.1 ++ "=" ++ e.2)).toList =
      c.name.toList ++ CommandText.spell values.entries := by
    simp [String.toList_join, CommandText.spell,
      List.flatMap_map]
  constructor
  · rintro ⟨e, rfl, hValues, hSent⟩
    refine ⟨permits_of_check hValues, ?_⟩
    unfold CommandExecution.toLine at hSent
    rw [hValues, ok_bind, pure_eq_ok, Except.ok.injEq] at hSent
    rw [← hSent]
    exact hLine
  · rintro ⟨hPermits, hSpelled⟩
    let e : CommandExecution :=
      { command := c
        invocation :=
          { CommandInvocation.new "" c.token with
            parameterValues := values }
        hardwareId := ""
        assignmentToken := "" }
    have hValues : e.parameters = .ok values := hPermits.check
    refine ⟨e, rfl, hValues, ?_⟩
    unfold CommandExecution.toLine
    rw [hValues, ok_bind, pure_eq_ok, Except.ok.injEq,
      ← String.toList_inj, hSpelled]
    exact hLine

/- Maps share a line if they have the same spelling. -/
theorem spell_eq_of_sends
    (hSends : c.Sends values line)
    (hSends' : c.Sends values' line) :
    CommandText.spell values.entries =
      CommandText.spell values'.entries :=
  List.append_cancel_left
    ((sends_iff.1 hSends).2.symm.trans (sends_iff.1 hSends').2)

/- Every map that may be sent has a line. -/
theorem Permits.exists_line
    (hPermits : c.Permits values) :
    ∃ line, c.Sends values line :=
  ⟨c.name ++ CommandText.spelled values.entries,
    sends_iff.2 ⟨hPermits, by simp⟩⟩

end CommandDefinition

end DeviceHub
