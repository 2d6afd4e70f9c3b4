import DeviceHub.Codec.Parameters
import DeviceHub.Proofs.Dict
import DeviceHub.Proofs.Text.Blank

/-
  What the check of a command's parameters lets pass.

  The values are held against the declarations and the
  declarations against the values.  If both agree, the values
  that are not blank are what is sent; otherwise the error
  tells of the first disagreement.

  Key definitions include:
    * `CommandDefinition.Gives`
    * `CommandDefinition.Meets`
    * `CommandDefinition.Violation`
    * `CommandDefinition.Collected`

  Main statements:
    * `CommandDefinition.checkDeclared_of_meets`
    * `CommandDefinition.checkDeclared_of_violation`
    * `CommandDefinition.checkParameters_exact`
-/

namespace DeviceHub

namespace CommandDefinition

variable {c : CommandDefinition} {values : Dict String}
variable {p : CommandParameter}

------------------------------------------------------------
-- Values and Declarations
------------------------------------------------------------

/- A value is there under a name, and not blank. -/
def Gives
    (values : Dict String)
    (name value : String) : Prop :=
  values.get? name = some value ∧ Text.trim value ≠ ""

/-
  The values agree with a declaration: one of its type is
  given, or none is given where none is required.
-/
def Meets
    (values : Dict String)
    (p : CommandParameter) : Prop :=
  (∃ value, Gives values p.name value ∧
    p.parameterType.accepts value = true) ∨
  ((∀ value, ¬ Gives values p.name value) ∧
    p.required = false)

/- How the values disagree with a declaration. -/
inductive Violation
    (c : CommandDefinition)
    (values : Dict String)
    (p : CommandParameter) : CodecError → Prop where
  | invalid
      {value : String}
      (hGiven : Gives values p.name value)
      (hRefused : p.parameterType.accepts value = false) :
      Violation c values p
        (.invalidParameter c.token p.name
          p.parameterType.name)
  | missing
      (hNone : ∀ value, ¬ Gives values p.name value)
      (hRequired : p.required = true) :
      Violation c values p
        (.missingParameter c.token p.name)

theorem valueOf_eq_some_iff
    {value : String} :
    valueOf values p = some value ↔
      Gives values p.name value := by
  unfold valueOf Gives
  rw [Option.filter_eq_some_iff, ne_eq,
    Text.trim_eq_empty_iff]
  simp

theorem valueOf_eq_none_iff :
    valueOf values p = none ↔
      ∀ value, ¬ Gives values p.name value := by
  rw [Option.eq_none_iff_forall_ne_some]
  simp only [ne_eq, valueOf_eq_some_iff]

/- Values meet a declaration or violate it. -/
theorem meets_or_violation
    (c : CommandDefinition)
    (values : Dict String)
    (p : CommandParameter) :
    Meets values p ∨ ∃ e, Violation c values p e := by
  cases hValue : valueOf values p with
  | some value =>
      have hGiven := valueOf_eq_some_iff.1 hValue
      cases hAccepts : p.parameterType.accepts value with
      | true => exact .inl (.inl ⟨value, hGiven, hAccepts⟩)
      | false => exact .inr ⟨_, .invalid hGiven hAccepts⟩
  | none =>
      have hNone := valueOf_eq_none_iff.1 hValue
      cases hRequired : p.required with
      | true => exact .inr ⟨_, .missing hNone hRequired⟩
      | false => exact .inl (.inr ⟨hNone, hRequired⟩)

/- They do not do both. -/
theorem Violation.not_meets
    {e : CodecError}
    (hViolation : Violation c values p e) :
    ¬ Meets values p := by
  rintro (⟨value, hGiven, hAccepts⟩ | ⟨hNone, hOptional⟩)
  · cases hViolation with
    | invalid hOther hRefused =>
        have hSame := hGiven.1.symm.trans hOther.1
        rw [Option.some.inj hSame, hRefused] at hAccepts
        cases hAccepts
    | missing hNone => exact hNone value hGiven
  · cases hViolation with
    | invalid hGiven => exact hNone _ hGiven
    | missing _ hRequired =>
        rw [hOptional] at hRequired
        cases hRequired

/- Of several declarations all are met, or one is not first. -/
theorem all_meet_or_first_violation
    (c : CommandDefinition)
    (values : Dict String)
    (ps : List CommandParameter) :
    (∀ p ∈ ps, Meets values p) ∨
      ∃ before p after e, ps = before ++ p :: after ∧
        (∀ q ∈ before, Meets values q) ∧
        Violation c values p e := by
  induction ps with
  | nil => exact .inl nofun
  | cons p rest ih =>
      rcases meets_or_violation c values p with
        hMeets | ⟨e, hViolation⟩
      · rcases ih with
          hAll | ⟨before, q, after, e, rfl, hBefore, hFirst⟩
        · exact .inl (List.forall_mem_cons.2 ⟨hMeets, hAll⟩)
        · exact .inr ⟨p :: before, q, after, e, rfl,
            List.forall_mem_cons.2 ⟨hMeets, hBefore⟩, hFirst⟩
      · exact .inr ⟨[], p, rest, e, rfl, nofun, hViolation⟩

------------------------------------------------------------
-- Going Through the Declarations
------------------------------------------------------------

/- What is collected when some names have been seen. -/
def Collected
    (values : Dict String)
    (names : List String)
    (found : Dict String) : Prop :=
  ∀ name value, found.get? name = some value ↔
    name ∈ names ∧ Gives values name value

/- A declaration that is met adds its value and goes on. -/
theorem checkDeclared_cons
    {names : List String}
    {found : Dict String}
    (hFound : Collected values names found)
    (hMeets : Meets values p)
    (rest : List CommandParameter) :
    ∃ found', Collected values (p.name :: names) found' ∧
      c.checkDeclared values found (p :: rest) =
        c.checkDeclared values found' rest := by
  rw [checkDeclared]
  rcases hMeets with
    ⟨value, hGiven, hAccepts⟩ | ⟨hNone, hOptional⟩
  · rw [valueOf_eq_some_iff.2 hGiven]
    refine ⟨found.insert p.name value, ?_, if_pos hAccepts⟩
    intro name other
    rw [Dict.get?_insert, List.mem_cons]
    by_cases hName : name = p.name
    · subst hName
      rw [if_pos rfl, Option.some.injEq]
      constructor
      · rintro rfl
        exact ⟨.inl rfl, hGiven⟩
      · rintro ⟨-, hOther⟩
        exact Option.some.inj
          (hGiven.1.symm.trans hOther.1)
    · rw [if_neg hName, hFound name other,
        or_iff_right hName]
  · rw [valueOf_eq_none_iff.2 hNone, hOptional]
    refine ⟨found, fun name other => ?_, rfl⟩
    rw [hFound name other, List.mem_cons]
    refine and_congr_left fun hOther => ?_
    refine (or_iff_right ?_).symm
    rintro rfl
    exact hNone other hOther

/- If all are met, all that they name is collected. -/
theorem checkDeclared_of_meets
    {ps : List CommandParameter}
    (hMeets : ∀ p ∈ ps, Meets values p)
    {names : List String}
    {found : Dict String}
    (hFound : Collected values names found) :
    ∃ all, c.checkDeclared values found ps = .ok all ∧
      Collected values (ps.map (·.name) ++ names) all := by
  induction ps generalizing names found with
  | nil =>
      unfold checkDeclared
      exact ⟨found, rfl, hFound⟩
  | cons p rest ih =>
      rw [List.forall_mem_cons] at hMeets
      rcases checkDeclared_cons hFound hMeets.1 rest with
        ⟨found', hNext, hStep⟩
      rcases ih hMeets.2 hNext with ⟨all, hAll, hCollected⟩
      refine ⟨all, hStep.trans hAll, fun name value => ?_⟩
      rw [hCollected name value]
      simp only [List.mem_append, List.map_cons,
        List.mem_cons, or_left_comm, or_assoc]

/- The first one that is not met decides. -/
theorem checkDeclared_of_violation
    {before : List CommandParameter}
    (hBefore : ∀ q ∈ before, Meets values q)
    {e : CodecError}
    (hViolation : Violation c values p e)
    {names : List String}
    {found : Dict String}
    (hFound : Collected values names found)
    (after : List CommandParameter) :
    c.checkDeclared values found (before ++ p :: after) =
      .error e := by
  induction before generalizing names found with
  | nil =>
      rw [List.nil_append]
      unfold checkDeclared
      cases hViolation with
      | invalid hGiven hRefused =>
          rw [valueOf_eq_some_iff.2 hGiven]
          exact if_neg (by rw [hRefused]; decide)
      | missing hNone hRequired =>
          rw [valueOf_eq_none_iff.2 hNone]
          exact if_pos hRequired
  | cons q rest ih =>
      rw [List.forall_mem_cons] at hBefore
      rcases checkDeclared_cons hFound hBefore.1
          (rest ++ p :: after) with ⟨found', hNext, hStep⟩
      exact hStep.trans (ih hBefore.2 hNext)

------------------------------------------------------------
-- The Whole Check
------------------------------------------------------------

theorem declares_iff
    {name : String} :
    c.declares name = true ↔
      ∃ p ∈ c.parameters, p.name = name := by
  unfold declares
  simp only [List.any_eq_true, beq_iff_eq]

/- If all names are declared, the declarations decide. -/
theorem checkParameters_of_declared
    (hDeclared : ∀ name ∈ values.keys,
      ∃ p ∈ c.parameters, p.name = name) :
    c.checkParameters values =
      c.checkDeclared values .empty c.parameters := by
  have hNone :
      values.keys.find? (!c.declares ·) = none := by
    rw [List.find?_eq_none]
    intro name hMem
    rw [declares_iff.2 (hDeclared name hMem)]
    decide
  unfold checkParameters
  rw [hNone]

/- Otherwise one of the others is reported. -/
theorem checkParameters_of_undeclared
    (hUndeclared : ∃ name ∈ values.keys,
      ¬ ∃ p ∈ c.parameters, p.name = name) :
    ∃ name ∈ values.keys,
      (¬ ∃ p ∈ c.parameters, p.name = name) ∧
      c.checkParameters values =
        .error (.unknownParameter c.token name) := by
  unfold checkParameters
  cases hFound : values.keys.find? (!c.declares ·) with
  | none =>
      rcases hUndeclared with ⟨name, hMem, hNot⟩
      rw [List.find?_eq_none] at hFound
      have hName := hFound name hMem
      rw [← declares_iff] at hNot
      simp only [hNot, Bool.not_false, not_true_eq_false]
        at hName
  | some name =>
      refine ⟨name, List.mem_of_find?_eq_some hFound, ?_, rfl⟩
      have hName := List.find?_some hFound
      rw [← declares_iff]
      simpa using hName

theorem collected_nil
    (values : Dict String) :
    Collected values [] .empty := by
  intro name value
  simp

/- All that is given is collected once all is declared. -/
theorem Collected.eq_filter
    {all : Dict String}
    (hCollected : Collected values
      (c.parameters.map (·.name) ++ []) all)
    (hDeclared : ∀ name ∈ values.keys,
      ∃ p ∈ c.parameters, p.name = name) :
    all = values.filter fun _ value =>
      Text.trim value ≠ "" := by
  refine Dict.ext_get? fun name => Option.ext fun value => ?_
  rw [hCollected name value, Dict.get?_filter,
    Option.filter_eq_some_iff, decide_eq_true_iff]
  refine and_iff_right_of_imp fun hGiven => ?_
  have hName : name ∈ values.keys := by
    rw [Dict.mem_keys_iff, hGiven.1]
    rfl
  rw [List.append_nil, List.mem_map]
  exact hDeclared name hName

/-
  The check of a command's parameters.  It succeeds exactly
  if every value has a declaration and every declaration is
  met, and then the values that are not blank are what is
  sent.  Otherwise it reports a value without declaration, if
  there is one, or else the first declaration that is not
  met: as invalid if a value is given, as missing if not.
-/
theorem checkParameters_exact
    (c : CommandDefinition)
    (values : Dict String) :
    ((∃ all, c.checkParameters values = .ok all) ↔
      (∀ name ∈ values.keys,
        ∃ p ∈ c.parameters, p.name = name) ∧
      ∀ p ∈ c.parameters, Meets values p) ∧
    (∀ all, c.checkParameters values = .ok all →
      all = values.filter fun _ value =>
        Text.trim value ≠ "") ∧
    ((∃ name ∈ values.keys,
        ¬ ∃ p ∈ c.parameters, p.name = name) →
      ∃ name ∈ values.keys,
        (¬ ∃ p ∈ c.parameters, p.name = name) ∧
        c.checkParameters values =
          .error (.unknownParameter c.token name)) ∧
    ((∀ name ∈ values.keys,
        ∃ p ∈ c.parameters, p.name = name) →
      ∀ e, c.checkParameters values = .error e →
        ∃ before p after,
          c.parameters = before ++ p :: after ∧
          (∀ q ∈ before, Meets values q) ∧
          Violation c values p e) := by
  by_cases hDeclared : ∀ name ∈ values.keys,
      ∃ p ∈ c.parameters, p.name = name
  · have hCheck := checkParameters_of_declared hDeclared
    have hNothing := collected_nil values
    rcases all_meet_or_first_violation c values c.parameters
      with hMeets |
        ⟨before, p, after, e, hSplit, hBefore, hViolation⟩
    · rcases checkDeclared_of_meets (c := c) hMeets hNothing
        with ⟨all, hAll, hCollected⟩
      rw [hCheck, hAll]
      refine ⟨iff_of_true ⟨all, rfl⟩ ⟨hDeclared, hMeets⟩,
        ?_, ?_, fun _ _ hError => nomatch hError⟩
      · rintro _ hSame
        cases hSame
        exact hCollected.eq_filter hDeclared
      · rintro ⟨name, hMem, hNot⟩
        exact absurd (hDeclared name hMem) hNot
    · have hError := checkDeclared_of_violation hBefore
        hViolation hNothing after
      rw [← hSplit] at hError
      rw [hCheck, hError]
      refine ⟨iff_of_false nofun ?_,
        (fun _ hOk => nomatch hOk), ?_, ?_⟩
      · rintro ⟨-, hMeets⟩
        refine hViolation.not_meets (hMeets p ?_)
        rw [hSplit]
        exact List.mem_append_right _ List.mem_cons_self
      · rintro ⟨name, hMem, hNot⟩
        exact absurd (hDeclared name hMem) hNot
      · intro _ d hSame
        cases hSame
        exact ⟨before, p, after, hSplit, hBefore, hViolation⟩
  · have hUndeclared : ∃ name ∈ values.keys,
        ¬ ∃ p ∈ c.parameters, p.name = name := by
      simpa only [not_forall, exists_prop] using hDeclared
    have hUnknown := checkParameters_of_undeclared hUndeclared
    refine ⟨?_, ?_, fun _ => hUnknown,
      fun hAll => absurd hAll hDeclared⟩
    · rcases hUnknown with ⟨name, -, -, hError⟩
      rw [hError]
      exact iff_of_false nofun fun hBoth => hDeclared hBoth.1
    · rcases hUnknown with ⟨name, -, -, hError⟩
      rw [hError]
      exact fun _ hOk => nomatch hOk

end CommandDefinition

end DeviceHub
