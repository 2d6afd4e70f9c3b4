import DeviceHub.Codec.Registry
import DeviceHub.Proofs.Codec.Wire
import DeviceHub.Proofs.Except
import DeviceHub.Proofs.Json.Legible

/-
  The two byte encodings of a command, read back: the frame
  and the JSON record carry the same command, whatever its
  texts are.

  Key definitions include:
    * `CommandFrame.Fits`
    * `CommandExecution.Fits`
    * `CommandExecution.InFrame`
    * `CommandExecution.InRecord`

  Main statements:
    * `CommandFrame.spells`
    * `CommandExecution.legible_toJson`
    * `CommandExecution.encodings_agree`
-/

namespace DeviceHub

------------------------------------------------------------
-- Checked Parameters
------------------------------------------------------------

namespace CommandDefinition

/- What is collected has been found or is among the values. -/
theorem mem_of_checkDeclared
    {c : CommandDefinition}
    {values found checked : Dict String}
    {declared : List CommandParameter}
    (hOk : c.checkDeclared values found declared = .ok checked)
    (hFound : ∀ e ∈ found.entries, e ∈ values.entries)
    {e : String × String}
    (hMem : e ∈ checked.entries) :
    e ∈ values.entries := by
  induction declared generalizing found with
  | nil =>
      cases hOk
      exact hFound e hMem
  | cons parameter rest ih =>
      unfold checkDeclared at hOk
      split at hOk
      · rename_i value hValue
        split at hOk
        · refine ih hOk ?_
          intro f hf
          rcases mem_insertEntry hf with rfl | hf
          · have hGet := (Option.filter_eq_some_iff.1 hValue).1
            rcases List.lookup_eq_some_iff.1 hGet with
              ⟨before, after, hEntries, _⟩
            rw [hEntries]
            exact List.mem_append_right _ List.mem_cons_self
          · exact hFound f hf
        · cases hOk
      · split at hOk
        · cases hOk
        · exact ih hOk hFound

/- Checked parameters are among the values given. -/
theorem mem_of_checkParameters
    {c : CommandDefinition}
    {values checked : Dict String}
    (hOk : c.checkParameters values = .ok checked)
    {e : String × String}
    (hMem : e ∈ checked.entries) :
    e ∈ values.entries := by
  unfold checkParameters at hOk
  split at hOk
  · cases hOk
  · refine mem_of_checkDeclared hOk ?_ hMem
    intro f hf
    cases hf

end CommandDefinition

------------------------------------------------------------
-- Frames
------------------------------------------------------------

/- Texts by name whose lengths and number fit. -/
structure Wire.FitsTexts
    (d : Dict String) : Prop where
  size : d.size < Word.count 64
  texts : ∀ e ∈ d.entries, Wire.Fits e.1 ∧ Wire.Fits e.2

namespace CommandFrame

/- A frame whose lengths fit into words. -/
structure Fits
    (f : CommandFrame) : Prop where
  commandToken : Wire.Fits f.commandToken
  invocationId : Wire.Fits f.invocationId
  hardwareId : Wire.Fits f.hardwareId
  assignmentToken : Wire.Fits f.assignmentToken
  parameters : Wire.FitsTexts f.parameters

theorem spells
    {f : CommandFrame}
    (hFits : f.Fits) :
    Wire.Spells take? f.toBytes f := by
  simp only [toBytes, List.append_assoc]
  refine Wire.Spells.bind
    (Wire.spells_text hFits.commandToken) ?_
  refine Wire.Spells.bind
    (Wire.spells_text hFits.invocationId) ?_
  refine Wire.Spells.bind
    (Wire.spells_text hFits.hardwareId) ?_
  refine Wire.Spells.bind
    (Wire.spells_text hFits.assignmentToken) ?_
  rw [← List.append_nil (Wire.putDict _ _)]
  refine Wire.Spells.bind
    (Wire.spells_dict hFits.parameters.size ?_) (.done f)
  intro e hMem
  rcases hFits.parameters.texts e hMem with ⟨hKey, hValue⟩
  exact ⟨hKey, Wire.spells_text hValue⟩

/- A frame is read back from its bytes. -/
theorem ofBytes_toBytes
    {f : CommandFrame}
    (hFits : f.Fits) :
    ofBytes f.toBytes = .ok f := by
  have hRead := (spells hFits).read []
  rw [List.append_nil] at hRead
  rw [ofBytes, hRead]

end CommandFrame

------------------------------------------------------------
-- Executions
------------------------------------------------------------

namespace CommandExecution

/- An execution whose lengths fit into words. -/
structure Fits
    (e : CommandExecution) : Prop where
  commandToken : Wire.Fits e.command.token
  invocationId : Wire.Fits e.invocation.id
  hardwareId : Wire.Fits e.hardwareId
  assignmentToken : Wire.Fits e.assignmentToken
  values : Wire.FitsTexts e.invocation.parameterValues

/- The values to send fit if the given values do. -/
theorem Fits.parameters
    {e : CommandExecution}
    (hFits : e.Fits)
    {parameters : Dict String}
    (hOk : e.parameters = .ok parameters) :
    Wire.FitsTexts parameters := by
  have hMem : parameters.entries ⊆
      e.invocation.parameterValues.entries := fun p hp =>
    CommandDefinition.mem_of_checkParameters hOk hp
  have hNodup : parameters.entries.Nodup := by
    refine parameters.ordered.imp ?_
    rintro p q hLt rfl
    exact String.lt_irrefl p.1 hLt
  constructor
  · exact Nat.lt_of_le_of_lt
      (hNodup.length_le_of_subset hMem) hFits.values.size
  · intro p hp
    exact hFits.values.texts p (hMem hp)

/- The frame says what the execution says. -/
structure InFrame
    (e : CommandExecution)
    (parameters : Dict String)
    (f : CommandFrame) : Prop where
  commandToken : f.commandToken = e.command.token
  invocationId : f.invocationId = e.invocation.id
  hardwareId : f.hardwareId = e.hardwareId
  assignmentToken : f.assignmentToken = e.assignmentToken
  parameters : f.parameters = parameters

/- The names that a JSON record of a command may have. -/
def memberNames : List String :=
  ["command", "commandToken", "namespace", "invocationId",
    "hardwareId", "assignmentToken", "parameters"]

/- The JSON record says what the execution says. -/
structure InRecord
    (e : CommandExecution)
    (parameters : Dict String)
    (members : Dict Json) : Prop where
  command : members.get? "command" =
    some (.text e.command.name)
  commandToken : members.get? "commandToken" =
    some (.text e.command.token)
  nameSpace : members.get? "namespace" =
    e.command.nameSpace.map .text
  invocationId : members.get? "invocationId" =
    some (.text e.invocation.id)
  hardwareId : members.get? "hardwareId" =
    some (.text e.hardwareId)
  assignmentToken : members.get? "assignmentToken" =
    some (.text e.assignmentToken)
  parameters : members.get? "parameters" =
    some (.textDict parameters)
  noOther : ∀ name, name ∉ memberNames →
    members.get? name = none

/- The members of the JSON record say all of it. -/
theorem inRecord_fields
    (e : CommandExecution)
    (parameters : Dict String) :
    e.InRecord parameters
      (.ofList (e.toJson parameters).fields) := by
  cases hName : e.command.nameSpace <;>
    constructor
  case none.noOther | some.noOther =>
    intro name hOther
    simp only [memberNames, List.mem_cons, List.not_mem_nil,
      or_false, not_or] at hOther
    simp [Json.fields, toJson, hName, Dict.ofList,
      Dict.insertAll, Dict.get?_insert, hOther]
  all_goals
    simp [Json.fields, toJson, hName, Dict.ofList,
      Dict.insertAll, Dict.get?_insert]

/- The JSON record is legible. -/
theorem legible_toJson
    (e : CommandExecution)
    (parameters : Dict String) :
    Json.Legible (e.toJson parameters)
      (.record (Dict.ofList
        (e.toJson parameters).fields).entries) := by
  refine Json.legible_record (Json.legibleFields_self ?_)
  intro f hMem
  have hKind : (∃ s, f.2 = .text s) ∨
      f.2 = .textDict parameters := by
    cases hName : e.command.nameSpace <;>
      simp only [hName, List.mem_append, List.mem_cons,
        List.not_mem_nil, or_false] at hMem <;>
      grind
  rcases hKind with ⟨s, hText⟩ | hDict
  · rw [hText]
    exact Json.legible_text s
  · rw [hDict]
    exact Json.legible_textDict parameters

/-
  Both encodings fail as the check of the parameters does.
  Otherwise the frame and the JSON record can be read back,
  and both say what the execution and the check say.  It does
  not matter where they are to go.
-/
theorem encodings_agree
    {e : CommandExecution}
    (hFits : e.Fits)
    (context : Context) :
    (∀ error,
      (Encoder.json.encode e context = .error error ↔
          e.parameters = .error error) ∧
        (Encoder.binary.encode e context = .error error ↔
          e.parameters = .error error)) ∧
      ∀ parameters, e.parameters = .ok parameters →
        ∃ record frame f members,
          Encoder.json.encode e context = .ok record ∧
            Encoder.binary.encode e context = .ok frame ∧
            CommandFrame.ofBytes frame = .ok f ∧
            Json.Reader.value.ofBytes record =
              some (.record members.entries) ∧
            e.InFrame parameters f ∧
            e.InRecord parameters members := by
  constructor
  · intro error
    simp only [Encoder.json, Encoder.binary, toJsonBytes,
      toJsonText, toFrameBytes, toFrame]
    cases e.parameters with
    | error other => simp
    | ok parameters => simp
  · intro parameters hOk
    let f : CommandFrame :=
      ⟨e.command.token, e.invocation.id, e.hardwareId,
        e.assignmentToken, parameters⟩
    have hFrame : f.Fits :=
      ⟨hFits.commandToken, hFits.invocationId,
        hFits.hardwareId, hFits.assignmentToken,
        hFits.parameters hOk⟩
    refine ⟨Json.utf8 (e.toJson parameters).compact,
      f.toBytes, f, _, ?_, ?_,
      CommandFrame.ofBytes_toBytes hFrame,
      (e.legible_toJson parameters).read, ?_,
      e.inRecord_fields parameters⟩
    · simp [Encoder.json, toJsonBytes, toJsonText, hOk]
    · simp [Encoder.binary, toFrameBytes, toFrame, hOk, f]
    · exact ⟨rfl, rfl, rfl, rfl, rfl⟩

/- A value with a quote, a line break and an accent. -/
theorem encodings_agree_quoted :
    let e : CommandExecution :=
      { command :=
          { CommandDefinition.new "say" "say" with
            parameters := [⟨"text", .string, true⟩] }
        invocation :=
          { CommandInvocation.new "inv-1" "say" with
            parameterValues :=
              .ofList [("text", "\"à\"\n\\")] }
        hardwareId := "dev-7"
        assignmentToken := "" }
    e.Fits ∧ ∃ record frame f, ∃ members : Dict Json,
      Encoder.json.encode e .empty = .ok record ∧
        Encoder.binary.encode e .empty = .ok frame ∧
        CommandFrame.ofBytes frame = .ok f ∧
        Json.Reader.value.ofBytes record =
          some (.record members.entries) ∧
        members.get? "parameters" =
          some (.textDict f.parameters) ∧
        f.parameters.get? "text" = some "\"à\"\n\\" := by
  intro e
  have hFits : e.Fits := by
    refine ⟨by decide, by decide, by decide, by decide, ?_⟩
    exact ⟨by decide, by decide⟩
  have hOk : e.parameters =
      .ok (.ofList [("text", "\"à\"\n\\")]) := rfl
  rcases (encodings_agree hFits .empty).2 _ hOk with
    ⟨record, frame, f, members, hRecord, hFrame, hRead, hValue,
      hInFrame, hInRecord⟩
  refine ⟨hFits, record, frame, f, members, hRecord, hFrame,
    hRead, hValue, ?_, ?_⟩
  · rw [hInFrame.parameters]
    exact hInRecord.parameters
  · rw [hInFrame.parameters]
    rfl

end CommandExecution

end DeviceHub
