import DeviceHub.Delivery.Topics
import DeviceHub.Proofs.Text.Replacement
import Mathlib.Data.List.Forall2

/-
  What a hardware id can do to a topic.

  An id stands for the placeholder and for nothing else: a
  topic has the levels and the wildcards of its template.
  Where the placeholder stands, the topic tells the device.

  Key definitions include:
    * `Topics.levels`
    * `Topics.Keeps`
    * `Topics.Intrudes`

  Main statements:
    * `Topics.keeps_expand`
    * `Topics.expand_inj`
    * `TopicTemplates.topics_keep_structure`
-/

namespace DeviceHub

namespace Topics

variable {template hardwareId : String}

/- The levels of a topic. -/
def levels
    (topic : String) : List String :=
  (topic.toList.splitOn '/').map String.ofList

/-
  A topic that differs from its template only by the
  hardware id, level by level, and has no other wildcards.
-/
structure Keeps
    (template hardwareId topic : String) : Prop where
  levels : List.Forall₂ (Text.Replaced placeholder hardwareId)
    (levels template) (levels topic)
  pluses : topic.toList.count '+' = template.toList.count '+'
  hashes : topic.toList.count '#' = template.toList.count '#'

/- An id that would add a level or a wildcard. -/
def Intrudes
    (hardwareId : String) : Prop :=
  '/' ∈ hardwareId.toList ∨ '+' ∈ hardwareId.toList ∨
    '#' ∈ hardwareId.toList

theorem placeholder_ne_nil : placeholder.toList ≠ [] := by
  decide

theorem toList_expand :
    (expand template hardwareId).toList =
      Text.replaceChars placeholder.toList
        hardwareId.toList 0 template.toList := by
  unfold expand Text.replaceAll
  rw [String.toList_ofList]

/- Any other id keeps the structure of every template. -/
theorem keeps_expand
    (hFit : ¬ Intrudes hardwareId)
    (template : String) :
    Keeps template hardwareId
      (expand template hardwareId) := by
  unfold Intrudes at hFit
  rw [not_or, not_or] at hFit
  rcases hFit with ⟨hSlash, hPlus, hHash⟩
  refine ⟨?_, ?_, ?_⟩
  · unfold levels
    rw [toList_expand, Text.splitOn_replaceChars
      placeholder_ne_nil (by decide) hSlash, List.map_map,
      List.forall₂_map_left_iff, List.forall₂_map_right_iff,
      List.forall₂_same]
    intro level _
    exact Text.replaced_ofList placeholder_ne_nil _ level
  · rw [toList_expand, Text.count_replaceChars
      placeholder_ne_nil (by decide) hPlus]
  · rw [toList_expand, Text.count_replaceChars
      placeholder_ne_nil (by decide) hHash]

/- A topic tells the id if its template has a place for it. -/
theorem expand_inj
    {other : String}
    (hPlace : placeholder.toList <:+: template.toList)
    (hSame : expand template hardwareId =
      expand template other) :
    hardwareId = other := by
  have hChars := congrArg String.toList hSame
  rw [toList_expand, toList_expand] at hChars
  exact String.toList_injective
    (Text.replaceChars_inj placeholder_ne_nil hPlace hChars)

end Topics

namespace TopicTemplates

variable {t : TopicTemplates}
variable {hardwareId : String}

theorem any_isReserved_iff :
    hardwareId.toList.any Topics.isReserved = true ↔
      Topics.Intrudes hardwareId := by
  rw [List.any_eq_true]
  simp only [Topics.isReserved, Bool.or_eq_true,
    decide_eq_true_eq, Topics.Intrudes, and_or_left,
    exists_or, exists_eq_right, or_assoc]

/- An id that intrudes is refused. -/
theorem topicsFor_refused
    (hIntrudes : Topics.Intrudes hardwareId) :
    t.topicsFor hardwareId = .error (.extraction
      s!"Hardware id '{hardwareId}' cannot be used in a topic")
      := by
  unfold topicsFor
  rw [if_pos (any_isReserved_iff.2 hIntrudes)]

/- Any other id gets its topics. -/
theorem topicsFor_fit
    (hFit : ¬ Topics.Intrudes hardwareId) :
    t.topicsFor hardwareId =
      .ok ⟨Topics.expand t.command hardwareId,
        Topics.expand t.system hardwareId⟩ := by
  unfold topicsFor
  rw [if_neg (any_isReserved_iff.not.2 hFit)]

theorem topicsFor_eq_ok_iff
    {topics : TopicParams} :
    t.topicsFor hardwareId = .ok topics ↔
      ¬ Topics.Intrudes hardwareId ∧
        topics = ⟨Topics.expand t.command hardwareId,
          Topics.expand t.system hardwareId⟩ := by
  by_cases hIntrudes : Topics.Intrudes hardwareId
  · rw [topicsFor_refused hIntrudes]
    exact iff_of_false nofun fun h => h.1 hIntrudes
  · rw [topicsFor_fit hIntrudes, Except.ok.injEq,
      and_iff_right hIntrudes, eq_comm]

/-
  Exactly the ids that intrude are refused.  The topics of
  any other id keep the structure of their templates, and
  two such ids never share a topic whose template has a
  place for them.
-/
theorem topics_keep_structure
    (t : TopicTemplates) :
    (∀ hardwareId,
      (∃ detail, t.topicsFor hardwareId =
        .error (.extraction detail)) ↔
          '/' ∈ hardwareId.toList ∨
            '+' ∈ hardwareId.toList ∨
              '#' ∈ hardwareId.toList) ∧
    (∀ hardwareId,
      (∃ detail, t.topicsFor hardwareId =
        .error (.extraction detail)) ∨
      ∃ topics, t.topicsFor hardwareId = .ok topics ∧
        Topics.Keeps t.command hardwareId
          topics.commandTopic ∧
        Topics.Keeps t.system hardwareId
          topics.systemTopic) ∧
    ∀ hardwareId other topics others,
      hardwareId ≠ other →
      t.topicsFor hardwareId = .ok topics →
      t.topicsFor other = .ok others →
        (Topics.placeholder.toList <:+: t.command.toList →
          topics.commandTopic ≠ others.commandTopic) ∧
        (Topics.placeholder.toList <:+: t.system.toList →
          topics.systemTopic ≠ others.systemTopic) := by
  refine ⟨fun hardwareId => ?_, fun hardwareId => ?_, ?_⟩
  · constructor
    · rintro ⟨detail, hRefused⟩
      by_contra hFit
      rw [topicsFor_fit hFit] at hRefused
      cases hRefused
    · exact fun hIntrudes => ⟨_, topicsFor_refused hIntrudes⟩
  · by_cases hIntrudes : Topics.Intrudes hardwareId
    · exact .inl ⟨_, topicsFor_refused hIntrudes⟩
    · exact .inr ⟨_, topicsFor_fit hIntrudes,
        Topics.keeps_expand hIntrudes t.command,
        Topics.keeps_expand hIntrudes t.system⟩
  · intro hardwareId other topics others hOther hOk hOkOther
    rw [topicsFor_eq_ok_iff] at hOk hOkOther
    rcases hOk with ⟨-, rfl⟩
    rcases hOkOther with ⟨-, rfl⟩
    exact ⟨fun hPlace hSame =>
        hOther (Topics.expand_inj hPlace hSame),
      fun hPlace hSame =>
        hOther (Topics.expand_inj hPlace hSame)⟩

end TopicTemplates

end DeviceHub
