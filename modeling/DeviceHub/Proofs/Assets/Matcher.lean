import DeviceHub.Assets.Matcher
import DeviceHub.Proofs.Dict
import DeviceHub.Proofs.Text.LowerCase
import DeviceHub.Proofs.Text.Search

/-
  What asset criteria with an equals sign match.

  Criteria are lower-cased as a whole before they are split.
  The equals sign keeps its two sides apart, so key and value
  come out as if each had been trimmed and lower-cased by
  itself.  A key is one of the fields of the asset's type, or
  else it is looked for among the properties.

  Key definitions include:
    * `AssetType.fieldKeys`

  Main statements:
    * `AssetMatcher.parse_field`
    * `AssetMatcher.parse_text`
    * `Asset.fieldValues?_eq_none_iff`
    * `Asset.field_search_reaches`
-/

namespace DeviceHub

------------------------------------------------------------
-- Criteria
------------------------------------------------------------

namespace Text

/- The equals sign keeps its two sides apart. -/
theorem isBreak_equals : IsBreak '=' :=
  ⟨by decide +kernel, by decide +kernel, by decide +kernel⟩

end Text

namespace AssetMatcher

/- Key and value are trimmed and lower-cased by themselves. -/
theorem parse_field
    {key value : String}
    (hKey : Text.isBlank key = false)
    (hNot : '=' ∉ key.toList) :
    parse (key ++ "=" ++ value) =
      field (Text.lowerCase (Text.trim key))
        (Text.lowerCase (Text.trim value)) := by
  let front := String.ofList
    (key.toList.dropWhile Text.isSpace)
  let back := String.ofList
    (value.toList.reverse.dropWhile Text.isSpace).reverse
  have hFront : Text.trim front = Text.trim key := by
    unfold Text.trim
    rw [String.toList_ofList, Text.trimChars_dropWhile]
  have hBack : Text.trim back = Text.trim value := by
    unfold Text.trim
    rw [String.toList_ofList,
      Text.trimChars_dropWhile_reverse]
  have hTrim : Text.trim (key ++ "=" ++ value) =
      String.ofList (front.toList ++ '=' :: back.toList) := by
    have hChars : (key ++ "=" ++ value).toList =
        key.toList ++ '=' :: value.toList := by
      simp
    unfold Text.trim
    rw [hChars, Text.trimChars_around (by decide),
      String.toList_ofList, String.toList_ofList]
  have hLower : Text.lowerCase
        (Text.trim (key ++ "=" ++ value)) =
      String.ofList ((Text.lowerCase front).toList ++
        '=' :: (Text.lowerCase back).toList) := by
    rw [hTrim, Text.toList_lowerCase, Text.toList_lowerCase,
      ← Text.lowerChars_break Text.isBreak_equals]
    unfold Text.lowerCase
    rw [String.toList_ofList]
  have hSplit : '=' ∉ (Text.lowerCase front).toList := by
    rw [Text.toList_lowerCase, Text.lowerChars_eq]
    intro hMem
    have hInFront :=
      Text.isBreak_equals.still.mem_of_mem_lowerBetween hMem
    rw [String.toList_ofList] at hInFront
    exact hNot
      ((List.dropWhile_sublist _).subset hInFront)
  have hSays : ¬ Text.isBlank (Text.lowerCase front) = true := by
    rw [Text.isBlank_lowerCase, ← Text.trim_eq_empty_iff,
      hFront, Text.trim_eq_empty_iff, hKey]
    decide
  have hSome : ¬ (String.ofList
      ((Text.lowerCase front).toList ++
        '=' :: (Text.lowerCase back).toList) == "") = true := by
    simp
  unfold parse
  simp only [hLower]
  rw [if_neg hSome, Text.splitFirst?_append hSplit]
  simp only [String.ofList_toList]
  rw [if_neg hSays, Text.trim_lowerCase, Text.trim_lowerCase,
    hFront, hBack]

theorem accepts_field
    (key value : String)
    (a : Asset) :
    (field key value).accepts a = a.fieldIs key value := rfl

/- Any other text is looked for as it is. -/
theorem parse_text
    {s : String}
    (hSome : s ≠ "")
    (hTrim : Text.trim s = s)
    (hNot : '=' ∉ s.toList) :
    parse s = text (Text.lowerCase s) := by
  have hLower : ¬ (Text.lowerCase s == "") = true := by
    rw [beq_iff_eq, Text.lowerCase_eq_empty_iff]
    exact hSome
  have hSplit : '=' ∉ (Text.lowerCase s).toList := by
    rw [Text.toList_lowerCase, Text.lowerChars_eq]
    exact fun hMem => hNot
      (Text.isBreak_equals.still.mem_of_mem_lowerBetween hMem)
  unfold parse
  simp only [hTrim]
  rw [if_neg hLower, Text.splitFirst?_eq_none hSplit]

end AssetMatcher

------------------------------------------------------------
-- Fields and Properties
------------------------------------------------------------

/- The keys of the fields that assets of a type have. -/
def AssetType.fieldKeys : AssetType → List String
  | person =>
      ["id", "name", "type", "role", "roles", "username",
        "email"]
  | hardware => ["id", "name", "type", "sku"]
  | device => ["id", "name", "type", "sku"]
  | location => ["id", "name", "type"]

namespace Asset

variable {a : Asset} {key value : String}

/- All other keys are left to the properties. -/
theorem fieldValues?_eq_none_iff :
    a.fieldValues? key = none ↔ key ∉ a.type.fieldKeys := by
  unfold fieldValues? type
  cases a.details
  all_goals
    simp only [AssetDetails.type, AssetType.fieldKeys,
      List.mem_cons, List.not_mem_nil, or_false]
    split <;> grind

theorem hasProperty_iff :
    a.hasProperty key value = true ↔
      ∃ k v, a.properties.get? k = some v ∧
        Text.lowerCase k = key ∧ Text.lowerCase v = value := by
  unfold hasProperty hasValue
  rw [List.any_eq_true]
  simp only [Bool.and_eq_true, beq_iff_eq, Prod.exists,
    Dict.mem_entries_iff]

/- A key that is no field's is looked for as a property. -/
theorem fieldIs_of_notMem
    (hNot : key ∉ a.type.fieldKeys)
    (value : String) :
    a.fieldIs key value = true ↔
      ∃ k v, a.properties.get? k = some v ∧
        Text.lowerCase k = key ∧
          Text.lowerCase v = value := by
  unfold fieldIs
  rw [fieldValues?_eq_none_iff.2 hNot]
  exact hasProperty_iff

/- With a field's key, properties are not looked at. -/
theorem fieldIs_of_mem
    (hField : key ∈ a.type.fieldKeys)
    (value : String)
    (properties : Dict String) :
    { a with properties := properties }.fieldIs key value =
      a.fieldIs key value := by
  cases hValues : a.fieldValues? key with
  | none =>
      exact absurd hField
        (fieldValues?_eq_none_iff.1 hValues)
  | some values =>
      have hSame :
          { a with properties := properties }.fieldValues?
            key = some values := hValues
      unfold fieldIs
      rw [hSame, hValues]

/- A person's roles are reached under either key. -/
theorem fieldIs_role
    {userName role : String}
    {email : Option String}
    {roles : List String}
    (hPerson : a.details = .person userName email roles)
    (hRole : role ∈ roles)
    (hKey : key = "role" ∨ key = "roles") :
    a.fieldIs key (Text.lowerCase role) = true := by
  have hValues : a.fieldValues? key = some roles := by
    unfold fieldValues?
    rw [hPerson]
    rcases hKey with rfl | rfl <;> rfl
  unfold fieldIs
  rw [hValues]
  exact List.any_eq_true.2
    ⟨role, hRole, beq_self_eq_true (Text.lowerCase role)⟩

/- Blanks around key and value make no difference. -/
theorem accepts_padded
    {k v : String}
    (hSome : k ≠ "")
    (hNot : '=' ∉ k.toList)
    (hKeyTrim : Text.trim k = k)
    (hValueTrim : Text.trim v = v)
    (hKey : Text.Padded k key)
    (hValue : Text.Padded v value) :
    (AssetMatcher.parse (key ++ "=" ++ value)).accepts a =
      a.fieldIs (Text.lowerCase k) (Text.lowerCase v) := by
  have hSays : Text.isBlank key = false := by
    rw [← Bool.not_eq_true, ← Text.trim_eq_empty_iff,
      hKey.trim_eq, hKeyTrim]
    exact hSome
  rw [AssetMatcher.parse_field hSays fun hMem =>
      hNot (hKey.mem_of_mem (by decide) hMem),
    AssetMatcher.accepts_field, hKey.trim_eq,
    hValue.trim_eq, hKeyTrim, hValueTrim]

/-
  Criteria with an equals sign find an asset by each of its
  properties whose key is not a field's, and a person by each
  role, whatever the letter case and the blanks around key
  and value.  With a key that is not a field's they find
  nothing else, and with a field's key the properties do not
  matter.
-/
theorem field_search_reaches
    (a : Asset) :
    (∀ k v, a.properties.get? k = some v →
      k ≠ "" → '=' ∉ k.toList →
      Text.trim k = k → Text.trim v = v →
      Text.lowerCase k ∉ a.type.fieldKeys →
      ∀ key value, Text.Padded k key → Text.Padded v value →
        (AssetMatcher.parse
          (key ++ "=" ++ value)).accepts a = true) ∧
    (∀ userName email roles,
      a.details = .person userName email roles →
      ∀ role ∈ roles, Text.trim role = role →
      ∀ k, k = "role" ∨ k = "roles" →
      ∀ key value,
        Text.Padded k key → Text.Padded role value →
          (AssetMatcher.parse
            (key ++ "=" ++ value)).accepts a = true) ∧
    ∀ key value,
      Text.isBlank key = false → '=' ∉ key.toList →
        (Text.lowerCase (Text.trim key) ∉ a.type.fieldKeys →
          ((AssetMatcher.parse
              (key ++ "=" ++ value)).accepts a = true ↔
            ∃ k v, a.properties.get? k = some v ∧
              Text.lowerCase k =
                Text.lowerCase (Text.trim key) ∧
              Text.lowerCase v =
                Text.lowerCase (Text.trim value))) ∧
        (Text.lowerCase (Text.trim key) ∈ a.type.fieldKeys →
          ∀ properties,
            (AssetMatcher.parse (key ++ "=" ++ value)).accepts
                { a with properties := properties } =
              (AssetMatcher.parse
                (key ++ "=" ++ value)).accepts a) := by
  refine ⟨?_, ?_, ?_⟩
  · intro k v hProperty hSome hNot hKeyTrim hValueTrim hField
      key value hKey hValue
    rw [accepts_padded hSome hNot hKeyTrim hValueTrim hKey
      hValue, fieldIs_of_notMem hField]
    exact ⟨k, v, hProperty, rfl, rfl⟩
  · intro userName email roles hPerson role hRole hRoleTrim k
      hName key value hKey hValue
    have hPlain : k ≠ "" ∧ '=' ∉ k.toList ∧
        Text.trim k = k ∧ Text.lowerCase k = k := by
      rcases hName with rfl | rfl <;> decide +kernel
    rcases hPlain with ⟨hSome, hNot, hKeyTrim, hLower⟩
    rw [accepts_padded hSome hNot hKeyTrim hRoleTrim hKey
      hValue, hLower]
    exact fieldIs_role hPerson hRole hName
  · intro key value hSays hNot
    simp only [AssetMatcher.parse_field hSays hNot,
      AssetMatcher.accepts_field]
    exact ⟨fun hField => fieldIs_of_notMem hField _,
      fun hField => fieldIs_of_mem hField _⟩

/- A driver of the harbour. -/
def harbourDriver : Asset :=
  { Asset.new "p-1" "Dana"
      (.person "dana" none ["Driver", "ΟΔΗΓΟΣ"]) with
    properties := .ofList [("Region", "Α=Σ"), ("id", "7")] }

/-
  The driver is found by region and by either role, but not
  by a property that hides behind a field.
-/
theorem field_search_reaches_driver :
    (AssetMatcher.parse
      (" Region\t" ++ "=" ++ "\u2003Α=Σ ")).accepts
        harbourDriver = true ∧
    (AssetMatcher.parse
      ("roles" ++ "=" ++ " ΟΔΗΓΟΣ")).accepts
        harbourDriver = true ∧
    (AssetMatcher.parse ("ID" ++ "=" ++ "7")).accepts
        harbourDriver =
      (AssetMatcher.parse ("ID" ++ "=" ++ "7")).accepts
        { harbourDriver with properties := .empty } := by
  rcases field_search_reaches harbourDriver with
    ⟨hProperty, hRole, hKeys⟩
  refine ⟨?_, ?_, ?_⟩
  · exact hProperty "Region" "Α=Σ" (by decide +kernel)
      (by decide) (by decide) (by decide) (by decide)
      (by decide +kernel) _ _
      ⟨" ", "\t", by decide, by decide, by decide⟩
      ⟨"\u2003", " ", by decide, by decide, by decide⟩
  · exact hRole "dana" none ["Driver", "ΟΔΗΓΟΣ"] rfl "ΟΔΗΓΟΣ"
      (by decide) (by decide) "roles" (.inr rfl) _ _
      ⟨"", "", by decide, by decide, by decide⟩
      ⟨" ", "", by decide, by decide, by decide⟩
  · exact ((hKeys "ID" "7" (by decide) (by decide)).2
      (by decide +kernel) .empty).symm

end Asset

end DeviceHub
