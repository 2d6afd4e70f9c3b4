import DeviceHub.Json.Reader
import DeviceHub.Proofs.Dict
import DeviceHub.Proofs.Json.Text

/-
  Values through their compact text: texts, and records of
  what is legible, are read back as they were written.

  Key definitions include:
    * `Json.Legible`
    * `Json.LegibleFields`

  Main statements:
    * `Json.legible_text`
    * `Json.legible_record`
    * `Json.Legible.read`
-/

namespace DeviceHub

namespace Json

/-
  Wherever a value may stand, the text of `x` is a document
  there, and that document is read as `y`.
-/
def Legible
    (x y : Json) : Prop :=
  ∃ ts d, Scans (utf8 x.compact) ts ∧
    (∀ frames rest,
      Document.readAll frames .value (ts ++ rest) =
        Document.readAll frames (.afterValue d) rest) ∧
    Reader.anyValue? d = some y

/- A text stands for itself. -/
theorem legible_text
    (s : String) :
    Legible (.text s) (.text s) := by
  rcases scans_quote s with ⟨units, hScans, hDecode⟩
  refine ⟨[.text units], .text units, ?_, ?_, ?_⟩
  · simpa [compact] using hScans
  · intro frames rest
    rfl
  · rw [Reader.anyValue?, hDecode, Option.map_some]

/- The whole text of a value. -/
theorem Legible.read
    {x y : Json}
    (hLegible : Legible x y) :
    Reader.value.ofText x.compact = some y := by
  rcases hLegible with ⟨ts, d, hScans, hRead, hValue⟩
  have hDocument : Document.readAll [] .value ts = some d := by
    have hAll := hRead [] []
    rw [List.append_nil] at hAll
    exact hAll
  rw [Reader.ofText, Reader.ofBytes, Document.parse?,
    hScans.tokens?, Option.bind_some, hDocument,
    Option.bind_some]
  exact hValue

------------------------------------------------------------
-- Records
------------------------------------------------------------

/- Each field of one list is read as that of the other. -/
inductive LegibleFields :
    List (String × Json) → List (String × Json) → Prop where
  | nil : LegibleFields [] []
  | cons
      {k : String}
      {x y : Json}
      {fields values : List (String × Json)}
      (hHere : Legible x y)
      (hRest : LegibleFields fields values) :
      LegibleFields ((k, x) :: fields) ((k, y) :: values)

/- Fields whose values are read back as they are. -/
theorem legibleFields_self
    {fields : List (String × Json)}
    (hEach : ∀ f ∈ fields, Legible f.2 f.2) :
    LegibleFields fields fields := by
  induction fields with
  | nil => exact .nil
  | cons f fields ih =>
      exact .cons (hEach f List.mem_cons_self)
        (ih fun g hg => hEach g (List.mem_cons_of_mem f hg))

/- One field: its key, a colon and its value. -/
theorem field_read
    {x y : Json}
    (key : String)
    (hLegible : Legible x y) :
    ∃ (k : RawText) (ts : List Token) (d : Document),
      Scans (utf8 (quote key ++ ":" ++ compact x))
          (.text k :: ts) ∧
        k.decode? = some key ∧
        Reader.anyValue? d = some y ∧
        ∀ frames read rest,
          Document.readAll frames (.colon read k)
              (ts ++ rest) =
            Document.readAll (.record read k :: frames)
              (.afterValue d) rest := by
  rcases scans_quote key with ⟨k, hKey, hDecode⟩
  rcases hLegible with ⟨ts, d, hScans, hRead, hValue⟩
  have hColon : Scans (utf8 ":") [.colon] := by
    intro done rest
    rw [utf8_eq_data]
    rfl
  refine ⟨k, .colon :: ts, d, ?_, hDecode, hValue, ?_⟩
  · rw [utf8_append, utf8_append]
    exact (hKey.append hColon).append hScans
  · intro frames read rest
    exact hRead (.record read k :: frames) rest

/-
  The fields of an open record, up to its end.  They begin
  with a key, so they may stand at the start of the record
  as well as after a comma.
-/
theorem fields_read
    {fields values : List (String × Json)}
    (hFields : LegibleFields fields values)
    (hSome : fields ≠ []) :
    ∃ (k : RawText) (ts : List Token)
      (docs : List (RawText × Document)),
      Scans (utf8 (compactFields fields)) (.text k :: ts) ∧
        Reader.anyFields? docs = some values ∧
        ∀ frames read rest,
          Document.readAll frames (.colon read k)
              (ts ++ .closeRecord :: rest) =
            Document.readAll frames
              (.afterValue (.record (read.reverse ++ docs)))
              rest := by
  have hComma : Scans (utf8 ",") [.comma] := by
    intro done rest
    rw [utf8_eq_data]
    rfl
  induction hFields with
  | nil => exact absurd rfl hSome
  | @cons key x y fields values hHere hRest ih =>
      rcases field_read key hHere with
        ⟨k, ts, d, hScans, hDecode, hValue, hRead⟩
      cases fields with
      | nil =>
          cases hRest
          refine ⟨k, ts, [(k, d)], hScans, ?_, ?_⟩
          · simp [Reader.anyFields?, hDecode, hValue]
          · intro frames read rest
            rw [hRead]
            simp [Document.readAll, Document.readToken,
              Document.afterValue, Document.place]
      | cons f fields =>
          rcases ih (List.cons_ne_nil f fields) with
            ⟨l, us, docs, hMore, hValues, hReadMore⟩
          refine ⟨k, ts ++ .comma :: .text l :: us,
            (k, d) :: docs, ?_, ?_, ?_⟩
          · rw [compactFields, utf8_append, utf8_append]
            simpa using (hScans.append hComma).append hMore
          · simp [Reader.anyFields?, hDecode, hValue, hValues]
          · intro frames read rest
            rw [List.append_assoc, hRead]
            have hNext := hReadMore frames ((k, d) :: read)
              rest
            simp only [List.reverse_cons, List.append_assoc]
              at hNext
            exact hNext

/- A record of legible fields; of equal keys the last wins. -/
theorem legible_record
    {fields values : List (String × Json)}
    (hFields : LegibleFields fields values) :
    Legible (.record fields)
      (.record (Dict.ofList values).entries) := by
  have hOpen : Scans (utf8 "\x7b") [.openRecord] := by
    intro done rest
    rw [utf8_eq_data]
    rfl
  have hClose : Scans (utf8 "\x7d") [.closeRecord] := by
    intro done rest
    rw [utf8_eq_data]
    rfl
  cases fields with
  | nil =>
      cases hFields
      refine ⟨[.openRecord, .closeRecord], .record [], ?_, ?_,
        ?_⟩
      · rw [compact, compactFields, String.append_empty,
          utf8_append]
        exact hOpen.append hClose
      · intro frames rest
        rfl
      · rfl
  | cons f fields =>
      rcases fields_read hFields (List.cons_ne_nil f fields)
        with ⟨k, ts, docs, hScans, hValues, hRead⟩
      refine ⟨.openRecord :: .text k :: ts ++ [.closeRecord],
        .record docs, ?_, ?_, ?_⟩
      · rw [compact, utf8_append, utf8_append]
        exact (hOpen.append hScans).append hClose
      · intro frames rest
        have hAll := hRead frames [] rest
        rw [List.append_assoc]
        exact hAll
      · rw [Reader.anyValue?, hValues, Option.map_some]

/- A map of texts is read back as it is. -/
theorem legible_textDict
    (d : Dict String) :
    Legible (.textDict d) (.textDict d) := by
  have hFields : LegibleFields (d.map Json.text).entries
      (d.map Json.text).entries := by
    apply legibleFields_self
    intro f hMem
    rcases List.mem_map.1 hMem with ⟨e, _, rfl⟩
    exact legible_text e.2
  have hEntries : (Dict.ofList (d.map Json.text).entries) =
      d.map Json.text :=
    Dict.empty_union (d.map Json.text)
  have hRecord := legible_record hFields
  rw [hEntries] at hRecord
  exact hRecord

end Json

end DeviceHub
