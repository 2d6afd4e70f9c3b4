import DeviceHub.Json.Printer
import DeviceHub.Proofs.Text.Utf8

/-
  Texts between quotes, through the scanner: whatever the
  characters, one text token comes out, and it stands for
  the text that was written.

  Key definitions include:
    * `Json.Stands`
    * `Json.Scans`

  Main statements:
    * `Json.stands_escape`
    * `Json.stands_text`
    * `Json.scans_quote`
-/

namespace DeviceHub

namespace Json

------------------------------------------------------------
-- Inside Quotes
------------------------------------------------------------

/-
  Inside quotes the scanner reads bytes as these units, and
  the units stand for the characters of a text.
-/
structure Stands
    (bytes : List UInt8)
    (units : RawText)
    (cs : List Char) : Prop where
  scan : ∀ done read rest,
    scanAll done (.inText read) (bytes ++ rest) =
      scanAll done (.inText (units.reverse ++ read)) rest
  decode : ∀ rest : RawText,
    RawText.bytes? (units ++ rest) =
      (RawText.bytes? rest).map
        (cs.flatMap String.utf8EncodeChar ++ ·)

theorem Stands.nil :
    Stands [] [] [] := by
  constructor
  · intro done read rest
    rfl
  · intro rest
    simp

theorem Stands.append
    {first second : List UInt8}
    {units more : RawText}
    {cs ds : List Char}
    (hFirst : Stands first units cs)
    (hSecond : Stands second more ds) :
    Stands (first ++ second) (units ++ more) (cs ++ ds) := by
  constructor
  · intro done read rest
    rw [List.append_assoc, hFirst.scan, hSecond.scan,
      List.reverse_append, List.append_assoc]
  · intro rest
    rw [List.append_assoc, hFirst.decode, hSecond.decode,
      Option.map_map, List.flatMap_append]
    simp [Function.comp_def]

/- A byte that needs no escape. -/
def IsPlain
    (b : UInt8) : Prop :=
  b ≠ 34 ∧ b ≠ 92 ∧ 32 ≤ b.toNat

/- Plain bytes are kept as they are. -/
theorem scan_plain
    {bytes : List UInt8}
    (hPlain : ∀ b ∈ bytes, IsPlain b)
    (done : List Token)
    (read : RawText)
    (rest : List UInt8) :
    scanAll done (.inText read) (bytes ++ rest) =
      scanAll done
        (.inText ((bytes.map .byte).reverse ++ read)) rest := by
  induction bytes generalizing read with
  | nil => rfl
  | cons b bytes ih =>
      have hHere : IsPlain b := hPlain b List.mem_cons_self
      have hByte : scanByte done (.inText read) b =
          some (done, .inText (.byte b :: read)) := by
        simp [scanByte, hHere.1, hHere.2.1, hHere.2.2]
      rw [List.cons_append, scanAll, hByte]
      simp only [List.map_cons, List.reverse_cons,
        List.append_assoc, List.singleton_append]
      exact ih (fun d hd =>
        hPlain d (List.mem_cons_of_mem b hd)) _

theorem decode_plain
    (bytes : List UInt8)
    (rest : RawText) :
    RawText.bytes? (bytes.map .byte ++ rest) =
      (RawText.bytes? rest).map (bytes ++ ·) := by
  induction bytes with
  | nil => simp
  | cons b bytes ih =>
      rw [List.map_cons, List.cons_append, RawText.bytes?, ih,
        Option.map_map]
      rfl

/- A character that needs no escape stands for itself. -/
theorem stands_plain
    {c : Char}
    (hQuote : c.toNat ≠ 34)
    (hSlash : c.toNat ≠ 92)
    (hControl : 32 ≤ c.toNat) :
    Stands (String.utf8EncodeChar c)
      ((String.utf8EncodeChar c).map .byte) [c] := by
  have hPlain : ∀ b ∈ String.utf8EncodeChar c, IsPlain b := by
    intro b hMem
    have hByte := byte_of_utf8EncodeChar hMem
    refine ⟨?_, ?_, by omega⟩
    · rintro rfl
      have hCode : (34 : UInt8).toNat = 34 := rfl
      omega
    · rintro rfl
      have hCode : (92 : UInt8).toNat = 92 := rfl
      omega
  constructor
  · exact scan_plain hPlain
  · intro rest
    rw [decode_plain, List.flatMap_singleton]

/- A backslash and a letter stand for one byte. -/
theorem stands_letter
    {letter b : UInt8}
    {c : Char}
    (hLetter : letter ≠ 117)
    (hEscape : simpleEscape? letter = some b)
    (hCode : String.utf8EncodeChar c = [b]) :
    Stands [92, letter] [.byte b] [c] := by
  constructor
  · intro done read rest
    simp [scanAll, scanByte, hLetter, hEscape]
  · intro rest
    rw [List.flatMap_singleton, hCode]
    rfl

/- A digit is one byte, and the scanner takes its value. -/
theorem hexDigit_read
    {d : Nat}
    (hDigit : d < 16) :
    ∃ b, String.utf8EncodeChar (Text.hexDigit d) = [b] ∧
      Text.hexValue? b.toNat = some d := by
  have hAll : ∀ d < 16,
      (String.utf8EncodeChar (Text.hexDigit d)).map
        (fun b => Text.hexValue? b.toNat) = [some d] := by
    decide
  exact List.map_eq_singleton_iff.1 (hAll d hDigit)

/- A backslash and four digits stand for a control. -/
theorem stands_control
    {c : Char}
    (hControl : c.toNat < 32) :
    Stands
      ([92, 117, 48, 48] ++
        [Text.hexDigit (c.toNat / 16),
          Text.hexDigit (c.toNat % 16)].flatMap
            String.utf8EncodeChar)
      [.escape (UInt16.ofNat c.toNat)] [c] := by
  rcases hexDigit_read (by omega : c.toNat / 16 < 16) with
    ⟨high, hHigh, hHighValue⟩
  rcases hexDigit_read (by omega : c.toNat % 16 < 16) with
    ⟨low, hLow, hLowValue⟩
  have hCode : (UInt16.ofNat c.toNat).toNat = c.toNat := by
    rw [UInt16.toNat_ofNat']
    omega
  constructor
  · intro done read rest
    have hZero : Text.hexValue? 48 = some 0 := rfl
    have hValue : c.toNat / 16 * 16 + c.toNat % 16 = c.toNat :=
      Nat.div_add_mod' _ _
    simp [scanAll, scanByte, hHigh, hLow, hZero, hHighValue,
      hLowValue, hValue, -UInt16.ofNat_add, -UInt16.ofNat_mul]
  · intro rest
    have hNotLow : isLowSurrogate (UInt16.ofNat c.toNat) =
        false := by
      simp only [isLowSurrogate, hCode, Bool.and_eq_false_iff,
        decide_eq_false_iff_not]
      omega
    have hNotHigh : isHighSurrogate (UInt16.ofNat c.toNat) =
        false := by
      simp only [isHighSurrogate, hCode, Bool.and_eq_false_iff,
        decide_eq_false_iff_not]
      omega
    rw [List.singleton_append, RawText.bytes?.eq_def]
    simp [hNotLow, hNotHigh, hCode, Char.ofNat_toNat]

/- The characters that have a letter of their own. -/
def lettered : List Char :=
  ['"', '\\', '\x08', '\t', '\n', '\x0c', '\r']

theorem code_ne_of_not_lettered
    {c : Char}
    (hNot : c ∉ lettered)
    {n : Nat}
    (hMem : Char.ofNat n ∈ lettered) :
    c.toNat ≠ n := by
  intro hCode
  have hSame : c = Char.ofNat n := by
    rw [← hCode, Char.ofNat_toNat]
  exact hNot (hSame ▸ hMem)

theorem escape_of_not_lettered
    {c : Char}
    (hNot : c ∉ lettered) :
    escape c =
      if c.toNat < 32 then
        ['\\', 'u', '0', '0', Text.hexDigit (c.toNat / 16),
          Text.hexDigit (c.toNat % 16)]
      else [c] := by
  have hCode {n : Nat} (hMem : Char.ofNat n ∈ lettered) :
      c.toNat ≠ n :=
    code_ne_of_not_lettered hNot hMem
  have hChar {d : Char} (hMem : d ∈ lettered) : c ≠ d :=
    fun hSame => hNot (hSame ▸ hMem)
  unfold escape
  simp only [beq_iff_eq]
  rw [if_neg (hChar (d := '"') (by decide)),
    if_neg (hChar (d := '\\') (by decide)),
    if_neg (hCode (n := 8) (by decide)),
    if_neg (hCode (n := 9) (by decide)),
    if_neg (hCode (n := 10) (by decide)),
    if_neg (hCode (n := 12) (by decide)),
    if_neg (hCode (n := 13) (by decide))]

/- Every character between quotes stands for itself. -/
theorem stands_escape
    (c : Char) :
    ∃ units, Stands
      ((escape c).flatMap String.utf8EncodeChar) units [c] := by
  by_cases hLetter : c ∈ lettered
  · simp only [lettered, List.mem_cons, List.not_mem_nil,
      or_false] at hLetter
    rcases hLetter with
      rfl | rfl | rfl | rfl | rfl | rfl | rfl <;>
      exact ⟨_, stands_letter (by decide) rfl rfl⟩
  · rw [escape_of_not_lettered hLetter]
    by_cases hControl : c.toNat < 32
    · rw [if_pos hControl]
      exact ⟨_, stands_control hControl⟩
    · rw [if_neg hControl, List.flatMap_singleton]
      exact ⟨_, stands_plain
        (code_ne_of_not_lettered hLetter (by decide))
        (code_ne_of_not_lettered hLetter (by decide))
        (by omega)⟩

/- All characters of a text. -/
theorem stands_text
    (cs : List Char) :
    ∃ units, Stands
      ((cs.flatMap escape).flatMap String.utf8EncodeChar)
      units cs := by
  induction cs with
  | nil => exact ⟨[], .nil⟩
  | cons c cs ih =>
      rcases stands_escape c with ⟨units, hHere⟩
      rcases ih with ⟨more, hRest⟩
      rw [List.flatMap_cons, List.flatMap_append]
      exact ⟨units ++ more, hHere.append hRest⟩

------------------------------------------------------------
-- Between Values
------------------------------------------------------------

/- Between tokens the scanner reads bytes as these tokens. -/
def Scans
    (bytes : List UInt8)
    (ts : List Token) : Prop :=
  ∀ done rest,
    scanAll done .between (bytes ++ rest) =
      scanAll (ts.reverse ++ done) .between rest

theorem Scans.append
    {first second : List UInt8}
    {ts us : List Token}
    (hFirst : Scans first ts)
    (hSecond : Scans second us) :
    Scans (first ++ second) (ts ++ us) := by
  intro done rest
  rw [List.append_assoc, hFirst, hSecond, List.reverse_append,
    List.append_assoc]

/- The tokens of bytes with nothing after them. -/
theorem Scans.tokens?
    {bytes : List UInt8}
    {ts : List Token}
    (hScans : Scans bytes ts) :
    tokens? bytes = some ts := by
  have hAll := hScans [] []
  rw [List.append_nil] at hAll
  rw [Json.tokens?, hAll]
  simp [scanAll]

/- A text between quotes is one token, and it is the text. -/
theorem scans_quote
    (s : String) :
    ∃ units : RawText, Scans (utf8 (quote s)) [.text units] ∧
      units.decode? = some s := by
  rcases stands_text s.toList with ⟨units, hStands⟩
  refine ⟨units, ?_, ?_⟩
  · intro done rest
    have hBytes : utf8 (quote s) = 34 ::
        ((s.toList.flatMap escape).flatMap
          String.utf8EncodeChar ++ [34]) := by
      rw [quote, utf8_ofList, List.flatMap_append,
        List.flatMap_append]
      rfl
    have hOpen : scanAll done .between
        (utf8 (quote s) ++ rest) =
          scanAll done (.inText [])
            ((s.toList.flatMap escape).flatMap
              String.utf8EncodeChar ++ (34 :: rest)) := by
      rw [hBytes, List.cons_append, List.append_assoc]
      rfl
    rw [hOpen, hStands.scan, List.append_nil]
    simp [scanAll, scanByte]
  · have hAll := hStands.decode []
    rw [List.append_nil] at hAll
    have hBytes : units.bytes? = some (utf8 s) := by
      rw [hAll, ← utf8_ofList, String.ofList_toList]
      simp [RawText.bytes?]
    rw [RawText.decode?, hBytes, Option.bind_some, utf8?_utf8]

end Json

end DeviceHub
