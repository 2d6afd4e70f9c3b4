import DeviceHub.Json.Token

/-
  Texts and their bytes.

  Main statements:
    * `Json.utf8?_utf8`
    * `Json.utf8_append`
    * `Json.utf8_ofList`
    * `Json.byte_of_utf8EncodeChar`
-/

namespace DeviceHub

namespace Json

/- The bytes not yet listed are listed after the others. -/
theorem listed_eq
    (bytes : ByteArray)
    (i : Nat)
    (found : List UInt8) :
    ByteArray.toList.loop bytes i found =
      found.reverse ++ bytes.data.toList.drop i := by
  have hSize : bytes.data.toList.length = bytes.size := rfl
  induction hLeft : bytes.size - i generalizing i found with
  | zero =>
      rw [ByteArray.toList.loop, if_neg (by omega),
        List.drop_eq_nil_of_le (by omega), List.append_nil]
  | succ left ih =>
      have hHere : i < bytes.size := by omega
      have hListed : i < bytes.data.toList.length := by omega
      rw [ByteArray.toList.loop, if_pos hHere,
        ih (i + 1) _ (by omega),
        List.drop_eq_getElem_cons hListed]
      simp [ByteArray.get!, hHere]

theorem utf8_eq_data
    (s : String) :
    utf8 s = s.toByteArray.data.toList :=
  listed_eq s.toByteArray 0 []

theorem length_utf8
    (s : String) :
    (utf8 s).length = s.utf8ByteSize := by
  rw [utf8_eq_data]
  exact String.size_toByteArray

/- The bytes of a text are valid and spell it. -/
theorem utf8?_utf8
    (s : String) :
    utf8? (utf8 s) = some s := by
  have hBytes :
      (⟨(utf8 s).toArray⟩ : ByteArray) = s.toByteArray := by
    rw [utf8_eq_data]
  unfold utf8? String.fromUTF8?
  rw [hBytes, dif_pos s.isValidUTF8]
  rfl

theorem utf8_append
    (s t : String) :
    utf8 (s ++ t) = utf8 s ++ utf8 t := by
  simp [utf8_eq_data, String.toByteArray_append]

/- Characters are encoded one after the other. -/
theorem utf8_ofList
    (cs : List Char) :
    utf8 (String.ofList cs) =
      cs.flatMap String.utf8EncodeChar := by
  rw [utf8_eq_data, String.toByteArray_ofList, List.utf8Encode,
    List.toList_data_toByteArray]

/- A byte of a character is the character or beyond ASCII. -/
theorem byte_of_utf8EncodeChar
    {c : Char}
    {b : UInt8}
    (hMem : b ∈ String.utf8EncodeChar c) :
    b.toNat = c.toNat ∨ 128 ≤ b.toNat := by
  have hCode : c.val.toNat = c.toNat := rfl
  unfold String.utf8EncodeChar at hMem
  simp only [hCode] at hMem
  split at hMem
  · left
    rw [List.mem_singleton.1 hMem, UInt8.toNat_ofNat']
    omega
  · right
    split at hMem
    · simp only [List.mem_cons, List.not_mem_nil, or_false]
        at hMem
      rcases hMem with rfl | rfl <;>
        rw [UInt8.toNat_ofNat'] <;> omega
    · split at hMem
      · simp only [List.mem_cons, List.not_mem_nil, or_false]
          at hMem
        rcases hMem with rfl | rfl | rfl <;>
          rw [UInt8.toNat_ofNat'] <;> omega
      · simp only [List.mem_cons, List.not_mem_nil, or_false]
          at hMem
        rcases hMem with rfl | rfl | rfl | rfl <;>
          rw [UInt8.toNat_ofNat'] <;> omega

end Json

end DeviceHub
