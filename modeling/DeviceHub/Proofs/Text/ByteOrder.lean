import DeviceHub.Proofs.Dict
import DeviceHub.Proofs.Text.Utf8
import Mathlib.Algebra.Group.Nat.Defs
import Mathlib.Tactic.SplitIfs

/-
  Texts are ordered as their bytes are.

  A character is written as a first byte, which tells how
  many more there are, and six bits in each of these.  So of
  two characters the lesser one has the lesser bytes.

  Key definitions include:
    * `Json.firstByte`
    * `Json.laterBytes`

  Main statements:
    * `Json.utf8EncodeChar_lt`
    * `Json.utf8_lt_iff`
-/

namespace DeviceHub

namespace Json

------------------------------------------------------------
-- Characters
------------------------------------------------------------

/- The first byte of a code point. -/
def firstByte
    (v : Nat) : Nat :=
  if v ≤ 127 then v
  else if v ≤ 2047 then v / 64 + 192
  else if v ≤ 65535 then v / 4096 + 224
  else v / 262144 + 240

/- How many bytes come after the first. -/
def laterCount
    (v : Nat) : Nat :=
  if v ≤ 127 then 0
  else if v ≤ 2047 then 1
  else if v ≤ 65535 then 2
  else 3

/- The bytes after the first. -/
def laterBytes : Nat → Nat → List UInt8
  | 0, _ => []
  | n + 1, v =>
      UInt8.ofNat (v / 64 ^ n % 64 + 128) :: laterBytes n v

theorem lt_of_isChar
    (c : Char) :
    c.toNat < 1114112 := by
  rcases c.valid with hLow | ⟨-, hHigh⟩
  · exact Nat.lt_trans hLow (by decide)
  · exact hHigh

theorem utf8EncodeChar_eq
    (c : Char) :
    String.utf8EncodeChar c =
      UInt8.ofNat (firstByte c.toNat) ::
        laterBytes (laterCount c.toNat) c.toNat := by
  have hValid := lt_of_isChar c
  have hCode : c.val.toNat = c.toNat := rfl
  unfold String.utf8EncodeChar firstByte laterCount
  simp only [hCode]
  generalize c.toNat = v at hValid
  split
  · rfl
  · split
    · rw [Nat.mod_eq_of_lt (by omega)]
      simp [laterBytes]
    · split
      · rw [Nat.mod_eq_of_lt (by omega)]
        simp [laterBytes]
      · rw [Nat.mod_eq_of_lt (by omega)]
        simp [laterBytes]

/- The first bytes decide, or the same number follows. -/
theorem firstByte_lt_or_eq
    {v w : Nat}
    (hLess : v < w) :
    firstByte v < firstByte w ∨
      (firstByte v = firstByte w ∧
        laterCount v = laterCount w ∧
        v / 64 ^ laterCount w = w / 64 ^ laterCount w) := by
  unfold firstByte laterCount
  split_ifs <;> omega

/- A lesser byte comes first, and equal ones decide nothing. -/
theorem byte_lt
    {m n : Nat}
    {X Y : List UInt8}
    (hByte : n < 256)
    (hLess : m < n ∨ m = n ∧ X < Y) :
    UInt8.ofNat m :: X < UInt8.ofNat n :: Y := by
  rw [List.cons_lt_cons_iff]
  rcases hLess with hLess | ⟨rfl, hRest⟩
  · left
    rw [UInt8.lt_iff_toNat_lt, UInt8.toNat_ofNat',
      UInt8.toNat_ofNat', Nat.mod_eq_of_lt hByte,
      Nat.mod_eq_of_lt (Nat.lt_trans hLess hByte)]
    exact hLess
  · exact .inr ⟨rfl, hRest⟩

/- Where the first bytes agree, the later ones decide. -/
theorem laterBytes_lt
    {n v w : Nat}
    (hLess : v < w)
    (hFirst : v / 64 ^ n = w / 64 ^ n)
    (X Y : List UInt8) :
    laterBytes n v ++ X < laterBytes n w ++ Y := by
  induction n with
  | zero =>
      rw [Nat.pow_zero, Nat.div_one, Nat.div_one] at hFirst
      omega
  | succ n ih =>
      rw [Nat.pow_succ, ← Nat.div_div_eq_div_mul,
        ← Nat.div_div_eq_div_mul] at hFirst
      have hLe : v / 64 ^ n ≤ w / 64 ^ n :=
        Nat.div_le_div_right (Nat.le_of_lt hLess)
      refine byte_lt (by omega) ?_
      rcases Nat.lt_or_eq_of_le hLe with hDigit | hSame
      · exact .inl (by omega)
      · exact .inr ⟨by rw [hSame], ih hSame⟩

/- A lesser character has lesser bytes, whatever follows. -/
theorem utf8EncodeChar_lt
    {c d : Char}
    (hLess : c < d)
    (X Y : List UInt8) :
    String.utf8EncodeChar c ++ X <
      String.utf8EncodeChar d ++ Y := by
  have hCodes : c.toNat < d.toNat := hLess
  have hByte : firstByte d.toNat < 256 := by
    have hValid := lt_of_isChar d
    unfold firstByte
    split_ifs <;> omega
  rw [utf8EncodeChar_eq, utf8EncodeChar_eq]
  refine byte_lt hByte ?_
  rcases firstByte_lt_or_eq hCodes with
    hFirst | ⟨hFirst, hCount, hSame⟩
  · exact .inl hFirst
  · rw [hCount]
    exact .inr ⟨hFirst, laterBytes_lt hCodes hSame X Y⟩

------------------------------------------------------------
-- Texts
------------------------------------------------------------

theorem flatMap_utf8EncodeChar_lt
    {cs ds : List Char}
    (hLess : cs < ds) :
    cs.flatMap String.utf8EncodeChar <
      ds.flatMap String.utf8EncodeChar := by
  induction cs generalizing ds with
  | nil =>
      cases ds with
      | nil => exact absurd hLess (List.not_lt_nil [])
      | cons d rest =>
          rw [List.flatMap_cons, utf8EncodeChar_eq]
          exact List.nil_lt_cons _ _
  | cons c more ih =>
      cases ds with
      | nil => exact absurd hLess (List.not_lt_nil _)
      | cons d rest =>
          rw [List.flatMap_cons, List.flatMap_cons]
          rcases List.cons_lt_cons_iff.1 hLess with
            hFirst | ⟨rfl, hRest⟩
          · exact utf8EncodeChar_lt hFirst _ _
          · exact List.append_left_lt (ih hRest)

theorem utf8_lt_of_lt
    {s t : String}
    (hLess : s < t) :
    utf8 s < utf8 t := by
  rw [← s.ofList_toList, ← t.ofList_toList, utf8_ofList,
    utf8_ofList]
  exact flatMap_utf8EncodeChar_lt
    (String.lt_iff.1 hLess)

theorem utf8_lt_iff
    {s t : String} :
    utf8 s < utf8 t ↔ s < t := by
  refine ⟨fun hBytes => ?_, utf8_lt_of_lt⟩
  by_cases hSame : s = t
  · rw [hSame] at hBytes
    exact absurd hBytes (List.lt_irrefl _)
  · refine Decidable.byContradiction fun hNot => ?_
    have hMore : t < s := Decidable.byContradiction
      fun hNeither => hSame (eq_of_not_lt hNot hNeither)
    exact List.lt_asymm hBytes (utf8_lt_of_lt hMore)

end Json

end DeviceHub
