import DeviceHub.Codec.Wire
import DeviceHub.Proofs.Dict
import DeviceHub.Proofs.Text.Utf8

/-
  Binary fields, as they are written and read back.

  A reader takes the bytes of a field from the front of any
  bytes, whatever follows them, and refuses every strict
  part of them.  Both hold of fields in a row if they hold
  of each field.

  Key definitions include:
    * `Wire.Spells`
    * `Wire.Fits`

  Main statements:
    * `Wire.Spells.bind`
    * `Wire.spells_text`
    * `Wire.spells_dict`
-/

namespace DeviceHub

namespace Wire

variable {α β : Type}

------------------------------------------------------------
-- Spelling
------------------------------------------------------------

/-
  Bytes that spell a value to a reader: it takes exactly
  these bytes, and no strict part of them is enough for it.
-/
structure Spells
    (r : Reader α)
    (bytes : List UInt8)
    (a : α) : Prop where
  read : ∀ rest, r (bytes ++ rest) = some (a, rest)
  short : ∀ part, part <+: bytes → part ≠ bytes →
    r part = none

/- A part of two texts ends in the first or in the second. -/
theorem part_append_cases
    {part first second : List UInt8}
    (hPart : part <+: first ++ second)
    (hStrict : part ≠ first ++ second) :
    (part <+: first ∧ part ≠ first) ∨
      ∃ cut, part = first ++ cut ∧ cut <+: second ∧
        cut ≠ second := by
  rcases List.prefix_or_prefix_of_prefix hPart
      (List.prefix_append first second) with
    hFirst | ⟨cut, rfl⟩
  · by_cases hWhole : part = first
    · refine .inr ⟨[], ?_, List.nil_prefix, ?_⟩
      · rw [hWhole, List.append_nil]
      · rintro rfl
        exact hStrict (by rw [hWhole, List.append_nil])
    · exact .inl ⟨hFirst, hWhole⟩
  · refine .inr ⟨cut, rfl, ?_, ?_⟩
    · exact (List.prefix_append_right_inj first).1 hPart
    · rintro rfl
      exact hStrict rfl

/- Two fields in a row; the second may depend on the first. -/
theorem Spells.bind
    {r : Reader α}
    {next : α × List UInt8 → Option (β × List UInt8)}
    {first second : List UInt8}
    {a : α}
    {b : β}
    (hFirst : Spells r first a)
    (hSecond : Spells (fun rest => next (a, rest)) second b) :
    Spells (fun bytes => r bytes >>= next) (first ++ second)
      b := by
  constructor
  · intro rest
    rw [List.append_assoc, hFirst.read]
    exact hSecond.read rest
  · intro part hPart hStrict
    rcases part_append_cases hPart hStrict with
      ⟨hCut, hNe⟩ | ⟨cut, rfl, hCut, hNe⟩
    · rw [hFirst.short part hCut hNe]
      rfl
    · rw [hFirst.read]
      exact hSecond.short cut hCut hNe

/- A field that takes no bytes. -/
theorem Spells.done
    (a : α) :
    Spells (fun bytes => some (a, bytes)) [] a := by
  constructor
  · intro rest
    rfl
  · intro part hPart hStrict
    exact absurd (List.prefix_nil.1 hPart) hStrict

/- A field whose value is put into another form. -/
theorem Spells.map
    {r : Reader α}
    {bytes : List UInt8}
    {a : α}
    (f : α → β)
    (hSpells : Spells r bytes a) :
    Spells (fun bytes => (r bytes).map fun p => (f p.1, p.2))
      bytes (f a) := by
  constructor
  · intro rest
    rw [hSpells.read]
    rfl
  · intro part hPart hStrict
    rw [hSpells.short part hPart hStrict]
    rfl

------------------------------------------------------------
-- Numbers
------------------------------------------------------------

/- A number that has room in the bytes it is written in. -/
theorem spells_nat
    {width n : Nat}
    (hRoom : n < Word.count (8 * width)) :
    Spells (nat width) (putNat width n) n := by
  induction width generalizing n with
  | zero =>
      have hZero : n = 0 := Nat.lt_one_iff.1 hRoom
      subst hZero
      exact .done 0
  | succ width ih =>
      have hCount : Word.count (8 * (width + 1)) =
          Word.count (8 * width) * 256 :=
        Nat.pow_add 2 (8 * width) 8
      have hRest : n / 256 < Word.count (8 * width) := by
        rw [Nat.div_lt_iff_lt_mul (by decide), ← hCount]
        exact hRoom
      have hByte : (UInt8.ofNat (n % 256)).toNat = n % 256 := by
        simp
      constructor
      · intro rest
        simp only [putNat, nat, List.cons_append,
          (ih hRest).read, Option.map_some, hByte,
          Nat.mod_add_div]
      · intro part hPart hStrict
        cases part with
        | nil => rfl
        | cons b part =>
            rw [putNat, List.cons_prefix_cons] at hPart
            rcases hPart with ⟨rfl, hPart⟩
            have hNe : part ≠ putNat width (n / 256) := by
              rintro rfl
              exact hStrict rfl
            simp only [nat, (ih hRest).short part hPart hNe,
              Option.map_none]

/- A truth value. -/
theorem spells_bool
    (b : Bool) :
    Spells bool (putBool b) b := by
  constructor
  · intro rest
    cases b <;> rfl
  · intro part hPart hStrict
    rcases List.prefix_cons_iff.1 hPart with
      rfl | ⟨cut, rfl, hCut⟩
    · rfl
    · exact absurd (by rw [List.prefix_nil.1 hCut]; rfl) hStrict

/- A floating-point number, whatever its bits. -/
theorem spells_real
    (x : Binary64) :
    Spells real (putReal x) x := by
  have hRoom : x.bits.toNat < Word.count (8 * 8) :=
    x.bits.toNat_lt
  have hSpells := (spells_nat hRoom).map fun n =>
    (⟨UInt64.ofNat n⟩ : Binary64)
  rw [UInt64.ofNat_toNat] at hSpells
  exact hSpells

/- A signed number of sixty-four bits. -/
theorem spells_int64
    {n : Int}
    (hSigned : Word.isSigned 64 n = true) :
    Spells int64 (putInt64 n) n := by
  have hBounds : -9223372036854775808 ≤ n ∧
      n ≤ 9223372036854775808 - 1 := by
    rw [Word.isSigned, Bool.and_eq_true] at hSigned
    exact ⟨of_decide_eq_true hSigned.1,
      of_decide_eq_true hSigned.2⟩
  have hCount : Word.count 64 = 18446744073709551616 := rfl
  have hNonneg : 0 ≤ n % (18446744073709551616 : Int) :=
    Int.emod_nonneg n (by decide)
  have hRoom :
      (n % (18446744073709551616 : Int)).toNat <
        Word.count (8 * 8) := by
    change _ < 18446744073709551616
    omega
  have hBack : Int.bmod
      ((n % (18446744073709551616 : Int)).toNat : Int)
      18446744073709551616 = n := by
    rw [Int.toNat_of_nonneg hNonneg]
    change Int.bmod (n % ((18446744073709551616 : Nat) : Int))
      18446744073709551616 = n
    rw [Int.emod_bmod]
    apply Int.bmod_eq_of_le <;> omega
  have hSpells := (spells_nat hRoom).map fun k =>
    Int.bmod (Int.ofNat k) (Word.count 64)
  rw [hCount] at hSpells
  change Spells int64 (putInt64 n) (Int.bmod
    ((n % (18446744073709551616 : Int)).toNat : Int)
      18446744073709551616) at hSpells
  rw [hBack] at hSpells
  exact hSpells

/- A value that is there or not. -/
theorem spells_option
    {r : Reader α}
    {put : α → List UInt8}
    {x : Option α}
    (hValue : ∀ a ∈ x, Spells r (put a) a) :
    Spells (option r) (putOption put x) x := by
  cases x with
  | none => exact Spells.bind (spells_bool false) (.done none)
  | some a =>
      have hHere : Spells (fun bytes => r bytes >>= fun p =>
          some (some p.1, p.2)) (put a ++ []) (some a) :=
        (hValue a rfl).bind (.done (some a))
      rw [List.append_nil] at hHere
      exact Spells.bind (spells_bool true) hHere

------------------------------------------------------------
-- Texts
------------------------------------------------------------

/- A text short enough for its length to be written. -/
def Fits
    (s : String) : Prop :=
  s.utf8ByteSize < Word.count 64

instance
    (s : String) :
    Decidable (Fits s) :=
  inferInstanceAs (Decidable (_ < _))

/- A text. -/
theorem spells_text
    {s : String}
    (hFits : Fits s) :
    Spells text (putText s) s := by
  have hRoom : (Json.utf8 s).length < Word.count 64 := by
    rw [Json.length_utf8]
    exact hFits
  refine Spells.bind (spells_nat hRoom) ?_
  constructor
  · intro rest
    simp [Json.utf8?_utf8]
  · intro part hPart hStrict
    have hLength : part.length < (Json.utf8 s).length := by
      refine Nat.lt_of_le_of_ne hPart.length_le ?_
      intro hSame
      exact hStrict (hPart.eq_of_length hSame)
    simp [hLength]

------------------------------------------------------------
-- Maps
------------------------------------------------------------

/- The bytes of one entry of a map. -/
def putEntry
    (put : α → List UInt8)
    (e : String × α) : List UInt8 :=
  putText e.1 ++ put e.2

/- Every entry takes a byte at least. -/
theorem length_le_entries
    (put : α → List UInt8)
    (pairs : List (String × α)) :
    pairs.length ≤ (pairs.flatMap (putEntry put)).length := by
  induction pairs with
  | nil => exact Nat.le_refl 0
  | cons e rest ih =>
      have hEntry : 1 ≤ (putEntry put e).length := by
        simp only [putEntry, putText, putNat,
          List.length_append, List.length_cons]
        omega
      simp only [List.flatMap_cons, List.length_append,
        List.length_cons]
      omega

/- More entries than there is room for are refused. -/
theorem entries_of_no_room
    (r : Reader α)
    (found : Dict α)
    {count room : Nat}
    (hRoom : room < count)
    (bytes : List UInt8) :
    entries r found count room bytes = none := by
  induction room generalizing found count bytes with
  | zero =>
      cases count with
      | zero => exact absurd hRoom (Nat.lt_irrefl 0)
      | succ count => rfl
  | succ room ih =>
      cases count with
      | zero => exact absurd hRoom (Nat.not_lt_zero _)
      | succ count =>
          unfold entries
          cases text bytes with
          | none => rfl
          | some key =>
              change (r key.2 >>= _) = none
              cases r key.2 with
              | none => rfl
              | some value =>
                  exact ih _ (Nat.lt_of_succ_lt_succ hRoom) _

/- Entries are added one after the other. -/
theorem spells_entries
    {r : Reader α}
    {put : α → List UInt8}
    {pairs : List (String × α)}
    (hEach : ∀ e ∈ pairs,
      Fits e.1 ∧ Spells r (put e.2) e.2)
    (found : Dict α)
    {room : Nat}
    (hRoom : pairs.length ≤ room) :
    Spells (entries r found pairs.length room)
      (pairs.flatMap (putEntry put))
      (found.insertAll pairs) := by
  induction pairs generalizing found room with
  | nil => exact .done found
  | cons e rest ih =>
      cases room with
      | zero => exact absurd hRoom (Nat.not_succ_le_zero _)
      | succ room =>
          have hEntry := hEach e List.mem_cons_self
          have hRest := ih
            (fun f hf => hEach f (List.mem_cons_of_mem _ hf))
            (found.insert e.1 e.2)
            (Nat.le_of_succ_le_succ hRoom)
          rw [List.flatMap_cons, putEntry, List.append_assoc]
          exact Spells.bind (spells_text hEntry.1)
            (Spells.bind hEntry.2 hRest)

/- A map whose keys and values can be written. -/
theorem spells_dict
    {r : Reader α}
    {put : α → List UInt8}
    {d : Dict α}
    (hSize : d.size < Word.count 64)
    (hEach : ∀ e ∈ d.entries,
      Fits e.1 ∧ Spells r (put e.2) e.2) :
    Spells (dict r) (putDict put d) d := by
  refine Spells.bind (spells_nat hSize) ?_
  have hAll : Dict.empty.insertAll d.entries = d :=
    Dict.empty_union d
  constructor
  · intro rest
    have hRoom : d.entries.length ≤
        (d.entries.flatMap (putEntry put) ++ rest).length := by
      have hLength := length_le_entries put d.entries
      rw [List.length_append]
      omega
    have hRead :=
      (spells_entries hEach .empty hRoom).read rest
    rw [hAll] at hRead
    exact hRead
  · intro part hPart hStrict
    by_cases hRoom : d.entries.length ≤ part.length
    · exact (spells_entries hEach .empty hRoom).short part
        hPart hStrict
    · exact entries_of_no_room r .empty
        (Nat.lt_of_not_le hRoom) part

end Wire

end DeviceHub
