import DeviceHub.Proofs.Store.Search
import Mathlib.Algebra.Group.Nat.Defs
import Mathlib.Data.List.Range

/-
  The pages of a search.

  A page is a stretch of the whole result, so pages of one
  size, put together in order, are the result: no device is
  lost between two pages, and none stands on both.

  Key definitions include:
    * `DeviceSearch.onPage`
    * `DeviceStore.firstPages`

  Main statements:
    * `DeviceStore.firstPages_eq`
    * `DeviceStore.pages_partition`
-/

namespace DeviceHub

------------------------------------------------------------
-- Pages of a List
------------------------------------------------------------

namespace DeviceSearch

/- The same search, with pages of a size, for one of them. -/
def onPage
    (search : DeviceSearch)
    (size number : Nat) : DeviceSearch :=
  { search with pageNumber := number, pageSize := size }

section Pages

variable {α : Type} {size : Nat}

theorem page_onPage_zero
    (search : DeviceSearch)
    (number : Nat)
    (items : List α) :
    (search.onPage 0 number).page items = items :=
  if_pos rfl

/- Pages are counted from one; what a page holds. -/
theorem page_onPage_succ
    (hSize : 0 < size)
    (search : DeviceSearch)
    (i : Nat)
    (items : List α) :
    (search.onPage size (i + 1)).page items =
      (items.drop (i * size)).take size := by
  have hSkipped :
      (search.onPage size (i + 1)).skipped = i * size := by
    unfold skipped onPage
    simp only [Nat.le_add_left, Nat.max_eq_left,
      Nat.add_sub_cancel]
  have hNot : (search.onPage size (i + 1)).pageSize ≠ 0 :=
    Nat.pos_iff_ne_zero.1 hSize
  unfold page
  rw [if_neg hNot, hSkipped]
  rfl

/- Words of 32 bits skip less than a word of 64 bits. -/
theorem skipped_onPage_lt
    {number : Nat}
    (hNumber : number < 2 ^ 32)
    (hSize : size < 2 ^ 32)
    (search : DeviceSearch) :
    (search.onPage size number).skipped ≤ 2 ^ 64 - 1 := by
  have hBefore : max number 1 - 1 ≤ 2 ^ 32 - 1 := by omega
  have hProduct : (max number 1 - 1) * size ≤
      (2 ^ 32 - 1) * (2 ^ 32 - 1) :=
    Nat.mul_le_mul hBefore (by omega)
  unfold skipped onPage
  exact hProduct.trans (by decide)

/- Pages in order make up the front of the list. -/
theorem flatMap_page
    (hSize : 0 < size)
    (search : DeviceSearch)
    (items : List α)
    (count : Nat) :
    (List.range count).flatMap (fun i =>
        (search.onPage size (i + 1)).page items) =
      items.take (count * size) := by
  induction count with
  | zero => simp
  | succ count ih =>
      rw [List.range_succ, List.flatMap_append, ih,
        List.flatMap_singleton, page_onPage_succ hSize,
        Nat.succ_mul, List.take_add]

end Pages

end DeviceSearch

------------------------------------------------------------
-- Pages of a Store
------------------------------------------------------------

namespace DeviceStore

variable {s : DeviceStore} {search : DeviceSearch}
variable {size : Nat}

/- The devices on the first pages, page after page. -/
def firstPages
    (s : DeviceStore)
    (search : DeviceSearch)
    (size count : Nat) : List Device :=
  (List.range' 1 count).flatMap fun number =>
    (s.listDevices (search.onPage size number)).results

/- How many pages it takes, and how full they are. -/
theorem page_bounds
    (hSize : 0 < size)
    (total : Nat) :
    total ≤ (total + size - 1) / size * size ∧
      ∀ number, number < (total + size - 1) / size →
        number * size ≤ total := by
  have hSplit := Nat.div_add_mod (total + size - 1) size
  have hRest := Nat.mod_lt (total + size - 1) hSize
  rw [Nat.mul_comm] at hSplit
  refine ⟨by omega, fun number hNumber => ?_⟩
  have hNext : (number + 1) * size ≤
      (total + size - 1) / size * size :=
    Nat.mul_le_mul_right size hNumber
  rw [Nat.succ_mul] at hNext
  omega

/- All pages together are the whole result. -/
theorem firstPages_eq
    (hSize : 0 < size)
    (s : DeviceStore)
    (search : DeviceSearch) :
    s.firstPages search size
        (((s.matching search).length + size - 1) / size) =
      s.matching search := by
  have hFront := DeviceSearch.flatMap_page hSize search
    (s.matching search)
    (((s.matching search).length + size - 1) / size)
  rw [List.take_of_length_le (page_bounds hSize _).1]
    at hFront
  unfold firstPages
  rw [List.range'_eq_map_range, List.flatMap_map]
  simp only [Nat.add_comm 1]
  exact hFront

/-
  Pages of one size partition what a search finds.  The
  number of results is the same on every page.  The pages up
  to the last hold every device that is asked for, once, by
  date of creation and then by id; those before the last are
  full, and those after it are empty.  Page zero is the
  first page, and what is skipped can be counted in 64 bits.
-/
theorem pages_partition
    (hBuilt : s.Built)
    (search : DeviceSearch)
    (hSize : 1 ≤ size)
    (hWord : size < 2 ^ 32) :
    ∃ total,
      (∀ anySize number,
        (s.listDevices
          (search.onPage anySize number)).numResults =
            total) ∧
      (∀ number,
        (s.listDevices
          (search.onPage 0 number)).results.length =
            total) ∧
      (s.firstPages search size
        ((total + size - 1) / size)).Pairwise ComesFirst ∧
      ((s.firstPages search size
        ((total + size - 1) / size)).map
          (·.hardwareId)).Nodup ∧
      (∀ d, d ∈ s.firstPages search size
          ((total + size - 1) / size) ↔
        s.devices.get? d.hardwareId = some d ∧
          search.AsksFor d) ∧
      (∀ number, 1 ≤ number →
        number < (total + size - 1) / size →
          (s.listDevices
            (search.onPage size number)).results.length =
              size) ∧
      (∀ number, (total + size - 1) / size < number →
        (s.listDevices
          (search.onPage size number)).results = []) ∧
      s.listDevices (search.onPage size 0) =
        s.listDevices (search.onPage size 1) ∧
      ∀ number, number < 2 ^ 32 →
        (search.onPage size number).skipped ≤
          2 ^ 64 - 1 := by
  have hFiled := hBuilt.filed
  have hOrder := hFiled.pairwise_matching search
  have hNodup := hFiled.nodup_matching search
  have hBounds := page_bounds hSize (s.matching search).length
  have hPage (i : Nat) :
      (s.listDevices (search.onPage size (i + 1))).results =
        ((s.matching search).drop (i * size)).take size :=
    DeviceSearch.page_onPage_succ hSize search i _
  refine ⟨(s.matching search).length, fun _ _ => rfl, ?_, ?_,
    ?_, ?_, ?_, ?_, ?_, ?_⟩
  · intro number
    exact congrArg List.length
      (DeviceSearch.page_onPage_zero search number _)
  · rw [firstPages_eq hSize]
    exact hOrder
  · rw [firstPages_eq hSize]
    exact hNodup
  · intro d
    rw [firstPages_eq hSize, hFiled.mem_matching_iff,
      DeviceSearch.accepts_iff]
  · intro number hFirst hLast
    rcases Nat.exists_eq_succ_of_ne_zero
      (Nat.pos_iff_ne_zero.1 hFirst) with ⟨i, rfl⟩
    have hFull := hBounds.2 (i + 1) hLast
    rw [Nat.succ_mul] at hFull
    rw [hPage, List.length_take, List.length_drop]
    omega
  · intro number hBeyond
    rcases Nat.exists_eq_succ_of_ne_zero
      (Nat.ne_zero_of_lt hBeyond) with ⟨i, rfl⟩
    have hEnd : (s.matching search).length ≤ i * size :=
      hBounds.1.trans (Nat.mul_le_mul_right size
        (Nat.le_of_lt_succ hBeyond))
    rw [hPage, List.drop_eq_nil_of_le hEnd, List.take_nil]
  · rfl
  · intro number hNumber
    exact DeviceSearch.skipped_onPage_lt hNumber hWord search

/- Three cranes, two of them as old as each other. -/
def craneYard : DeviceStore :=
  (((empty.addDevice (.new "c-2" "crane" ⟨60, 0⟩)).addDevice
    (.new "c-1" "crane" ⟨60, 0⟩)).addDevice
    (.new "t-1" "truck" ⟨10, 0⟩)).addDevice
    (.new "c-3" "crane" ⟨30, 0⟩)

/- The cranes stand on two pages, and no third one. -/
theorem pages_partition_cranes :
    let cranes : DeviceSearch :=
      { DeviceSearch.everything with
        specificationToken := some "crane" }
    (craneYard.firstPages cranes 2 2).Pairwise ComesFirst ∧
    Device.new "c-3" "crane" ⟨30, 0⟩ ∈
      craneYard.firstPages cranes 2 2 ∧
    (craneYard.listDevices
      (cranes.onPage 2 1)).results.length = 2 ∧
    (craneYard.listDevices
      (cranes.onPage 2 3)).results = [] := by
  intro cranes
  have hBuilt : craneYard.Built :=
    .addDevice (.addDevice (.addDevice (.addDevice .empty _)
      _) _) _
  have hSize : 1 ≤ 2 := by decide
  have hWord : 2 < 2 ^ 32 := by decide
  rcases pages_partition hBuilt cranes hSize hWord with
    ⟨total, hTotal, -, hOrder, -, hMem, hFull, hEmpty, -, -⟩
  have hLength : (craneYard.matching cranes).length = 3 :=
    List.length_mergeSort _
  have hThree : 3 = total := hLength.symm.trans (hTotal 2 1)
  subst hThree
  refine ⟨hOrder, (hMem _).2 ⟨rfl, ?_⟩,
    hFull 1 (by decide) (by decide), hEmpty 3 (by decide)⟩
  exact DeviceSearch.accepts_iff.1 (by decide)

end DeviceStore

end DeviceHub
