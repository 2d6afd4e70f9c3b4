import DeviceHub.Assets.Asset
import DeviceHub.Proofs.Text.ByteOrder

/-
  Assets in natural order.

  Names come first and ids decide among equal names, both by
  the order of their bytes.  Assets that agree in both stay
  in the order in which they were.

  Key definitions include:
    * `Asset.ComesNoLater`
    * `Asset.hasKey`
    * `Asset.NaturallySorted`

  Main statements:
    * `Asset.naturalLe_iff`
    * `Asset.naturallySorted_naturalSort`
-/

namespace DeviceHub

/- A sort leaves items as they were that are all alike. -/
theorem filter_mergeSort
    {α : Type}
    {le : α → α → Bool}
    (hTrans : ∀ a b c, le a b → le b c → le a c)
    (hTotal : ∀ a b, le a b || le b a)
    {p : α → Bool}
    (hAlike : ∀ a b, p a → p b → le a b)
    (items : List α) :
    (items.mergeSort le).filter p = items.filter p := by
  have hSorted :
      (items.filter p).Pairwise fun a b => le a b := by
    refine List.pairwise_of_forall_mem_list ?_
    intro a ha b hb
    exact hAlike a b (List.mem_filter.1 ha).2
      (List.mem_filter.1 hb).2
  have hWithin : (items.filter p).Sublist
      (items.mergeSort le) :=
    List.sublist_mergeSort hTrans hTotal hSorted
      List.filter_sublist
  have hFiltered := hWithin.filter p
  rw [List.filter_filter] at hFiltered
  simp only [Bool.and_self] at hFiltered
  refine (hFiltered.eq_of_length ?_).symm
  exact ((List.mergeSort_perm items le).filter p
    ).length_eq.symm

namespace Asset

------------------------------------------------------------
-- The Order of Two
------------------------------------------------------------

/- One comes no later: by name, then by id, byte by byte. -/
def ComesNoLater
    (a b : Asset) : Prop :=
  Json.utf8 a.name < Json.utf8 b.name ∨
    a.name = b.name ∧ Json.utf8 a.id ≤ Json.utf8 b.id

theorem naturalLe_iff
    {a b : Asset} :
    a.naturalLe b = true ↔ a.ComesNoLater b := by
  have hIds : Json.utf8 a.id ≤ Json.utf8 b.id ↔
      a.id ≤ b.id := by
    rw [← List.not_lt, Json.utf8_lt_iff, String.not_lt]
  unfold naturalLe ComesNoLater
  rw [Json.utf8_lt_iff, hIds]
  split
  · rename_i hName
    rw [hName, decide_eq_true_iff]
    simp only [String.lt_irrefl, false_or, true_and]
  · rename_i hName
    rw [decide_eq_true_iff]
    simp [hName]

theorem naturalLe_total
    (a b : Asset) :
    (a.naturalLe b || b.naturalLe a) = true := by
  unfold naturalLe
  by_cases hName : a.name = b.name
  · rw [if_pos hName, if_pos hName.symm, Bool.or_eq_true,
      decide_eq_true_iff, decide_eq_true_iff]
    exact String.le_total a.id b.id
  · rw [if_neg hName, if_neg (Ne.symm hName),
      Bool.or_eq_true, decide_eq_true_iff,
      decide_eq_true_iff]
    refine Decidable.or_iff_not_imp_left.2 fun hNot => ?_
    exact Decidable.byContradiction fun hNeither =>
      hName (eq_of_not_lt hNot hNeither)

theorem naturalLe_trans
    (a b c : Asset)
    (hab : a.naturalLe b = true)
    (hbc : b.naturalLe c = true) :
    a.naturalLe c = true := by
  rw [naturalLe_iff] at *
  rcases hab with hab | ⟨hName, hab⟩
  · left
    rcases hbc with hbc | ⟨hName', -⟩
    · exact List.lt_trans hab hbc
    · rwa [← hName']
  · rcases hbc with hbc | ⟨hName', hbc⟩
    · left
      rwa [hName]
    · exact .inr ⟨hName.trans hName', List.le_trans hab hbc⟩

------------------------------------------------------------
-- Sorting
------------------------------------------------------------

/- Whether an asset has this name and this id. -/
def hasKey
    (name id : String)
    (a : Asset) : Bool :=
  a.name = name && a.id = id

/- The same assets in order; where it is equal, as before. -/
structure NaturallySorted
    (assets sorted : List Asset) : Prop where
  perm : sorted.Perm assets
  ordered : sorted.Pairwise ComesNoLater
  stable : ∀ name id,
    sorted.filter (hasKey name id) =
      assets.filter (hasKey name id)

theorem naturalLe_of_hasKey
    {name id : String}
    (a b : Asset)
    (ha : hasKey name id a = true)
    (hb : hasKey name id b = true) :
    a.naturalLe b = true := by
  unfold hasKey at ha hb
  rw [Bool.and_eq_true, decide_eq_true_iff,
    decide_eq_true_iff] at ha hb
  have hIds : a.id = b.id := ha.2.trans hb.2.symm
  unfold naturalLe
  rw [if_pos (ha.1.trans hb.1.symm), decide_eq_true_iff]
  exact hIds ▸ String.le_refl a.id

theorem naturallySorted_naturalSort
    (assets : List Asset) :
    NaturallySorted assets (naturalSort assets) where
  perm := List.mergeSort_perm assets naturalLe
  ordered := by
    have hSorted := List.pairwise_mergeSort naturalLe_trans
      naturalLe_total assets
    exact hSorted.imp naturalLe_iff.1
  stable := fun _ _ =>
    filter_mergeSort naturalLe_trans naturalLe_total
      naturalLe_of_hasKey assets

end Asset

end DeviceHub
