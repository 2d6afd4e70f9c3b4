import DeviceHub.Assets.Source
import DeviceHub.Proofs.Except

/-
  Files that list assets, and what a reload makes of them.

  Key definitions include:
    * `AssetSource.Lists`
    * `AssetSource.IsListed`
    * `AssetSource.Holds`

  Main statements:
    * `AssetSource.load_eq_ok_iff`
    * `AssetSource.isListed_iff`
    * `AssetSource.holds_of_reload`
-/

namespace DeviceHub

namespace AssetSource

variable {files : FileView}
variable {path : String}
variable {assets : List Asset}

------------------------------------------------------------
-- Asset Files
------------------------------------------------------------

/- A file can be read and lists just these, each id once. -/
def Lists
    (files : FileView)
    (path : String)
    (assets : List Asset) : Prop :=
  ∃ bytes, (files path).bytes? = some bytes ∧
    (Json.Reader.list Asset.reader).ofBytes bytes =
      some assets ∧
    (assets.map (·.id)).Nodup

/- A file lists assets, no two of which have the same id. -/
def IsListed
    (files : FileView)
    (path : String) : Prop :=
  ∃ bytes assets, (files path).bytes? = some bytes ∧
    (Json.Reader.list Asset.reader).ofBytes bytes =
      some assets ∧
    (assets.map (·.id)).Nodup

theorem repeatedId?_eq_none_iff
    {seen : List String}
    {assets : List Asset} :
    repeatedId? seen assets = none ↔
      (assets.map (·.id)).Nodup ∧
        ∀ a ∈ assets, a.id ∉ seen := by
  induction assets generalizing seen with
  | nil => simp [repeatedId?]
  | cons a rest ih =>
      unfold repeatedId?
      rw [List.map_cons, List.nodup_cons, List.mem_map]
      by_cases hSeen : a.id ∈ seen
      · rw [if_pos (List.contains_iff_mem.2 hSeen)]
        refine iff_of_false nofun fun hAll => ?_
        exact hAll.2 a List.mem_cons_self hSeen
      · rw [if_neg fun h => hSeen (List.contains_iff_mem.1 h),
          ih]
        constructor
        · rintro ⟨hNodup, hRest⟩
          refine ⟨⟨?_, hNodup⟩, ?_⟩
          · rintro ⟨b, hb, hSame⟩
            exact hRest b hb (hSame ▸ List.mem_cons_self)
          · intro b hb hOld
            rcases List.mem_cons.1 hb with rfl | hLater
            · exact hSeen hOld
            · exact hRest b hLater
                (List.mem_cons_of_mem _ hOld)
        · rintro ⟨⟨hFirst, hNodup⟩, hRest⟩
          refine ⟨hNodup, fun b hb hOld => ?_⟩
          rcases List.mem_cons.1 hOld with hSame | hOld
          · exact hFirst ⟨b, hb, hSame⟩
          · exact hRest b (List.mem_cons_of_mem _ hb) hOld

/- What is loaded from a file is what it lists. -/
theorem load_eq_ok_iff :
    load files path = .ok assets ↔
      Lists files path assets := by
  constructor
  · intro hLoad
    unfold load at hLoad
    split at hLoad
    · cases hLoad
    · rename_i bytes hBytes
      split at hLoad
      · cases hLoad
      · rename_i found hRead
        split at hLoad
        · cases hLoad
        · rename_i hNone
          cases hLoad
          exact ⟨bytes, hBytes, hRead,
            (repeatedId?_eq_none_iff.1 hNone).1⟩
  · rintro ⟨bytes, hBytes, hRead, hIds⟩
    have hNone : repeatedId? [] assets = none :=
      repeatedId?_eq_none_iff.2
        ⟨hIds, fun _ _ => List.not_mem_nil⟩
    unfold load
    rw [hBytes]
    dsimp only
    rw [hRead]
    dsimp only
    rw [hNone]

theorem nodup_of_load
    (hLoad : load files path = .ok assets) :
    (assets.map (·.id)).Nodup := by
  rcases load_eq_ok_iff.1 hLoad with ⟨_, _, _, hIds⟩
  exact hIds

/- These are the files that can be loaded. -/
theorem isListed_iff :
    IsListed files path ↔
      ∃ assets, load files path = .ok assets := by
  constructor
  · rintro ⟨bytes, assets, hListed⟩
    exact ⟨assets, load_eq_ok_iff.2 ⟨bytes, hListed⟩⟩
  · rintro ⟨assets, hLoad⟩
    rcases load_eq_ok_iff.1 hLoad with ⟨bytes, hListed⟩
    exact ⟨bytes, assets, hListed⟩

------------------------------------------------------------
-- Reloads
------------------------------------------------------------

/- A source that reads a file has what it should have. -/
def Holds
    (held : String → List Asset) : AssetSource → Prop
  | fixed _ => True
  | file path assets => assets = held path

/- After a reload a source has what its file lists. -/
theorem holds_of_reload
    {s s' : AssetSource}
    (hReload : s.reload files = .ok s')
    {held : String → List Asset}
    (hHeld : ∀ path assets, load files path = .ok assets →
      held path = assets) :
    s'.Holds held := by
  cases s with
  | fixed assets =>
      cases hReload
      trivial
  | file path before =>
      rcases map_eq_ok_iff.1 hReload with ⟨assets, hLoad, rfl⟩
      exact (hHeld path assets hLoad).symm

end AssetSource

end DeviceHub
