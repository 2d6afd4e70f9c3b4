import DeviceHub.Proofs.Assets.Module
import DeviceHub.Proofs.Lifecycle.Leaf
import Mathlib.Algebra.Group.Nat.Defs
import Mathlib.Data.Finset.Card
import Mathlib.Data.List.Forall2

/-
  An asset module in use, with a cache and without one, and
  the counters of the cache.

  No answer but that for the counters tells the two apart.
  From one reload to the next, or to a stop, the counters
  follow from the look-ups made.

  Key definitions include:
    * `ModuleTurn.Matches`
    * `ModuleSession.Twin`
    * `Cache.Counted`
    * `ModuleSession.ControlOf`

  Main statements:
    * `ModuleSession.Twin.step`
    * `ModuleSession.Twin.run`
    * `ModuleSession.exists_counted_step`
    * `ModuleSession.exists_counted_run`
    * `ModuleSession.cache_is_invisible`
-/

namespace DeviceHub

------------------------------------------------------------
-- Two Sessions
------------------------------------------------------------

/- The same call, and but for the counters the same answer. -/
structure ModuleTurn.Matches
    (t t' : ModuleTurn) : Prop where
  request : t.request = t'.request
  answer : t.request ≠ .stats → t.answer = t'.answer

namespace ModuleSession

variable {κ : Type}
variable {s u : ModuleSession κ}

/- No call lets a module pause. -/
theorem isSimple_step
    (hSimple : s.component.IsSimple)
    (files : FileView)
    (request : ModuleRequest) :
    (s.step files request).2.component.IsSimple := by
  cases request with
  | find | search | refresh | stats => exact hSimple
  | control action =>
      exact (Tree.leafCall (AssetModule.hooks files) action
        hSimple s.body).isSimple hSimple

/- Two sessions that differ in the cache only. -/
structure Twin
    (s u : ModuleSession κ) : Prop where
  component : s.component = u.component
  simple : s.component.IsSimple
  body : s.body.Twin u.body

theorem Twin.step
    (hTwin : s.Twin u)
    (files : FileView)
    (request : ModuleRequest) :
    (request ≠ .stats →
        (s.step files request).1 = (u.step files request).1) ∧
      (s.step files request).2.Twin
        (u.step files request).2 := by
  cases request with
  | find id =>
      have hFind := hTwin.body.find id
      refine ⟨fun _ => ?_, hTwin.component, hTwin.simple,
        hFind.2⟩
      exact congrArg ModuleAnswer.found hFind.1
  | search criteria =>
      refine ⟨fun _ => ?_, hTwin⟩
      change ModuleAnswer.listed (s.body.search criteria) =
        .listed (u.body.search criteria)
      rw [hTwin.body.uncached]
      rfl
  | refresh =>
      have hRefresh := hTwin.body.refresh files
      refine ⟨fun _ => ?_, hTwin.component, hTwin.simple,
        hRefresh.2⟩
      exact congrArg ModuleAnswer.refreshed hRefresh.1
  | control action =>
      rcases s with ⟨body, component⟩
      rcases u with ⟨plain, component'⟩
      rcases hTwin with ⟨hComponent, hSimple, hBody⟩
      cases hComponent
      have hAlike := Tree.alike_call
        (AssetModule.hooksAgree_twin files) action
        (t := .leaf component) (fun _ _ _ => trivial) hBody
      refine ⟨fun _ => ?_, ?_,
        isSimple_step hSimple files (.control action),
        hAlike.state⟩
      · exact congrArg ModuleAnswer.controlled hAlike.result
      · exact congrArg Tree.self hAlike.tree
  | stats =>
      exact ⟨fun hOther => absurd rfl hOther, hTwin⟩

theorem Twin.run
    (hTwin : s.Twin u)
    (calls : List (FileView × ModuleRequest)) :
    List.Forall₂ ModuleTurn.Matches (s.run calls).1
        (u.run calls).1 ∧
      (s.run calls).2.Twin (u.run calls).2 := by
  refine runAll_induct
    (P := fun taken turns (s : ModuleSession κ) =>
      List.Forall₂ ModuleTurn.Matches turns (u.run taken).1 ∧
        s.Twin (u.run taken).2)
    ?_ ⟨.nil, hTwin⟩ calls
  rintro taken turns s ⟨files, request⟩ ⟨hTurns, hTwin⟩
  have hStep := hTwin.step files request
  rw [ModuleSession.run, runAll_append]
  exact ⟨List.rel_append hTurns (.cons ⟨rfl, hStep.1⟩ .nil),
    hStep.2⟩

/- The sessions of a new module, with and without a cache. -/
theorem twin_new
    (label : κ)
    (id name : String)
    (type : AssetType)
    (source : AssetSource) :
    (new label id name type source true).Twin
      (new label id name type source false) :=
  ⟨rfl, Component.isSimple_new _ _ _,
    AssetModule.twin_new id name type source⟩

end ModuleSession

------------------------------------------------------------
-- Counters
------------------------------------------------------------

/- What a cache holds and counts after some turns. -/
structure Cache.Counted
    (c : Cache Asset)
    (turns : List ModuleTurn) : Prop where
  requests : c.requests = turns.countP ModuleTurn.isLookUp
  entries : ∀ id, (c.entries.get? id).isSome = true ↔
    id ∈ ModuleTurn.foundIds turns
  hits : c.hits + (ModuleTurn.foundIds turns).toFinset.card =
    (ModuleTurn.foundIds turns).length

namespace Cache

variable {c : Cache Asset}
variable {turns : List ModuleTurn}

theorem counted_new
    (name : String) :
    (Cache.new name : Cache Asset).Counted [] := by
  constructor
  · rfl
  · intro id
    simp [Cache.new, ModuleTurn.foundIds]
  · rfl

/- A turn that is no look-up does not count. -/
theorem Counted.other
    (hCounted : c.Counted turns)
    {t : ModuleTurn}
    (hOther : ∀ id, t.request ≠ .find id) :
    c.Counted (turns ++ [t]) := by
  rcases t with ⟨request, answer⟩
  have hNoLookUp :
      ModuleTurn.isLookUp ⟨request, answer⟩ = false := by
    cases request with
    | find id => exact absurd rfl (hOther id)
    | search | refresh | control | stats => rfl
  have hNotFound : ModuleTurn.foundIds
      (turns ++ [⟨request, answer⟩]) =
        ModuleTurn.foundIds turns := by
    have hNone :
        ModuleTurn.foundId? ⟨request, answer⟩ = none := by
      cases request with
      | find id => exact absurd rfl (hOther id)
      | search | refresh | control | stats => rfl
    simp [ModuleTurn.foundIds, hNone]
  constructor
  · rw [hCounted.requests, List.countP_append]
    simp [hNoLookUp]
  · rw [hNotFound]
    exact hCounted.entries
  · rw [hNotFound]
    exact hCounted.hits

/- A look-up is one more request. -/
theorem Counted.requests_succ
    (hCounted : c.Counted turns)
    (id : String)
    (answer : ModuleAnswer) :
    c.requests + 1 =
      (turns ++ [⟨.find id, answer⟩] : List ModuleTurn).countP
        ModuleTurn.isLookUp := by
  rw [hCounted.requests, List.countP_append]
  rfl

theorem foundIds_found
    (turns : List ModuleTurn)
    (id : String)
    (a : Asset) :
    ModuleTurn.foundIds
        (turns ++ [⟨.find id, .found (some a)⟩]) =
      ModuleTurn.foundIds turns ++ [id] :=
  List.filterMap_append

theorem foundIds_missed
    (turns : List ModuleTurn)
    (id : String) :
    ModuleTurn.foundIds (turns ++ [⟨.find id, .found none⟩]) =
      ModuleTurn.foundIds turns := by
  simp [ModuleTurn.foundIds, ModuleTurn.foundId?]

theorem toFinset_foundIds_found
    (turns : List ModuleTurn)
    (id : String)
    (a : Asset) :
    (ModuleTurn.foundIds
        (turns ++ [⟨.find id, .found (some a)⟩])).toFinset =
      insert id (ModuleTurn.foundIds turns).toFinset := by
  rw [foundIds_found]
  ext key
  simp

/- An id found before is found in the cache: a hit. -/
theorem Counted.hit
    (hCounted : c.Counted turns)
    {id : String}
    {a : Asset}
    (hEntry : c.entries.get? id = some a) :
    Counted ⟨c.name, c.entries, c.requests + 1, c.hits + 1⟩
      (turns ++ [⟨.find id, .found (some a)⟩]) := by
  have hHits := hCounted.hits
  have hMem : id ∈ ModuleTurn.foundIds turns := by
    apply (hCounted.entries id).1
    rw [hEntry]
    rfl
  refine ⟨hCounted.requests_succ id _, ?_, ?_⟩
  · intro key
    rw [foundIds_found, List.mem_append, List.mem_singleton,
      hCounted.entries key]
    constructor
    · exact .inl
    · rintro (hKey | rfl)
      · exact hKey
      · exact hMem
  · rw [toFinset_foundIds_found, Finset.insert_eq_of_mem
      (List.mem_toFinset.2 hMem), foundIds_found,
      List.length_append, List.length_singleton]
    dsimp only
    omega

/- An id found for the first time is put into the cache. -/
theorem Counted.filled
    (hCounted : c.Counted turns)
    {id : String}
    (hEntry : c.entries.get? id = none)
    (a : Asset) :
    Counted ⟨c.name, c.entries.insert id a, c.requests + 1,
        c.hits⟩
      (turns ++ [⟨.find id, .found (some a)⟩]) := by
  have hHits := hCounted.hits
  have hNew : id ∉ ModuleTurn.foundIds turns := by
    rw [← hCounted.entries, hEntry]
    simp
  refine ⟨hCounted.requests_succ id _, ?_, ?_⟩
  · intro key
    rw [foundIds_found, List.mem_append, List.mem_singleton,
      KeyMap.get?_insert, ← hCounted.entries key]
    by_cases hKey : key = id
    · simp [hKey]
    · simp [hKey]
  · rw [toFinset_foundIds_found, Finset.card_insert_of_notMem
      (mt List.mem_toFinset.1 hNew), foundIds_found,
      List.length_append, List.length_singleton]
    dsimp only
    omega

/- An id that is not found is a request and no more. -/
theorem Counted.missed
    (hCounted : c.Counted turns)
    (id : String) :
    Counted ⟨c.name, c.entries, c.requests + 1, c.hits⟩
      (turns ++ [⟨.find id, .found none⟩]) := by
  refine ⟨hCounted.requests_succ id _, ?_, ?_⟩
  · rw [foundIds_missed]
    exact hCounted.entries
  · rw [foundIds_missed]
    exact hCounted.hits

/- Every look-up is counted, whichever way it goes. -/
theorem Counted.find
    (hCounted : c.Counted turns)
    {m : AssetModule}
    (hCache : m.cache = some c)
    (id : String) :
    ∃ c', (m.find id).2.cache = some c' ∧
      c'.Counted
        (turns ++ [⟨.find id, .found (m.find id).1⟩]) := by
  have hFind := m.find_cases id
  generalize m.find id = r at hFind ⊢
  cases hFind with
  | uncached hNone =>
      rw [hCache] at hNone
      cases hNone
  | hit hHere hEntry =>
      cases hCache.symm.trans hHere
      exact ⟨_, rfl, hCounted.hit hEntry⟩
  | @filled _ a hHere hEntry =>
      cases hCache.symm.trans hHere
      exact ⟨_, rfl, hCounted.filled hEntry a⟩
  | missed hHere =>
      cases hCache.symm.trans hHere
      exact ⟨_, rfl, hCounted.missed id⟩

/- No more look-ups were hits than were made. -/
theorem Counted.hits_le
    (hCounted : c.Counted turns) :
    c.hits ≤ c.requests := by
  have hFound : (ModuleTurn.foundIds turns).length ≤
      turns.countP ModuleTurn.isLookUp := by
    unfold ModuleTurn.foundIds
    rw [List.length_filterMap_eq_countP]
    refine List.countP_mono_left fun t _ hSome => ?_
    rcases t with ⟨request, answer⟩
    cases request with
    | find id => rfl
    | search | refresh | control | stats => cases hSome
  have hHits := hCounted.hits
  rw [hCounted.requests]
  omega

/- The number of entries is that of the ids found. -/
theorem Counted.size_eq
    (hCounted : c.Counted turns) :
    c.entries.size =
      (ModuleTurn.foundIds turns).toFinset.card := by
  have hKeys : c.entries.keys.toFinset =
      (ModuleTurn.foundIds turns).toFinset := by
    ext id
    rw [List.mem_toFinset, List.mem_toFinset,
      KeyMap.mem_keys_iff, hCounted.entries]
  rw [← hKeys, List.toFinset_card_of_nodup
    c.entries.nodup_keys, KeyMap.length_keys]

end Cache

namespace ModuleSession

variable {κ : Type}
variable {s : ModuleSession κ}

/-
  The ways in which a lifecycle call can go: a start that
  succeeds reloads the module, a stop that succeeds drops its
  cache, and any other call leaves it as it is.
-/
inductive ControlOf
    (s : ModuleSession κ)
    (files : FileView) :
    LifecycleAction →
      ModuleAnswer × ModuleSession κ → Prop where
  | kept
      {action : LifecycleAction}
      {result : Except LifecycleError Status}
      {c : Component κ}
      (hResult : ∀ status, result = .ok status →
        action = .pause ∨ action = .reset) :
      ControlOf s files action
        (.controlled result, ⟨s.body, c⟩)
  | reloaded
      {m : AssetModule}
      {status : Status}
      {c : Component κ}
      (hReload : s.body.reload files = .ok m) :
      ControlOf s files .start
        (.controlled (.ok status), ⟨m, c⟩)
  | dropped
      {status : Status}
      {c : Component κ} :
      ControlOf s files .stop
        (.controlled (.ok status),
          ⟨{ s.body with cache := none }, c⟩)

theorem controlOf_step
    (hSimple : s.component.IsSimple)
    (files : FileView)
    (action : LifecycleAction) :
    ControlOf s files action
      (s.step files (.control action)) := by
  have hCall := Tree.leafCall (AssetModule.hooks files) action
    hSimple s.body
  simp only [step]
  generalize Tree.call (AssetModule.hooks files) action
    (.leaf s.component) s.body = o at hCall ⊢
  cases hCall with
  | idle hResult =>
      exact .kept fun status hOk => .inl (hResult status hOk)
  | started hStatus hHook =>
      exact .reloaded (AssetModule.reload_of_loadSource hHook)
  | unstarted hStatus hHook =>
      cases AssetModule.eq_of_loadSource_error hHook
      apply ControlOf.kept
      intro status hOk
      cases hOk
  | stopped hStatus hHook =>
      cases hHook
      exact .dropped
  | unstopped hStatus hHook => cases hHook
  | cleared => exact .kept fun _ _ => .inr rfl

/- After a reload the cache is new. -/
theorem exists_counted_of_isReload
    (hSimple : s.component.IsSimple)
    (hEnabled : s.body.cacheEnabled = true)
    {files : FileView}
    {request : ModuleRequest}
    (hReload : ModuleTurn.isReload
      ⟨request, (s.step files request).1⟩ = true) :
    ∃ c, (s.step files request).2.body.cache = some c ∧
      c.Counted [] := by
  cases request with
  | find | search | stats => cases hReload
  | refresh =>
      simp only [step, AssetModule.refresh] at hReload ⊢
      cases hBody : s.body.reload files with
      | error e =>
          rw [hBody] at hReload
          cases hReload
      | ok m =>
          rcases AssetModule.cache_of_reload hEnabled hBody
            with ⟨name, hCache⟩
          exact ⟨_, hCache, Cache.counted_new name⟩
  | control action =>
      have hControl := controlOf_step hSimple files action
      generalize s.step files (.control action) = r
        at hControl hReload ⊢
      cases hControl with
      | reloaded hBody =>
          rcases AssetModule.cache_of_reload hEnabled hBody
            with ⟨name, hCache⟩
          exact ⟨_, hCache, Cache.counted_new name⟩
      | dropped => cases hReload
      | @kept _ result _ hResult =>
          cases result with
          | error e => cases action <;> cases hReload
          | ok status =>
              rcases hResult status rfl with rfl | rfl <;>
                cases hReload

/- A turn that is no reload and no stop is counted. -/
theorem exists_counted_step
    (hSimple : s.component.IsSimple)
    {c : Cache Asset}
    {turns : List ModuleTurn}
    (hCache : s.body.cache = some c)
    (hCounted : c.Counted turns)
    {files : FileView}
    {request : ModuleRequest}
    (hReload : ModuleTurn.isReload
      ⟨request, (s.step files request).1⟩ = false)
    (hStop : ModuleTurn.isStop
      ⟨request, (s.step files request).1⟩ = false) :
    ∃ c', (s.step files request).2.body.cache = some c' ∧
      c'.Counted
        (turns ++ [⟨request, (s.step files request).1⟩]) := by
  cases request with
  | find id => exact hCounted.find hCache id
  | search | stats =>
      refine ⟨c, hCache, hCounted.other ?_⟩
      intro id hFind
      cases hFind
  | refresh =>
      refine ⟨c, ?_, hCounted.other fun id hFind => ?_⟩
      · simp only [step, AssetModule.refresh] at hReload ⊢
        cases hBody : s.body.reload files with
        | error e => exact hCache
        | ok m =>
            rw [hBody] at hReload
            cases hReload
      · cases hFind
  | control action =>
      refine ⟨c, ?_, hCounted.other fun id hFind => ?_⟩
      · have hControl := controlOf_step hSimple files action
        generalize s.step files (.control action) = r
          at hControl hReload hStop ⊢
        cases hControl with
        | kept => exact hCache
        | reloaded => cases hReload
        | dropped => cases hStop
      · cases hFind

/- Turns without a reload or a stop are all counted. -/
theorem exists_counted_run
    (hSimple : s.component.IsSimple)
    {c : Cache Asset}
    (hCache : s.body.cache = some c)
    (hCounted : c.Counted [])
    {calls : List (FileView × ModuleRequest)}
    (hQuiet : ∀ t ∈ (s.run calls).1,
      t.isReload = false ∧ t.isStop = false) :
    ∃ c', (s.run calls).2.body.cache = some c' ∧
      c'.Counted (s.run calls).1 := by
  refine (runAll_induct
    (P := fun _ (turns : List ModuleTurn)
        (s : ModuleSession κ) =>
      s.component.IsSimple ∧
        ((∀ t ∈ turns, t.isReload = false ∧
            t.isStop = false) →
          ∃ c, s.body.cache = some c ∧ c.Counted turns))
    ?_ ⟨hSimple, fun _ => ⟨c, hCache, hCounted⟩⟩ calls
    ).2 hQuiet
  rintro - turns s ⟨files, request⟩ ⟨hSimple, hSoFar⟩
  refine ⟨isSimple_step hSimple files request,
    fun hQuiet => ?_⟩
  rcases hSoFar fun t ht =>
      hQuiet t (List.mem_append_left _ ht) with
    ⟨c, hCache, hCounted⟩
  have hNow := hQuiet _
    (List.mem_append_right _ List.mem_cons_self)
  exact exists_counted_step hSimple hCache hCounted hNow.1
    hNow.2

/-
  With and without a cache a module gives the same answers,
  whatever its source, its file and the calls.  From a reload
  until the next, or until a stop, the counters follow from
  the look-ups made since, and are words while these can be
  counted in one.
-/
theorem cache_is_invisible
    (label : κ)
    (id name : String)
    (type : AssetType)
    (source : AssetSource) :
    (∀ calls, List.Forall₂ ModuleTurn.Matches
        ((new label id name type source true).run calls).1
        ((new label id name type source false).run calls).1) ∧
      ∀ before files request after,
        let cached := ((new label id name type source true).run
          before).2
        let reloaded := cached.step files request
        let turns := (reloaded.2.run after).1
        let ids := ModuleTurn.foundIds turns
        ModuleTurn.isReload ⟨request, reloaded.1⟩ = true →
        (∀ t ∈ turns, t.isReload = false ∧
          t.isStop = false) →
        ∃ stats,
          ((reloaded.2.run after).2.step files .stats).1 =
              .stats (some stats) ∧
            stats.requestCount =
              turns.countP ModuleTurn.isLookUp ∧
            stats.elementCount = ids.toFinset.card ∧
            stats.hitCount = ids.length - ids.toFinset.card ∧
            (turns.countP ModuleTurn.isLookUp < 2 ^ 64 →
              stats.requestCount < 2 ^ 64 ∧
                stats.hitCount < 2 ^ 64) := by
  have hTwin := twin_new label id name type source
  refine ⟨fun calls => (hTwin.run calls).1, ?_⟩
  intro before files request after cached reloaded turns ids
    hReload hQuiet
  have hCached := (hTwin.run before).2
  rcases exists_counted_of_isReload hCached.simple
      hCached.body.enabled hReload with ⟨c, hCache, hCounted⟩
  rcases exists_counted_run
      (isSimple_step hCached.simple files request) hCache
      hCounted hQuiet with
    ⟨c', hCache', hCounted'⟩
  have hHits := hCounted'.hits
  refine ⟨c'.stats, ?_, hCounted'.requests, hCounted'.size_eq,
    ?_, fun hWord => ?_⟩
  · exact congrArg
      (fun cache => ModuleAnswer.stats (cache.map Cache.stats))
      hCache'
  · exact Nat.eq_sub_of_add_eq hHits
  · rw [← hCounted'.requests] at hWord
    exact ⟨hWord, hCounted'.hits_le.trans_lt hWord⟩

/- One asset looked up twice, and one that is not there. -/
theorem cache_is_invisible_twice :
    let files : FileView := fun _ => .missing
    let asset : Asset :=
      .new "hw-1" "Gateway" (.hardware "GW" none)
    let s : ModuleSession Unit :=
      .new () "hw" "Hardware" .hardware (.fixed [asset]) true
    let calls : List (FileView × ModuleRequest) :=
      [(files, .find "hw-1"), (files, .find "hw-1"),
        (files, .find "hw-2")]
    let started := s.step files (.control .start)
    ModuleTurn.isReload ⟨.control .start, started.1⟩ = true ∧
      (∀ t ∈ (started.2.run calls).1,
        t.isReload = false ∧ t.isStop = false) ∧
      ∃ stats,
        ((started.2.run calls).2.step files .stats).1 =
            .stats (some stats) ∧
          stats.requestCount = 3 ∧ stats.elementCount = 1 ∧
          stats.hitCount = 1 := by
  intro files asset s calls started
  have hReload :
      ModuleTurn.isReload ⟨.control .start, started.1⟩ =
        true := rfl
  have hQuiet : ∀ t ∈ (started.2.run calls).1,
      t.isReload = false ∧ t.isStop = false := by
    have hAll : (started.2.run calls).1.all
        (fun t => !t.isReload && !t.isStop) = true := rfl
    simpa using hAll
  rcases (cache_is_invisible () "hw" "Hardware" .hardware
      (.fixed [asset])).2 [] files (.control .start) calls
      hReload hQuiet with
    ⟨stats, hStats, hRequests, hElements, hHits, -⟩
  exact ⟨hReload, hQuiet, stats, hStats, hRequests, hElements,
    hHits⟩

end ModuleSession

end DeviceHub
