import DeviceHub.Model.Device

/-
  Searching devices, a page at a time.

  Key definitions include:
    * `DeviceSearch`
    * `DeviceSearch.accepts`
    * `DeviceSearch.page`
    * `PagedResult`
-/

namespace DeviceHub

------------------------------------------------------------
-- Criteria
------------------------------------------------------------

/- Which devices are asked for, and which page of them. -/
structure DeviceSearch where
  specificationToken : Option String
  excludeAssigned : Bool
  startDate : Option Instant
  endDate : Option Instant
  pageNumber : Nat
  pageSize : Nat
  deriving DecidableEq, Repr

namespace DeviceSearch

/- All devices on one page. -/
def everything : DeviceSearch :=
  ⟨none, false, none, none, 1, 0⟩

instance : Inhabited DeviceSearch :=
  ⟨everything⟩

/- Whether a device is among those asked for. -/
def accepts
    (s : DeviceSearch)
    (d : Device) : Bool :=
  s.specificationToken.all (· == d.specificationToken) &&
    !(s.excludeAssigned && d.isAssigned) &&
    s.startDate.all (fun start =>
      !d.createdDate.before start) &&
    s.endDate.all (fun finish =>
      !finish.before d.createdDate)

/- The number of items on the pages before the current. -/
def skipped
    (s : DeviceSearch) : Nat :=
  (max s.pageNumber 1 - 1) * s.pageSize

/- The items on the page; size zero puts all on one page. -/
def page
    {α : Type}
    (s : DeviceSearch)
    (items : List α) : List α :=
  if s.pageSize = 0 then
    items
  else
    (items.drop s.skipped).take s.pageSize

/- The JSON form. -/
def toJson
    (s : DeviceSearch) : Json :=
  .record
    [("specificationToken", .text? s.specificationToken),
      ("excludeAssigned", .bool s.excludeAssigned),
      ("startDate", .ofOption .instant s.startDate),
      ("endDate", .ofOption .instant s.endDate),
      ("pageNumber", .nat s.pageNumber),
      ("pageSize", .nat s.pageSize)]

open Json in
/- Read the JSON form. -/
def reader : Reader DeviceSearch :=
  fun p d => do
    let m ← Members.of?
      ["specificationToken", "excludeAssigned", "startDate",
        "endDate", "pageNumber", "pageSize"] p d
    let specification ← m.optional "specificationToken" .text
    let exclude ← m.withDefault "excludeAssigned" false .bool
    let startDate ← m.optional "startDate" .instant
    let endDate ← m.optional "endDate" .instant
    let pageNumber ← m.required "pageNumber" (.nat 32)
    let pageSize ← m.required "pageSize" (.nat 32)
    some ⟨specification, exclude, startDate, endDate,
      pageNumber, pageSize⟩

end DeviceSearch

------------------------------------------------------------
-- Results
------------------------------------------------------------

/- One page of a result, with the number of all its items. -/
structure PagedResult (α : Type) where
  numResults : Nat
  results : List α
  deriving Inhabited

namespace PagedResult

variable {α : Type}

/- The JSON form. -/
def toJson
    (f : α → Json)
    (r : PagedResult α) : Json :=
  .record
    [("numResults", .nat r.numResults),
      ("results", .list (r.results.map f))]

open Json in
/- Read the JSON form. -/
def reader
    (r : Reader α) : Reader (PagedResult α) :=
  fun p d => do
    let m ← Members.of? ["numResults", "results"] p d
    let numResults ← m.required "numResults" (.nat 64)
    let results ← m.required "results" (.list r)
    some ⟨numResults, results⟩

end PagedResult

end DeviceHub
