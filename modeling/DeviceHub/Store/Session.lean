import DeviceHub.Run
import DeviceHub.Store.Devices

/-
  Events handed to a store one after the other, to change
  the states of the uses that their devices point to.

  Key definitions include:
    * `StateUpdate`
    * `StateTurn`
    * `DeviceStore.takeUpdate`
    * `DeviceStore.takeUpdates`
-/

namespace DeviceHub

/- An event and the device whose use it is to change. -/
structure StateUpdate where
  hardwareId : String
  event : StoredEvent

/- An update with what was answered. -/
structure StateTurn where
  update : StateUpdate
  answer : Except StoreError Unit

/- Whether an update was made. -/
def StateTurn.succeeded
    (t : StateTurn) : Bool :=
  match t.answer with
  | .ok _ => true
  | .error _ => false

namespace DeviceStore

/- Make an update and answer for it. -/
def takeUpdate
    (s : DeviceStore)
    (u : StateUpdate) : Except StoreError Unit × DeviceStore :=
  match s.updateState u.hardwareId u.event with
  | .ok s => (.ok (), s)
  | .error e => (.error e, s)

/- Make updates one after the other, and list their turns. -/
def takeUpdates
    (s : DeviceStore)
    (updates : List StateUpdate) :
    List StateTurn × DeviceStore :=
  runAll (fun s u =>
    ([⟨u, (s.takeUpdate u).1⟩], (s.takeUpdate u).2)) s
    updates

end DeviceStore

end DeviceHub
