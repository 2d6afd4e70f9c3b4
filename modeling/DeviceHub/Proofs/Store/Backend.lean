import DeviceHub.Proofs.Dict
import DeviceHub.Proofs.Except
import DeviceHub.Store.Backend

/-
  A storage without faults: it answers every call, and keeps
  every event of a known device.

  Key definitions include:
    * `Backend.record`

  Main statements:
    * `Backend.guarded_eq`
    * `Backend.createEvent_eq`
    * `Backend.eventsOf_record`
-/

namespace DeviceHub

namespace Backend

variable {b : Backend}

/- A storage without faults answers every call. -/
theorem guarded_eq
    {α : Type}
    (hFaults : b.faults = [])
    (call : StorageCall)
    (answer : Except StoreError α) :
    b.guarded call answer = answer := by
  simp [guarded, hFaults]

/- The storage after an event of a device has been kept. -/
def record
    (b : Backend)
    (d : Device)
    (hardwareId : String)
    (e : DecodedEvent) : Backend :=
  { b with
    store := { b.store with
      events := b.store.events.insert hardwareId
        (b.store.eventsOf hardwareId ++
          [DeviceStore.stored d (b.eventId (b.created + 1))
            b.now hardwareId e]) }
    created := b.created + 1 }

/- A kept event shows among those of its device only. -/
theorem eventsOf_record
    (d : Device)
    (hardwareId other : String)
    (e : DecodedEvent) :
    (b.record d hardwareId e).store.eventsOf other =
      b.store.eventsOf other ++
        if other = hardwareId then
          [DeviceStore.stored d (b.eventId (b.created + 1))
            b.now hardwareId e]
        else [] := by
  simp only [record, DeviceStore.eventsOf, Dict.get?_insert]
  by_cases hSame : other = hardwareId
  · simp [hSame]
  · simp [hSame]

/- An event of a known device is kept. -/
theorem createEvent_eq
    (hFaults : b.faults = [])
    {d : Device}
    {hardwareId : String}
    (hDevice : b.store.devices.get? hardwareId = some d)
    (e : DecodedEvent) :
    b.createEvent hardwareId e =
      .ok (DeviceStore.stored d (b.eventId (b.created + 1))
        b.now hardwareId e, b.record d hardwareId e) := by
  simp [createEvent, guarded_eq hFaults,
    DeviceStore.createEvent, hDevice, record]

end Backend

end DeviceHub
