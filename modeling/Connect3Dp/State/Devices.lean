import Connect3Dp.Builder.DiffLaw
import Connect3Dp.State.Values

/-!
# Extruders, nozzles and notifications, and their builders

The three values that only have scalar properties. Their builders raise nothing and their
reports are exact (`faithful`). `Notification.issuedAt` is init-only: `TryCreate` sets it and
`AppendUpdate` leaves it alone. No key is asserted for any of them: a notification has no key
property, and for the two structs the assertion works on a copy of the builder.
-/

namespace Connect3Dp

/-! ### Extruders -/

/-- `MachineExtruder`. -/
structure MachineExtruder where
  number : Int32
  heatingConstraint : HeatingConstraints
  tempC : Double
  targetTempC : Option Double
  nozzleNumber : Option Int32
  loadedSpool : Option SpoolLocation
  deriving DecidableEq, Inhabited

/-- `MachineExtruderUpdate`. -/
structure MachineExtruderUpdate where
  number : ScalarBuffer Int32
  heatingConstraint : ScalarBuffer HeatingConstraints
  tempC : ScalarBuffer Double
  targetTempC : ScalarBuffer (Option Double)
  nozzleNumber : ScalarBuffer (Option Int32)
  loadedSpool : ScalarBuffer (Option SpoolLocation)
  deriving DecidableEq, Inhabited

/-- `MachineExtruderChanges`. -/
structure MachineExtruderChanges where
  number : ScalarChanges Int32
  heatingConstraint : ScalarChanges HeatingConstraints
  tempC : ScalarChanges Double
  targetTempC : ScalarChanges (Option Double)
  nozzleNumber : ScalarChanges (Option Int32)
  loadedSpool : ScalarChanges (Option SpoolLocation)
  deriving DecidableEq, Inhabited

namespace MachineExtruderChanges

def hasChanged (c : MachineExtruderChanges) : Bool :=
  c.number.hasChanged || c.heatingConstraint.hasChanged || c.tempC.hasChanged ||
  c.targetTempC.hasChanged || c.nozzleNumber.hasChanged || c.loadedSpool.hasChanged

def replay (c : MachineExtruderChanges) (e : MachineExtruder) : MachineExtruder where
  number := c.number.replay e.number
  heatingConstraint := c.heatingConstraint.replay e.heatingConstraint
  tempC := c.tempC.replay e.tempC
  targetTempC := c.targetTempC.replay e.targetTempC
  nozzleNumber := c.nozzleNumber.replay e.nozzleNumber
  loadedSpool := c.loadedSpool.replay e.loadedSpool

end MachineExtruderChanges

namespace MachineExtruderUpdate

/-- `Changes(in MachineExtruder)`. -/
def changes (u : MachineExtruderUpdate) (e : MachineExtruder) : MachineExtruderChanges where
  number := u.number.changes e.number
  heatingConstraint := u.heatingConstraint.changes e.heatingConstraint
  tempC := u.tempC.changes e.tempC
  targetTempC := u.targetTempC.changes e.targetTempC
  nozzleNumber := u.nozzleNumber.changes e.nozzleNumber
  loadedSpool := u.loadedSpool.changes e.loadedSpool

/-- `AppendUpdate(ref MachineExtruder, out _)`. -/
def apply (u : MachineExtruderUpdate) (e : MachineExtruder) : MachineExtruder where
  number := u.number.apply e.number
  heatingConstraint := u.heatingConstraint.apply e.heatingConstraint
  tempC := u.tempC.apply e.tempC
  targetTempC := u.targetTempC.apply e.targetTempC
  nozzleNumber := u.nozzleNumber.apply e.nozzleNumber
  loadedSpool := u.loadedSpool.apply e.loadedSpool

/-- `TryCreate`. -/
def tryCreate (u : MachineExtruderUpdate) : Option MachineExtruder :=
  if u.number.isSet && u.heatingConstraint.isSet && u.tempC.isSet then
    some (u.apply { (default : MachineExtruder) with
      number := u.number.value
      heatingConstraint := u.heatingConstraint.value
      tempC := u.tempC.value })
  else none

/-- How an entry of `MachineState.Extruders` is merged. -/
def updater : Updater Int32 MachineExtruderUpdate MachineExtruder MachineExtruderChanges where
  assertKey _ u := u
  diff u e := if (u.changes e).hasChanged then some (u.changes e) else none
  tryCreate := tryCreate
  appendUpdate := apply

theorem hasChanged_eq_false_iff {u : MachineExtruderUpdate} {e : MachineExtruder} :
    (u.changes e).hasChanged = false ↔ u.apply e = e := by
  obtain ⟨⟩ := e
  simp only [MachineExtruderChanges.hasChanged, changes, apply, Bool.or_eq_false_iff, and_assoc,
    ScalarChanges.hasChanged_eq_false_iff, MachineExtruder.mk.injEq,
    ScalarBuffer.apply_eq_self_iff]

theorem faithful (u : MachineExtruderUpdate) (e : MachineExtruder) :
    updater.Faithful (· = ·) MachineExtruderChanges.replay u e := by
  refine Updater.faithful_of_replay (c := u.changes e) rfl ?_ hasChanged_eq_false_iff
  simp only [MachineExtruderChanges.replay, changes, ScalarChanges.replay_changes, updater, apply]

end MachineExtruderUpdate

/-! ### Nozzles -/

/-- `MachineNozzle`. -/
structure MachineNozzle where
  number : Int32
  diameter : Double
  deriving DecidableEq, Inhabited

/-- `MachineNozzleUpdate`. -/
structure MachineNozzleUpdate where
  number : ScalarBuffer Int32
  diameter : ScalarBuffer Double
  deriving DecidableEq, Inhabited

/-- `MachineNozzleChanges`. -/
structure MachineNozzleChanges where
  number : ScalarChanges Int32
  diameter : ScalarChanges Double
  deriving DecidableEq, Inhabited

namespace MachineNozzleChanges

def hasChanged (c : MachineNozzleChanges) : Bool :=
  c.number.hasChanged || c.diameter.hasChanged

def replay (c : MachineNozzleChanges) (n : MachineNozzle) : MachineNozzle where
  number := c.number.replay n.number
  diameter := c.diameter.replay n.diameter

end MachineNozzleChanges

namespace MachineNozzleUpdate

/-- `Changes(in MachineNozzle)`. -/
def changes (u : MachineNozzleUpdate) (n : MachineNozzle) : MachineNozzleChanges where
  number := u.number.changes n.number
  diameter := u.diameter.changes n.diameter

/-- `AppendUpdate(ref MachineNozzle, out _)`. -/
def apply (u : MachineNozzleUpdate) (n : MachineNozzle) : MachineNozzle where
  number := u.number.apply n.number
  diameter := u.diameter.apply n.diameter

/-- `TryCreate`. -/
def tryCreate (u : MachineNozzleUpdate) : Option MachineNozzle :=
  if u.number.isSet && u.diameter.isSet then
    some (u.apply { number := u.number.value, diameter := u.diameter.value })
  else none

/-- How an entry of `MachineState.Nozzles` is merged. -/
def updater : Updater Int32 MachineNozzleUpdate MachineNozzle MachineNozzleChanges where
  assertKey _ u := u
  diff u n := if (u.changes n).hasChanged then some (u.changes n) else none
  tryCreate := tryCreate
  appendUpdate := apply

theorem hasChanged_eq_false_iff {u : MachineNozzleUpdate} {n : MachineNozzle} :
    (u.changes n).hasChanged = false ↔ u.apply n = n := by
  obtain ⟨⟩ := n
  simp only [MachineNozzleChanges.hasChanged, changes, apply, Bool.or_eq_false_iff,
    ScalarChanges.hasChanged_eq_false_iff, MachineNozzle.mk.injEq, ScalarBuffer.apply_eq_self_iff]

theorem faithful (u : MachineNozzleUpdate) (n : MachineNozzle) :
    updater.Faithful (· = ·) MachineNozzleChanges.replay u n := by
  refine Updater.faithful_of_replay (c := u.changes n) rfl ?_ hasChanged_eq_false_iff
  simp only [MachineNozzleChanges.replay, changes, ScalarChanges.replay_changes, updater, apply]

end MachineNozzleUpdate

/-! ### Notifications -/

/-- `Notification`. -/
structure Notification where
  message : MachineMessage
  issuedAt : DateTimeOffset
  lastSeenAt : DateTimeOffset
  deriving DecidableEq, Inhabited

/-- `NotificationUpdate`. -/
structure NotificationUpdate where
  message : ScalarBuffer MachineMessage
  issuedAt : ScalarBuffer DateTimeOffset
  lastSeenAt : ScalarBuffer DateTimeOffset
  deriving DecidableEq, Inhabited

/-- `NotificationChanges`. An init-only property has no part in it. -/
structure NotificationChanges where
  message : ScalarChanges MachineMessage
  lastSeenAt : ScalarChanges DateTimeOffset
  deriving DecidableEq, Inhabited

namespace NotificationChanges

def hasChanged (c : NotificationChanges) : Bool :=
  c.message.hasChanged || c.lastSeenAt.hasChanged

def replay (c : NotificationChanges) (n : Notification) : Notification :=
  { n with
    message := c.message.replay n.message
    lastSeenAt := c.lastSeenAt.replay n.lastSeenAt }

end NotificationChanges

namespace NotificationUpdate

/-- `Changes(Notification)`. -/
def changes (u : NotificationUpdate) (n : Notification) : NotificationChanges where
  message := u.message.changes n.message
  lastSeenAt := u.lastSeenAt.changes n.lastSeenAt

/-- `AppendUpdate(Notification, out _)`. -/
def apply (u : NotificationUpdate) (n : Notification) : Notification :=
  { n with
    message := u.message.apply n.message
    lastSeenAt := u.lastSeenAt.apply n.lastSeenAt }

/-- `TryCreate`. -/
def tryCreate (u : NotificationUpdate) : Option Notification :=
  if u.message.isSet && u.issuedAt.isSet && u.lastSeenAt.isSet then
    some (u.apply {
      message := u.message.value
      issuedAt := u.issuedAt.value
      lastSeenAt := u.lastSeenAt.value })
  else none

/-- How an entry of `MachineState.Notifications` is merged. -/
def updater : Updater String NotificationUpdate Notification NotificationChanges where
  assertKey _ u := u
  diff u n := if (u.changes n).hasChanged then some (u.changes n) else none
  tryCreate := tryCreate
  appendUpdate := apply

theorem hasChanged_eq_false_iff {u : NotificationUpdate} {n : Notification} :
    (u.changes n).hasChanged = false ↔ u.apply n = n := by
  obtain ⟨⟩ := n
  simp only [NotificationChanges.hasChanged, changes, apply, Bool.or_eq_false_iff,
    ScalarChanges.hasChanged_eq_false_iff, Notification.mk.injEq, ScalarBuffer.apply_eq_self_iff,
    true_and]

theorem faithful (u : NotificationUpdate) (n : Notification) :
    updater.Faithful (· = ·) NotificationChanges.replay u n := by
  refine Updater.faithful_of_replay (c := u.changes n) rfl ?_ hasChanged_eq_false_iff
  simp only [NotificationChanges.replay, changes, ScalarChanges.replay_changes, updater, apply]

end NotificationUpdate

end Connect3Dp
