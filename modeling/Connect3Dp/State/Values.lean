import Connect3Dp.Collections.Dictionary
import Connect3Dp.Runtime.Values

/-!
# The values a machine's state is made of

The enumerations and immutable records of `Lib3Dp.State`. Two of them are compared otherwise
than field by field in the source, which their definitions here account for: a `MaterialColor`
is its red, green and blue parts, since its `Equals` looks at nothing else, and the materials of
a `LocalPrintJob` are a dictionary object, which the record compares by reference.
-/

namespace Connect3Dp

/-- `MachineStatus`. -/
inductive MachineStatus
  | disconnected
  | connecting
  | idle
  | printing
  | printed
  | paused
  | canceled
  deriving DecidableEq, Inhabited, Repr

/-- `MachineAirDuctMode`. -/
inductive MachineAirDuctMode
  | none
  | cooling
  | heating
  deriving DecidableEq, Inhabited

/-- `MachineCapabilities`, a set of flags. -/
abbrev MachineCapabilities := BitVec 32

namespace MachineCapabilities

def none : MachineCapabilities := 1 <<< 0

def startLocalJob : MachineCapabilities := 1 <<< 1

def control : MachineCapabilities := 1 <<< 2

def lighting : MachineCapabilities := 1 <<< 4

def airDuct : MachineCapabilities := 1 <<< 5

def printOptionsBedLevel : MachineCapabilities := 1 <<< 7

def printOptionsFlowCalibration : MachineCapabilities := 1 <<< 8

def printOptionsInspectFirstLayer : MachineCapabilities := 1 <<< 10

def fans : MachineCapabilities := 1 <<< 11

def camera : MachineCapabilities := 1 <<< 12

def printHistory : MachineCapabilities := 1 <<< 14

def localJobs : MachineCapabilities := 1 <<< 17

def temps : MachineCapabilities := 1 <<< 19

def printSpeedControl : MachineCapabilities := 1 <<< 20

end MachineCapabilities

/-- `MUCapabilities`, a set of flags. -/
abbrev MUCapabilities := BitVec 32

namespace MUCapabilities

def automaticFeeding : MUCapabilities := 1 <<< 1

def heating : MUCapabilities := 1 <<< 2

def heatingCanSpin : MUCapabilities := 1 <<< 3

def humidity : MUCapabilities := 1 <<< 4

def temperature : MUCapabilities := 1 <<< 5

end MUCapabilities

/-- `MachineMessageSeverity`. -/
inductive MachineMessageSeverity
  | info
  | success
  | warning
  | error
  deriving DecidableEq, Inhabited

/-- `MachineMessageActions`, a set of flags. -/
abbrev MachineMessageActions := BitVec 32

structure MachineMessageAutoResole where
  whenConnected : Option Bool
  whenStatus : Option MachineStatus
  whenPrinting : Option Bool
  deriving DecidableEq, Inhabited

structure MachineMessage where
  id : NetString
  title : NetString
  body : NetString
  severity : MachineMessageSeverity
  manualResolve : MachineMessageActions
  autoResolve : MachineMessageAutoResole
  deriving DecidableEq, Inhabited

structure MachineFileHandle where
  machineID : NetString
  uri : NetString
  mime : NetString
  hashSHA256 : NetString
  deriving DecidableEq, Inhabited

structure SpoolLocation where
  muid : NetString
  slot : Int32
  deriving DecidableEq, Inhabited

/-! ### Materials -/

structure MaterialColor where
  r : UInt8
  g : UInt8
  b : UInt8
  deriving DecidableEq, Inhabited

structure Material where
  name : NetString
  color : MaterialColor
  fProfileIDX : NetString
  deriving DecidableEq, Inhabited

structure MaterialToPrint where
  material : Material
  totalGramsUsed : Int32
  nozzleDiameter : Double
  deriving DecidableEq, Inhabited

/-! ### Jobs -/

structure LocalPrintJob where
  name : NetString
  file : MachineFileHandle
  totalGramsUsed : Int32
  time : TimeSpan
  materialsToPrint : ObjectRef (Dictionary Int32 MaterialToPrint)
  deriving DecidableEq, Inhabited

structure HistoricPrintJob where
  name : NetString
  isSuccess : Bool
  endedAt : DateTime
  elapsed : TimeSpan
  thumbnail : Option MachineFileHandle
  file : Option MachineFileHandle
  deriving DecidableEq, Inhabited

structure PrintOptions where
  customID : NetString
  levelBed : Bool
  flowCalibration : Bool
  vibrationCalibration : Bool
  inspectFirstLayer : Bool
  materialMap : Option (ObjectRef (Dictionary Int32 SpoolLocation))
  deriving DecidableEq, Inhabited

/-! ### Heating -/

structure HeatingConstraints where
  minTempC : Int32
  maxTempC : Int32
  deriving DecidableEq, Inhabited

structure HeatingElement where
  tempC : Double
  targetTempC : Double
  constraints : HeatingConstraints
  deriving DecidableEq, Inhabited

structure HeatingJob where
  tempC : Double
  duration : TimeSpan
  deriving DecidableEq, Inhabited

structure HeatingSettings where
  tempC : Double
  duration : TimeSpan
  doSpin : Option Bool
  deriving DecidableEq, Inhabited

/-! ### Cameras and speeds -/

structure CameraSpec where
  width : Option Int32
  height : Option Int32
  fps : Option Double
  deriving DecidableEq, Inhabited

structure CameraStream where
  whepUrl : NetString
  hlsUrl : NetString
  spec : Option CameraSpec
  deriving DecidableEq, Inhabited

structure MachineStreamingURLs where
  full : CameraStream
  glance : Option CameraStream
  deriving DecidableEq, Inhabited

structure PrintSpeedRange where
  min : Int32
  max : Int32
  deriving DecidableEq, Inhabited

/-! ### Schedules

A schedule is a mutable object: the connection writes `schedulerID` into it after it has been
stored. The state therefore holds the addresses of schedules, and the records live in the heap
(`Connect3Dp.Heap`). `Cron` is the type of parsed CRON expressions. -/

structure HeatingSchedule (Cron : Type) where
  timing : Cron
  settings : HeatingSettings
  schedulerID : Option Guid
  deriving DecidableEq, Inhabited

structure ScheduledPrint (Cron : Type) where
  timing : Cron
  localJob : LocalPrintJob
  options : PrintOptions
  initialMapping : ObjectRef (Dictionary SpoolLocation Material)
  schedulerID : Option Guid
  deriving DecidableEq, Inhabited

/-- The address of a `HeatingSchedule` object. -/
structure HeatingScheduleRef where
  address : ℕ
  deriving DecidableEq, Inhabited

/-- The address of a `ScheduledPrint` object. -/
structure ScheduledPrintRef where
  address : ℕ
  deriving DecidableEq, Inhabited

end Connect3Dp
