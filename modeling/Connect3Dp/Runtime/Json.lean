import Connect3Dp.Runtime.Arithmetic
import Connect3Dp.Builder.Faulting
import Mathlib.Data.List.Infix

/-!
# Reading JSON documents

`JsonElement` is a parsed document, and its readers raise what the library's readers raise: each
of them demands a kind of element, and `TryGetProperty` returns the last property of the name.

`Host` collects what the readers depend on besides the document: the clock, the culture's parsers
and the file hash. Nothing is assumed about it.
-/

namespace Connect3Dp

/-! ### Elements -/

/-- A JSON number, by what it reads as in each of the numeric types. -/
structure JsonNumber where
  int32 : Option Int32
  int64 : Option Int64
  double : Double

/-- `JsonElement`. -/
inductive JsonElement
  | null
  | boolean (value : Bool)
  | number (value : JsonNumber)
  | string (value : String)
  | array (elements : List JsonElement)
  | object (properties : List (String × JsonElement))

/-- What a process gets from its host. -/
structure Host where
  /-- `DateTime.Now`, as each record of a list reads it -/
  now : ℕ → DateTime
  /-- `DateTimeOffset.UtcNow` -/
  utcNow : DateTimeOffset
  /-- `LocalDateTime`, in the time zone of the host -/
  localDateTime : DateTimeOffset → DateTime
  /-- `int.TryParse` -/
  parseInt32 : String → Option Int32
  /-- `long.TryParse` -/
  parseInt64 : String → Option Int64
  /-- `double.TryParse` -/
  parseDouble : String → Option Double
  /-- `TimeSpan.TryParse` -/
  parseTimeSpan : String → Option TimeSpan
  /-- `Convert.ToHexStringLower(SHA256.HashData(Encoding.UTF8.GetBytes(s)))` -/
  sha256 : String → String
  /-- `JsonElement.ToString()`, the text of the element in its document -/
  rawText : JsonElement → String
  deriving Inhabited

/-! ### Strings -/

/-- `string.IsNullOrEmpty`. -/
def isNullOrEmpty (s : NetString) : Bool := s = none || s = some ""

/-- `Contains(string)`. -/
def containsText (s part : String) : Bool := decide (part.toList <:+: s.toList)

/-- `string.Equals` under `StringComparison.OrdinalIgnoreCase`, for a name in ASCII. -/
def equalsIgnoreCase (s name : String) : Bool :=
  s.toList.map Char.toUpper = name.toList.map Char.toUpper

/-- `Path.GetFileName`. -/
def getFileName (path : String) : List Char :=
  (path.toList.reverse.takeWhile (· ≠ '/')).reverse

/-- `Path.GetFileNameWithoutExtension`: up to the last dot, if there is one. -/
def getFileNameWithoutExtension (path : String) : String :=
  let name := (getFileName path).reverse
  .ofList (if '.' ∈ name then ((name.dropWhile (· ≠ '.')).drop 1).reverse else name.reverse)

/-! ### Readers -/

namespace JsonElement

def tryGetProperty (name : String) : JsonElement → Except Fault (Option JsonElement)
  | object properties => .ok (properties.reverse.lookup name)
  | _ => .error .invalidOperation

/-- The connector's own `TryGetPropertyIgnoreCase`: the first property of the name. -/
def tryGetPropertyIgnoreCase (name : String) : JsonElement → Except Fault (Option JsonElement)
  | object properties =>
    .ok ((properties.find? fun p => equalsIgnoreCase p.1 name).map Prod.snd)
  | _ => .error .invalidOperation

def getString : JsonElement → Except Fault NetString
  | string value => .ok (some value)
  | null => .ok none
  | _ => .error .invalidOperation

def tryGetInt32 : JsonElement → Except Fault (Option Int32)
  | number n => .ok n.int32
  | _ => .error .invalidOperation

def tryGetInt64 : JsonElement → Except Fault (Option Int64)
  | number n => .ok n.int64
  | _ => .error .invalidOperation

def getDouble : JsonElement → Except Fault Double
  | number n => .ok n.double
  | _ => .error .invalidOperation

def getInt32 (e : JsonElement) : Except Fault Int32 := do
  match ← e.tryGetInt32 with
  | some n => return n
  | none => throw .format

def getInt64 (e : JsonElement) : Except Fault Int64 := do
  match ← e.tryGetInt64 with
  | some n => return n
  | none => throw .format

/-- `EnumerateArray`. -/
def enumerateArray : JsonElement → Except Fault (List JsonElement)
  | array elements => .ok elements
  | _ => .error .invalidOperation

/-- A double, read as an integer first. -/
def getInt64OrDouble (e : JsonElement) : Except Fault Double := do
  match ← e.tryGetInt64 with
  | some n => return .ofInt n.toInt
  | none => e.getDouble

/-- `e.TryGetProperty(name, out var p) ? read(p) : absent`. -/
def readOr {α : Type} (e : JsonElement) (name : String) (absent : α)
    (read : JsonElement → Except Fault α) : Except Fault α := do
  match ← e.tryGetProperty name with
  | some p => read p
  | none => return absent

/-- `if (e.TryGetProperty(name, out var p)) write(p)`. -/
def ifProperty {α : Type} (e : JsonElement) (name : String)
    (write : JsonElement → α → Except Fault α) (a : α) : Except Fault α := do
  match ← e.tryGetProperty name with
  | some p => write p a
  | none => return a

/-! ### The lenient readers -/

variable (host : Host)

/-- `TryGetStringValue`: a string that is not empty. -/
def tryGetStringValue (e : JsonElement) (name : String) : Except Fault (Option String) := do
  match ← e.tryGetProperty name with
  | some p =>
    let value ← p.getString
    return if isNullOrEmpty value then none else value
  | none => return none

/-- A number, or the number in a string. -/
def readLenient {α : Type} (parse : String → Option α)
    (read : JsonElement → Except Fault (Option α)) : JsonElement → Except Fault (Option α)
  | string s =>
    match parse s with
    | some value => .ok (some value)
    | none => read (string s)
  | e => read e

def tryGetInt32Lenient (e : JsonElement) (name : String) : Except Fault (Option Int32) :=
  e.readOr name none (readLenient host.parseInt32 tryGetInt32)

def tryGetInt64Lenient (e : JsonElement) (name : String) : Except Fault (Option Int64) :=
  e.readOr name none (readLenient host.parseInt64 tryGetInt64)

def tryGetDoubleLenient (e : JsonElement) (name : String) : Except Fault (Option Double) :=
  e.readOr name none (readLenient host.parseDouble fun p => some <$> p.getDouble)

/-- `TryGetDurationLenient`. -/
def tryGetDurationLenient (e : JsonElement) (name : String) : Except Fault (Option TimeSpan) :=
  e.readOr name none fun
    | string s =>
      match if s = "" then none else host.parseTimeSpan s with
      | some t => .ok (some t)
      | none => .ok ((host.parseInt32 s).map .fromWholeSeconds)
    | p => do
      match ← p.tryGetInt32 with
      | some n => return some (.fromWholeSeconds n)
      | none => some <$> TimeSpan.fromSeconds (← p.getDouble)

end JsonElement

end Connect3Dp
