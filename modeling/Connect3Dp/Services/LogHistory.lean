import Connect3Dp.Collections.RingBuffer
import Connect3Dp.Runtime.Values
import Mathlib.Data.List.DropRight

/-!
# The log history

`BufferedLoggerProvider` keeps the newest entries in an array that is written in a circle. `Entries`
goes around it once, and the action `log/history` picks from what it yields.

`history_eq_iff` says when a client gets what it asks for: unless the sum that `Entries` computes
for an index exceeds an `int`, which takes a capacity of more than `2 ^ 30`.
-/

namespace Connect3Dp

/-- A capacity: a positive `int`. -/
structure Capacity where
  value : ℕ
  pos : 0 < value
  lt : value < 2 ^ 31

/-- `BufferedLoggerProvider`, without the subscribers. An element of the array is `none` until it is
written. -/
structure BufferedLoggerProvider (E : Type) (capacity : Capacity) where
  buffer : Vector (Option E) capacity.value
  head : Fin capacity.value
  count : ℕ
  count_le : count ≤ capacity.value

namespace BufferedLoggerProvider

variable {E : Type} {capacity : Capacity}

/-- The constructor. -/
def new (E : Type) (capacity : Capacity) : BufferedLoggerProvider E capacity where
  buffer := .replicate _ none
  head := ⟨0, capacity.pos⟩
  count := 0
  count_le := Nat.zero_le _

/-- `AddEntry`. -/
def addEntry (provider : BufferedLoggerProvider E capacity) (entry : E) :
    BufferedLoggerProvider E capacity where
  buffer := provider.buffer.set provider.head (some entry) provider.head.isLt
  head := ⟨(provider.head + 1) % capacity.value, Nat.mod_lt _ capacity.pos⟩
  count := if provider.count < capacity.value then provider.count + 1 else provider.count
  count_le := by
    have hle := provider.count_le
    split
    · omega
    · omega

/-- Where `Entries` starts. -/
def start (provider : BufferedLoggerProvider E capacity) : ℕ :=
  if provider.count < capacity.value then 0 else provider.head

/-- `(start + i) % _capacity`, where the sum is an `int`. -/
def index (capacity : Capacity) (start i : ℕ) : ℤ :=
  (Int32.ofInt (start + i)).toInt.tmod capacity.value

/-- `_buffer[(start + i) % _capacity]`. -/
def read (provider : BufferedLoggerProvider E capacity) (start i : ℕ) :
    Except Fault (Option E) :=
  if index capacity start i < 0 then .error .indexOutOfRange
  else (provider.buffer[(index capacity start i).toNat]?).elim (.error .indexOutOfRange) .ok

/-- `Entries`: what it yields or raises, one after another, while nothing is added. -/
def entries (provider : BufferedLoggerProvider E capacity) : List (Except Fault (Option E)) :=
  (List.range provider.count).map (provider.read provider.start)

/-- A provider that these entries were added to. -/
def logged (capacity : Capacity) (log : List E) : BufferedLoggerProvider E capacity :=
  log.foldl addEntry (new E capacity)

/-! ### One read -/

section Read

variable {start i : ℕ}

theorem index_eq (h : start + i < 2 ^ 31) :
    index capacity start i = ((start + i) % capacity.value : ℕ) := by
  rw [index, Int32.toInt_ofInt_of_le (by omega) (by omega), ← Int.natCast_add, Int.ofNat_tmod]

/-- The first sum that is not an `int` is a negative one, and so is the index. -/
theorem index_neg (hstart : start < capacity.value) (hi : i < capacity.value)
    (h : start + i = 2 ^ 31) : index capacity start i < 0 := by
  have hlt := capacity.lt
  have hsum : (Int32.ofInt ((2 ^ 31 : ℕ) : ℤ)).toInt = -(2 ^ 31 : ℕ) := rfl
  have hmod : 2 ^ 31 % capacity.value = 2 ^ 31 - capacity.value := by
    rw [Nat.mod_eq_sub_mod hlt.le, Nat.mod_eq_of_lt (by omega)]
  rw [index, ← Int.natCast_add, h, hsum, Int.neg_tmod, ← Int.ofNat_tmod, hmod]
  omega

variable (provider : BufferedLoggerProvider E capacity)

/-- As long as the sum is an `int`, the read is the intended one. -/
theorem exists_read (h : start + i < 2 ^ 31) : ∃ entry,
    provider.buffer[(start + i) % capacity.value]? = some entry ∧
      provider.read start i = .ok entry := by
  have hlt : (start + i) % capacity.value < capacity.value := Nat.mod_lt _ capacity.pos
  refine ⟨provider.buffer[(start + i) % capacity.value], Vector.getElem?_eq_getElem hlt, ?_⟩
  rw [read, index_eq h, if_neg (by omega), Int.toNat_natCast, Vector.getElem?_eq_getElem hlt]
  rfl

theorem read_of_overflow (hstart : start < capacity.value) (hi : i < capacity.value)
    (h : start + i = 2 ^ 31) : provider.read start i = .error .indexOutOfRange :=
  if_pos (index_neg hstart hi h)

theorem start_lt : provider.start < capacity.value := by
  rw [BufferedLoggerProvider.start]
  split
  · exact capacity.pos
  · exact provider.head.isLt

/-- Where a sum overflows, `Entries` raises an exception. -/
theorem error_mem_entries (hsum : ¬ provider.start + provider.count ≤ 2 ^ 31) :
    .error .indexOutOfRange ∈ provider.entries := by
  have hstart := provider.start_lt
  have hcount := provider.count_le
  have hlt := capacity.lt
  refine List.mem_map.mpr ⟨2 ^ 31 - provider.start, List.mem_range.mpr (by omega), ?_⟩
  exact provider.read_of_overflow hstart (by omega) (by omega)

end Read

/-! ### What the array holds -/

/-- What the fields are when these entries have been added. -/
structure Holds (provider : BufferedLoggerProvider E capacity) (log : List E) : Prop where
  head : provider.head.val = log.length % capacity.value
  count : provider.count = min log.length capacity.value
  buffer : RingBuffer.HoldsNewest provider.buffer log

namespace Holds

variable {provider : BufferedLoggerProvider E capacity} {log : List E}

theorem new : Holds (.new E capacity) [] where
  head := (Nat.zero_mod _).symm
  count := (Nat.zero_min _).symm
  buffer := .nil _

theorem addEntry (h : Holds provider log) (entry : E) :
    Holds (provider.addEntry entry) (log ++ [entry]) where
  head := by
    rw [List.length_append, List.length_singleton]
    exact (congrArg (fun head => (head + 1) % capacity.value) h.head).trans
      (Nat.mod_add_mod ..)
  count := by
    have hcount := h.count
    rw [List.length_append, List.length_singleton, BufferedLoggerProvider.addEntry]
    dsimp only
    split
    · omega
    · omega
  buffer := h.buffer.append entry h.head

end Holds

theorem holds_logged (capacity : Capacity) (log : List E) : (logged capacity log).Holds log := by
  induction log using List.reverseRecOn with
  | nil => exact .new
  | append_singleton log entry ih =>
    rw [logged, List.foldl_append]
    exact ih.addEntry entry

/-! ### What is yielded -/

namespace Holds

variable {provider : BufferedLoggerProvider E capacity} {log : List E}

/-- `Entries` starts at the oldest entry that is still there. -/
theorem start_add_mod (h : Holds provider log) (i : ℕ) :
    (provider.start + i) % capacity.value =
      (log.length - provider.count + i) % capacity.value := by
  have hcount := h.count
  rw [start]
  split
  · rw [show log.length - provider.count = 0 by omega]
  · rw [h.head, Nat.mod_add_mod, show provider.count = capacity.value by omega,
      ← Nat.add_mod_right (log.length - capacity.value + i)]
    congr 1
    omega

/-- When the last sum is an `int`. -/
theorem start_add_count_le_iff (h : Holds provider log) :
    provider.start + provider.count ≤ 2 ^ 31 ↔
      log.length < capacity.value ∨ log.length % capacity.value + capacity.value ≤ 2 ^ 31 := by
  have hcount := h.count
  have hlt := capacity.lt
  rw [start, h.head]
  split
  · exact iff_of_true (by omega) (.inl (by omega))
  · rw [show provider.count = capacity.value by omega, or_iff_right (by omega)]

/-- **`Entries` yields the newest entries**, unless a sum overflows. -/
theorem entries_eq (h : Holds provider log) (hsum : provider.start + provider.count ≤ 2 ^ 31) :
    provider.entries = (log.rtake capacity.value).map fun entry => .ok (some entry) := by
  have hcount := h.count
  have hlength : (log.rtake capacity.value).length = provider.count := by
    rw [List.rtake, List.length_drop]
    omega
  apply List.ext_getElem?'
  intro i hi
  rw [entries, List.length_map, List.length_range, List.length_map, hlength, max_self] at hi
  obtain ⟨entry, hentry, hread⟩ := provider.exists_read (by omega : provider.start + i < 2 ^ 31)
  rw [h.start_add_mod, h.buffer _ (by omega) (by omega), Option.some_inj] at hentry
  have hlt : log.length - provider.count + i < log.length := by omega
  have hdropped : log.length - capacity.value = log.length - provider.count := by omega
  rw [entries, List.getElem?_map, List.getElem?_range hi, Option.map_some, hread,
    List.getElem?_map, List.rtake, List.getElem?_drop, hdropped, ← hentry,
    List.getElem?_eq_getElem hlt, Option.map_some]

end Holds

end BufferedLoggerProvider

/-! ### The action -/

/-- `LogLevel`, an enumeration. A client may send a value without a name. -/
structure LogLevel where
  value : Int32

/-- `ForwardingLogger.Entry`. -/
structure LogEntry where
  level : LogLevel
  category : String
  message : String
  exception : Option Fault
  time : DateTimeOffset

/-- `LogHistoryRetrievalPayload`. -/
structure LogHistoryRetrievalPayload where
  max : Int32
  before : Option DateTimeOffset
  after : Option DateTimeOffset
  minLevel : LogLevel

/-- `LogHistoryRetrievalResult`. The entries are those that the client is sent, or the exception
that is raised when they are written. -/
structure LogHistoryRetrievalResult where
  isSuccess : Bool
  failureReason : NetString
  entries : Option (Except Fault (List LogEntry))

/-- `Where(e => e.Level >= minLevel)`, which looks into every entry. -/
def whereLevel (minLevel : LogLevel) :
    List (Except Fault (Option LogEntry)) → Except Fault (List LogEntry)
  | [] => .ok []
  | .error f :: _ => .error f
  | .ok none :: _ => .error .nullReference
  | .ok (some e) :: entries => do
    let rest ← whereLevel minLevel entries
    return if minLevel.value ≤ e.level.value then e :: rest else rest

/-- `Where` with a bound, if there is one. -/
def whereBound (bound : Option DateTimeOffset) (p : DateTimeOffset → LogEntry → Bool)
    (entries : List LogEntry) : List LogEntry :=
  match bound with
  | some bound => entries.filter (p bound)
  | none => entries

namespace BufferedLoggerProvider

variable {capacity : Capacity}

/-- The action of `WithLogHistoryRetrieval`. -/
def history (provider : BufferedLoggerProvider LogEntry capacity)
    (payload : LogHistoryRetrievalPayload) : LogHistoryRetrievalResult :=
  if payload.max < 1 then
    { isSuccess := false
      failureReason := some "Max count must be greater than zero."
      entries := none }
  else
    { isSuccess := true
      failureReason := none
      entries := some do
        let entries ← whereLevel payload.minLevel provider.entries
        let entries := whereBound payload.after
          (fun after e => after.utcTicks ≤ e.time.utcTicks) entries
        let entries := whereBound payload.before
          (fun before e => e.time.utcTicks < before.utcTicks) entries
        return entries.rtake payload.max.toNatClampNeg }

end BufferedLoggerProvider

/-- The payload asks for the entry. -/
def LogHistoryRetrievalPayload.asksFor (payload : LogHistoryRetrievalPayload) (e : LogEntry) :
    Bool :=
  payload.minLevel.value ≤ e.level.value &&
    payload.after.all (·.utcTicks ≤ e.time.utcTicks) &&
    payload.before.all (e.time.utcTicks < ·.utcTicks)

theorem whereBound_eq (bound : Option DateTimeOffset) (p : DateTimeOffset → LogEntry → Bool)
    (entries : List LogEntry) :
    whereBound bound p entries = entries.filter fun e => bound.all (p · e) := by
  cases bound with
  | none => exact (List.filter_true entries).symm
  | some bound => rfl

theorem whereLevel_ok (minLevel : LogLevel) (entries : List LogEntry) :
    whereLevel minLevel (entries.map fun e => .ok (some e)) =
      .ok (entries.filter (minLevel.value ≤ ·.level.value)) := by
  induction entries with
  | nil => rfl
  | cons e entries ih =>
    rw [List.map_cons, whereLevel, ih, List.filter_cons]
    by_cases hlevel : minLevel.value ≤ e.level.value
    · rw [if_pos (decide_eq_true hlevel)]
      exact congrArg Except.ok (if_pos hlevel)
    · rw [if_neg (mt of_decide_eq_true hlevel)]
      exact congrArg Except.ok (if_neg hlevel)

theorem whereLevel_ne_ok {minLevel : LogLevel} {entries : List (Except Fault (Option LogEntry))}
    {f : Fault} (h : .error f ∈ entries) (picked : List LogEntry) :
    whereLevel minLevel entries ≠ .ok picked := by
  fun_induction whereLevel minLevel entries generalizing picked with
  | case1 => exact absurd h List.not_mem_nil
  | case2 =>
    intro hpicked
    cases hpicked
  | case3 =>
    intro hpicked
    cases hpicked
  | case4 e entries ih =>
    have hmem : .error f ∈ entries := by
      cases h with
      | tail _ hmem => exact hmem
    intro hpicked
    cases hrest : whereLevel minLevel entries with
    | error => rw [hrest] at hpicked; cases hpicked
    | ok rest => exact ih hmem rest hrest

/-- The conditions together. -/
theorem whereBound_eq_filter_asksFor (payload : LogHistoryRetrievalPayload)
    (entries : List LogEntry) :
    whereBound payload.before (fun before e => e.time.utcTicks < before.utcTicks)
        (whereBound payload.after (fun after e => after.utcTicks ≤ e.time.utcTicks)
          (entries.filter (payload.minLevel.value ≤ ·.level.value))) =
      entries.filter payload.asksFor := by
  rw [whereBound_eq, whereBound_eq, List.filter_filter, List.filter_filter]
  congr 1
  funext e
  rw [LogHistoryRetrievalPayload.asksFor]
  ac_rfl

namespace BufferedLoggerProvider

section History

variable {capacity : Capacity} {provider : BufferedLoggerProvider LogEntry capacity}
  {payload : LogHistoryRetrievalPayload}

/-- **What is picked** from entries that can be read. -/
theorem history_of_entries (hmax : 1 ≤ payload.max) {window : List LogEntry}
    (h : provider.entries = window.map fun e => .ok (some e)) :
    provider.history payload = ⟨true, none,
      some (.ok ((window.filter payload.asksFor).rtake payload.max.toNatClampNeg))⟩ := by
  rw [history, if_neg (Int32.not_lt.mpr hmax), h, whereLevel_ok, ← whereBound_eq_filter_asksFor]
  rfl

/-- What `Entries` raises is not caught. -/
theorem history_of_error (hmax : 1 ≤ payload.max) {f : Fault} (h : .error f ∈ provider.entries)
    (picked : List LogEntry) : provider.history payload ≠ ⟨true, none, some (.ok picked)⟩ := by
  rw [history, if_neg (Int32.not_lt.mpr hmax)]
  intro hpicked
  cases hentries : whereLevel payload.minLevel provider.entries with
  | error =>
    rw [hentries] at hpicked
    cases hpicked
  | ok entries => exact whereLevel_ne_ok h entries hentries

end History

/-- **When the log history is exact**: unless the array is full and goes on from an index of which
the sum with the capacity exceeds `2 ^ 31`, the client gets the last entries it asks for of those
that are kept. -/
theorem history_eq_iff (capacity : Capacity) (log : List LogEntry)
    (payload : LogHistoryRetrievalPayload) (hmax : 1 ≤ payload.max) :
    (logged capacity log).history payload = ⟨true, none,
        some (.ok (((log.rtake capacity.value).filter payload.asksFor).rtake
          payload.max.toNatClampNeg))⟩ ↔
      log.length < capacity.value ∨ log.length % capacity.value + capacity.value ≤ 2 ^ 31 := by
  have h := holds_logged capacity log
  rw [← h.start_add_count_le_iff]
  constructor
  · intro hhistory
    by_contra hsum
    exact history_of_error hmax (error_mem_entries _ hsum) _ hhistory
  · intro hsum
    exact history_of_entries hmax (h.entries_eq hsum)

/-- An entry of a level and a time. -/
private def loggedAt (level : Int32) (ticks : ℤ) : LogEntry :=
  ⟨⟨level⟩, "Connect3Dp.Host", "Connected.", none, ⟨ticks⟩⟩

/-- The last two entries since a time. -/
private def lastTwo : LogHistoryRetrievalPayload := ⟨2, none, some ⟨10⟩, ⟨2⟩⟩

/-- Of four entries the first is overwritten, and the third has too low a level. -/
theorem history_eq_iff_four :
    (logged ⟨3, by decide, by decide⟩ [loggedAt 4 11, loggedAt 3 12, loggedAt 1 13,
        loggedAt 2 14]).history lastTwo =
      ⟨true, none, some (.ok [loggedAt 3 12, loggedAt 2 14])⟩ :=
  (history_eq_iff ⟨3, by decide, by decide⟩ _ lastTwo (by decide)).mpr (.inr (by decide))

/-- An array of `2 ^ 30 + 1` entries that was filled, and then all of it but the last
overwritten. -/
theorem history_fails : ∃ (capacity : Capacity) (log : List LogEntry)
    (payload : LogHistoryRetrievalPayload), 1 ≤ payload.max ∧
      (logged capacity log).history payload ≠ ⟨true, none,
        some (.ok (((log.rtake capacity.value).filter payload.asksFor).rtake
          payload.max.toNatClampNeg))⟩ := by
  refine ⟨⟨2 ^ 30 + 1, by decide, by decide⟩, List.replicate (2 ^ 31 + 1) (loggedAt 4 11), lastTwo,
    by decide, ?_⟩
  have h := holds_logged ⟨2 ^ 30 + 1, by decide, by decide⟩
    (List.replicate (2 ^ 31 + 1) (loggedAt 4 11))
  refine history_of_error (by decide) (error_mem_entries _ fun hsum => ?_) _
  rw [h.start_add_count_le_iff, List.length_replicate] at hsum
  dsimp only at hsum
  omega

end BufferedLoggerProvider

end Connect3Dp
