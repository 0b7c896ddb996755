import Connect3Dp.Services.LogHistory
import Mathlib.Data.List.Sigma

/-!
# Enumerating the log while it is written

`Entries` reads `_head` and `_count` under the lock, and the array only when the next element is
asked for. Entries that are added in between replace elements that are still to be read.

A run is a list of steps, in any order. `enumerate_infix_iff` says for which of them the enumeration
is a window of the log: all slots that are read must have been overwritten equally often when they
are. The entries are numbered, since two of them can be alike.
-/

namespace Connect3Dp

namespace BufferedLoggerProvider

/-- What happens during an enumeration: an entry is added, or the next element is asked for. -/
inductive Step (E : Type)
  | addEntry (entry : E)
  | moveNext

/-- The provider, the variables of `Entries`, and what it has yielded. -/
structure Enumeration (E : Type) (capacity : Capacity) where
  provider : BufferedLoggerProvider E capacity
  start : ℕ
  count : ℕ
  i : ℕ
  yielded : List (Option E)
  raised : Bool

variable {E : Type} {capacity : Capacity}

/-- What happens under the lock. -/
def getEntries (provider : BufferedLoggerProvider E capacity) : Enumeration E capacity where
  provider
  start := provider.start
  count := provider.count
  i := 0
  yielded := []
  raised := false

namespace Enumeration

/-- `MoveNext`: one round of the loop. -/
def moveNext (enumeration : Enumeration E capacity) : Enumeration E capacity :=
  if enumeration.raised || enumeration.count ≤ enumeration.i then enumeration
  else
    match enumeration.provider.read enumeration.start enumeration.i with
    | .ok entry =>
      { enumeration with
        i := enumeration.i + 1
        yielded := enumeration.yielded ++ [entry] }
    | .error _ => { enumeration with raised := true }

def step (enumeration : Enumeration E capacity) : Step E → Enumeration E capacity
  | .addEntry entry => { enumeration with provider := enumeration.provider.addEntry entry }
  | .moveNext => enumeration.moveNext

end Enumeration

/-- What an enumeration yields that begins after a log. -/
def enumerate (capacity : Capacity) (log : List E) (steps : List (Step E)) : List (Option E) :=
  (steps.foldl Enumeration.step (logged capacity log).getEntries).yielded

/-- The entries that are added. -/
def added : List (Step E) → List E
  | [] => []
  | .addEntry entry :: steps => entry :: added steps
  | .moveNext :: steps => added steps

/-- How many entries there are whenever the next element is asked for. -/
def totals (total : ℕ) : List (Step E) → List ℕ
  | [] => []
  | .addEntry _ :: steps => totals (total + 1) steps
  | .moveNext :: steps => total :: totals total steps

/-- How many elements can be read until all are or a sum overflows. -/
def readable (provider : BufferedLoggerProvider E capacity) : ℕ :=
  min provider.count (2 ^ 31 - provider.start)

/-! ### A run -/

namespace Enumeration

/-- Nothing more is yielded. -/
theorem yielded_foldl_of_ended (steps : List (Step E)) {enumeration : Enumeration E capacity}
    (h : (enumeration.raised || enumeration.count ≤ enumeration.i) = true) :
    (steps.foldl step enumeration).yielded = enumeration.yielded := by
  induction steps generalizing enumeration with
  | nil => rfl
  | cons s steps ih =>
    cases s with
    | addEntry entry => exact ih h
    | moveNext =>
      have hstep : enumeration.step .moveNext = enumeration := if_pos h
      rw [List.foldl_cons, hstep, ih h]

/-- An enumeration of a provider that went on to this log. -/
structure Follows (before : BufferedLoggerProvider E capacity) (log : List E)
    (enumeration : Enumeration E capacity) : Prop where
  holds : enumeration.provider.Holds log
  start : enumeration.start = before.start
  count : enumeration.count = before.count
  i_le : enumeration.i ≤ before.readable
  raised : enumeration.raised = false

variable {before : BufferedLoggerProvider E capacity} {log : List E}
  {enumeration : Enumeration E capacity}

theorem Follows.addEntry (h : Follows before log enumeration) (entry : E) :
    Follows before (log ++ [entry]) (enumeration.step (.addEntry entry)) :=
  ⟨h.holds.addEntry entry, h.start, h.count, h.i_le, h.raised⟩

/-- The end: nothing is yielded. -/
theorem Follows.moveNext_of_eq (h : Follows before log enumeration)
    (hi : enumeration.i = before.readable) :
    enumeration.moveNext.yielded = enumeration.yielded ∧
      (enumeration.moveNext.raised ||
        enumeration.moveNext.count ≤ enumeration.moveNext.i) = true := by
  have hlt := before.start_lt
  have hle := before.count_le
  have hcapacity := capacity.lt
  by_cases hended : (enumeration.raised || enumeration.count ≤ enumeration.i) = true
  · rw [show enumeration.moveNext = enumeration from if_pos hended]
    exact ⟨rfl, hended⟩
  · rw [h.raised, h.count, Bool.false_or, decide_eq_true_iff] at hended
    rw [readable] at hi
    have hread := enumeration.provider.read_of_overflow hlt
      (by omega : enumeration.i < capacity.value) (by omega)
    have hnext : enumeration.moveNext = { enumeration with raised := true } := by
      rw [moveNext, h.raised, h.count, h.start, hread, Bool.false_or,
        if_neg (mt decide_eq_true_iff.mp hended)]
    rw [hnext]
    exact ⟨rfl, rfl⟩

/-- A read of the next element. -/
theorem Follows.moveNext_of_lt (h : Follows before log enumeration)
    (hi : enumeration.i < before.readable) : ∃ entry,
      enumeration.provider.buffer[(before.start + enumeration.i) % capacity.value]? = some entry ∧
        enumeration.moveNext = { enumeration with
          i := enumeration.i + 1
          yielded := enumeration.yielded ++ [entry] } := by
  rw [readable] at hi
  obtain ⟨entry, hentry, hread⟩ := enumeration.provider.exists_read
    (by omega : before.start + enumeration.i < 2 ^ 31)
  refine ⟨entry, hentry, ?_⟩
  rw [moveNext, h.raised, h.count, h.start, hread, if_neg]
  rw [Bool.false_or, decide_eq_true_iff]
  omega

/-- **A run**: at every read, the latest element with the same slot is yielded. -/
theorem yielded_foldl {first : ℕ}
    (hstart : ∀ i, (before.start + i) % capacity.value = (first + i) % capacity.value)
    (steps : List (Step E)) (hfirst : first + before.count ≤ log.length)
    (h : Follows before log enumeration) :
    (steps.foldl step enumeration).yielded = enumeration.yielded ++
      (RingBuffer.numbersRead capacity.value (first + enumeration.i)
        ((totals log.length steps).take (before.readable - enumeration.i))).map
          ((log ++ added steps)[·]?) := by
  induction steps generalizing log enumeration with
  | nil => rw [totals, List.take_nil]; exact (List.append_nil _).symm
  | cons s steps ih =>
    rw [List.foldl_cons]
    cases s with
    | addEntry entry =>
      have hlength : (log ++ [entry]).length = log.length + 1 := List.length_append
      rw [ih (by omega) (h.addEntry entry), hlength, List.append_assoc]
      rfl
    | moveNext =>
      obtain hi | hi := h.i_le.eq_or_lt
      · obtain ⟨hyielded, hended⟩ := h.moveNext_of_eq hi
        rw [step, yielded_foldl_of_ended steps hended, hyielded, hi, Nat.sub_self, List.take_zero]
        exact (List.append_nil _).symm
      · obtain ⟨entry, hentry, hnext⟩ := h.moveNext_of_lt hi
        have hnumber : first + enumeration.i < log.length := by
          rw [readable] at hi
          omega
        rw [hstart, h.holds.buffer.getElem?_mod capacity.pos hnumber, Option.some_inj] at hentry
        have hfollows : Follows before log { enumeration with
            i := enumeration.i + 1
            yielded := enumeration.yielded ++ [entry] } :=
          ⟨h.holds, h.start, h.count, hi, h.raised⟩
        have hleft : before.readable - enumeration.i =
            before.readable - (enumeration.i + 1) + 1 := by
          omega
        rw [step, hnext, ih hfirst hfollows, totals, added, hleft, List.take_succ_cons,
          RingBuffer.numbersRead_cons, List.map_cons,
          List.getElem?_append_left (RingBuffer.latest_lt hnumber), hentry, List.append_assoc]
        rfl

end Enumeration

/-! ### The law -/

theorem mem_totals {total : ℕ} (start : ℕ) (steps : List (Step E))
    (h : total ∈ totals start steps) : start ≤ total ∧ total ≤ start + (added steps).length := by
  fun_induction totals start steps with
  | case1 => exact absurd h List.not_mem_nil
  | case2 start entry steps ih =>
    have hrest := ih h
    rw [added, List.length_cons]
    omega
  | case3 start steps ih =>
    rw [added]
    obtain rfl | hmem := List.mem_cons.mp h
    · omega
    · exact ih hmem

/-- How many entries there are at the reads that yield an element. -/
def readTotals (capacity : Capacity) (log : List E) (steps : List (Step E)) : List ℕ :=
  (totals log.length steps).take (logged capacity log).readable

/-- **What is yielded**: the oldest entry that was still there and the following ones, or what has
replaced them since. -/
theorem enumerate_eq (capacity : Capacity) (log : List E) (steps : List (Step E)) :
    enumerate capacity log steps =
      (RingBuffer.numbersRead capacity.value (log.length - capacity.value)
        (readTotals capacity log steps)).map ((log ++ added steps)[·]?) := by
  have h := holds_logged capacity log
  have hcount := h.count
  have hstart : ∀ i, ((logged capacity log).start + i) % capacity.value =
      (log.length - capacity.value + i) % capacity.value := by
    intro i
    rw [h.start_add_mod, show log.length - (logged capacity log).count =
      log.length - capacity.value by omega]
  have hbegin : Enumeration.Follows (logged capacity log) log (logged capacity log).getEntries :=
    ⟨h, rfl, rfl, Nat.zero_le _, rfl⟩
  exact Enumeration.yielded_foldl hstart steps (by omega) hbegin

/-- If no entry is added twice, what is yielded is a window of the log when the slots that are read
have been overwritten equally often. -/
theorem enumerate_infix_iff_of_nodup {log : List E} {steps : List (Step E)}
    (hlog : (log ++ added steps).Nodup) :
    enumerate capacity log steps <:+: (log ++ added steps).map some ↔
      ∃ times, ∀ (i : ℕ) (hi : i < (readTotals capacity log steps).length),
        RingBuffer.overwritten capacity.value (readTotals capacity log steps)[i]
          (log.length - capacity.value + i) = times := by
  have hcount := (holds_logged capacity log).count
  have hbound : ∀ (i : ℕ) (hi : i < (readTotals capacity log steps).length),
      log.length - capacity.value + i < (readTotals capacity log steps)[i] ∧
        (readTotals capacity log steps)[i] ≤ (log ++ added steps).length := by
    intro i hi
    have hmem := mem_totals _ _ (List.mem_of_mem_take (List.getElem_mem hi))
    rw [readTotals, List.length_take, readable] at hi
    rw [List.length_append]
    omega
  rw [enumerate_eq,
    RingBuffer.map_getElem?_infix_iff hlog (RingBuffer.lt_of_mem_numbersRead hbound),
    RingBuffer.length_numbersRead, RingBuffer.numbersRead_eq_range'_iff capacity.pos]

/-- The steps with the number of every entry. -/
def numbered (total : ℕ) : List (Step E) → List (Step (E × ℕ))
  | [] => []
  | .addEntry entry :: steps => .addEntry (entry, total) :: numbered (total + 1) steps
  | .moveNext :: steps => .moveNext :: numbered total steps

theorem added_numbered (total : ℕ) (steps : List (Step E)) :
    added (numbered total steps) = (added steps).zipIdx total := by
  fun_induction numbered total steps with
  | case1 => rfl
  | case2 total entry steps ih => rw [added, added, ih, List.zipIdx_cons]
  | case3 total steps ih => rw [added, added, ih]

theorem totals_numbered (start total : ℕ) (steps : List (Step E)) :
    totals start (numbered total steps) = totals start steps := by
  fun_induction numbered total steps generalizing start with
  | case1 => rfl
  | case2 total entry steps ih => rw [totals, totals, ih]
  | case3 total steps ih => rw [totals, totals, ih]

theorem readable_logged (capacity : Capacity) (log : List E) :
    (logged capacity log).readable = min (min log.length capacity.value)
      (2 ^ 31 - if log.length < capacity.value then 0 else log.length % capacity.value) := by
  have h := holds_logged capacity log
  have hcount : (logged capacity log).count < capacity.value ↔ log.length < capacity.value := by
    rw [h.count]
    omega
  rw [readable, start, h.head, if_congr hcount rfl rfl, h.count]

theorem readTotals_numbered (capacity : Capacity) (log : List E) (steps : List (Step E)) :
    readTotals capacity log.zipIdx (numbered log.length steps) = readTotals capacity log steps := by
  rw [readTotals, readTotals, totals_numbered, readable_logged, readable_logged,
    List.length_zipIdx]

theorem append_added_numbered (log : List E) (steps : List (Step E)) :
    log.zipIdx ++ added (numbered log.length steps) = (log ++ added steps).zipIdx := by
  rw [added_numbered, List.zipIdx_append, Nat.zero_add]

/-- The numbers make no difference to what is yielded. -/
theorem map_fst_enumerate_numbered (capacity : Capacity) (log : List E) (steps : List (Step E)) :
    (enumerate capacity log.zipIdx (numbered log.length steps)).map (Option.map Prod.fst) =
      enumerate capacity log steps := by
  rw [enumerate_eq, enumerate_eq, readTotals_numbered, append_added_numbered, List.length_zipIdx,
    List.map_map]
  congr 1
  funext number
  rw [Function.comp_apply, List.getElem?_zipIdx, Option.map_map]
  exact Option.map_id'

/-- **When an enumeration is a window of the log**, in logging order and without repetitions: when
all slots that are read have been overwritten equally often by then. -/
theorem enumerate_infix_iff (capacity : Capacity) (log : List E) (steps : List (Step E)) :
    enumerate capacity log.zipIdx (numbered log.length steps) <:+:
        (log ++ added steps).zipIdx.map some ↔
      ∃ times, ∀ (i : ℕ) (hi : i < (readTotals capacity log steps).length),
        RingBuffer.overwritten capacity.value (readTotals capacity log steps)[i]
          (log.length - capacity.value + i) = times := by
  have hnodup : (log.zipIdx ++ added (numbered log.length steps)).Nodup := by
    rw [append_added_numbered]
    exact (List.nodup_zipIdx_map_snd _).of_map
  rw [← append_added_numbered, enumerate_infix_iff_of_nodup hnodup, readTotals_numbered,
    List.length_zipIdx]

/-- An entry is added after the lock has been released: it comes out before the older one. -/
theorem enumerate_fails : ∃ (capacity : Capacity) (log : List String) (steps : List (Step String)),
    ¬ enumerate capacity log.zipIdx (numbered log.length steps) <:+:
      (log ++ added steps).zipIdx.map some :=
  ⟨⟨2, by decide, by decide⟩, ["Started.", "Connected."],
    [.addEntry "Printing.", .moveNext, .moveNext], by decide⟩

end BufferedLoggerProvider

end Connect3Dp
