import Mathlib.Data.List.Infix
import Mathlib.Tactic.Ring

/-!
# Readers and loops

A `Reader` gives what it holds piece by piece. How much a read returns is up to the reader: at most
what was asked for, and something as long as something is left. Whatever it decides, it holds one
sequence, and its reads are consecutive parts of it. A `SeekableReader` can be taken back.

`runLoop` runs a loop whose body goes on or ends. `runLoop_of_invariant` is the rule for it: an
invariant says what the loop ends with, and a measure that it ends.
-/

namespace Connect3Dp

/-! ### Loops -/

section Loop

variable {σ β : Type*}

/-- A loop whose body leads to another state or to a result, for at most this many rounds. -/
def runLoop (body : σ → σ ⊕ β) : ℕ → σ → Option β
  | 0, _ => none
  | rounds + 1, s =>
    match body s with
    | .inl s' => runLoop body rounds s'
    | .inr b => some b

/-- **The loop rule.** What a round keeps, and where the measure decreases in every round, the loop
ends with what the last round leaves. -/
theorem runLoop_of_invariant {body : σ → σ ⊕ β} {I : σ → Prop} {Q : β → Prop} (measure : σ → ℕ)
    (hround : ∀ s s', I s → body s = .inl s' → I s' ∧ measure s' < measure s)
    (hend : ∀ s b, I s → body s = .inr b → Q b) {s : σ} (hs : I s) :
    ∃ b, Q b ∧ ∀ rounds, measure s < rounds → runLoop body rounds s = some b := by
  induction hm : measure s using Nat.strong_induction_on generalizing s with
  | _ m ih =>
    cases hbody : body s with
    | inl s' =>
      obtain ⟨hs', hless⟩ := hround s s' hs hbody
      obtain ⟨b, hb, hruns⟩ := ih (measure s') (by omega) hs' rfl
      refine ⟨b, hb, fun rounds hrounds => ?_⟩
      obtain ⟨rounds, rfl⟩ : ∃ n, rounds = n + 1 := ⟨rounds - 1, by omega⟩
      rw [runLoop, hbody]
      exact hruns rounds (by omega)
    | inr b =>
      refine ⟨b, hend s b hs hbody, fun rounds hrounds => ?_⟩
      obtain ⟨rounds, rfl⟩ : ∃ n, rounds = n + 1 := ⟨rounds - 1, by omega⟩
      rw [runLoop, hbody]

end Loop

/-! ### Readers -/

/-- A source of a finite sequence that is read from its front. -/
structure Reader (α σ : Type*) where
  /-- What is left to be read. -/
  remaining : σ → List α
  /-- What a read of at most so much returns. -/
  read : ℕ → σ → List α × σ
  read_append : ∀ count s, (read count s).1 ++ remaining (read count s).2 = remaining s
  length_read_le : ∀ count s, (read count s).1.length ≤ count
  read_ne_nil : ∀ count s, 0 < count → remaining s ≠ [] → (read count s).1 ≠ []

namespace Reader

variable {α σ : Type*} (r : Reader α σ)

theorem read_prefix (count : ℕ) (s : σ) : (r.read count s).1 <+: r.remaining s :=
  ⟨_, r.read_append count s⟩

theorem length_remaining (count : ℕ) (s : σ) :
    (r.read count s).1.length + (r.remaining (r.read count s).2).length =
      (r.remaining s).length := by
  rw [← List.length_append, r.read_append]

/-- A read returns nothing at the end only. -/
theorem read_eq_nil_iff {count : ℕ} (hcount : 0 < count) (s : σ) :
    (r.read count s).1 = [] ↔ r.remaining s = [] := by
  constructor
  · intro hread
    by_contra hleft
    exact r.read_ne_nil count s hcount hleft hread
  · intro hleft
    exact List.prefix_nil.mp (hleft ▸ r.read_prefix count s)

/-- Read until nothing is left, so much at a time. -/
def readToEnd (count : ℕ) : ℕ → σ → List α × σ
  | 0, s => ([], s)
  | rounds + 1, s =>
    match r.read count s with
    | ([], s') => ([], s')
    | (data, s') =>
      let rest := readToEnd count rounds s'
      (data ++ rest.1, rest.2)

/-- Reading to the end reads what is left. -/
theorem readToEnd_eq {count : ℕ} (hcount : 0 < count) {rounds : ℕ} {s : σ}
    (hrounds : (r.remaining s).length < rounds) :
    (r.readToEnd count rounds s).1 = r.remaining s := by
  induction rounds generalizing s with
  | zero => omega
  | succ rounds ih =>
    rw [readToEnd]
    rcases hread : r.read count s with ⟨data, s'⟩
    cases data with
    | nil =>
      have hnil : (r.read count s).1 = [] := by rw [hread]
      exact ((r.read_eq_nil_iff hcount s).mp hnil).symm
    | cons a data =>
      have happend := r.read_append count s
      have hlength := r.length_remaining count s
      rw [hread] at happend hlength
      dsimp only at happend hlength
      rw [List.length_cons] at hlength
      have hrest := ih (s := s') (by omega)
      rw [← happend, ← hrest]

/-- What a read of a sequence returns that arrives in segments: of the first that is not empty, as
much as was asked for. -/
def readSegments (count : ℕ) : List (List α) → List α × List (List α)
  | [] => ([], [])
  | [] :: segments => readSegments count segments
  | segment :: segments =>
    if segment.length ≤ count then (segment, segments)
    else (segment.take count, segment.drop count :: segments)

/-- The reader of a sequence that arrives in segments. -/
def ofSegments : Reader α (List (List α)) where
  remaining := List.flatten
  read := readSegments
  read_append count segments := by
    fun_induction readSegments count segments with
    | case1 => rfl
    | case2 segments ih => exact ih
    | case3 segment segments hne hle => rfl
    | case4 segment segments hne hle =>
      rw [List.flatten_cons, List.flatten_cons, ← List.append_assoc, List.take_append_drop]
  length_read_le count segments := by
    fun_induction readSegments count segments with
    | case1 => exact Nat.zero_le count
    | case2 segments ih => exact ih
    | case3 segment segments hne hle => exact hle
    | case4 segment segments hne hle =>
      rw [List.length_take]
      omega
  read_ne_nil count segments hcount hleft := by
    fun_induction readSegments count segments with
    | case1 => exact absurd rfl hleft
    | case2 segments ih => exact ih hleft
    | case3 segment segments hne hle => exact fun h => hne h
    | case4 segment segments hne hle =>
      rw [ne_eq, List.take_eq_nil_iff]
      rintro (h | h)
      · omega
      · exact hne h

end Reader

/-- A reader that can be taken to any position of what it holds. -/
structure SeekableReader (α σ : Type*) extends Reader α σ where
  content : List α
  seek : ℕ → σ → σ
  remaining_seek : ∀ position s, remaining (seek position s) = content.drop position

namespace SeekableReader

variable {α σ : Type*} (r : SeekableReader α σ)

theorem remaining_seek_zero (s : σ) : r.remaining (r.seek 0 s) = r.content := by
  rw [r.remaining_seek, List.drop_zero]

/-- The reader of a list that returns at most so much at a time. -/
def ofList (content : List α) (most : ℕ) : SeekableReader α ℕ where
  remaining position := content.drop position
  read count position :=
    let data := (content.drop position).take (min count (most + 1))
    (data, position + data.length)
  read_append count position := by
    rw [← List.drop_drop]
    exact List.prefix_iff_eq_append.mp (List.take_prefix _ _)
  length_read_le count position := by
    rw [List.length_take]
    omega
  read_ne_nil count position hcount hleft := by
    rw [ne_eq, List.take_eq_nil_iff]
    rintro (h | h)
    · omega
    · exact hleft h
  content
  seek position _ := position
  remaining_seek _ _ := rfl

end SeekableReader

end Connect3Dp
