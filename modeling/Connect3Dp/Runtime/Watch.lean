import Mathlib.Data.List.Basic
import Mathlib.Data.List.Infix

/-!
# Entries that are worked through again and again

A source is listed from time to time, and every entry that is new is worked on. An entry that
succeeded is left alone until it is gone from a listing, one that failed until it is gone or has
another stamp. `Watch` is what has to be remembered of one entry for this, and `watched` computes it
from what has happened. An attempt is logged when it begins, and again when it has come to its end,
before anything else happens. A log in which every attempt was due (`Disciplined`) has no attempt
that repeats an earlier one for nothing (`Disciplined.of_repeated`).
-/

namespace Connect3Dp

/-- What is remembered of an entry. -/
inductive Watch (S : Type*)
  | unknown
  | known
  | failed (stamp : S)

/-- What happens to the entries. -/
inductive WatchEvent (K S : Type*)
  /-- There is a listing. -/
  | listed (isListed : K → Bool)
  /-- The same, but the failures of the entries that are gone stay. -/
  | abandoned (isListed : K → Bool)
  /-- An attempt begins. -/
  | attempted (key : K) (stamp : S)
  /-- The attempt has succeeded or failed. -/
  | finished (key : K) (stamp : S) (isSuccess : Bool)

/-- Whether an attempt begins. -/
def WatchEvent.isAttempt {K S : Type*} : WatchEvent K S → Bool
  | attempted _ _ => true
  | _ => false

/-- Whether an attempt ends. -/
def WatchEvent.isFinish {K S : Type*} : WatchEvent K S → Bool
  | finished _ _ _ => true
  | _ => false

section

variable {K S : Type*} {w : Watch S} {k : K} {s : S} {e : WatchEvent K S}
  {log : List (WatchEvent K S)}

namespace Watch

/-- The entry is to be worked on. -/
def IsDue : Watch S → S → Prop
  | unknown, _ => True
  | known, _ => False
  | failed stamp, s => stamp ≠ s

/-- The entry is gone. -/
def forget : Watch S → Watch S
  | failed stamp => failed stamp
  | _ => unknown

def next [DecidableEq K] (k : K) (w : Watch S) : WatchEvent K S → Watch S
  | .listed isListed => if isListed k then w else unknown
  | .abandoned isListed => if isListed k then w else w.forget
  | .attempted _ _ => w
  | .finished key stamp isSuccess =>
    if key = k then (if isSuccess then known else failed stamp) else w

end Watch

/-- A listing has the entry, and an attempt that begins is at another one. -/
def WatchEvent.Keeps (k : K) : WatchEvent K S → Prop
  | .listed isListed => isListed k = true
  | .abandoned isListed => isListed k = true
  | .attempted key _ => key ≠ k
  | .finished _ _ _ => True

/-- The attempt that has begun and is not at its end. -/
def openAttempt (log : List (WatchEvent K S)) : Option (K × S) :=
  match log.getLast? with
  | some (.attempted k s) => some (k, s)
  | _ => none

theorem openAttempt_append (log : List (WatchEvent K S)) (e : WatchEvent K S) :
    openAttempt (log ++ [e]) = match e with
      | .attempted k s => some (k, s)
      | _ => none := by
  rw [openAttempt, List.getLast?_concat]
  cases e <;> rfl

variable [DecidableEq K]

/-- What is remembered of an entry after all that has happened. -/
def watched (log : List (WatchEvent K S)) (k : K) : Watch S := log.foldl (Watch.next k) .unknown

theorem watched_append (log : List (WatchEvent K S)) (e : WatchEvent K S) (k : K) :
    watched (log ++ [e]) k = (watched log k).next k e := by
  rw [watched, List.foldl_append]
  rfl

/-- The event can come next: an attempt was due, and its end comes right after its beginning. -/
def WatchEvent.MayFollow (past : List (WatchEvent K S)) : WatchEvent K S → Prop
  | .listed _ => openAttempt past = none
  | .abandoned _ => openAttempt past = none
  | .attempted k s => openAttempt past = none ∧ (watched past k).IsDue s
  | .finished k s _ => openAttempt past = some (k, s)

/-- Behind an attempt comes its end. -/
theorem WatchEvent.MayFollow.eq_finished {past : List (WatchEvent K S)} (h : e.MayFollow past)
    (hopen : openAttempt past = some (k, s)) : ∃ isSuccess, e = .finished k s isSuccess := by
  cases e with
  | listed isListed => cases hopen.symm.trans h
  | abandoned isListed => cases hopen.symm.trans h
  | attempted key stamp => cases hopen.symm.trans h.1
  | finished key stamp isSuccess =>
    cases hopen.symm.trans h
    exact ⟨isSuccess, rfl⟩

def Disciplined (log : List (WatchEvent K S)) : Prop :=
  ∀ past e, past ++ [e] <+: log → e.MayFollow past

theorem disciplined_nil : Disciplined ([] : List (WatchEvent K S)) := by
  intro past e h
  exact absurd (List.prefix_nil.mp h) (List.append_ne_nil_of_right_ne_nil past (by simp))

theorem Disciplined.append (h : Disciplined log) (he : e.MayFollow log) :
    Disciplined (log ++ [e]) := by
  intro past e' hpast
  obtain heq | hpast := List.prefix_concat_iff.mp hpast
  · obtain ⟨rfl, he'⟩ := List.append_inj' heq rfl
    cases he'
    exact he
  · exact h past e' hpast

/-- While an entry is listed and no attempt at it begins, the same is remembered of it. -/
theorem Disciplined.watched_append_of_keeps {past : List (WatchEvent K S)}
    (h : Disciplined (past ++ log)) (hclosed : openAttempt past = none)
    (hkeeps : ∀ e ∈ log, e.Keeps k) :
    watched (past ++ log) k = watched past k ∧ ∀ s, openAttempt (past ++ log) ≠ some (k, s) := by
  induction log using List.reverseRecOn with
  | nil => simp [hclosed]
  | append_singleton log e ih =>
    rw [← List.append_assoc] at h ⊢
    have hbefore : Disciplined (past ++ log) := fun past' e' hpast =>
      h past' e' (hpast.trans (List.prefix_append ..))
    obtain ⟨hwatched, hopen⟩ := ih hbefore fun e he => hkeeps e (List.mem_append_left _ he)
    have he : e.Keeps k := hkeeps e (List.mem_append_right _ List.mem_cons_self)
    have hfollow : e.MayFollow (past ++ log) := h _ e (List.prefix_refl _)
    rw [watched_append, openAttempt_append, ← hwatched]
    cases e with
    | listed isListed => exact ⟨if_pos he, nofun⟩
    | abandoned isListed => exact ⟨if_pos he, nofun⟩
    | attempted key stamp =>
      exact ⟨rfl, fun s heq => he (congrArg Prod.fst (Option.some.inj heq))⟩
    | finished key stamp isSuccess =>
      refine ⟨if_neg ?_, nofun⟩
      rintro rfl
      exact hopen stamp hfollow

/-- **An entry that is worked on again**, and was in every listing meanwhile, has failed before,
with another stamp. -/
theorem Disciplined.of_repeated (h : Disciplined log) {past meanwhile : List (WatchEvent K S)}
    {s' : S} (hrun : past ++ .attempted k s :: (meanwhile ++ [.attempted k s']) <+: log)
    (hkeeps : ∀ e ∈ meanwhile, e.Keeps k) :
    (∃ rest, meanwhile = .finished k s false :: rest) ∧ s ≠ s' := by
  have hopen : openAttempt (past ++ [.attempted k s]) = some (k, s) := openAttempt_append ..
  cases meanwhile with
  | nil =>
    have hfollow := h (past ++ [.attempted k s]) (.attempted k s') (by simpa using hrun)
    obtain ⟨isSuccess, hfinished⟩ := hfollow.eq_finished hopen
    cases hfinished
  | cons e rest =>
    have hpast : (past ++ [.attempted k s]) ++ [e] <+: log := by
      refine List.IsPrefix.trans ?_ hrun
      simp [List.prefix_append_right_inj, List.cons_prefix_cons]
    obtain ⟨isSuccess, rfl⟩ := (h _ e hpast).eq_finished hopen
    have hsplit : past ++ .attempted k s :: (.finished k s isSuccess :: rest ++
        [.attempted k s']) = past ++ [.attempted k s] ++ [.finished k s isSuccess] ++ rest ++
          [.attempted k s'] := by simp
    rw [hsplit] at hrun
    have hbefore : Disciplined (past ++ [.attempted k s] ++ [.finished k s isSuccess] ++ rest) :=
      fun past' e' hpast => h past' e' (hpast.trans ((List.prefix_append ..).trans hrun))
    have hclosed : openAttempt (past ++ [.attempted k s] ++ [.finished k s isSuccess]) = none :=
      openAttempt_append ..
    obtain ⟨hwatched, -⟩ := hbefore.watched_append_of_keeps hclosed
      fun e he => hkeeps e (List.mem_cons_of_mem _ he)
    have hdue := (h _ _ hrun).2
    rw [hwatched, watched_append, Watch.next, if_pos rfl] at hdue
    cases isSuccess with
    | true => exact hdue.elim
    | false => exact ⟨⟨rest, rfl⟩, hdue⟩

end

end Connect3Dp
