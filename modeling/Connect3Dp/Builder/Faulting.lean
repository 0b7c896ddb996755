import Connect3Dp.Builder.Buffers
import Mathlib.Order.Defs.Unbundled

/-!
# Builders that can raise exceptions

A builder whose `TryCreate` or `AppendUpdate` raises leaves its dictionary as it is in the
middle of the merge: nothing is rolled back. A `FaultingUpdater` gives the functions of such a
builder with their exceptions, and the merge runs in `EStateM`, whose error results keep the
state that was reached.

A merge that returns is the merge of the `Updater` that the builder refines
(`FaultingUpdater.Refines`); a merge that raises did so at one entry, after merging the entries
before it (`DictionaryBuffer.appendUpdate_error`).
-/

namespace Connect3Dp

/-! ### Computations on a part of the state -/

section Except

variable {ε α β : Type}

theorem bind_eq_ok_iff {x : Except ε α} {f : α → Except ε β} {b : β} :
    x >>= f = .ok b ↔ ∃ a, x = .ok a ∧ f a = .ok b := by
  cases x with
  | error e => exact ⟨nofun, nofun⟩
  | ok a =>
    refine ⟨fun h => ⟨a, rfl, h⟩, ?_⟩
    rintro ⟨a', ha, hb⟩
    cases ha
    exact hb

theorem ok_bind (a : α) (f : α → Except ε β) : (Except.ok a >>= f) = f a := rfl

theorem map_eq_ok_iff {x : Except ε α} {f : α → β} {b : β} :
    f <$> x = .ok b ↔ ∃ a, x = .ok a ∧ f a = b := by
  cases x with
  | error e => exact ⟨nofun, nofun⟩
  | ok a =>
    refine ⟨fun h => ⟨a, rfl, by injection h⟩, ?_⟩
    rintro ⟨a', ha, hb⟩
    cases ha
    rw [← hb]
    rfl

/-- A loop that collects results returns just when each of its steps does. -/
theorem exists_mapM_eq_ok_iff {f : α → Except ε β} {xs : List α} :
    (∃ ys, xs.mapM f = .ok ys) ↔ ∀ x ∈ xs, ∃ y, f x = .ok y := by
  induction xs with
  | nil => exact ⟨fun _ => nofun, fun _ => ⟨[], rfl⟩⟩
  | cons x xs ih =>
    rw [List.forall_mem_cons, ← ih]
    simp only [List.mapM_cons, bind_eq_ok_iff]
    exact ⟨fun ⟨_, y, hy, ys, hys, _⟩ => ⟨⟨y, hy⟩, ys, hys⟩,
      fun ⟨⟨y, hy⟩, ys, hys⟩ => ⟨_, y, hy, ys, hys, rfl⟩⟩

theorem eq_map_of_mapM_eq_ok {f : α → Except ε β} {g : α → β} {xs : List α} {ys : List β}
    (hfg : ∀ x y, f x = .ok y → g x = y) (h : xs.mapM f = .ok ys) : ys = xs.map g := by
  induction xs generalizing ys with
  | nil => cases h; rfl
  | cons x xs ih =>
    simp only [List.mapM_cons, bind_eq_ok_iff] at h
    obtain ⟨y, hy, ys', hys', h⟩ := h
    cases h
    rw [List.map_cons, hfg x y hy, ih hys']

theorem length_of_mapM_eq_ok {f : α → Except ε β} {xs : List α} {ys : List β}
    (h : xs.mapM f = .ok ys) : ys.length = xs.length := by
  induction xs generalizing ys with
  | nil => cases h; rfl
  | cons x xs ih =>
    simp only [List.mapM_cons, bind_eq_ok_iff] at h
    obtain ⟨y, -, ys', hys', h⟩ := h
    cases h
    rw [List.length_cons, List.length_cons, ih hys']

/-- Each result of a loop is that of one of its steps. -/
theorem exists_of_mem_of_mapM_eq_ok {f : α → Except ε β} {xs : List α} {ys : List β}
    (h : xs.mapM f = .ok ys) : ∀ y ∈ ys, ∃ x ∈ xs, f x = .ok y := by
  induction xs generalizing ys with
  | nil => cases h; exact List.forall_mem_nil _
  | cons x xs ih =>
    simp only [List.mapM_cons, bind_eq_ok_iff] at h
    obtain ⟨y, hy, ys', hys', h⟩ := h
    cases h
    refine List.forall_mem_cons.mpr ⟨⟨x, List.mem_cons_self, hy⟩, fun y' hy' => ?_⟩
    obtain ⟨x', hx', hf⟩ := ih hys' y' hy'
    exact ⟨x', List.mem_cons_of_mem x hx', hf⟩

/-- A loop each of whose steps appends appends what they do. -/
theorem foldlM_append {f : List β → α → Except ε (List β)} {g : α → List β}
    {l : List α} {found : List β} (h : ∀ a ∈ l, ∀ found, f found a = .ok (found ++ g a)) :
    l.foldlM f found = .ok (found ++ l.flatMap g) := by
  induction l generalizing found with
  | nil =>
    rw [List.flatMap_nil, List.append_nil]
    rfl
  | cons a l ih =>
    obtain ⟨ha, hl⟩ := List.forall_mem_cons.mp h
    rw [List.foldlM_cons, ha, ok_bind, ih hl, List.append_assoc, List.flatMap_cons]

/-- What each step of a loop must find to return, a loop that returns has found everywhere. -/
theorem forall_of_foldlM_eq_ok {f : β → α → Except ε β} {P : α → Prop} {l : List α}
    {found found' : β}
    (h : ∀ a found found', f found a = .ok found' → P a) (hl : l.foldlM f found = .ok found') :
    ∀ a ∈ l, P a := by
  induction l generalizing found with
  | nil => exact List.forall_mem_nil P
  | cons a l ih =>
    obtain ⟨next, ha, hrest⟩ := bind_eq_ok_iff.mp hl
    exact List.forall_mem_cons.mpr ⟨h a found next ha, ih hrest⟩

theorem findSomeM_eq_ok {f : α → Except ε (Option β)} {g : α → Option β}
    {l : List α} (h : ∀ a ∈ l, f a = .ok (g a)) : l.findSomeM? f = .ok (l.findSome? g) := by
  induction l with
  | nil => rfl
  | cons a l ih =>
    obtain ⟨ha, hl⟩ := List.forall_mem_cons.mp h
    rw [List.findSomeM?_cons, ha, ok_bind, List.findSome?_cons]
    cases g a with
    | none => exact ih hl
    | some b => rfl

/-- Every value that a computation can return has the property. -/
def Yields (x : Except ε α) (Q : α → Prop) : Prop := ∀ a, x = .ok a → Q a

namespace Yields

variable {x : Except ε α} {f : α → Except ε β} {P : α → Prop} {Q : β → Prop}

theorem pure {a : α} (h : P a) : Yields (Pure.pure a : Except ε α) P := by
  rintro _ ⟨⟩
  exact h

theorem throw {e : ε} : Yields (Except.error e : Except ε α) P := nofun

theorem bind (hx : Yields x P) (hf : ∀ a, P a → Yields (f a) Q) : Yields (x >>= f) Q := by
  intro b h
  obtain ⟨a, ha, hb⟩ := bind_eq_ok_iff.mp h
  exact hf a (hx a ha) b hb

theorem bind_eq (hf : ∀ a, x = .ok a → Yields (f a) Q) : Yields (x >>= f) Q :=
  bind (P := fun a => x = .ok a) (fun _ h => h) hf

/-- What is read does not matter. -/
theorem bind_any (hf : ∀ a, Yields (f a) Q) : Yields (x >>= f) Q := bind_eq fun a _ => hf a

theorem map {g : α → β} (hx : Yields x fun a => Q (g a)) : Yields (g <$> x) Q := by
  intro b h
  obtain ⟨a, ha, rfl⟩ := map_eq_ok_iff.mp h
  exact hx a ha

theorem mono {P' : α → Prop} (hx : Yields x P) (h : ∀ a, P a → P' a) : Yields x P' :=
  fun a ha => h a (hx a ha)

end Yields

end Except

section State

variable {ε σ τ α β : Type}

/-- Run a computation on a part of the state. The part is written back either way. -/
def onField (get : σ → τ) (set : σ → τ → σ) (m : EStateM ε τ α) : EStateM ε σ α := fun s =>
  match m.run (get s) with
  | .ok a t => .ok a (set s t)
  | .error e t => .error e (set s t)

theorem run_onField_ok {get : σ → τ} {set : σ → τ → σ} {m : EStateM ε τ α} {s : σ} {a : α} {t : τ}
    (h : m.run (get s) = .ok a t) : (onField get set m).run s = .ok a (set s t) := by
  rw [EStateM.run, onField, h]

theorem run_onField_error {get : σ → τ} {set : σ → τ → σ} {m : EStateM ε τ α} {s : σ} {e : ε}
    {t : τ} (h : m.run (get s) = .error e t) :
    (onField get set m).run s = .error e (set s t) := by
  rw [EStateM.run, onField, h]

/-- The state in which a computation ends, with or without an exception. -/
def finalState : EStateM.Result ε σ α → σ
  | .ok _ s => s
  | .error _ s => s

theorem run_bind_ok {m : EStateM ε σ α} {f : α → EStateM ε σ β} {s s' : σ} {a : α}
    (h : m.run s = .ok a s') : (m >>= f).run s = (f a).run s' := by
  rw [EStateM.run_bind, h]

theorem run_bind_error {m : EStateM ε σ α} {f : α → EStateM ε σ β} {s s' : σ} {e : ε}
    (h : m.run s = .error e s') : (m >>= f).run s = .error e s' := by
  rw [EStateM.run_bind, h]

theorem run_tryCatch_ok {m : EStateM ε σ α} {f : ε → EStateM ε σ α} {s s' : σ} {a : α}
    (h : m.run s = .ok a s') : (tryCatch m f).run s = .ok a s' := by
  rw [EStateM.run] at h
  simp only [tryCatch, tryCatchThe, MonadExceptOf.tryCatch, EStateM.tryCatch, EStateM.run, h]

theorem run_tryCatch_error {m : EStateM ε σ α} {f : ε → EStateM ε σ α} {s s' : σ} {e : ε}
    (h : m.run s = .error e s') : (tryCatch m f).run s = (f e).run s' := by
  rw [EStateM.run] at h
  simp only [tryCatch, tryCatchThe, MonadExceptOf.tryCatch, EStateM.tryCatch, EStateM.run, h]
  rfl

/-- A computation that returns has returned from each of its parts. -/
theorem exists_of_run_bind_ok {m : EStateM ε σ α} {f : α → EStateM ε σ β} {s s'' : σ} {b : β}
    (h : (m >>= f).run s = .ok b s'') :
    ∃ a s', m.run s = .ok a s' ∧ (f a).run s' = .ok b s'' := by
  cases hm : m.run s with
  | ok a s' =>
    rw [run_bind_ok hm] at h
    exact ⟨a, s', rfl, h⟩
  | error e s' =>
    rw [run_bind_error hm] at h
    cases h

theorem ofExcept_ok_bind (a : α) (f : α → EStateM ε σ β) :
    (ofExcept (Except.ok a : Except ε α) >>= f) = f a := rfl

theorem ofExcept_error_bind (e : ε) (f : α → EStateM ε σ β) :
    (ofExcept (Except.error e : Except ε α) >>= f) = throw e := rfl

/-- A computation that returns has read what it goes on with. -/
theorem exists_of_run_ofExcept_bind_ok {x : Except ε α} {f : α → EStateM ε σ β} {s s' : σ} {b : β}
    (h : (ofExcept x >>= f).run s = .ok b s') : ∃ a, x = .ok a ∧ (f a).run s = .ok b s' := by
  cases x with
  | ok a => exact ⟨a, rfl, h⟩
  | error e => cases h

/-- Whether a computation returned. -/
def returned : EStateM.Result ε σ α → Bool
  | .ok _ _ => true
  | .error _ _ => false

theorem exists_of_returned {r : EStateM.Result ε σ α} (h : returned r = true) :
    ∃ a s, r = .ok a s := by
  cases r with
  | ok a s => exact ⟨a, s, rfl⟩
  | error e s => cases h

theorem run_discard_ok {m : EStateM ε σ α} {s s' : σ} {a : α} (h : m.run s = .ok a s') :
    (discard m).run s = .ok () s' := by
  rw [EStateM.run] at h
  simp only [discard, EStateM.run, Functor.mapConst, Function.comp, EStateM.map, h]

theorem run_discard_error {m : EStateM ε σ α} {s s' : σ} {e : ε} (h : m.run s = .error e s') :
    (discard m).run s = .error e s' := by
  rw [EStateM.run] at h
  simp only [discard, EStateM.run, Functor.mapConst, Function.comp, EStateM.map, h]

theorem run_discard_eq_error_iff {m : EStateM ε σ α} {s s' : σ} {e : ε} :
    (discard m).run s = .error e s' ↔ m.run s = .error e s' := by
  cases h : m.run s with
  | ok a s'' =>
    rw [run_discard_ok h]
    constructor
    · intro h
      cases h
    · intro h
      cases h
  | error e' s'' =>
    rw [run_discard_error h]
    constructor
    · intro h
      cases h
      rfl
    · intro h
      cases h
      rfl

/-- Every outcome of a computation, an exception too, is related to the state before. -/
def Changes (R : σ → σ → Prop) (m : EStateM ε σ α) : Prop :=
  ∀ s, (∀ a s', m.run s = .ok a s' → R s s') ∧ ∀ e s', m.run s = .error e s' → R s s'

namespace Changes

variable {R : σ → σ → Prop} {m : EStateM ε σ α} {f : α → EStateM ε σ β}

theorem modify {f : σ → σ} (h : ∀ s, R s (f s)) :
    Changes R (modify f : EStateM ε σ PUnit) := by
  refine fun s => ⟨fun a s' hm => ?_, fun e s' hm => ?_⟩
  · cases hm
    exact h s
  · cases hm

theorem get_bind {f : σ → EStateM ε σ β} (h : ∀ s, Changes R (f s)) : Changes R (get >>= f) :=
  fun s => h s s

theorem mono {S : σ → σ → Prop} (hm : Changes R m) (h : ∀ s s', R s s' → S s s') : Changes S m :=
  fun s => ⟨fun a s' hr => h s s' ((hm s).1 a s' hr), fun e s' hr => h s s' ((hm s).2 e s' hr)⟩

/-- A computation on a field changes what it holds as the relation on the field's values allows. -/
theorem onField_of {S : τ → τ → Prop} {get : σ → τ} {set : σ → τ → σ} {m : EStateM ε τ α}
    (hm : Changes S m) (h : ∀ s t, S (get s) t → R s (set s t)) :
    Changes R (onField get set m) := by
  intro s
  cases hr : m.run (get s) with
  | ok a t =>
    rw [run_onField_ok hr]
    refine ⟨fun a' s' heq => ?_, fun e s' heq => ?_⟩
    · cases heq
      exact h s t ((hm (get s)).1 a t hr)
    · cases heq
  | error e t =>
    rw [run_onField_error hr]
    refine ⟨fun a' s' heq => ?_, fun e' s' heq => ?_⟩
    · cases heq
    · cases heq
      exact h s t ((hm (get s)).2 e t hr)

theorem onField {get : σ → τ} {set : σ → τ → σ} {m : EStateM ε τ α} (h : ∀ s t, R s (set s t)) :
    Changes R (onField get set m) := by
  intro s
  cases hm : m.run (get s) with
  | ok a t =>
    rw [run_onField_ok hm]
    refine ⟨fun a' s' hr => ?_, fun e s' hr => ?_⟩
    · cases hr
      exact h s t
    · cases hr
  | error e t =>
    rw [run_onField_error hm]
    refine ⟨fun a' s' hr => ?_, fun e' s' hr => ?_⟩
    · cases hr
    · cases hr
      exact h s t

variable [IsPreorder σ R]

theorem pure (a : α) : Changes R (pure a : EStateM ε σ α) := by
  refine fun s => ⟨fun a s' hm => ?_, fun e s' hm => ?_⟩
  · cases hm
    exact refl s
  · cases hm

theorem ofExcept (x : Except ε α) : Changes R (ofExcept x : EStateM ε σ α) := by
  intro s
  cases x with
  | error e =>
    refine ⟨fun a s' h => ?_, fun e' s' h => ?_⟩
    · cases h
    · cases h
      exact refl s
  | ok a =>
    refine ⟨fun a' s' h => ?_, fun e s' h => ?_⟩
    · cases h
      exact refl s
    · cases h

theorem bind (hm : Changes R m) (hf : ∀ a, Changes R (f a)) : Changes R (m >>= f) := by
  intro s
  cases h : m.run s with
  | ok a s' =>
    rw [run_bind_ok h]
    have hs := (hm s).1 a s' h
    exact ⟨fun b s'' hb => IsTrans.trans _ _ _ hs ((hf a s').1 b s'' hb),
      fun e s'' he => IsTrans.trans _ _ _ hs ((hf a s').2 e s'' he)⟩
  | error e s' =>
    rw [run_bind_error h]
    refine ⟨fun b s'' hb => ?_, fun e' s'' he => ?_⟩
    · cases hb
    · cases he
      exact (hm s).2 e s' h

theorem forM {f : α → EStateM ε σ PUnit} (h : ∀ a, Changes R (f a)) (xs : List α) :
    Changes R (forM xs f) := by
  induction xs with
  | nil => exact pure _
  | cons x xs ih =>
    rw [List.forM_cons]
    exact bind (h x) fun _ => ih

theorem forOption {f : α → EStateM ε σ PUnit} (h : ∀ a, Changes R (f a)) (o : Option α) :
    Changes R (o.forM f) := by
  cases o with
  | none => exact pure _
  | some a => exact h a

/-- What was read is acted on, if it is there. -/
theorem ofExcept_forM {x : Except ε (Option α)} {f : α → EStateM ε σ PUnit}
    (h : ∀ a, Changes R (f a)) : Changes R (MonadExcept.ofExcept x >>= fun o => o.forM f) :=
  bind (ofExcept x) fun o => forOption h o

/-- What was read is acted on, knowing what can be read. -/
theorem ofExcept_bind {x : Except ε α} {P : α → Prop} (hx : Yields x P)
    (hf : ∀ a, P a → Changes R (f a)) : Changes R (MonadExcept.ofExcept x >>= f) := by
  cases x with
  | error e => exact ofExcept (.error e)
  | ok a => exact hf a (hx a rfl)

end Changes

/-- What a computation ends with, in another state. -/
def mapState (f : σ → σ) : EStateM.Result ε σ α → EStateM.Result ε σ α
  | .ok a s => .ok a (f s)
  | .error e s => .error e (f s)

/-- A change of the state before a computation is the same change after it. -/
def Commutes (f : σ → σ) (m : EStateM ε σ α) : Prop :=
  ∀ s, m.run (f s) = mapState f (m.run s)

namespace Commutes

variable {f : σ → σ} {m : EStateM ε σ α} {k : α → EStateM ε σ β}

theorem pure (a : α) : Commutes f (pure a : EStateM ε σ α) := fun _ => rfl

theorem throw (e : ε) : Commutes f (throw e : EStateM ε σ α) := fun _ => rfl

theorem modify {g : σ → σ} (h : ∀ s, g (f s) = f (g s)) :
    Commutes f (modify g : EStateM ε σ PUnit) :=
  fun s => congrArg (EStateM.Result.ok PUnit.unit) (h s)

/-- The state is read for what the change leaves. -/
theorem get_bind {k : σ → EStateM ε σ β} (hk : ∀ s, k (f s) = k s) (h : ∀ s, Commutes f (k s)) :
    Commutes f (get >>= k) := by
  intro s
  change (k (f s)).run (f s) = mapState f ((k s).run s)
  rw [hk, h s s]

theorem bind (hm : Commutes f m) (hk : ∀ a, Commutes f (k a)) : Commutes f (m >>= k) := by
  intro s
  cases hrun : m.run s with
  | ok a s' => rw [run_bind_ok hrun, run_bind_ok ((hm s).trans (congrArg _ hrun)), hk a s']
  | error e s' =>
    rw [run_bind_error hrun, run_bind_error ((hm s).trans (congrArg _ hrun))]
    rfl

theorem ofExcept (x : Except ε α) : Commutes f (ofExcept x : EStateM ε σ α) := by
  cases x with
  | ok a => exact pure a
  | error e => exact throw e

theorem tryCatch {h : ε → EStateM ε σ α} (hm : Commutes f m) (hh : ∀ e, Commutes f (h e)) :
    Commutes f (tryCatch m h) := by
  intro s
  cases hrun : m.run s with
  | ok a s' =>
    rw [run_tryCatch_ok hrun, run_tryCatch_ok ((hm s).trans (congrArg _ hrun))]
    rfl
  | error e s' =>
    rw [run_tryCatch_error hrun, run_tryCatch_error ((hm s).trans (congrArg _ hrun)), hh e s']

/-- A computation on a field commutes with what leaves the field. -/
theorem onField {get : σ → τ} {set : σ → τ → σ} (m : EStateM ε τ α)
    (hget : ∀ s, get (f s) = get s) (hset : ∀ s t, set (f s) t = f (set s t)) :
    Commutes f (onField get set m) := by
  intro s
  cases hrun : m.run (get s) with
  | ok a t =>
    have hrun' : m.run (get (f s)) = .ok a t := by rw [hget, hrun]
    rw [run_onField_ok hrun, run_onField_ok hrun', hset]
    rfl
  | error e t =>
    have hrun' : m.run (get (f s)) = .error e t := by rw [hget, hrun]
    rw [run_onField_error hrun, run_onField_error hrun', hset]
    rfl

end Commutes

/-- Every value that a computation can return has the property, from any state. -/
def YieldsM (m : EStateM ε σ α) (Q : α → Prop) : Prop := ∀ s a s', m.run s = .ok a s' → Q a

namespace YieldsM

variable {m : EStateM ε σ α} {f : α → EStateM ε σ β} {P : α → Prop} {Q : β → Prop}

theorem pure {a : α} (h : P a) : YieldsM (Pure.pure a : EStateM ε σ α) P := by
  intro s a s' hr
  cases hr
  exact h

theorem ofExcept {x : Except ε α} (hx : Yields x P) :
    YieldsM (MonadExcept.ofExcept x : EStateM ε σ α) P := by
  intro s a s' hr
  cases x with
  | error e => cases hr
  | ok a' =>
    cases hr
    exact hx a rfl

theorem bind (hm : YieldsM m P) (hf : ∀ a, P a → YieldsM (f a) Q) : YieldsM (m >>= f) Q := by
  intro s b s'' h
  cases hr : m.run s with
  | error e s' =>
    rw [run_bind_error hr] at h
    cases h
  | ok a s' =>
    rw [run_bind_ok hr] at h
    exact hf a (hm s a s' hr) s' b s'' h

theorem bind_any (hf : ∀ a, YieldsM (f a) Q) : YieldsM (m >>= f) Q :=
  bind (P := fun _ => True) (fun _ _ _ _ => trivial) fun a _ => hf a

theorem ofExcept_bind {x : Except ε α} (hf : ∀ a, x = .ok a → YieldsM (f a) Q) :
    YieldsM (MonadExcept.ofExcept x >>= f) Q :=
  bind (P := fun a => x = .ok a) (ofExcept fun _ h => h) hf

/-- A computation that returns nothing. -/
theorem none : YieldsM (Pure.pure .none : EStateM ε σ (Option α)) fun o => ∀ a, o = some a → P a :=
  pure fun _ h => by cases h

theorem some {a : α} (h : P a) :
    YieldsM (Pure.pure (.some a) : EStateM ε σ (Option α)) fun o => ∀ a, o = .some a → P a :=
  pure fun _ ha => Option.some.inj ha ▸ h

theorem map_some {m : EStateM ε σ α} (hm : YieldsM m P) :
    YieldsM (Option.some <$> m) fun o => ∀ a, o = .some a → P a := by
  rw [map_eq_pure_bind]
  exact bind hm fun _ ha => some ha

end YieldsM

end State

/-! ### Merging -/

/-- An `Updater` whose functions can raise. `appendUpdate` leaves behind what it had changed
when it raised; for a struct, whose copy is written back only at the end, that is nothing. -/
structure FaultingUpdater (K U V C : Type) where
  assertKey : K → U → U
  diff : U → V → Except Fault (Option C)
  tryCreate : U → Except Fault (Option V)
  appendUpdate : U → EStateM Fault V Unit

namespace FaultingUpdater

variable {K U V C : Type} (e : FaultingUpdater K U V C)

def report (k : K) (u : U) : Option V → Except Fault (Option (V ⊕ C))
  | some existing => Option.map .inr <$> e.diff (e.assertKey k u) existing
  | none => Option.map .inl <$> e.tryCreate (e.assertKey k u)

def merge (k : K) (u : U) : EStateM Fault (Option V) Unit
  | some existing =>
    match (e.appendUpdate (e.assertKey k u)).run existing with
    | .ok _ v => .ok () (some v)
    | .error f v => .error f (some v)
  | none =>
    match e.tryCreate (e.assertKey k u) with
    | .ok created => .ok () created
    | .error f => .error f none

/-- What `e` returns when it returns is what the updater `t` computes. -/
structure Refines (t : Updater K U V C) : Prop where
  assertKey : e.assertKey = t.assertKey
  diff : ∀ u v o, e.diff u v = .ok o → t.diff u v = o
  tryCreate : ∀ u o, e.tryCreate u = .ok o → t.tryCreate u = o
  appendUpdate : ∀ u v v', (e.appendUpdate u).run v = .ok () v' → t.appendUpdate u v = v'

variable {e} {t : Updater K U V C}

theorem Refines.report (h : e.Refines t) {k : K} {u : U} {o : Option V} {r : Option (V ⊕ C)}
    (hr : e.report k u o = .ok r) : t.report k u o = r := by
  cases o with
  | none =>
    obtain ⟨a, ha, rfl⟩ := map_eq_ok_iff.mp hr
    rw [Updater.report, ← h.assertKey, h.tryCreate _ _ ha]
  | some v =>
    obtain ⟨a, ha, rfl⟩ := map_eq_ok_iff.mp hr
    rw [Updater.report, ← h.assertKey, h.diff _ _ _ ha]

theorem Refines.merge (h : e.Refines t) {k : K} {u : U} {o o' : Option V}
    (hm : (e.merge k u).run o = .ok () o') : t.merge k u o = o' := by
  cases o with
  | none =>
    simp only [EStateM.run, FaultingUpdater.merge] at hm
    split at hm
    · rename_i created hc
      cases hm
      rw [Updater.merge, ← h.assertKey, h.tryCreate _ _ hc]
    · cases hm
  | some v =>
    simp only [EStateM.run, FaultingUpdater.merge] at hm
    split at hm
    · rename_i v' hv
      cases hm
      rw [Updater.merge, ← h.assertKey, h.appendUpdate _ _ _ hv]
    · cases hm

end FaultingUpdater

namespace DictionaryBuffer

variable {K U V C : Type} [DecidableEq K]

def tryChanges (e : FaultingUpdater K U V C) (b : DictionaryBuffer K U) (d : Dictionary K V) :
    Except Fault (DictionaryChanges K V C) := do
  let reports ← b.entries.mapM fun kv =>
    (kv.1, ·) <$> e.report kv.1 kv.2 (d.tryGetValue kv.1)
  return .ofReports reports (b.removals.filter d.containsKey)

/-- Merge one entry into the dictionary. -/
def mergeEntry (e : FaultingUpdater K U V C) (kv : K × U) : EStateM Fault (Dictionary K V) Unit :=
  onField (·.tryGetValue kv.1) (·.assign kv.1 ·) (e.merge kv.1 kv.2)

def appendUpdate (e : FaultingUpdater K U V C) (b : DictionaryBuffer K U) :
    EStateM Fault (Dictionary K V) Unit := do
  forM b.entries (mergeEntry e)
  modify (·.removeAll b.removals)

variable {e : FaultingUpdater K U V C} {t : Updater K U V C} {b : DictionaryBuffer K U}
  {d d' : Dictionary K V}

theorem tryChanges_ok (h : e.Refines t) {c : DictionaryChanges K V C}
    (hc : b.tryChanges e d = .ok c) : c = b.changes t d := by
  obtain ⟨reports, hreports, hc⟩ := bind_eq_ok_iff.mp hc
  cases hc
  rw [changes, eq_map_of_mapM_eq_ok _ hreports]
  intro kv r hr
  obtain ⟨a, ha, rfl⟩ := map_eq_ok_iff.mp hr
  rw [h.report ha]

theorem exists_tryChanges_iff :
    (∃ c, b.tryChanges e d = .ok c) ↔
      ∀ k u, b.lookup k = some u → ∃ r, e.report k u (d.tryGetValue k) = .ok r := by
  have hentries : (∀ kv ∈ b.entries, ∃ y, (kv.1, ·) <$> e.report kv.1 kv.2 (d.tryGetValue kv.1) =
      Except.ok (ε := Fault) y) ↔
      ∀ k u, b.lookup k = some u → ∃ r, e.report k u (d.tryGetValue k) = .ok r := by
    simp only [Prod.forall, mem_entries_iff, map_eq_ok_iff]
    refine forall₂_congr fun k u => imp_congr_right fun _ => ?_
    constructor
    · rintro ⟨_, r, hr, -⟩
      exact ⟨r, hr⟩
    · rintro ⟨r, hr⟩
      exact ⟨_, r, hr, rfl⟩
  rw [← hentries, ← exists_mapM_eq_ok_iff, tryChanges]
  simp only [bind_eq_ok_iff]
  constructor
  · rintro ⟨_, ys, hys, -⟩
    exact ⟨ys, hys⟩
  · rintro ⟨ys, hys⟩
    exact ⟨_, ys, hys, rfl⟩

/-! ### The merge of a list of entries -/

/-- A merge that returns merged each entry into what its key held at the start. -/
theorem forM_mergeEntry_ok (h : e.Refines t) {kus : List (K × U)}
    (hm : (forM kus (mergeEntry e)).run d = .ok () d') : d' = d.alterAll t.merge kus := by
  induction kus generalizing d with
  | nil => cases hm; rfl
  | cons ku kus ih =>
    rw [List.forM_cons, EStateM.run_bind] at hm
    cases hhead : (e.merge ku.1 ku.2).run (d.tryGetValue ku.1) with
    | error f o =>
      rw [show (mergeEntry e ku).run d = .error f (d.assign ku.1 o) from
        run_onField_error hhead] at hm
      cases hm
    | ok x o =>
      rw [show (mergeEntry e ku).run d = .ok x (d.assign ku.1 o) from run_onField_ok hhead] at hm
      rw [ih hm, Dictionary.alterAll_cons, h.merge hhead]

/-- A merge that raises raised at one entry, with the entries before it merged. -/
theorem forM_mergeEntry_error (h : e.Refines t) {kus : List (K × U)}
    (hn : (kus.map Prod.fst).Nodup) {f : Fault}
    (hm : (forM kus (mergeEntry e)).run d = .error f d') :
    ∃ pre k u post o, kus = pre ++ (k, u) :: post ∧
      (∀ p ∈ pre, ∃ o, (e.merge p.1 p.2).run (d.tryGetValue p.1) = .ok () o) ∧
      (e.merge k u).run (d.tryGetValue k) = .error f o ∧
      d' = (d.alterAll t.merge pre).assign k o := by
  induction kus generalizing d with
  | nil => cases hm
  | cons ku kus ih =>
    rw [List.map_cons, List.nodup_cons] at hn
    rw [List.forM_cons, EStateM.run_bind] at hm
    cases hhead : (e.merge ku.1 ku.2).run (d.tryGetValue ku.1) with
    | error f' o =>
      rw [show (mergeEntry e ku).run d = .error f' (d.assign ku.1 o) from
        run_onField_error hhead] at hm
      cases hm
      exact ⟨[], ku.1, ku.2, kus, o, rfl, fun _ => nofun, hhead, rfl⟩
    | ok x o =>
      rw [show (mergeEntry e ku).run d = .ok x (d.assign ku.1 o) from run_onField_ok hhead] at hm
      obtain ⟨pre, k, u, post, o', rfl, hpre, herr, rfl⟩ := ih hn.2 hm
      have hkeep : ∀ p ∈ pre ++ (k, u) :: post,
          (d.assign ku.1 o).tryGetValue p.1 = d.tryGetValue p.1 := by
        intro p hp
        rw [Dictionary.tryGetValue_assign, if_neg]
        rintro hpk
        exact hn.1 (hpk ▸ List.mem_map_of_mem hp)
      refine ⟨ku :: pre, k, u, post, o', rfl, ?_, ?_, ?_⟩
      · intro p hp
        rcases List.mem_cons.mp hp with rfl | hp
        · exact ⟨o, hhead⟩
        · obtain ⟨o₁, ho₁⟩ := hpre p hp
          rw [hkeep p (List.mem_append_left _ hp)] at ho₁
          exact ⟨o₁, ho₁⟩
      · rw [← hkeep (k, u) (by simp)]
        exact herr
      · rw [Dictionary.alterAll_cons, h.merge hhead]

theorem run_appendUpdate_ok {d'' : Dictionary K V}
    (hm : (forM b.entries (mergeEntry e)).run d = .ok () d'') :
    (b.appendUpdate e).run d = .ok () (d''.removeAll b.removals) := by
  rw [appendUpdate, run_bind_ok hm]
  rfl

/-- **A merge that returns** is the merge of the refined updater. -/
theorem appendUpdate_ok (h : e.Refines t) (hm : (b.appendUpdate e).run d = .ok () d') :
    d' = b.apply t d := by
  cases hall : (forM b.entries (mergeEntry e)).run d with
  | ok x d'' =>
    rw [run_appendUpdate_ok hall] at hm
    cases hm
    rw [forM_mergeEntry_ok h hall, apply]
  | error f d'' =>
    rw [appendUpdate, run_bind_error hall] at hm
    cases hm

/-- **A merge that raises** leaves the entries before the raising one merged, and what that one
had done to the value its key held. -/
theorem appendUpdate_error (h : e.Refines t) {f : Fault}
    (hm : (b.appendUpdate e).run d = .error f d') :
    ∃ pre k u post o, b.entries = pre ++ (k, u) :: post ∧
      (∀ p ∈ pre, ∃ o, (e.merge p.1 p.2).run (d.tryGetValue p.1) = .ok () o) ∧
      (e.merge k u).run (d.tryGetValue k) = .error f o ∧
      d' = (d.alterAll t.merge pre).assign k o := by
  cases hall : (forM b.entries (mergeEntry e)).run d with
  | ok x d'' =>
    rw [run_appendUpdate_ok hall] at hm
    cases hm
  | error f' d'' =>
    rw [appendUpdate, run_bind_error hall] at hm
    cases hm
    exact forM_mergeEntry_error h b.nodup_entries hall

end DictionaryBuffer

/-! ### When a merge raises, and what it has done by then -/

section Raises

/-- The report of an entry against what its key holds raises. -/
def FaultingUpdater.ReportRaises {K U V C : Type} (e : FaultingUpdater K U V C) (k : K) (u : U)
    (o : Option V) : Prop := ∃ f, e.report k u o = .error f

/-- The merge of an entry into what its key holds raises. -/
def FaultingUpdater.MergeRaises {K U V C : Type} (e : FaultingUpdater K U V C) (k : K) (u : U)
    (o : Option V) : Prop := ∃ f o', (e.merge k u).run o = .error f o'

section Entries

variable {K U V C : Type} {e : FaultingUpdater K U V C} {k : K} {u : U} {v : V}

theorem FaultingUpdater.reportRaises_some_iff :
    e.ReportRaises k u (some v) ↔ ∃ f, e.diff (e.assertKey k u) v = .error f := by
  rw [ReportRaises, report]
  cases e.diff (e.assertKey k u) v with
  | error f => exact ⟨fun _ => ⟨f, rfl⟩, fun _ => ⟨f, rfl⟩⟩
  | ok o => exact ⟨nofun, nofun⟩

theorem FaultingUpdater.reportRaises_none_iff :
    e.ReportRaises k u none ↔ ∃ f, e.tryCreate (e.assertKey k u) = .error f := by
  rw [ReportRaises, report]
  cases e.tryCreate (e.assertKey k u) with
  | error f => exact ⟨fun _ => ⟨f, rfl⟩, fun _ => ⟨f, rfl⟩⟩
  | ok o => exact ⟨nofun, nofun⟩

theorem FaultingUpdater.run_merge_some_eq_error_iff {f : Fault} {o : Option V} :
    (e.merge k u).run (some v) = .error f o ↔
      ∃ v', (e.appendUpdate (e.assertKey k u)).run v = .error f v' ∧ o = some v' := by
  simp only [EStateM.run, merge]
  cases e.appendUpdate (e.assertKey k u) v with
  | ok x v' => exact ⟨nofun, nofun⟩
  | error f' v' =>
    constructor
    · intro h
      cases h
      exact ⟨v', rfl, rfl⟩
    · rintro ⟨v'', h, rfl⟩
      cases h
      rfl

theorem FaultingUpdater.run_merge_none_eq_error_iff {f : Fault} {o : Option V} :
    (e.merge k u).run none = .error f o ↔
      e.tryCreate (e.assertKey k u) = .error f ∧ o = none := by
  simp only [EStateM.run, merge]
  cases e.tryCreate (e.assertKey k u) with
  | ok o' => exact ⟨nofun, nofun⟩
  | error f' =>
    constructor
    · intro h
      cases h
      exact ⟨rfl, rfl⟩
    · rintro ⟨h, rfl⟩
      cases h
      rfl

theorem FaultingUpdater.mergeRaises_some_iff :
    e.MergeRaises k u (some v) ↔
      ∃ f v', (e.appendUpdate (e.assertKey k u)).run v = .error f v' := by
  simp only [MergeRaises, run_merge_some_eq_error_iff]
  exact exists_congr fun f => ⟨fun ⟨_, v', h, _⟩ => ⟨v', h⟩, fun ⟨v', h⟩ => ⟨_, v', h, rfl⟩⟩

theorem FaultingUpdater.mergeRaises_none_iff :
    e.MergeRaises k u none ↔ ∃ f, e.tryCreate (e.assertKey k u) = .error f := by
  simp only [MergeRaises, run_merge_none_eq_error_iff, exists_and_left, exists_eq, and_true]

end Entries

/-- The entries before the first that raises are all `still`, and that one is `stuck`. -/
def StillUntil {X : Type} (raises still stuck : X → Prop) : List X → Prop
  | [] => True
  | x :: xs => (raises x → stuck x) ∧ (¬ raises x → still x ∧ StillUntil raises still stuck xs)

theorem stillUntil_append_cons_iff {X : Type} {raises still stuck : X → Prop} {pre post : List X}
    {x : X} (hpre : ∀ y ∈ pre, ¬ raises y) (hx : raises x) :
    StillUntil raises still stuck (pre ++ x :: post) ↔ (∀ y ∈ pre, still y) ∧ stuck x := by
  induction pre with
  | nil =>
    rw [List.nil_append, StillUntil]
    exact ⟨fun h => ⟨fun _ => nofun, h.1 hx⟩, fun h => ⟨fun _ => h.2, fun hn => absurd hx hn⟩⟩
  | cons y pre ih =>
    rw [List.forall_mem_cons] at hpre ⊢
    rw [List.cons_append, StillUntil, ih hpre.2]
    exact ⟨fun h => ⟨⟨(h.2 hpre.1).1, (h.2 hpre.1).2.1⟩, (h.2 hpre.1).2.2⟩,
      fun h => ⟨fun hy => absurd hy hpre.1, fun _ => ⟨h.1.1, h.1.2, h.2⟩⟩⟩

theorem stillUntil_of_forall {X : Type} {raises still stuck : X → Prop} {xs : List X}
    (hstill : ∀ x ∈ xs, still x) (hstuck : ∀ x ∈ xs, stuck x) :
    StillUntil raises still stuck xs := by
  induction xs with
  | nil => trivial
  | cons x xs ih =>
    rw [List.forall_mem_cons] at hstill hstuck
    exact ⟨fun _ => hstuck.1, fun _ => ⟨hstill.1, ih hstill.2 hstuck.2⟩⟩

theorem stillUntil_congr {X : Type} {raises raises' still still' stuck : X → Prop} {xs : List X}
    (hraises : ∀ x ∈ xs, raises x ↔ raises' x) (hstill : ∀ x ∈ xs, still x ↔ still' x) :
    StillUntil raises still stuck xs ↔ StillUntil raises' still' stuck xs := by
  induction xs with
  | nil => exact Iff.rfl
  | cons x xs ih =>
    rw [List.forall_mem_cons] at hraises hstill
    rw [StillUntil, StillUntil, hraises.1, hstill.1, ih hraises.2 hstill.2]

end Raises

namespace DictionaryBuffer

variable {K U V C : Type} [DecidableEq K]

def ReportRaises (e : FaultingUpdater K U V C) (b : DictionaryBuffer K U) (d : Dictionary K V) :
    Prop := ∃ k u, b.lookup k = some u ∧ e.ReportRaises k u (d.tryGetValue k)

def MergeRaises (e : FaultingUpdater K U V C) (b : DictionaryBuffer K U) (d : Dictionary K V) :
    Prop := ∃ k u, b.lookup k = some u ∧ e.MergeRaises k u (d.tryGetValue k)

/-- The entries before the first that raises set what is there already, and that one has done
nothing (`stuck`) to the value its key holds. -/
def StillUntilRaise (e : FaultingUpdater K U V C) (t : Updater K U V C) (stuck : K → U → V → Prop)
    (b : DictionaryBuffer K U) (d : Dictionary K V) : Prop :=
  StillUntil (fun p => e.MergeRaises p.1 p.2 (d.tryGetValue p.1))
    (fun p => t.merge p.1 p.2 (d.tryGetValue p.1) = d.tryGetValue p.1)
    (fun p => ∀ v, d.tryGetValue p.1 = some v → stuck p.1 p.2 v) b.entries

variable {e : FaultingUpdater K U V C} {t : Updater K U V C} {b : DictionaryBuffer K U}
  {d d' : Dictionary K V}

theorem exists_tryChanges_error_iff : (∃ f, b.tryChanges e d = .error f) ↔ b.ReportRaises e d := by
  have hnot : (∃ f, b.tryChanges e d = .error f) ↔ ¬ ∃ c, b.tryChanges e d = .ok c := by
    cases b.tryChanges e d <;> simp
  have hentry : ∀ k u, (∃ r, e.report k u (d.tryGetValue k) = .ok r) ↔
      ¬ e.ReportRaises k u (d.tryGetValue k) := by
    intro k u
    rw [FaultingUpdater.ReportRaises]
    cases e.report k u (d.tryGetValue k) <;> simp
  rw [hnot, exists_tryChanges_iff, ReportRaises]
  simp only [hentry, not_forall, not_not, exists_prop]

/-- A merge returns just when each of its entries does. -/
theorem exists_forM_mergeEntry_ok_iff {kus : List (K × U)} (hn : (kus.map Prod.fst).Nodup) :
    (∃ d', (forM kus (mergeEntry e)).run d = .ok () d') ↔
      ∀ p ∈ kus, ¬ e.MergeRaises p.1 p.2 (d.tryGetValue p.1) := by
  induction kus generalizing d with
  | nil => exact ⟨fun _ => nofun, fun _ => ⟨d, rfl⟩⟩
  | cons ku kus ih =>
    rw [List.map_cons, List.nodup_cons] at hn
    rw [List.forM_cons, List.forall_mem_cons]
    cases hhead : (e.merge ku.1 ku.2).run (d.tryGetValue ku.1) with
    | error f o =>
      rw [run_bind_error (show (mergeEntry e ku).run d = .error f (d.assign ku.1 o) from
        run_onField_error hhead)]
      exact ⟨nofun, fun h => absurd ⟨f, o, hhead⟩ h.1⟩
    | ok x o =>
      have hkeep : ∀ p ∈ kus, (d.assign ku.1 o).tryGetValue p.1 = d.tryGetValue p.1 := by
        intro p hp
        rw [Dictionary.tryGetValue_assign, if_neg]
        rintro hpk
        exact hn.1 (hpk ▸ List.mem_map_of_mem hp)
      have hhere : ¬ e.MergeRaises ku.1 ku.2 (d.tryGetValue ku.1) := by
        rintro ⟨f, o', herr⟩
        rw [hhead] at herr
        cases herr
      rw [run_bind_ok (show (mergeEntry e ku).run d = .ok x (d.assign ku.1 o) from
        run_onField_ok hhead), ih hn.2, and_iff_right hhere]
      exact forall₂_congr fun p hp => by rw [hkeep p hp]

theorem exists_appendUpdate_error_iff :
    (∃ f d', (b.appendUpdate e).run d = .error f d') ↔ b.MergeRaises e d := by
  have hentries : b.MergeRaises e d ↔
      ¬ ∀ p ∈ b.entries, ¬ e.MergeRaises p.1 p.2 (d.tryGetValue p.1) := by
    simp only [MergeRaises, Prod.forall, mem_entries_iff, not_forall, not_not, exists_prop]
  rw [hentries, ← exists_forM_mergeEntry_ok_iff b.nodup_entries]
  cases hall : (forM b.entries (mergeEntry e)).run d with
  | ok x d'' => simp [run_appendUpdate_ok hall]
  | error f d'' =>
    rw [appendUpdate, run_bind_error hall]
    simp

omit [DecidableEq K] in
/-- A merge that raises keeps a value where there was one, and makes none where there was not. -/
theorem isSome_of_merge_error {k : K} {u : U} {o o' : Option V} {f : Fault}
    (h : (e.merge k u).run o = .error f o') : o'.isSome = o.isSome := by
  cases o with
  | none => rw [(FaultingUpdater.run_merge_none_eq_error_iff.mp h).2]
  | some v =>
    obtain ⟨v', -, rfl⟩ := FaultingUpdater.run_merge_some_eq_error_iff.mp h
    rfl

/-- What a merge that raises leaves: it has merged the entries before the one that raised, what that
one has left is kept, and the other keys are as before. -/
theorem exists_of_appendUpdate_error (h : e.Refines t) {f : Fault}
    (hm : (b.appendUpdate e).run d = .error f d') :
    ∃ pre k u post o, b.entries = pre ++ (k, u) :: post ∧ b.lookup k = some u ∧
      (e.merge k u).run (d.tryGetValue k) = .error f o ∧
      (∀ p ∈ pre, ¬ e.MergeRaises p.1 p.2 (d.tryGetValue p.1)) ∧
      d' = (d.alterAll t.merge pre).assign k o ∧
      (∀ p ∈ pre, d'.tryGetValue p.1 =
        (t.merge p.1 p.2 (d.tryGetValue p.1)).or (d.tryGetValue p.1)) ∧
      (∀ k' ≠ k, k' ∉ pre.map Prod.fst → d'.tryGetValue k' = d.tryGetValue k') ∧
      d'.tryGetValue k = o := by
  obtain ⟨pre, k, u, post, o, hentries, hpre, herr, rfl⟩ := appendUpdate_error h hm
  have hn : ((pre ++ (k, u) :: post).map Prod.fst).Nodup := hentries ▸ b.nodup_entries
  rw [List.map_append, List.map_cons, List.nodup_append] at hn
  obtain ⟨hnpre, -, hdisjoint⟩ := hn
  have hne : ∀ p ∈ pre, p.1 ≠ k := fun p hp =>
    hdisjoint p.1 (List.mem_map_of_mem hp) k List.mem_cons_self
  refine ⟨pre, k, u, post, o, hentries, mem_entries_iff.mp (by simp [hentries]), herr, ?_, rfl,
    fun p hp => ?_, fun k' hk' hmem => ?_, ?_⟩
  · rintro p hp ⟨f', o', herr'⟩
    obtain ⟨o₁, ho₁⟩ := hpre p hp
    rw [ho₁] at herr'
    cases herr'
  · rw [Dictionary.tryGetValue_assign, if_neg (hne p hp), Dictionary.tryGetValue_alterAll _ hnpre,
      (Dictionary.lookup_eq_some_iff_mem hnpre).mpr hp, Option.bind_some]
  · rw [Dictionary.tryGetValue_assign, if_neg hk', Dictionary.tryGetValue_alterAll _ hnpre,
      Dictionary.lookup_eq_none_of_notMem hmem, Option.bind_none, Option.none_or]
  · have hnone : pre.lookup k = none := Dictionary.lookup_eq_none_of_notMem fun hk => by
      obtain ⟨p, hp, hpk⟩ := List.mem_map.mp hk
      exact hne p hp hpk
    rw [Dictionary.tryGetValue_assign, if_pos rfl, Dictionary.tryGetValue_alterAll _ hnpre, hnone,
      Option.bind_none, Option.none_or]
    cases o with
    | some v => rfl
    | none =>
      have hsome := isSome_of_merge_error herr
      rw [Option.none_or]
      exact Option.isNone_iff_eq_none.mp (Option.isSome_eq_false_iff.mp hsome.symm)

/-- **A merge that raises has changed nothing just when it was still until it raised.** -/
theorem appendUpdate_error_eq_iff (h : e.Refines t) {stuck : K → U → V → Prop}
    (hstuck : ∀ k u f o', b.lookup k = some u → (e.merge k u).run (d.tryGetValue k) = .error f o' →
      (o' = d.tryGetValue k ↔ ∀ v, d.tryGetValue k = some v → stuck k u v)) {f : Fault}
    (hm : (b.appendUpdate e).run d = .error f d') :
    d' = d ↔ b.StillUntilRaise e t stuck d := by
  obtain ⟨pre, k, u, post, o, hentries, hu, herr, hquiet, hd', hpre, -, hk⟩ :=
    exists_of_appendUpdate_error h hm
  have hstill : b.StillUntilRaise e t stuck d ↔
      (∀ p ∈ pre, t.merge p.1 p.2 (d.tryGetValue p.1) = d.tryGetValue p.1) ∧
        o = d.tryGetValue k := by
    rw [StillUntilRaise, hentries, hstuck k u f o hu herr]
    exact stillUntil_append_cons_iff hquiet ⟨f, o, herr⟩
  rw [hstill]
  constructor
  · rintro rfl
    refine ⟨fun p hp => ?_, hk.symm⟩
    have hp' := (hpre p hp).symm
    cases hd : d'.tryGetValue p.1 with
    | none => rwa [hd, Option.or_none] at hp'
    | some v => rwa [hd, Updater.merge, Option.some_or] at hp'
  · rintro ⟨hall, ho⟩
    have hpre' : d.alterAll t.merge pre = d :=
      Dictionary.alterAll_eq_self fun p hp v hv => (hall p hp) ▸ hv
    rw [hd', hpre', Dictionary.assign_eq_self fun v hv => ho ▸ hv]

/-- **What is true of every entry** is true of every entry that a merge which raised has left just
when the entries before the one that raised made it so, and that one did (`stuck`). -/
theorem forall_appendUpdate_error_iff (h : e.Refines t) {P : K → V → Prop}
    (hd : ∀ k v, d.tryGetValue k = some v → P k v) {stuck : K → U → Prop}
    (hstuck : ∀ k u f o', b.lookup k = some u → (e.merge k u).run (d.tryGetValue k) = .error f o' →
      ((∀ v, o' = some v → P k v) ↔ stuck k u)) {f : Fault}
    (hm : (b.appendUpdate e).run d = .error f d') :
    (∀ k v, d'.tryGetValue k = some v → P k v) ↔
      StillUntil (fun p => e.MergeRaises p.1 p.2 (d.tryGetValue p.1))
        (fun p => ∀ v, t.merge p.1 p.2 (d.tryGetValue p.1) = some v → P p.1 v)
        (fun p => stuck p.1 p.2) b.entries := by
  obtain ⟨pre, k, u, post, o, hentries, hu, herr, hquiet, -, hpre, hother, hk⟩ :=
    exists_of_appendUpdate_error h hm
  rw [hentries, stillUntil_append_cons_iff hquiet ⟨f, o, herr⟩, ← hstuck k u f o hu herr]
  constructor
  · intro hall
    refine ⟨fun p hp v hv => hall p.1 v ?_, fun v hv => hall k v (hk.trans hv)⟩
    rw [hpre p hp, hv, Option.some_or]
  · rintro ⟨hall, hleft⟩ k' v hv
    by_cases hk' : k' = k
    · subst hk'
      exact hleft v (hk.symm.trans hv)
    by_cases hmem : k' ∈ pre.map Prod.fst
    · obtain ⟨p, hp, rfl⟩ := List.mem_map.mp hmem
      rw [hpre p hp] at hv
      cases hmerge : t.merge p.1 p.2 (d.tryGetValue p.1) with
      | none =>
        rw [hmerge, Option.none_or] at hv
        exact hd p.1 v hv
      | some v' =>
        rw [hmerge, Option.some_or] at hv
        cases hv
        exact hall p hp v hmerge
    · exact hd k' v ((hother k' hk' hmem).symm.trans hv)

end DictionaryBuffer

end Connect3Dp
