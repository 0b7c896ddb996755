import Connect3Dp.Runtime.Transition

/-!
# Joining a feed

A source changes, and what has changed is sent to the followers of its feed. A follower that joins
is registered, gets a copy of the source as it is, and writes everything that is sent into the copy
from then on. Registering, taking the copy and sending it are three steps, and so are changing and
sending what has changed, so a change can come in between anywhere.

The follower is up to date whenever nothing is under way (`copy_eq_of_reachable`), as long as
nothing is sent to it between the copy that is taken and the reply that carries it (`Keeps`): what
it is sent before it has the reply is lost on it. No other order matters. A change that the copy has
already is written into it a second time, so a feed has to be such that this changes nothing
(`Feed.write_again`).
-/

namespace Connect3Dp

/-- What a follower sees of a source, and how messages tell of its changes. There may be nothing to
tell. -/
structure Feed (S M V : Type*) where
  view : S → V
  write : M → V → V
  Changes : S → Option M → S → Prop
  view_of_changes : ∀ {s m s'}, Changes s m s' → m.elim (view s) (write · (view s)) = view s'
  write_again : ∀ {s m s'}, Changes s (some m) s' → write m (view s') = view s'

/-- What a follower is sent. -/
inductive FeedMessage (M V : Type*)
  | reply (copy : V)
  | report (message : M)

/-- The source with one follower. `pending` is a change whose message is yet to be sent, `snapshot`
a copy whose reply is. -/
structure Handover (S M V : Type*) where
  source : S
  pending : Option (Option M)
  isRegistered : Bool
  snapshot : Option V
  wire : List (FeedMessage M V)
  copy : Option V

namespace Feed

variable {S M V : Type*} (F : Feed S M V)

def follow (m : Option M) (v : V) : V := m.elim v (F.write · v)

/-- A follower without a copy has nothing to write into. -/
def receive (copy : Option V) : FeedMessage M V → Option V
  | .reply v => some v
  | .report m => copy.map (F.write m)

end Feed

namespace Handover

variable {S M V : Type*} (F : Feed S M V)

inductive HandoverEvent (M : Type*)
  | change
  | report (message : Option M)
  | register
  | snapshot
  | reply
  | deliver

/-- Nobody has joined. -/
structure Initial (σ : Handover S M V) : Prop where
  pending : σ.pending = none
  snapshot : σ.snapshot = none
  wire : σ.wire = []
  copy : σ.copy = none

inductive Step (σ : Handover S M V) : HandoverEvent M → Handover S M V → Prop
  | change {s' : S} {m : Option M} (hidle : σ.pending = none) (h : F.Changes σ.source m s') :
    Step σ .change { σ with source := s', pending := some m }
  | report {m : Option M} (h : σ.pending = some m) :
    Step σ (.report m) { σ with
      pending := none
      wire := σ.wire ++ if σ.isRegistered then (m.map .report).toList else [] }
  | register : Step σ .register { σ with isRegistered := true }
  | snapshot (hregistered : σ.isRegistered = true) (h : σ.snapshot = none) :
    Step σ .snapshot { σ with snapshot := some (F.view σ.source) }
  | reply {v : V} (h : σ.snapshot = some v) :
    Step σ .reply { σ with snapshot := none, wire := σ.wire ++ [.reply v] }
  | deliver {message : FeedMessage M V} {wire : List (FeedMessage M V)}
    (h : σ.wire = message :: wire) :
    Step σ .deliver { σ with wire, copy := F.receive σ.copy message }

/-- Nothing is sent while a reply is. -/
def Keeps (σ : Handover S M V) : HandoverEvent M → Prop
  | .report m => σ.snapshot = none ∨ m = none
  | _ => True

/-- The copy that there will be when everything has been delivered. -/
def expected (σ : Handover S M V) : Option V := σ.wire.foldl F.receive σ.copy

/-- The copy is up to date but for the message that is yet to be sent. -/
def Tracks (σ : Handover S M V) (v : V) : Prop :=
  match σ.pending with
  | none => v = F.view σ.source
  | some m => F.follow m v = F.view σ.source

structure Current (σ : Handover S M V) : Prop where
  settled : ∀ m, σ.pending = some m → F.follow m (F.view σ.source) = F.view σ.source
  snapshot : ∀ v, σ.snapshot = some v → σ.isRegistered = true ∧ σ.Tracks F v
  expected : ∀ v, σ.expected F = some v → σ.isRegistered = true ∧ σ.Tracks F v

variable {F} {σ σ' : Handover S M V} {e : HandoverEvent M}

theorem expected_append (messages : List (FeedMessage M V)) :
    expected F { σ with wire := σ.wire ++ messages } = messages.foldl F.receive (σ.expected F) :=
  List.foldl_append ..

theorem current_of_initial (h : Initial σ) : σ.Current F where
  settled m hm := by
    rw [h.pending] at hm
    cases hm
  snapshot v hv := by
    rw [h.snapshot] at hv
    cases hv
  expected v hv := by
    rw [Handover.expected, h.wire, h.copy] at hv
    cases hv

/-- The source changes. -/
theorem tracks_change {s' : S} {m : Option M} (hidle : σ.pending = none)
    (h : F.Changes σ.source m s') {v : V} (hv : σ.Tracks F v) :
    Tracks F { σ with source := s', pending := some m } v := by
  rw [Tracks, hidle] at hv
  rw [hv]
  exact F.view_of_changes h

/-- The message is sent to a follower that is registered. -/
theorem expected_report (m : Option M) :
    expected F { σ with wire := σ.wire ++ (m.map FeedMessage.report).toList } =
      (σ.expected F).map (F.follow m) := by
  rw [expected_append]
  cases m with
  | none => cases σ.expected F <;> rfl
  | some m => rfl

/-- **Every step that meets `Keeps` preserves `Current`.** -/
theorem Current.step (h : σ.Current F) (hstep : Step F σ e σ') (hkeeps : Keeps σ e) :
    σ'.Current F := by
  cases hstep with
  | @change s' m hidle hchanges =>
    refine ⟨fun m' hm' => ?_, fun v hv => ?_, fun v hv => ?_⟩
    · obtain rfl : m = m' := Option.some.inj hm'
      cases m with
      | none => rfl
      | some m => exact F.write_again hchanges
    · exact (h.snapshot v hv).imp_right (tracks_change hidle hchanges)
    · exact (h.expected v hv).imp_right (tracks_change hidle hchanges)
  | @report m hpending =>
    have htracks : ∀ v, σ.Tracks F v → F.follow m v = F.view σ.source := by
      intro v hv
      rwa [Tracks, hpending] at hv
    refine ⟨fun _ hm => (by cases hm), fun v hv => ?_, fun v hv => ?_⟩
    · obtain ⟨hregistered, hv'⟩ := h.snapshot v hv
      obtain hnone | rfl := hkeeps
      · rw [hnone] at hv
        cases hv
      · exact ⟨hregistered, htracks v hv'⟩
    · change Handover.expected F
        { σ with wire := σ.wire ++ if σ.isRegistered = true then _ else [] } = some v at hv
      by_cases hregistered : σ.isRegistered = true
      · rw [if_pos hregistered, expected_report, Option.map_eq_some_iff] at hv
        obtain ⟨w, hw, rfl⟩ := hv
        exact ⟨hregistered, htracks w (h.expected w hw).2⟩
      · rw [if_neg hregistered, expected_append] at hv
        exact absurd (h.expected v hv).1 hregistered
  | register =>
    exact ⟨h.settled, fun v hv => ⟨rfl, (h.snapshot v hv).2⟩,
      fun v hv => ⟨rfl, (h.expected v hv).2⟩⟩
  | snapshot hregistered hnone =>
    refine ⟨h.settled, fun v hv => ⟨hregistered, ?_⟩, h.expected⟩
    obtain rfl : F.view σ.source = v := Option.some.inj hv
    change σ.Tracks F (F.view σ.source)
    unfold Tracks
    split
    · rfl
    · rename_i m hm
      exact h.settled m hm
  | @reply v hsnapshot =>
    refine ⟨h.settled, fun _ hv => (by cases hv), fun w hw => ?_⟩
    have hexpected : Handover.expected F { σ with wire := σ.wire ++ [.reply v] } = some v := by
      rw [expected_append]
      rfl
    obtain rfl : v = w := Option.some.inj (hexpected.symm.trans hw)
    exact h.snapshot v hsnapshot
  | deliver hwire =>
    refine ⟨h.settled, h.snapshot, fun v hv => h.expected v ?_⟩
    rw [Handover.expected, hwire]
    exact hv

/-- **A follower is up to date** whenever nothing is under way, after every run that meets
`Keeps`. -/
theorem copy_eq_of_reachable
    (h : Reachable Initial (fun σ σ' => ∃ e, Step F σ e σ' ∧ Keeps σ e) σ) {v : V}
    (hpending : σ.pending = none) (hwire : σ.wire = []) (hcopy : σ.copy = some v) :
    v = F.view σ.source := by
  have hcurrent : σ.Current F := by
    refine h.induct (fun _ => current_of_initial) ?_
    rintro σ σ' - hσ ⟨e, hstep, hkeeps⟩
    exact hσ.step hstep hkeeps
  have hexpected : σ.expected F = some v := by
    rw [expected, hwire, hcopy]
    rfl
  have htracks := (hcurrent.expected v hexpected).2
  rwa [Tracks, hpending] at htracks

end Handover

end Connect3Dp
