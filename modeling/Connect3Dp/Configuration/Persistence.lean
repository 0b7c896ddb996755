import Connect3Dp.Configuration.Store
import Connect3Dp.Runtime.Transition

/-!
# What is in the file when all calls have returned

A call changes the map and takes its snapshot under the lock, and writes the snapshot outside of it.
So snapshots are written in any order, and the last one written can be an old one
(`synced_fails`). While no snapshot is written over a newer one, the file has the map when all calls
have returned (`synced_of_ordered`).

The changes of the map are counted. `Invariant` says who is still going to write the last of them.
-/

namespace Connect3Dp

namespace JsonFileBasedMachineConfigurationStore

variable {Kind Configuration : Type}

/-- The map as a call saw it, and the number of changes until then. -/
structure Snapshot (Configuration : Type) where
  store : ConfigurationMap Configuration
  version : ℕ

/-- Where a call is that has changed the map. -/
inductive Call (Configuration : Type)
  | changed
  | snapshotted (snapshot : Snapshot Configuration)

/-- A store, its file and the calls that have not returned. -/
structure Shared (Configuration : Type) where
  store : ConfigurationMap Configuration
  file : FileContent
  calls : List (Call Configuration)
  /-- the changes of the map -/
  version : ℕ
  /-- the changes that are in the file -/
  written : ℕ

/-- The map is changed under the lock, by a call that will write it. -/
def Shared.change (s : Shared Configuration) (store : ConfigurationMap Configuration) :
    Shared Configuration :=
  { s with store, calls := s.calls ++ [.changed], version := s.version + 1 }

variable (codec : ConfigurationCodec Kind Configuration)

/-- A step of one of the calls. `Permits` says which snapshot may be written now. -/
inductive Step (Permits : Shared Configuration → Snapshot Configuration → Prop) :
    Shared Configuration → Shared Configuration → Prop
  /-- `_store[machineId] = configuration` -/
  | store (s : Shared Configuration) (machineId : String)
      (configuration : ConfigurationWithDiscrimination Configuration)
      (hid : isNullOrWhiteSpace (some machineId) = false) :
      Step Permits s (s.change (s.store.set machineId configuration))
  /-- `_store.Remove(machineId)`, of a key that is there -/
  | remove (s : Shared Configuration) (machineId : String)
      (hid : isNullOrWhiteSpace (some machineId) = false)
      (hkey : s.store.containsKey machineId = true) :
      Step Permits s (s.change (s.store.remove machineId))
  /-- the entries are collected under the lock -/
  | snapshot (s : Shared Configuration) (before after : List (Call Configuration))
      (hcalls : s.calls = before ++ .changed :: after) :
      Step Permits s
        { s with calls := before ++ .snapshotted ⟨s.store, s.version⟩ :: after }
  /-- `File.WriteAllTextAsync`, and the call returns -/
  | write (s : Shared Configuration) (before after : List (Call Configuration))
      (snapshot : Snapshot Configuration)
      (hcalls : s.calls = before ++ .snapshotted snapshot :: after)
      (hpermits : Permits s snapshot) :
      Step Permits s
        { s with
          file := persisted codec snapshot.store
          calls := before ++ after
          written := snapshot.version }

/-- No call is under way, and nothing has been changed. -/
structure Start (s : Shared Configuration) : Prop where
  calls : s.calls = []
  version : s.version = 0
  written : s.written = 0

/-- Nothing was changed, or the file has the map. -/
def Synced (s : Shared Configuration) : Prop :=
  s.version = 0 ∨ s.file = persisted codec s.store

/-- The snapshot is not older than what is in the file. -/
def InOrder (s : Shared Configuration) (snapshot : Snapshot Configuration) : Prop :=
  s.written ≤ snapshot.version

/-- The call is going to write the map as it is. -/
def WillWrite (version : ℕ) : Call Configuration → Prop
  | .changed => True
  | .snapshotted snapshot => snapshot.version = version

structure Invariant (s : Shared Configuration) : Prop where
  written_le : s.written ≤ s.version
  synced : s.written = s.version → Synced codec s
  snapshots : ∀ snapshot, Call.snapshotted snapshot ∈ s.calls → snapshot.version ≤ s.version ∧
    (snapshot.version = s.version → snapshot.store = s.store)
  pending : s.written = s.version ∨ ∃ call ∈ s.calls, WillWrite s.version call

variable {codec} {s s' : Shared Configuration}

theorem Invariant.of_start (h : Start s) : Invariant codec s where
  written_le := by rw [h.written, h.version]
  synced _ := .inl h.version
  snapshots snapshot hmem := by
    rw [h.calls] at hmem
    cases hmem
  pending := .inl (by rw [h.written, h.version])

/-- A change is written by the call that made it. -/
theorem Invariant.change (h : Invariant codec s) (store : ConfigurationMap Configuration) :
    Invariant codec (s.change store) where
  written_le := Nat.le_succ_of_le h.written_le
  synced heq := by
    have hle : s.written ≤ s.version := h.written_le
    have hsucc : s.written = s.version + 1 := heq
    omega
  snapshots snapshot hmem := by
    rcases List.mem_append.mp hmem with hold | hnew
    · have hle : snapshot.version ≤ s.version := (h.snapshots snapshot hold).1
      refine ⟨Nat.le_succ_of_le hle, fun heq => ?_⟩
      have hsucc : snapshot.version = s.version + 1 := heq
      omega
    · cases List.mem_singleton.mp hnew
  pending := .inr ⟨.changed, List.mem_append_right _ (List.mem_singleton.mpr rfl), trivial⟩

/-- **The invariant is kept while snapshots are written in order.** -/
theorem Invariant.step (h : Invariant codec s) (hstep : Step codec InOrder s s') :
    Invariant codec s' := by
  cases hstep with
  | store machineId configuration hid => exact h.change _
  | remove machineId hid hkey => exact h.change _
  | snapshot before after hcalls =>
    refine ⟨h.written_le, h.synced, fun snapshot hmem => ?_, .inr ?_⟩
    · rcases List.mem_append.mp hmem with hmem | hmem
      · exact h.snapshots snapshot (hcalls ▸ List.mem_append_left _ hmem)
      · rcases List.mem_cons.mp hmem with heq | hmem
        · cases heq
          exact ⟨le_rfl, fun _ => rfl⟩
        · exact h.snapshots snapshot
            (hcalls ▸ List.mem_append_right _ (List.mem_cons_of_mem _ hmem))
    · exact ⟨.snapshotted ⟨s.store, s.version⟩, List.mem_append_right _ List.mem_cons_self, rfl⟩
  | write before after snapshot hcalls hpermits =>
    have hmem : Call.snapshotted snapshot ∈ s.calls :=
      hcalls ▸ List.mem_append_right _ List.mem_cons_self
    obtain ⟨hle, hcurrent⟩ := h.snapshots snapshot hmem
    refine ⟨hle, fun heq => .inr (congrArg (persisted codec) (hcurrent heq)),
      fun other hother => ?_,
      ?_⟩
    · refine h.snapshots other (hcalls ▸ ?_)
      rcases List.mem_append.mp hother with hother | hother
      · exact List.mem_append_left _ hother
      · exact List.mem_append_right _ (List.mem_cons_of_mem _ hother)
    · by_cases hlast : snapshot.version = s.version
      · exact .inl hlast
      · -- The call that has the last change has not written it, as that would be out of order now.
        right
        have hwritten : s.written ≤ snapshot.version := hpermits
        have hpending : ∃ call ∈ s.calls, WillWrite s.version call := by
          refine h.pending.resolve_left fun heq => hlast ?_
          omega
        obtain ⟨call, hcall, hwill⟩ := hpending
        refine ⟨call, ?_, hwill⟩
        rw [hcalls] at hcall
        rcases List.mem_append.mp hcall with hcall | hcall
        · exact List.mem_append_left _ hcall
        · rcases List.mem_cons.mp hcall with rfl | hcall
          · exact absurd hwill hlast
          · exact List.mem_append_right _ hcall

/-- **When all calls have returned, the file has the map**, if snapshots are written in order. -/
theorem synced_of_ordered (codec : ConfigurationCodec Kind Configuration)
    (s₀ s : Shared Configuration) (hstart : Start s₀)
    (hrun : Relation.ReflTransGen (Step codec InOrder) s₀ s) (hidle : s.calls = []) :
    Synced codec s := by
  have hinvariant : Invariant codec s := by
    refine Reachable.induct (fun s => Invariant.of_start) (fun _ _ _ h hstep => h.step hstep)
      ⟨s₀, hstart, hrun⟩
  rcases hinvariant.pending with hwritten | ⟨call, hcall, -⟩
  · exact hinvariant.synced hwritten
  · rw [hidle] at hcall
    cases hcall

/-! ### Single calls -/

/-- A call that nothing interrupts is the sequence of its steps. -/
theorem run_storeConfiguration {machineId : NetString} {configuration : Option Configuration}
    {discrimination : NetString} {store' : ConfigurationMap Configuration} {file' : FileContent}
    (h : storeConfiguration codec machineId configuration discrimination s.store =
      .ok (store', file')) (hidle : s.calls = []) (hwritten : s.written ≤ s.version) :
    ∃ s', Relation.ReflTransGen (Step codec InOrder) s s' ∧ s'.calls = [] ∧ s'.store = store' ∧
      s'.file = file' := by
  unfold storeConfiguration at h
  split at h
  · cases h
  · rename_i hid
    cases configuration with
    | none => cases h
    | some configuration =>
      cases h
      cases machineId with
      | none => exact absurd rfl hid
      | some machineId =>
        let changed := s.change (s.store.set machineId ⟨configuration, discrimination⟩)
        let snapshot : Snapshot Configuration := ⟨changed.store, changed.version⟩
        let taken : Shared Configuration := { changed with calls := [.snapshotted snapshot] }
        have hchange : Step codec InOrder s changed :=
          .store s machineId _ (Bool.not_eq_true _ ▸ hid)
        have hcalls : changed.calls = [] ++ .changed :: [] := congrArg (· ++ [Call.changed]) hidle
        have hsnapshot : Step codec InOrder changed taken := .snapshot changed [] [] hcalls
        have hwrite : Step codec InOrder taken { taken with
            file := persisted codec snapshot.store, calls := [], written := snapshot.version } :=
          .write taken [] [] snapshot rfl (Nat.le_succ_of_le hwritten)
        exact ⟨_, ((Relation.ReflTransGen.single hchange).tail hsnapshot).tail hwrite,
          rfl, rfl, rfl⟩

/-- A store that was not loaded. -/
private def fresh : Shared Unit := ⟨∅, .absent, [], 0, 0⟩

private theorem start_fresh : Start fresh := ⟨rfl, rfl, rfl⟩

private def unitCodec : ConfigurationCodec Unit Unit :=
  ⟨fun _ => some (), fun _ _ => .ok (), fun _ => .object []⟩

private def first : Snapshot Unit := ⟨(∅ : ConfigurationMap Unit).set "a" ⟨(), none⟩, 1⟩

private def second : Snapshot Unit := ⟨first.store.set "b" ⟨(), none⟩, 2⟩

/-- Two printers are stored by two calls, and both snapshots are taken. -/
private def overlapping : Shared Unit :=
  ⟨second.store, .absent, [.snapshotted first, .snapshotted second], 2, 0⟩

/-- The second call starts before the first one has written its snapshot. -/
private theorem run_overlapping (Permits : Shared Unit → Snapshot Unit → Prop) :
    Relation.ReflTransGen (Step unitCodec Permits) fresh overlapping := by
  let s₁ : Shared Unit := fresh.change first.store
  let s₂ : Shared Unit := { s₁ with calls := [.snapshotted first] }
  let s₃ : Shared Unit := s₂.change second.store
  have h₁ : Step unitCodec Permits fresh s₁ := .store fresh "a" _ (by decide)
  have h₂ : Step unitCodec Permits s₁ s₂ := .snapshot s₁ [] [] rfl
  have h₃ : Step unitCodec Permits s₂ s₃ := .store s₂ "b" _ (by decide)
  have h₄ : Step unitCodec Permits s₃ overlapping := .snapshot s₃ [.snapshotted first] [] rfl
  exact (((Relation.ReflTransGen.single h₁).tail h₂).tail h₃).tail h₄

/-- Two overlapping calls that write in the order of their changes. -/
theorem synced_of_ordered_overlapping :
    ∃ s, Relation.ReflTransGen (Step unitCodec InOrder) fresh overlapping ∧
      Relation.ReflTransGen (Step unitCodec InOrder) overlapping s ∧ s.calls = [] ∧
      s.version = 2 ∧ Synced unitCodec s := by
  let s₅ : Shared Unit := { overlapping with
    file := persisted unitCodec first.store, calls := [.snapshotted second], written := 1 }
  let s₆ : Shared Unit := { s₅ with
    file := persisted unitCodec second.store, calls := [], written := 2 }
  have h₅ : Step unitCodec InOrder overlapping s₅ :=
    .write overlapping [] [.snapshotted second] first rfl (Nat.zero_le 1)
  have h₆ : Step unitCodec InOrder s₅ s₆ := .write s₅ [] [] second rfl (Nat.le_succ 1)
  have hwrites : Relation.ReflTransGen (Step unitCodec InOrder) overlapping s₆ :=
    (Relation.ReflTransGen.single h₅).tail h₆
  exact ⟨s₆, run_overlapping InOrder, hwrites, rfl, rfl,
    synced_of_ordered unitCodec fresh s₆ start_fresh ((run_overlapping InOrder).trans hwrites) rfl⟩

/-- Two overlapping calls, and the snapshot with the first printer alone is written last. -/
theorem synced_fails :
    ¬ ∀ (s₀ s : Shared Unit), Start s₀ →
      Relation.ReflTransGen (Step unitCodec fun _ _ => True) s₀ s → s.calls = [] →
        Synced unitCodec s := by
  intro hall
  let s₅ : Shared Unit := { overlapping with
    file := persisted unitCodec second.store, calls := [.snapshotted first], written := 2 }
  let s₆ : Shared Unit := { s₅ with
    file := persisted unitCodec first.store, calls := [], written := 1 }
  have h₅ : Step unitCodec (fun _ _ => True) overlapping s₅ :=
    .write overlapping [.snapshotted first] [] second rfl trivial
  have h₆ : Step unitCodec (fun _ _ => True) s₅ s₆ := .write s₅ [] [] first rfl trivial
  have hrun : Relation.ReflTransGen (Step unitCodec fun _ _ => True) fresh s₆ :=
    ((run_overlapping fun _ _ => True).tail h₅).tail h₆
  rcases hall fresh s₆ start_fresh hrun rfl with hversion | hfile
  · cases hversion
  · cases hfile

end JsonFileBasedMachineConfigurationStore

end Connect3Dp
