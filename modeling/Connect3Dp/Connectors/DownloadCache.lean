import Connect3Dp.Collections.RecentlyUsed
import Connect3Dp.Connectors.BambuLabFTP
import Connect3Dp.Runtime.Transition

/-!
# The cache of downloaded 3MF files

`Download3MF` keeps the files that it has loaded, and `LRU` their hashes in the order of their last
uses. A file that is transferred moves to the front. One that is returned because its transfer has
failed does not.

`leastRecentlyUsed_iff` says in which runs the list is in the order of all uses. In the order of the
uses that were transferred it always is.
-/

namespace Connect3Dp

open RecentlyUsed

namespace BambuLab

/-- A call of `Download3MF`, or the scan loop forgets a file that is gone. -/
inductive CacheEvent
  | download (remotePath : String) (transfer : Transfer)
  | forget (remotePath : String)

/-- A call that has returned a file. -/
structure CacheUse where
  hash : String
  recovered : Bool

namespace BBLFTPConnection

/-- The call gets into its `catch`. -/
def hasFailed (ftp : BBLFTPConnection) : Transfer → Bool
  | .failed => true
  | .received hash loaded => !ftp.cached3MF.containsKey hash && loaded.isNone

def use (ftp : BBLFTPConnection) : CacheEvent → Option CacheUse
  | .download remotePath transfer =>
    (ftp.download3MF remotePath transfer).1.map fun (_, hash) => ⟨hash, ftp.hasFailed transfer⟩
  | .forget _ => none

def perform (ftp : BBLFTPConnection) : CacheEvent → BBLFTPConnection
  | .download remotePath transfer => (ftp.download3MF remotePath transfer).2
  | .forget remotePath => { ftp with pathToHash := ftp.pathToHash.remove remotePath }

def run (ftp : BBLFTPConnection) (events : List CacheEvent) : BBLFTPConnection :=
  events.foldl perform ftp

/-- The uses in a run. -/
def uses (ftp : BBLFTPConnection) : List CacheEvent → List CacheUse
  | [] => []
  | e :: events => (ftp.use e).toList ++ (ftp.perform e).uses events

theorem run_concat (ftp : BBLFTPConnection) (events : List CacheEvent) (e : CacheEvent) :
    ftp.run (events ++ [e]) = (ftp.run events).perform e := by
  rw [run, List.foldl_append]
  rfl

theorem uses_concat (ftp : BBLFTPConnection) (events : List CacheEvent) (e : CacheEvent) :
    ftp.uses (events ++ [e]) = ftp.uses events ++ ((ftp.run events).use e).toList := by
  induction events generalizing ftp with
  | nil => rw [List.nil_append, uses, uses, uses, List.append_nil, List.nil_append, run,
      List.foldl_nil]
  | cons first events ih =>
    rw [List.cons_append, uses, uses, ih, List.append_assoc]
    rfl

/-! ### The order -/

/-- The hash is a key of `Cached3MF`. -/
abbrev Caches (ftp : BBLFTPConnection) (hash : String) : Prop :=
  ftp.cached3MF.containsKey hash = true

/-- `LRU` has the keys of `Cached3MF`, in the order of the uses. -/
structure KeepsRecent (ftp : BBLFTPConnection) (uses : List String) : Prop extends
    ByRecency uses ftp.lru where
  keys : ∀ hash, hash ∈ ftp.lru ↔ ftp.Caches hash
  length_le : ftp.lru.length ≤ maxCacheSize

variable {ftp : BBLFTPConnection} {uses : List String}

theorem keepsRecent_initial : initial.KeepsRecent [] where
  toByRecency := .nil
  keys _ := iff_of_false List.not_mem_nil Bool.false_ne_true
  length_le := Nat.zero_le _

/-- **What `TouchLRU` does**, when `Cached3MF` has the hash already. -/
theorem keepsRecent_touchLRU (h : ByRecency uses ftp.lru) (hlength : ftp.lru.length ≤ maxCacheSize)
    {key : String} (hkeys : ∀ hash, hash ∈ key :: ftp.lru.erase key ↔ ftp.Caches hash) :
    (ftp.touchLRU key).KeepsRecent (uses ++ [key]) := by
  have hfront := h.moveToFront key
  have hshorter : (ftp.lru.erase key).length ≤ ftp.lru.length := List.length_erase_le
  rw [touchLRU]
  split
  · obtain ⟨front, last, hlast⟩ : ∃ front last, key :: ftp.lru.erase key = front ++ [last] :=
      List.eq_nil_or_concat' _ |>.resolve_left (List.cons_ne_nil _ _)
    have hlengths := congrArg List.length hlast
    rw [List.length_cons, List.length_append, List.length_singleton] at hlengths
    rw [hlast] at hfront hkeys
    rw [hlast, List.dropLast_concat, List.getLast?_concat, Option.getD_some]
    refine ⟨hfront.sublist (List.sublist_append_left ..), fun hash => ?_, ?_⟩
    · exact ((mem_front_iff hfront.nodup).trans (and_congr_right' (hkeys hash))).trans
        (Dictionary.containsKey_remove_iff ..).symm
    · change front.length ≤ maxCacheSize
      omega
  · exact ⟨hfront, hkeys, by dsimp only; omega⟩

/-- What `TouchLRU` evicts is the last of the list, and only for a hash that is new to it. -/
theorem evicted_touchLRU (hlength : ftp.lru.length ≤ maxCacheSize) {key evicted : String}
    (hcaches : ftp.Caches evicted) (hgone : ¬ (ftp.touchLRU key).Caches evicted) :
    key ∉ ftp.lru ∧ ftp.lru.getLast? = some evicted := by
  rw [touchLRU] at hgone
  split at hgone
  · rename_i hlong
    have hnew : key ∉ ftp.lru := by
      intro hmem
      have hpos := List.length_pos_of_mem hmem
      rw [List.length_cons, List.length_erase_of_mem hmem] at hlong
      omega
    rw [List.erase_of_not_mem hnew] at hgone hlong
    have heq : (key :: ftp.lru).getLast?.getD key = evicted := by
      by_contra hother
      exact hgone ((Dictionary.containsKey_remove_iff ..).mpr ⟨Ne.symm hother, hcaches⟩)
    obtain hnil | ⟨front, last, hlast⟩ := ftp.lru.eq_nil_or_concat'
    · rw [hnil, List.length_singleton, maxCacheSize] at hlong
      omega
    · rw [hlast, ← List.cons_append, List.getLast?_concat, Option.getD_some] at heq
      exact ⟨hnew, by rw [hlast, List.getLast?_concat, heq]⟩
  · exact absurd hcaches hgone

theorem exists_recover_iff {remotePath hash : String} :
    (∃ bbl3MF, ftp.recover remotePath = some (bbl3MF, hash)) ↔
      ftp.pathToHash.tryGetValue remotePath = some hash ∧ ftp.Caches hash := by
  constructor
  · rintro ⟨bbl3MF, h⟩
    obtain ⟨oldHash, hpath, h⟩ := Option.bind_eq_some_iff.mp h
    obtain ⟨cached, hcached, h⟩ := Option.bind_eq_some_iff.mp h
    cases h
    exact ⟨hpath, Dictionary.containsKey_iff.mpr ⟨_, hcached⟩⟩
  · rintro ⟨hpath, hcaches⟩
    obtain ⟨cached, hcached⟩ := Dictionary.containsKey_iff.mp hcaches
    exact ⟨cached, Option.bind_eq_some_iff.mpr ⟨hash, hpath,
      Option.bind_eq_some_iff.mpr ⟨cached, hcached, rfl⟩⟩⟩

/-- The call changes neither the list nor the cache, and has recovered what it returns. -/
structure Recovers (ftp : BBLFTPConnection) (e : CacheEvent) : Prop where
  lru : (ftp.perform e).lru = ftp.lru
  cached3MF : (ftp.perform e).cached3MF = ftp.cached3MF
  use : ∀ u, ftp.use e = some u → u.recovered = true ∧ ftp.Caches u.hash

/-- The call has transferred what it returns: that is the newest then, and only the oldest can be
evicted. -/
structure Transfers (ftp : BBLFTPConnection) (uses : List String) (e : CacheEvent) (hash : String) :
    Prop where
  use : ftp.use e = some ⟨hash, false⟩
  keepsRecent : (ftp.perform e).KeepsRecent (uses ++ [hash])
  evicted : ∀ evicted, ftp.Caches evicted → ¬ (ftp.perform e).Caches evicted →
    hash ∉ ftp.lru ∧ ftp.lru.getLast? = some evicted

theorem download3MF_of_hasFailed {transfer : Transfer} (h : ftp.hasFailed transfer = true)
    (remotePath : String) :
    ftp.download3MF remotePath transfer = (ftp.recover remotePath, ftp) := by
  cases transfer with
  | failed => rfl
  | received hash loaded =>
    rw [hasFailed, Bool.and_eq_true, Bool.not_eq_true', Option.isNone_iff_eq_none] at h
    obtain ⟨hcaches, rfl⟩ := h
    exact ftp.download3MF_of_fault remotePath (Dictionary.containsKey_eq_false_iff.mp hcaches)

theorem use_of_hasFailed {transfer : Transfer} (h : ftp.hasFailed transfer = true)
    (remotePath : String) :
    ftp.use (.download remotePath transfer) =
      (ftp.recover remotePath).map fun (_, hash) => ⟨hash, true⟩ := by
  rw [use, download3MF_of_hasFailed h, h]

theorem recovers_of_hasFailed {transfer : Transfer} (h : ftp.hasFailed transfer = true)
    (remotePath : String) : ftp.Recovers (.download remotePath transfer) where
  lru := congrArg (fun result => result.2.lru) (download3MF_of_hasFailed h remotePath)
  cached3MF := congrArg (fun result => result.2.cached3MF) (download3MF_of_hasFailed h remotePath)
  use u hu := by
    rw [use_of_hasFailed h] at hu
    obtain ⟨⟨bbl3MF, hash⟩, hrecover, rfl⟩ := Option.map_eq_some_iff.mp hu
    exact ⟨rfl, (exists_recover_iff.mp ⟨bbl3MF, hrecover⟩).2⟩

/-- A call that ends with `TouchLRU`, once the hash is a key. -/
theorem transfers_of_touchLRU (h : ftp.KeepsRecent uses) {e : CacheEvent} {hash : String}
    {s : BBLFTPConnection} (hperform : ftp.perform e = s.touchLRU hash)
    (huse : ftp.use e = some ⟨hash, false⟩) (hlru : s.lru = ftp.lru)
    (hkeys : ∀ hash', s.Caches hash' ↔ hash' = hash ∨ ftp.Caches hash') :
    ftp.Transfers uses e hash where
  use := huse
  keepsRecent := by
    rw [hperform]
    refine keepsRecent_touchLRU (hlru ▸ h.toByRecency) (hlru ▸ h.length_le) fun hash' => ?_
    rw [hkeys, hlru, List.mem_cons, ← h.keys]
    by_cases heq : hash' = hash
    · exact iff_of_true (.inl heq) (.inl heq)
    · rw [List.mem_erase_of_ne heq]
  evicted evicted hevicted hgone := by
    rw [hperform] at hgone
    have hlast := evicted_touchLRU (hlru ▸ h.length_le) ((hkeys evicted).mpr (.inr hevicted)) hgone
    rwa [hlru] at hlast

theorem transfers_cached (h : ftp.KeepsRecent uses) (remotePath : String) {hash : String}
    {cached : BambuLab3MF} (hcached : ftp.cached3MF.tryGetValue hash = some cached)
    (loaded : Option BambuLab3MF) :
    ftp.Transfers uses (.download remotePath (.received hash loaded)) hash := by
  have hdownload := ftp.download3MF_of_cached remotePath hcached loaded
  have hcaches : ftp.Caches hash := Dictionary.containsKey_iff.mpr ⟨_, hcached⟩
  refine transfers_of_touchLRU h (congrArg Prod.snd hdownload) ?_ rfl fun hash' => ?_
  · rw [use, hdownload, hasFailed, hcaches]
    rfl
  · refine (or_iff_right_of_imp ?_).symm
    rintro rfl
    exact hcaches

theorem transfers_loaded (h : ftp.KeepsRecent uses) (remotePath : String) {hash : String}
    (hcached : ftp.cached3MF.tryGetValue hash = none) (loaded : BambuLab3MF) :
    ftp.Transfers uses (.download remotePath (.received hash (some loaded))) hash := by
  have hdownload := ftp.download3MF_of_loaded remotePath hcached loaded
  refine transfers_of_touchLRU h (congrArg Prod.snd hdownload) ?_ rfl fun hash' =>
    Dictionary.containsKey_set_iff ..
  rw [use, hdownload, hasFailed, Dictionary.containsKey_eq_false_iff.mpr hcached]
  rfl

/-- **What can happen.** -/
theorem perform_cases (h : ftp.KeepsRecent uses) (e : CacheEvent) :
    ftp.Recovers e ∨ ∃ hash, ftp.Transfers uses e hash := by
  cases e with
  | forget remotePath => exact .inl ⟨rfl, rfl, nofun⟩
  | download remotePath transfer =>
    cases hfailed : ftp.hasFailed transfer with
    | true => exact .inl (recovers_of_hasFailed hfailed remotePath)
    | false =>
      cases transfer with
      | failed => cases hfailed
      | received hash loaded =>
        cases hcached : ftp.cached3MF.tryGetValue hash with
        | some cached => exact .inr ⟨hash, transfers_cached h remotePath hcached loaded⟩
        | none =>
          cases loaded with
          | some loaded => exact .inr ⟨hash, transfers_loaded h remotePath hcached loaded⟩
          | none =>
            rw [hasFailed, Dictionary.containsKey_eq_false_iff.mpr hcached] at hfailed
            cases hfailed

theorem Recovers.keepsRecent_iff {e : CacheEvent} (he : ftp.Recovers e) (h : ftp.KeepsRecent uses)
    (uses' : List String) : (ftp.perform e).KeepsRecent uses' ↔ ByRecency uses' ftp.lru := by
  constructor
  · intro hperform
    exact he.lru ▸ hperform.toByRecency
  · intro hrecent
    refine ⟨he.lru ▸ hrecent, fun hash => ?_, he.lru ▸ h.length_le⟩
    rw [he.lru, Caches, he.cached3MF]
    exact h.keys hash

/-! ### Runs -/

/-- The entry that is evicted by what happens next is the one that was used least recently, and not
the one that is used. -/
structure LeastRecentlyUsed (ftp : BBLFTPConnection) (uses : List String) : Prop extends
    ftp.KeepsRecent uses where
  evicted : ∀ e evicted, ftp.Caches evicted → ¬ (ftp.perform e).Caches evicted →
    (∀ hash, ftp.Caches hash → hash ≠ evicted → UsedAfter uses hash evicted) ∧
      ∀ u, ftp.use e = some u → u.hash ≠ evicted

theorem KeepsRecent.leastRecentlyUsed (h : ftp.KeepsRecent uses) : ftp.LeastRecentlyUsed uses where
  toKeepsRecent := h
  evicted e evicted hcaches hgone := by
    obtain hrecovers | ⟨hash, htransfers⟩ := perform_cases h e
    · rw [Caches, hrecovers.cached3MF] at hgone
      exact absurd hcaches hgone
    · obtain ⟨hnew, hlast⟩ := htransfers.evicted evicted hcaches hgone
      refine ⟨fun hash' hcaches' hne => ?_, fun u hu => ?_⟩
      · exact h.usedAfter_getLast hlast ((h.keys hash').mpr hcaches') hne
      · rw [htransfers.use] at hu
        cases hu
        exact ne_of_mem_of_not_mem ((h.keys evicted).mpr hcaches) hnew |>.symm

/-- What is recovered is the newest entry. -/
def RecoversNewest (ftp : BBLFTPConnection) : CacheEvent → Prop
  | .download remotePath transfer => ftp.hasFailed transfer = true → ∀ oldHash,
      ftp.pathToHash.tryGetValue remotePath = some oldHash → ftp.Caches oldHash →
        ftp.lru.head? = some oldHash
  | .forget _ => True

theorem recoversNewest_iff {e : CacheEvent} :
    ftp.RecoversNewest e ↔
      ∀ u, ftp.use e = some u → u.recovered = true → ftp.lru.head? = some u.hash := by
  cases e with
  | forget remotePath => exact iff_of_true trivial nofun
  | download remotePath transfer =>
    rw [RecoversNewest]
    cases hfailed : ftp.hasFailed transfer with
    | false =>
      refine iff_of_true nofun fun u hu hrecovered => ?_
      obtain ⟨_, -, rfl⟩ := Option.map_eq_some_iff.mp hu
      exact absurd (hfailed.symm.trans hrecovered) Bool.false_ne_true
    | true =>
      rw [use_of_hasFailed hfailed]
      constructor
      · intro h u hu _
        obtain ⟨⟨bbl3MF, hash⟩, hrecover, rfl⟩ := Option.map_eq_some_iff.mp hu
        obtain ⟨hpath, hcaches⟩ := exists_recover_iff.mp ⟨bbl3MF, hrecover⟩
        exact h rfl hash hpath hcaches
      · intro h _ oldHash hpath hcaches
        obtain ⟨bbl3MF, hrecover⟩ := exists_recover_iff.mpr ⟨hpath, hcaches⟩
        exact h ⟨oldHash, true⟩ (Option.map_eq_some_iff.mpr ⟨_, hrecover, rfl⟩) rfl

/-- **What a step does to the order.** -/
theorem keepsRecent_perform_iff (h : ftp.KeepsRecent uses) (e : CacheEvent) :
    (ftp.perform e).KeepsRecent (uses ++ ((ftp.use e).toList.map CacheUse.hash)) ↔
      ftp.RecoversNewest e := by
  rw [recoversNewest_iff]
  obtain hrecovers | ⟨hash, htransfers⟩ := perform_cases h e
  · rw [hrecovers.keepsRecent_iff h]
    cases huse : ftp.use e with
    | none =>
      rw [Option.toList_none, List.map_nil, List.append_nil]
      exact iff_of_true h.toByRecency nofun
    | some u =>
      obtain ⟨hrecovered, hcaches⟩ := hrecovers.use u huse
      rw [Option.toList_some, List.map_singleton, h.concat_iff ((h.keys u.hash).mpr hcaches)]
      constructor
      · intro hnewest u' hu' _
        cases hu'
        exact hnewest
      · exact fun hnewest => hnewest u rfl hrecovered
  · rw [htransfers.use, Option.toList_some, List.map_singleton]
    refine iff_of_true htransfers.keepsRecent fun u hu hrecovered => ?_
    cases hu
    cases hrecovered

/-- The uses whose files were transferred. -/
def transferred (uses : List CacheUse) : List String :=
  (uses.filter fun u => !u.recovered).map CacheUse.hash

/-- In the order of these uses, the list always is. -/
theorem keepsRecent_run (events : List CacheEvent) :
    (initial.run events).KeepsRecent (transferred (initial.uses events)) := by
  induction events using List.reverseRecOn with
  | nil => exact keepsRecent_initial
  | append_singleton events e ih =>
    rw [run_concat, uses_concat, transferred, List.filter_append, List.map_append]
    obtain hrecovers | ⟨hash, htransfers⟩ := perform_cases ih e
    · have hnone : ((initial.run events).use e).toList.filter (fun u => !u.recovered) = [] := by
        rw [List.filter_eq_nil_iff]
        intro u hu
        rw [(hrecovers.use u (Option.mem_toList.mp hu)).1]
        decide
      rw [hnone, List.map_nil, List.append_nil]
      exact (hrecovers.keepsRecent_iff ih _).mpr ih.toByRecency
    · rw [htransfers.use]
      exact htransfers.keepsRecent

/-- **When the cache evicts what was used least recently**: the list is in the order of the uses
whose files were transferred in every run, and in that of all uses if and only if nothing but the
newest entry is ever recovered. -/
theorem leastRecentlyUsed_iff (events : List CacheEvent) :
    (∀ past, past <+: events →
      (initial.run past).LeastRecentlyUsed (transferred (initial.uses past))) ∧
    ((∀ past, past <+: events →
        (initial.run past).LeastRecentlyUsed ((initial.uses past).map CacheUse.hash)) ↔
      ∀ past e, past ++ [e] <+: events → (initial.run past).RecoversNewest e) := by
  refine ⟨fun past _ => (keepsRecent_run past).leastRecentlyUsed, ?_⟩
  refine forall_prefix_iff (P := fun past =>
    (initial.run past).LeastRecentlyUsed ((initial.uses past).map CacheUse.hash))
    keepsRecent_initial.leastRecentlyUsed (fun past e hpast => ?_) events
  rw [run_concat, uses_concat, List.map_append, ← keepsRecent_perform_iff hpast.toKeepsRecent]
  exact ⟨fun h => h.toKeepsRecent, KeepsRecent.leastRecentlyUsed⟩

/-- A file is recovered that is not the newest. -/
theorem leastRecentlyUsed_fails : ∃ events : List CacheEvent,
    (initial.run events).lru = ["9E07", "5D41"] ∧
      (initial.uses events).map CacheUse.hash = ["5D41", "9E07", "5D41"] ∧
      ¬ (initial.run events).LeastRecentlyUsed ((initial.uses events).map CacheUse.hash) := by
  let cube : BambuLab3MF := ⟨[], .finite 12, .finite 1800⟩
  refine ⟨[.download "/cube.3mf" (.received "5D41" (some cube)),
    .download "/vase.3mf" (.received "9E07" (some cube)), .download "/cube.3mf" .failed],
    rfl, rfl, fun h => ?_⟩
  have hordered : ["9E07", "5D41"].Pairwise (UsedAfter ["5D41", "9E07", "5D41"]) := h.ordered
  exact not_usedAfter_concat ["5D41", "9E07"] "9E07" "5D41"
    ((List.pairwise_cons.mp hordered).1 "5D41" List.mem_cons_self)

end BBLFTPConnection

end BambuLab

end Connect3Dp
