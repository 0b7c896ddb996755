import Connect3Dp.Connectors.AutoResolve
import Connect3Dp.Connectors.CommitRuns
import Connect3Dp.State.Setters

/-!
# The lifetime of a notification

`SetNotifications(message)` writes the message, and the same time as the time of issue and the time
the message was last seen. The entry it leaves in the builder creates a notification, or updates the
one that is stored; in the second case the time of issue, which is init-only, is skipped. So along a
run a stored notification has the time of issue of the commit that inserted it, and the message and
the other time of the last commit that set it (`notification_lifetime`), whatever was resolved or
removed in between.
-/

namespace Connect3Dp

namespace MachineStateUpdate

/-- The notifications of the update were written by `SetNotifications(message)`, and removed. -/
inductive NotifiesByMessage : MachineStateUpdate → Prop
  | untouched {u : MachineStateUpdate} (h : u.notifications = default) : NotifiesByMessage u
  | setNotifications {u u' : MachineStateUpdate} (utcNow : DateTimeOffset)
      (message : MachineMessage) (h : NotifiesByMessage u)
      (hset : u.setNotifications utcNow message = .ok u') : NotifiesByMessage u'
  | removeNotification {u : MachineStateUpdate} (id : String) (h : NotifiesByMessage u) :
      NotifiesByMessage (u.removeNotification id)
  | others {u u' : MachineStateUpdate} (h : NotifiesByMessage u)
      (hsame : u'.notifications = u.notifications) : NotifiesByMessage u'

/-- The update has an entry for the notification, with the message and the time. -/
def Carries (u : MachineStateUpdate) (id : String) (message : MachineMessage)
    (utcNow : DateTimeOffset) : Prop :=
  u.notifications.lookup id = some ⟨⟨message, true⟩, ⟨utcNow, true⟩, ⟨utcNow, true⟩⟩

/-- Every entry is what `SetNotifications` left of it, under the identifier of its message. -/
theorem NotifiesByMessage.carries {u : MachineStateUpdate} (hu : u.NotifiesByMessage) {id : String}
    {nu : NotificationUpdate} (hnu : u.notifications.lookup id = some nu) :
    ∃ message utcNow, nu = ⟨⟨message, true⟩, ⟨utcNow, true⟩, ⟨utcNow, true⟩⟩ ∧
      message.id = some id := by
  induction hu generalizing id nu with
  | untouched h =>
    rw [h] at hnu
    cases hnu
  | @setNotifications u u' utcNow message _ hset ih =>
    cases hid : message.id with
    | none =>
      rw [MachineStateUpdate.setNotifications, hid] at hset
      cases hset
    | some id' =>
      rw [MachineStateUpdate.setNotifications, hid] at hset
      cases hset
      rw [DictionaryBuffer.lookup_update] at hnu
      split at hnu
      · rename_i heq
        cases hnu
        exact ⟨message, utcNow, rfl, heq ▸ hid⟩
      · exact ih hnu
  | removeNotification _ _ ih => exact ih hnu
  | others _ hsame ih =>
    rw [hsame] at hnu
    exact ih hnu

end MachineStateUpdate

namespace MachineConnection

variable {Cron : Type} [DecidableEq Cron] [Hashable (HeatingSchedule Cron)]
  [Hashable (ScheduledPrint Cron)] {c : MachineConnection Cron} {k : Commit Cron}
  {commits : List (Commit Cron)} {id : String}

/-- The commit reaches the notifications, and its update has an entry for this one. -/
def SetsAt (c : MachineConnection Cron) (k : Commit Cron) (id : String) : Prop :=
  c.Applies k.update ∧ ∃ nu, k.update.notifications.lookup id = some nu

/-- The notification was inserted by a commit that carried this time, and has stayed since. -/
def InsertedAt (c : MachineConnection Cron) (commits : List (Commit Cron)) (id : String)
    (issuedAt : DateTimeOffset) : Prop :=
  ∃ before k after message, commits = before ++ k :: after ∧
    (c.run before).state.notifications.tryGetValue id = none ∧
    (∀ past, past <+: after →
      ((c.run (before ++ k :: past)).state.notifications.tryGetValue id).isSome = true) ∧
    (c.run before).SetsAt k id ∧ k.update.Carries id message issuedAt

/-- The last commit that set the notification carried this message and this time. -/
def LastSetTo (c : MachineConnection Cron) (commits : List (Commit Cron)) (id : String)
    (message : MachineMessage) (lastSeenAt : DateTimeOffset) : Prop :=
  ∃ earlier k later, commits = earlier ++ k :: later ∧ (c.run earlier).SetsAt k id ∧
    (∀ past k', past ++ [k'] <+: later → ¬ (c.run (earlier ++ k :: past)).SetsAt k' id) ∧
    k.update.Carries id message lastSeenAt

theorem InsertedAt.concat {issuedAt : DateTimeOffset} (h : c.InsertedAt commits id issuedAt)
    (hstays : ((c.run (commits ++ [k])).state.notifications.tryGetValue id).isSome = true) :
    c.InsertedAt (commits ++ [k]) id issuedAt := by
  obtain ⟨before, k₀, after, message, rfl, habsent, hpresent, hsets, hcarries⟩ := h
  refine ⟨before, k₀, after ++ [k], message, by simp, habsent, fun past hpast => ?_, hsets,
    hcarries⟩
  obtain rfl | hpast := List.prefix_concat_iff.mp hpast
  · rwa [List.append_assoc, List.cons_append] at hstays
  · exact hpresent past hpast

theorem LastSetTo.concat {message : MachineMessage} {lastSeenAt : DateTimeOffset}
    (h : c.LastSetTo commits id message lastSeenAt) (hnot : ¬ (c.run commits).SetsAt k id) :
    c.LastSetTo (commits ++ [k]) id message lastSeenAt := by
  obtain ⟨earlier, k₀, later, rfl, hsets, hlast, hcarries⟩ := h
  refine ⟨earlier, k₀, later ++ [k], by simp, hsets, fun past k' hpast => ?_, hcarries⟩
  obtain heq | hpast := List.prefix_concat_iff.mp hpast
  · obtain ⟨rfl, hk⟩ := List.append_inj' heq rfl
    cases hk
    exact hnot
  · exact hlast past k' hpast

theorem insertedAt_concat {message : MachineMessage} {issuedAt : DateTimeOffset}
    (habsent : (c.run commits).state.notifications.tryGetValue id = none)
    (hsets : (c.run commits).SetsAt k id) (hcarries : k.update.Carries id message issuedAt)
    (hpresent : ((c.run (commits ++ [k])).state.notifications.tryGetValue id).isSome = true) :
    c.InsertedAt (commits ++ [k]) id issuedAt := by
  refine ⟨commits, k, [], message, rfl, habsent, fun past hpast => ?_, hsets, hcarries⟩
  rwa [List.prefix_nil.mp hpast]

theorem lastSetTo_concat {message : MachineMessage} {lastSeenAt : DateTimeOffset}
    (hsets : (c.run commits).SetsAt k id) (hcarries : k.update.Carries id message lastSeenAt) :
    c.LastSetTo (commits ++ [k]) id message lastSeenAt := by
  refine ⟨commits, k, [], rfl, hsets, fun past k' hpast => ?_, hcarries⟩
  exact absurd (List.prefix_nil.mp hpast) (List.concat_ne_nil k' past)

/-- **The lifetime of a notification**: while it stays, it was issued at the time of the commit
that inserted it; its message and the time it was last seen are those of the last commit that set
it; and it is stored under the identifier of its message. -/
theorem notification_lifetime (hstart : c.state.notifications = ∅)
    (hcommits : ∀ k ∈ commits, k.update.NotifiesByMessage) {n : Notification}
    (hn : (c.run commits).state.notifications.tryGetValue id = some n) :
    c.InsertedAt commits id n.issuedAt ∧ c.LastSetTo commits id n.message n.lastSeenAt ∧
      n.message.id = some id := by
  induction commits using List.reverseRecOn generalizing n with
  | nil =>
    rw [run_nil, hstart] at hn
    cases hn
  | append_singleton past k ih =>
    have ih := @ih fun k' hk' => hcommits k' (List.mem_append_left [k] hk')
    have hk : k.update.NotifiesByMessage := hcommits k (by simp)
    have hpresent : ((c.run (past ++ [k])).state.notifications.tryGetValue id).isSome = true := by
      rw [hn, Option.isSome_some]
    rw [run_concat] at hn
    -- a commit that raises before it gets to the notifications sets nothing
    obtain ⟨hnot, hsame⟩ | ⟨happlies, hmerged⟩ :=
      tryGetValue_notifications_commitStep ((c.run past).commitStep_run k)
    · obtain ⟨hinserted, hlast, hid⟩ := ih ((hsame id).symm.trans hn)
      exact ⟨hinserted.concat hpresent, hlast.concat fun hsets => hnot hsets.1, hid⟩
    · rw [hmerged] at hn
      split at hn
      · cases hn
      · rw [notificationAfter] at hn
        cases hlookup : k.update.notifications.lookup id with
        -- the commit does not set the notification, so it was there before
        | none =>
          rw [hlookup] at hn
          obtain ⟨hinserted, hlast, hid⟩ := ih hn
          refine ⟨hinserted.concat hpresent, hlast.concat ?_, hid⟩
          rintro ⟨-, nu, hnu⟩
          rw [hlookup] at hnu
          cases hnu
        | some nu =>
          obtain ⟨message, utcNow, rfl, hid⟩ := hk.carries hlookup
          have hsets : (c.run past).SetsAt k id := ⟨happlies, _, hlookup⟩
          rw [hlookup] at hn
          cases hold : (c.run past).state.notifications.tryGetValue id with
          -- the commit inserts the notification
          | none =>
            rw [hold] at hn
            cases hn
            exact ⟨insertedAt_concat hold hsets hlookup hpresent,
              lastSetTo_concat hsets hlookup, hid⟩
          -- the commit merges into it, which skips `IssuedAt`
          | some old =>
            rw [hold] at hn
            cases hn
            exact ⟨(ih hold).1.concat hpresent, lastSetTo_concat hsets hlookup, hid⟩

private def jam : MachineMessage :=
  { (default : MachineMessage) with
    id := some "jam"
    title := some "Filament jam" }

/-- The jam is reported. -/
private def jamAt (utcNow : DateTimeOffset) : Commit Unit :=
  .alone ⟨default, fun _ => none⟩
    (((default : MachineStateUpdate).setNotifications utcNow jam).toOption.getD default)

private def jammed : MachineConnection Unit := ⟨default, default, default, ⟨[], false, 0⟩⟩

/-- A message that is reported twice is issued once. -/
theorem notification_lifetime_twice :
    jammed.InsertedAt [jamAt ⟨1⟩, jamAt ⟨2⟩] "jam" ⟨1⟩ ∧
      jammed.LastSetTo [jamAt ⟨1⟩, jamAt ⟨2⟩] "jam" jam ⟨2⟩ := by
  have hcommits : ∀ k ∈ [jamAt ⟨1⟩, jamAt ⟨2⟩], k.update.NotifiesByMessage := by
    intro k hk
    obtain rfl | rfl : k = jamAt ⟨1⟩ ∨ k = jamAt ⟨2⟩ := by simpa using hk
    all_goals exact .setNotifications _ jam (.untouched rfl) rfl
  have hstored : (jammed.run [jamAt ⟨1⟩, jamAt ⟨2⟩]).state.notifications.tryGetValue "jam" =
      some ⟨jam, ⟨1⟩, ⟨2⟩⟩ := by decide
  obtain ⟨hinserted, hlast, -⟩ := notification_lifetime rfl hcommits hstored
  exact ⟨hinserted, hlast⟩

end MachineConnection

end Connect3Dp
