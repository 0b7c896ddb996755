import Connect3Dp.Runtime.Strings
import Connect3Dp.Runtime.Transition
import Mathlib.Data.List.TakeWhile

/-!
# The address of an ELEGOO printer

The configuration holds what the user has typed. `NormalizePrinterHost` makes a host of it, and the
constructor and `UpdateConfiguration` make the base address of uploads of that host.
`Connect_Internal` makes the address of the socket of what was typed.

`sameHost_iff` says in which runs the two addresses have the host of the configuration.
-/

namespace Connect3Dp

namespace Elegoo

/-! ### `NormalizePrinterHost` -/

/-- `s.StartsWith(value, StringComparison.OrdinalIgnoreCase)`, of an ASCII value: no other character
is one of these in upper case. -/
def startsWithIgnoreCase (s value : String) : Bool :=
  (s.toList.take value.toList.length).map Char.toUpper = value.toList.map Char.toUpper

/-- The schemes, in the order in which they are looked for. -/
def schemes : List String := ["http://", "https://", "ws://", "wss://"]

def stripScheme (s : String) : String :=
  match schemes.find? (startsWithIgnoreCase s) with
  | some scheme => .ofList (s.toList.drop scheme.toList.length)
  | none => s

def stripPath (s : String) : String := .ofList (s.toList.takeWhile (· ≠ '/'))

def stripPort (s : String) : String :=
  if ":3030".toList.isSuffixOf s.toList then .ofList (s.toList.take (s.toList.length - 5)) else s

def normalizePrinterHost (raw : NetString) : String :=
  if isNullOrWhiteSpace raw then raw.getD ""
  else trim (stripPort (trim (stripPath (stripScheme (trim (raw.getD ""))))))

/-! ### The two addresses -/

def webSocketAddress (host : String) : String := "ws://" ++ host ++ ":3030/websocket"

def httpAddress (host : String) : String := "http://" ++ host ++ ":3030/"

inductive AddressFault
  | uriFormat
  | invalidOperation
  deriving DecidableEq

/-- What the connector keeps of addresses. -/
structure Addresses where
  /-- `Configuration.IPAddress` -/
  ipAddress : NetString
  /-- `Http.BaseAddress` -/
  baseAddress : String
  /-- `Http` has started a request -/
  started : Bool
  deriving DecidableEq

section Calls

-- The texts that `new Uri` takes.
variable (parses : String → Bool)

def newUri (text : String) : Except AddressFault String :=
  if parses text then .ok text else .error .uriFormat

/-- The constructor. -/
def construct (ipAddress : NetString) : Except AddressFault Addresses := do
  let baseAddress ← newUri parses (httpAddress (normalizePrinterHost ipAddress))
  return ⟨ipAddress, baseAddress, false⟩

namespace Addresses

variable (σ : Addresses)

/-- The setter of `Http.BaseAddress`, which raises once a request has been started. -/
def setBaseAddress (uri : String) : Except AddressFault Addresses :=
  if σ.started then .error .invalidOperation else .ok { σ with baseAddress := uri }

/-- The action of `UpdateConfiguration`, up to its connect: what it raises, and what it leaves. -/
def updateConfiguration (updated : NetString) : Except AddressFault Unit × Addresses :=
  let assigned := { σ with ipAddress := updated }
  let set := do
    let uri ← newUri parses (httpAddress (normalizePrinterHost updated))
    assigned.setBaseAddress uri
  match set with
  | .ok σ' => (.ok (), σ')
  | .error e => (.error e, assigned)

/-- The text of `wsUri` in `Connect_Internal`. -/
def wsUri : String := webSocketAddress (σ.ipAddress.getD "")

/-- `Connect_Internal`, up to the socket. -/
def connect_Internal : Except AddressFault String := newUri parses σ.wsUri

/-- `Http.PostAsync`, of an upload: it goes to `σ.baseAddress`. -/
def postAsync : Addresses := { σ with started := true }

end Addresses

inductive AddressCall
  | updateConfiguration (updated : NetString)
  | connect
  | post

/-- What a call leaves. `MutateUntil` and the `catch` of `Connect_Internal` take what is raised. -/
def Addresses.perform (σ : Addresses) : AddressCall → Addresses
  | .updateConfiguration updated => (σ.updateConfiguration parses updated).2
  | .connect => σ
  | .post => σ.postAsync

def Addresses.run (σ : Addresses) (calls : List AddressCall) : Addresses :=
  calls.foldl (·.perform parses ·) σ

/-- Both addresses have the host of the configuration. -/
def Addresses.SameHost (σ : Addresses) : Prop :=
  σ.wsUri = webSocketAddress (normalizePrinterHost σ.ipAddress) ∧
    σ.baseAddress = httpAddress (normalizePrinterHost σ.ipAddress)

instance (σ : Addresses) : Decidable σ.SameHost := inferInstanceAs (Decidable (_ ∧ _))

/-- What was typed is blank, or a host with nothing around it. -/
def BareHost (raw : NetString) : Prop :=
  isNullOrWhiteSpace raw = true ∨ ∃ s, raw = some s ∧
    trim s = s ∧ '/' ∉ s.toList ∧ ¬ ":3030".toList <:+ s.toList

/-- The update gives the base address that it has to give: it is the one from before, or it can be
set. -/
def Addresses.TakesBase (σ : Addresses) (updated : NetString) : Prop :=
  σ.baseAddress = httpAddress (normalizePrinterHost updated) ∨
    σ.started = false ∧ parses (httpAddress (normalizePrinterHost updated)) = true

end Calls

/-! ### Steps that only remove -/

/-- The step leaves out some of the characters and changes none. -/
def OnlyRemoves (f : String → String) : Prop := ∀ s, (f s).toList.Sublist s.toList

theorem foldl_sublist {fs : List (String → String)} (h : ∀ f ∈ fs, OnlyRemoves f) (s : String) :
    (fs.foldl (fun s f => f s) s).toList.Sublist s.toList := by
  induction fs generalizing s with
  | nil => exact List.Sublist.refl _
  | cons f fs ih =>
    rw [List.forall_mem_cons] at h
    exact (ih h.2 (f s)).trans (h.1 s)

/-- What one step has removed no later step restores: steps that leave a text as it was in the end
leave it as it was one by one. -/
theorem foldl_eq_self_iff {fs : List (String → String)} (h : ∀ f ∈ fs, OnlyRemoves f)
    (s : String) : fs.foldl (fun s f => f s) s = s ↔ ∀ f ∈ fs, f s = s := by
  induction fs with
  | nil => exact iff_of_true rfl fun f hf => absurd hf List.not_mem_nil
  | cons f fs ih =>
    rw [List.forall_mem_cons] at h
    rw [List.foldl_cons, List.forall_mem_cons, ← ih h.2]
    constructor
    · intro hfold
      have hlength := (foldl_sublist h.2 (f s)).length_le
      rw [hfold] at hlength
      have hf : f s = s := String.toList_injective ((h.1 s).eq_of_length_le hlength)
      rw [hf] at hfold
      exact ⟨hf, hfold⟩
    · rintro ⟨hf, hfold⟩
      rw [hf, hfold]

theorem onlyRemoves_trim : OnlyRemoves trim := by
  intro s
  have hleft : (s.toList.dropWhile isWhiteSpace).Sublist s.toList := List.dropWhile_sublist _
  have hright : ((s.toList.dropWhile isWhiteSpace).reverse.dropWhile isWhiteSpace).Sublist
      (s.toList.dropWhile isWhiteSpace).reverse := List.dropWhile_sublist _
  rw [trim, String.toList_ofList]
  exact (List.reverse_sublist.mp (by rwa [List.reverse_reverse])).trans hleft

theorem onlyRemoves_stripScheme : OnlyRemoves stripScheme := by
  intro s
  rw [stripScheme]
  split
  · rw [String.toList_ofList]
    exact List.drop_sublist _ _
  · exact List.Sublist.refl _

theorem onlyRemoves_stripPath : OnlyRemoves stripPath := by
  intro s
  rw [stripPath, String.toList_ofList]
  exact List.takeWhile_sublist _

theorem onlyRemoves_stripPort : OnlyRemoves stripPort := by
  intro s
  rw [stripPort]
  split
  · rw [String.toList_ofList]
    exact List.take_sublist _ _
  · exact List.Sublist.refl _

/-! ### Addresses that stay as they are -/

theorem stripPath_eq_self_iff (s : String) : stripPath s = s ↔ '/' ∉ s.toList := by
  rw [stripPath, ← String.toList_inj, String.toList_ofList, List.takeWhile_eq_self_iff]
  constructor
  · intro h hmem
    exact absurd rfl (of_decide_eq_true (h '/' hmem))
  · intro h c hc
    exact decide_eq_true (ne_of_mem_of_not_mem hc h)

theorem stripPort_eq_self_iff (s : String) : stripPort s = s ↔ ¬ ":3030".toList <:+ s.toList := by
  rw [stripPort, ← List.isSuffixOf_iff_suffix]
  split
  · rename_i hsuffix
    refine iff_of_false ?_ (not_not_intro hsuffix)
    intro h
    have hlength : 5 ≤ s.toList.length := (List.isSuffixOf_iff_suffix.mp hsuffix).length_le
    have htake := congrArg (List.length ∘ String.toList) h
    rw [Function.comp, Function.comp, String.toList_ofList, List.length_take] at htake
    omega
  · rename_i hsuffix
    exact iff_of_true rfl hsuffix

theorem eq_slash_of_toUpper {c : Char} (h : c.toUpper = '/') : c = '/' := by
  change dite _ _ _ = '/' at h
  split at h
  · rename_i hletter
    have hval := congrArg (fun c => c.val.toNat) h
    have hle := hletter.1
    have hge := hletter.2
    rw [UInt32.le_iff_toNat_le] at hle hge
    simp at hval hle hge
    omega
  · exact h

/-- A scheme ends with slashes. -/
theorem slash_mem_of_startsWith {s scheme : String} (h : scheme ∈ schemes)
    (hstarts : startsWithIgnoreCase s scheme = true) : '/' ∈ s.toList := by
  have hslash : '/' ∈ scheme.toList := by
    have hall : ∀ scheme ∈ schemes, '/' ∈ scheme.toList := by decide
    exact hall scheme h
  have hupper := of_decide_eq_true hstarts
  have hmem : Char.toUpper '/' ∈ (s.toList.take scheme.toList.length).map Char.toUpper := by
    rw [hupper]
    exact List.mem_map_of_mem hslash
  obtain ⟨c, hc, hcslash⟩ := List.mem_map.mp hmem
  exact eq_slash_of_toUpper hcslash ▸ List.mem_of_mem_take hc

theorem stripScheme_eq_self {s : String} (h : '/' ∉ s.toList) : stripScheme s = s := by
  have hnone : schemes.find? (startsWithIgnoreCase s) = none := by
    rw [List.find?_eq_none]
    exact fun scheme hscheme hstarts => h (slash_mem_of_startsWith hscheme hstarts)
  rw [stripScheme, hnone]

/-- What `NormalizePrinterHost` does to a text that is not blank. -/
def hostSteps : List (String → String) := [trim, stripScheme, stripPath, trim, stripPort, trim]

theorem onlyRemoves_of_mem_hostSteps : ∀ f ∈ hostSteps, OnlyRemoves f := by
  rw [hostSteps]
  simp only [List.forall_mem_cons]
  exact ⟨onlyRemoves_trim, onlyRemoves_stripScheme, onlyRemoves_stripPath, onlyRemoves_trim,
    onlyRemoves_stripPort, onlyRemoves_trim, fun f hf => absurd hf List.not_mem_nil⟩

theorem hostSteps_eq_self_iff (s : String) :
    (∀ f ∈ hostSteps, f s = s) ↔ trim s = s ∧ '/' ∉ s.toList ∧ ¬ ":3030".toList <:+ s.toList := by
  rw [hostSteps]
  simp only [List.forall_mem_cons, stripPath_eq_self_iff, stripPort_eq_self_iff]
  constructor
  · rintro ⟨htrim, -, hslash, -, hport, -⟩
    exact ⟨htrim, hslash, hport⟩
  · rintro ⟨htrim, hslash, hport⟩
    exact ⟨htrim, stripScheme_eq_self hslash, hslash, htrim, hport, htrim,
      fun f hf => absurd hf List.not_mem_nil⟩

theorem normalizePrinterHost_eq_iff (raw : NetString) :
    normalizePrinterHost raw = raw.getD "" ↔ BareHost raw := by
  rw [normalizePrinterHost, BareHost]
  by_cases hblank : isNullOrWhiteSpace raw = true
  · rw [if_pos hblank]
    exact iff_of_true rfl (Or.inl hblank)
  · rw [if_neg hblank, or_iff_right hblank]
    cases raw with
    | none => exact absurd rfl hblank
    | some s =>
      have hsteps := foldl_eq_self_iff onlyRemoves_of_mem_hostSteps s
      rw [hostSteps_eq_self_iff] at hsteps
      refine hsteps.trans ?_
      constructor
      · exact fun h => ⟨s, rfl, h⟩
      · rintro ⟨s', hs, h⟩
        exact Option.some.inj hs ▸ h

/-! ### The two addresses in a run -/

section Calls

variable (parses : String → Bool)

theorem run_concat (σ : Addresses) (past : List AddressCall) (call : AddressCall) :
    σ.run parses (past ++ [call]) = (σ.run parses past).perform parses call := by
  rw [Addresses.run, List.foldl_append]
  rfl

/-- The addresses that an update leaves: the base is the new one, if it can be set. -/
theorem updateConfiguration_eq (σ : Addresses) (updated : NetString) :
    (σ.updateConfiguration parses updated).2 =
      { σ with
        ipAddress := updated
        baseAddress :=
          if parses (httpAddress (normalizePrinterHost updated)) = true ∧ σ.started = false then
            httpAddress (normalizePrinterHost updated)
          else σ.baseAddress } := by
  rw [Addresses.updateConfiguration, newUri]
  cases hparses : parses (httpAddress (normalizePrinterHost updated)) <;>
    cases hstarted : σ.started <;>
    simp [Addresses.setBaseAddress, bind, Except.bind]

theorem wsUri_eq_iff (σ : Addresses) :
    σ.wsUri = webSocketAddress (normalizePrinterHost σ.ipAddress) ↔ BareHost σ.ipAddress := by
  rw [← normalizePrinterHost_eq_iff, Addresses.wsUri, webSocketAddress, webSocketAddress]
  constructor
  · intro h
    have hlist := congrArg String.toList h
    simp only [String.toList_append, List.append_cancel_left_eq,
      List.append_cancel_right_eq] at hlist
    exact (String.toList_injective hlist).symm
  · intro h
    rw [h]

/-- While the hosts are the same, the socket is connected to the host of the configuration. -/
theorem connect_Internal_of_sameHost {σ : Addresses} (h : σ.SameHost) :
    σ.connect_Internal parses =
      newUri parses (webSocketAddress (normalizePrinterHost σ.ipAddress)) :=
  congrArg (newUri parses) h.1

theorem sameHost_updateConfiguration_iff (σ : Addresses) (updated : NetString) :
    (σ.updateConfiguration parses updated).2.SameHost ↔
      BareHost updated ∧ σ.TakesBase parses updated := by
  rw [updateConfiguration_eq, Addresses.SameHost, wsUri_eq_iff]
  refine and_congr_right fun _ => ?_
  rw [Addresses.TakesBase]
  by_cases hset : parses (httpAddress (normalizePrinterHost updated)) = true ∧ σ.started = false
  · rw [if_pos hset]
    exact iff_of_true rfl (Or.inr ⟨hset.2, hset.1⟩)
  · rw [if_neg hset, or_iff_left fun h => hset ⟨h.2, h.1⟩]

/-- A new connector makes the base address of the host of its configuration. -/
theorem construct_eq {ipAddress : NetString} {σ : Addresses}
    (h : construct parses ipAddress = .ok σ) :
    σ = ⟨ipAddress, httpAddress (normalizePrinterHost ipAddress), false⟩ := by
  rw [construct, newUri] at h
  split at h
  · exact (Except.ok.inj h).symm
  · cases h

/-- Of the calls only an update can lose the host. -/
theorem sameHost_perform_iff {σ : Addresses} (h : σ.SameHost) (call : AddressCall) :
    (σ.perform parses call).SameHost ↔
      ∀ updated, call = .updateConfiguration updated →
        BareHost updated ∧ σ.TakesBase parses updated := by
  cases call with
  | updateConfiguration updated =>
    refine (sameHost_updateConfiguration_iff parses σ updated).trans ?_
    constructor
    · rintro hupdate _ ⟨⟩
      exact hupdate
    · exact fun hupdate => hupdate updated rfl
  | connect => exact iff_of_true h fun _ hcall => by cases hcall
  | post => exact iff_of_true h fun _ hcall => by cases hcall

/-- **The host of both addresses**: in all states of a run the socket and the uploads go to the host
of the configuration if and only if each address that is configured in it is a bare host, and each
update meets the base address that it needs or can set it. -/
theorem sameHost_iff {ipAddress : NetString} {σ : Addresses}
    (h : construct parses ipAddress = .ok σ) (calls : List AddressCall) :
    (∀ past, past <+: calls → (σ.run parses past).SameHost) ↔
      BareHost ipAddress ∧
        ∀ past updated, past ++ [.updateConfiguration updated] <+: calls →
          BareHost updated ∧ (σ.run parses past).TakesBase parses updated := by
  have hstart : σ.SameHost ↔ BareHost ipAddress := by
    rw [construct_eq parses h]
    exact (and_iff_left rfl).trans (wsUri_eq_iff _)
  by_cases hbare : BareHost ipAddress
  · rw [and_iff_right hbare]
    have hrun : (∀ past, past <+: calls → (σ.run parses past).SameHost) ↔
        ∀ past call, past ++ [call] <+: calls →
          ∀ updated, call = .updateConfiguration updated →
            BareHost updated ∧ (σ.run parses past).TakesBase parses updated := by
      refine forall_prefix_iff (hstart.mpr hbare) ?_ calls
      intro past call hpast
      rw [run_concat]
      exact sameHost_perform_iff parses hpast call
    rw [hrun]
    constructor
    · exact fun hall past updated hprefix => hall past _ hprefix updated rfl
    · rintro hall past _ hprefix updated rfl
      exact hall past updated hprefix
  · exact iff_of_false (fun hall => hbare (hstart.mp (hall [] List.nil_prefix)))
      fun hall => hbare hall.1

/-- An update before the first upload, and one after it that leaves the host as it is. -/
theorem sameHost_upload :
    ∃ σ, construct (fun _ => true) (some "192.168.1.5") = .ok σ ∧
      (σ.run (fun _ => true) [.updateConfiguration (some "printer.local"), .post,
        .updateConfiguration (some "printer.local")]).ipAddress = some "printer.local" ∧
      (σ.run (fun _ => true) [.updateConfiguration (some "printer.local"), .post,
        .updateConfiguration (some "printer.local")]).SameHost := by
  have hconstruct : construct (fun _ => true) (some "192.168.1.5") =
      .ok ⟨some "192.168.1.5", "http://192.168.1.5:3030/", false⟩ := by decide +kernel
  have hbare : BareHost (some "192.168.1.5") := .inr ⟨_, rfl, by decide +kernel⟩
  have hupdated : BareHost (some "printer.local") := .inr ⟨_, rfl, by decide +kernel⟩
  refine ⟨_, hconstruct, rfl, (sameHost_iff (fun _ => true) hconstruct _).mpr
    ⟨hbare, fun past updated hpast => ?_⟩ _ List.prefix_rfl⟩
  rcases past with _ | ⟨first, _ | ⟨second, _ | ⟨third, past⟩⟩⟩
  · simp only [List.nil_append, List.cons_prefix_cons] at hpast
    cases hpast.1
    exact ⟨hupdated, .inr ⟨rfl, rfl⟩⟩
  · simp [List.cons_prefix_cons] at hpast
  · simp only [List.cons_append, List.nil_append, List.cons_prefix_cons] at hpast
    obtain ⟨rfl, rfl, hlast, -⟩ := hpast
    cases hlast
    exact ⟨hupdated, .inl (by decide +kernel)⟩
  · simp [List.cons_prefix_cons] at hpast

/-- A pasted scheme is not taken off where the socket is connected. -/
theorem sameHost_fails :
    ∃ σ, construct (fun _ => true) (some "http://192.168.1.5") = .ok σ ∧
      normalizePrinterHost σ.ipAddress = "192.168.1.5" ∧
      σ.baseAddress = "http://192.168.1.5:3030/" ∧
      σ.wsUri = "ws://http://192.168.1.5:3030/websocket" ∧ ¬ σ.SameHost :=
  ⟨⟨some "http://192.168.1.5", "http://192.168.1.5:3030/", false⟩, by decide +kernel⟩

end Calls

end Elegoo

end Connect3Dp
