import EthanolHostapd.Ap.SsidEscaped
import EthanolHostapd.Ap.StaInfo

/-!
# The interfaces of the access point

The accessors in `ap/global_var.c` to the interfaces that `hostapd` has set up.  They take the number
`wiphy` of an interface and, some of them, the number `bss_id` of a BSS.  An array is a list, and an index
behind its end has no result.
-/

namespace Ethanol

open Trace

namespace GlobalVar

/-- The part of `struct hostapd_bss_config` that is read here. -/
structure HostapdBssConfig where
  iface : Bytes
  ssid : HostapdSsid

/-- The part of `struct hostapd_config` that is read here. -/
structure HostapdConfig where
  bss : List HostapdBssConfig
  channel : UInt8

/-- The stations of a BSS, after any calls that change the table. -/
abbrev StationTable : Type :=
  {hapd : HostapdData // ∃ (conf : BssConfig) (calls : List StaCall), Run HostapdData.next (.init conf) calls hapd}

/-- The part of `struct hostapd_iface` that is read here. -/
structure HostapdIface where
  conf : HostapdConfig
  bss : List StationTable

/-- `struct hapd_interfaces`. -/
structure HapdInterfaces where
  iface : List HostapdIface

/-- `sta_info_list`.  The places of the array are not initialised by `malloc`. -/
structure StaInfoList where
  numSta : ℤ
  macs : Option (List (Option Bytes))

/-! ## The accessors -/

/-- An accessor to an interface: the check of `wiphy`, with the value that is returned if it fails. -/
def access {β : Type} (had : Option HapdInterfaces) (wiphy : ℤ) (error : β) (f : HostapdIface → Option β) :
    Option β :=
  match had with
  | none => some error
  | some interfaces =>
    if wiphy < 0 ∨ interfaces.iface.length < wiphy then some error
    else interfaces.iface[wiphy.toNat]?.bind f

/-- `get_intfname`. -/
def getIntfname (had : Option HapdInterfaces) (wiphy : ℤ) : Option (Option Bytes) :=
  access had wiphy none fun intf => do
    let bss ← intf.conf.bss[0]?
    some (some bss.iface)

/-- `get_ssid`. -/
def getSsid (had : Option HapdInterfaces) (wiphy bssId : ℤ) : Option (Option Bytes) :=
  access had wiphy none fun intf =>
    if bssId < 0 ∨ intf.conf.bss.length ≤ bssId then some none
    else do
      let bss ← intf.conf.bss[bssId.toNat]?
      let ssid ← bss.ssid.escaped
      some (some ssid)

/-- `get_current_channel`. -/
def getCurrentChannel (had : Option HapdInterfaces) (wiphy : ℤ) : Option ℤ :=
  access had wiphy (-1) fun intf => some intf.conf.channel.toNat

/-- The text of `MACSTR` for an address. -/
def macStr (a : MacAddr) : Bytes :=
  [58].intercalate (a.toList.map fun b => [hexDigit (b / 16), hexDigit (b % 16)])

/-- The loop of `return_connected_sta`, for at most `fuel` rounds.  Its variable is not moved on. -/
def macLoop (bss : HostapdData) (staList : List StaPtr) :
    ℕ → ℕ → List (Option Bytes) → Option (List (Option Bytes))
  | 0, _, _ => none
  | fuel + 1, i, macs =>
    match staList with
    | [] => some macs
    | sta :: _ => do
      let macs ← Buffer.write macs i [some (macStr (bss.addr sta))]
      macLoop bss staList fuel (i + 1) macs

/-- `return_connected_sta`, for at most `fuel` rounds of its loop. -/
def returnConnectedSta (fuel : ℕ) (had : Option HapdInterfaces) (wiphy bssId : ℤ) :
    Option (Option StaInfoList) :=
  access had wiphy none fun intf =>
    if bssId < 0 ∨ intf.bss.length < bssId then some none
    else do
      let bss ← intf.bss[bssId.toNat]?
      if 0 < bss.1.numSta then
        let macs ← macLoop bss.1 bss.1.staList fuel 0 (List.replicate bss.1.numSta.toNat none)
        some (some ⟨bss.1.numSta, some macs⟩)
      else some (some ⟨bss.1.numSta, none⟩)

/-- The body of the inner loop of `get_ssid_config`. -/
def addSsidConfig (ssid : Bytes) (wiphy : ℕ) (ssids : List (ℕ × ℕ)) (bssId : ℕ) (bss : HostapdBssConfig) :
    Option (List (ℕ × ℕ)) := do
  let ssidEsc ← bss.ssid.escaped
  some (if ssid = ssidEsc then (wiphy, bssId) :: ssids else ssids)

/-- The inner loop of `get_ssid_config`, from the BSS number `bssId` on. -/
def bssLoop (ssid : Bytes) (wiphy : ℕ) : ℕ → List HostapdBssConfig → List (ℕ × ℕ) → Option (List (ℕ × ℕ))
  | _, [], ssids => some ssids
  | bssId, bss :: rest, ssids => do
    let ssids ← addSsidConfig ssid wiphy ssids bssId bss
    bssLoop ssid wiphy (bssId + 1) rest ssids

/-- The outer loop of `get_ssid_config`, from the interface number `wiphy` on. -/
def wiphyLoop (ssid : Bytes) : ℕ → List HostapdIface → List (ℕ × ℕ) → Option (List (ℕ × ℕ))
  | _, [], ssids => some ssids
  | wiphy, intf :: rest, ssids => do
    let ssids ← bssLoop ssid wiphy 0 intf.conf.bss ssids
    wiphyLoop ssid (wiphy + 1) rest ssids

/-- `get_ssid_config`.  `NULL` is the empty list. -/
def getSsidConfig (had : Option HapdInterfaces) (ssid : Bytes) : Option (List (ℕ × ℕ)) :=
  match had with
  | none => some []
  | some interfaces => wiphyLoop ssid 0 interfaces.iface []

/-! ## The SSIDs -/

/-- The BSS number `b` of the interface number `w`, counted from `(wiphy, 0)` on, has that text as its SSID. -/
def HasSsid (ssid : Bytes) (wiphy : ℕ) (ifaces : List HostapdIface) (w b : ℕ) : Prop :=
  ∃ i intf bss, w = wiphy + i ∧ ifaces[i]? = some intf ∧ intf.conf.bss[b]? = some bss ∧ bss.ssid.escaped = some ssid

/-- The inner loop puts the BSSs with that text in front. -/
lemma bssLoop_eq (ssid : Bytes) (wiphy k : ℕ) (bss : List HostapdBssConfig) (ssids : List (ℕ × ℕ)) :
    ∃ new, bssLoop ssid wiphy k bss ssids = some (new ++ ssids) ∧ new.Nodup ∧
      ∀ w b, (w, b) ∈ new ↔ w = wiphy ∧ ∃ j c, b = k + j ∧ bss[j]? = some c ∧ c.ssid.escaped = some ssid := by
  induction bss generalizing k ssids with
  | nil => exact ⟨[], rfl, List.nodup_nil, by simp⟩
  | cons c bss ih =>
    have hadd : addSsidConfig ssid wiphy ssids k c =
        some ((if c.ssid.escaped = some ssid then [(wiphy, k)] else []) ++ ssids) := by
      rw [addSsidConfig, escaped_eq, Option.bind_eq_bind, Option.bind_some, Option.some_inj, ← ite_not]
      by_cases h : ssid = escapedFrom c.ssid.ssid.length 0 c.ssid.ssid
      · simp [h]
      · simp [h, Ne.symm h]
    obtain ⟨new, hnew, hnodup, hmem⟩ := ih (k + 1) ((if c.ssid.escaped = some ssid then [(wiphy, k)] else []) ++ ssids)
    refine ⟨new ++ if c.ssid.escaped = some ssid then [(wiphy, k)] else [], ?_, ?_, fun w b => ?_⟩
    · rw [bssLoop, hadd, Option.bind_eq_bind, Option.bind_some, hnew, List.append_assoc]
    · refine hnodup.append (by split_ifs <;> simp) fun p hp hp' => ?_
      split_ifs at hp' with h
      · obtain rfl := List.mem_singleton.mp hp'
        obtain ⟨-, j, -, hj, -⟩ := (hmem _ _).mp hp
        omega
      · exact absurd hp' (List.not_mem_nil)
    · rw [List.mem_append, hmem]
      constructor
      · rintro (⟨rfl, j, c', rfl, hj, hc'⟩ | h)
        · exact ⟨rfl, j + 1, c', by omega, hj, hc'⟩
        · split_ifs at h with hc
          · obtain ⟨rfl, rfl⟩ := Prod.mk.inj (List.mem_singleton.mp h)
            exact ⟨rfl, 0, c, rfl, rfl, hc⟩
          · exact absurd h (List.not_mem_nil)
      · rintro ⟨rfl, j, c', rfl, hj, hc'⟩
        rcases j with _ | j
        · obtain rfl : c = c' := Option.some.inj hj
          right
          rw [if_pos hc']
          exact List.mem_singleton_self _
        · exact Or.inl ⟨rfl, j, c', by omega, hj, hc'⟩

/-- The outer loop does so for each interface. -/
lemma wiphyLoop_eq (ssid : Bytes) (wiphy : ℕ) (ifaces : List HostapdIface) (ssids : List (ℕ × ℕ)) :
    ∃ new, wiphyLoop ssid wiphy ifaces ssids = some (new ++ ssids) ∧ new.Nodup ∧
      ∀ w b, (w, b) ∈ new ↔ HasSsid ssid wiphy ifaces w b := by
  induction ifaces generalizing wiphy ssids with
  | nil => exact ⟨[], rfl, List.nodup_nil, by simp [HasSsid]⟩
  | cons intf ifaces ih =>
    obtain ⟨first, hfirst, hfirstNodup, hmemFirst⟩ := bssLoop_eq ssid wiphy 0 intf.conf.bss ssids
    obtain ⟨new, hnew, hnodup, hmem⟩ := ih (wiphy + 1) (first ++ ssids)
    refine ⟨new ++ first, ?_, ?_, fun w b => ?_⟩
    · rw [wiphyLoop, hfirst, Option.bind_eq_bind, Option.bind_some, hnew, List.append_assoc]
    · refine hnodup.append hfirstNodup ?_
      rintro ⟨w, b⟩ hp hp'
      obtain ⟨i, -, -, hi, -⟩ := (hmem _ _).mp hp
      obtain ⟨hw, -⟩ := (hmemFirst _ _).mp hp'
      omega
    · rw [List.mem_append, hmem, hmemFirst]
      constructor
      · rintro (⟨i, intf', c, rfl, hi, hc⟩ | ⟨rfl, j, c, rfl, hc⟩)
        · exact ⟨i + 1, intf', c, by omega, hi, hc⟩
        · exact ⟨0, intf, c, rfl, rfl, by rwa [Nat.zero_add]⟩
      · rintro ⟨i, intf', c, rfl, hi, hc⟩
        rcases i with _ | i
        · obtain rfl : intf = intf' := Option.some.inj hi
          exact Or.inr ⟨rfl, b, c, (Nat.zero_add b).symm, hc⟩
        · exact Or.inl ⟨i, intf', c, by omega, hi, hc⟩

/-- Every SSID has a text that fits into the array and belongs to no other SSID, and `get_ssid_config` returns
the interfaces and BSSs whose SSID has the given text, each once. -/
theorem getSsidConfig_spec :
    (∀ s : HostapdSsid, ∃ text, s.escaped = some text ∧ text.length ≤ 4 * ssidMaxLen) ∧
      (∀ s s' : HostapdSsid, s.escaped = s'.escaped → s = s') ∧
      ∀ (interfaces : HapdInterfaces) (ssid : Bytes), ∃ ssids,
        getSsidConfig (some interfaces) ssid = some ssids ∧ ssids.Nodup ∧
          ∀ wiphy bssId, (wiphy, bssId) ∈ ssids ↔ ∃ intf bss, interfaces.iface[wiphy]? = some intf ∧
            intf.conf.bss[bssId]? = some bss ∧ bss.ssid.escaped = some ssid := by
  refine ⟨fun s => ⟨_, escaped_eq s, ?_⟩, fun s s' => escaped_injective, fun interfaces ssid => ?_⟩
  · exact (length_escapedFrom_le _ _ _).trans (Nat.mul_le_mul_left 4 s.ssid_len_le)
  · obtain ⟨ssids, heq, hnodup, hmem⟩ := wiphyLoop_eq ssid 0 interfaces.iface []
    refine ⟨ssids, by rw [getSsidConfig, heq, List.append_nil], hnodup, fun w b => ?_⟩
    rw [hmem, HasSsid]
    constructor
    · rintro ⟨i, intf, bss, rfl, hi, hbss⟩
      exact ⟨intf, bss, by rwa [Nat.zero_add], hbss⟩
    · rintro ⟨intf, bss, hi, hbss⟩
      exact ⟨w, intf, bss, (Nat.zero_add w).symm, hi, hbss⟩

/-! ## The stations of a BSS -/

/-- With a station in the list the loop does not end in the array. -/
lemma macLoop_cons (bss : HostapdData) (sta : StaPtr) (rest : List StaPtr) (fuel i : ℕ) (macs : List (Option Bytes)) :
    macLoop bss (sta :: rest) fuel i macs = none := by
  induction fuel generalizing i macs with
  | zero => rfl
  | succ fuel ih =>
    rw [macLoop, Option.bind_eq_bind]
    cases Buffer.write macs i [some (macStr (bss.addr sta))] with
    | none => rfl
    | some macs => exact ih (i + 1) macs

/-- The list names the stations of the BSS in their order. -/
structure Names (bss : HostapdData) (list : StaInfoList) : Prop where
  numSta : list.numSta = bss.staList.length
  macs : list.macs.getD [] = bss.staList.map fun sta => some (macStr (bss.addr sta))

/-- `wiphy` is the number of an interface. -/
def IsIface (had : Option HapdInterfaces) (wiphy : ℤ) (intf : HostapdIface) : Prop :=
  ∃ interfaces, had = some interfaces ∧ 0 ≤ wiphy ∧ interfaces.iface[wiphy.toNat]? = some intf

/-- `return_connected_sta` returns the stations of every BSS.  Numbers that are out of the range are
answered with an error, and nothing behind an array is read. -/
structure Works (had : Option HapdInterfaces) (wiphy bssId : ℤ) : Prop where
  connected : ∀ intf (bss : StationTable), IsIface had wiphy intf → 0 ≤ bssId → intf.bss[bssId.toNat]? = some bss →
    ∃ fuel list, returnConnectedSta fuel had wiphy bssId = some (some list) ∧ Names bss.1 list
  connected_error : (∀ intf, IsIface had wiphy intf → ¬(0 ≤ bssId ∧ bssId < intf.bss.length)) →
    ∀ fuel, returnConnectedSta fuel had wiphy bssId = some none
  ssid_error : (∀ intf, IsIface had wiphy intf → ¬(0 ≤ bssId ∧ bssId < intf.conf.bss.length)) →
    getSsid had wiphy bssId = some none
  intfname_error : (∀ intf, ¬IsIface had wiphy intf) → getIntfname had wiphy = some none
  channel_error : (∀ intf, ¬IsIface had wiphy intf) → getCurrentChannel had wiphy = some (-1)

/-- Neither number is the length of its array, and the BSS has no station. -/
def Unaffected (had : Option HapdInterfaces) (wiphy bssId : ℤ) : Prop :=
  (∀ interfaces, had = some interfaces → wiphy ≠ interfaces.iface.length) ∧
    ∀ intf, IsIface had wiphy intf → bssId ≠ intf.bss.length ∧
      ∀ bss, 0 ≤ bssId → intf.bss[bssId.toNat]? = some bss → bss.1.staList = []

section Access

variable {β : Type} {had : Option HapdInterfaces} {wiphy bssId : ℤ} {intf : HostapdIface} {error : β}
  {f : HostapdIface → Option β}

lemma access_of_isIface (h : IsIface had wiphy intf) : access had wiphy error f = f intf := by
  obtain ⟨interfaces, rfl, hnonneg, hintf⟩ := h
  have hlt : wiphy.toNat < interfaces.iface.length := by
    by_contra hge
    rw [List.getElem?_eq_none (not_lt.mp hge)] at hintf
    exact absurd hintf (by simp)
  rw [access, if_neg (by omega), hintf, Option.bind_some]

/-- A number out of the range is refused unless it is the number of interfaces. -/
lemma access_of_not_isIface (h : ∀ intf, ¬IsIface had wiphy intf)
    (hne : ∀ interfaces, had = some interfaces → wiphy ≠ interfaces.iface.length) :
    access had wiphy error f = some error := by
  cases had with
  | none => rfl
  | some interfaces =>
    have hlength := hne interfaces rfl
    rw [access, if_pos]
    by_contra hin
    have hlt : wiphy.toNat < interfaces.iface.length := by omega
    exact h _ ⟨interfaces, rfl, by omega, List.getElem?_eq_getElem hlt⟩

/-- The number of interfaces is not refused, and the array is read at that index. -/
lemma access_length (interfaces : HapdInterfaces) :
    access (some interfaces) interfaces.iface.length error f = none := by
  rw [access, if_neg (by omega), Int.toNat_natCast, List.getElem?_eq_none le_rfl, Option.bind_none]

lemma IsIface.unique {intf' : HostapdIface} (h : IsIface had wiphy intf) (h' : IsIface had wiphy intf') :
    intf' = intf := by
  obtain ⟨interfaces, rfl, -, hintf⟩ := h
  obtain ⟨interfaces', heq, -, hintf'⟩ := h'
  obtain rfl := Option.some.inj heq
  exact Option.some.inj (hintf'.symm.trans hintf)

/-- The counter of a station table is the length of its list. -/
lemma numSta_eq (bss : StationTable) : bss.1.numSta = bss.1.staList.length := by
  obtain ⟨hapd, conf, calls, hrun⟩ := bss
  exact (hrun.invariant (HostapdData.agrees_init conf) fun _ _ _ hs hnext => hs.next hnext).num

/-- The call for a BSS of an interface. -/
lemma returnConnectedSta_eq (fuel : ℕ) {bss : StationTable} (h : IsIface had wiphy intf) (hnonneg : 0 ≤ bssId)
    (hbss : intf.bss[bssId.toNat]? = some bss) :
    returnConnectedSta fuel had wiphy bssId =
      if bss.1.staList = [] then some (some ⟨0, none⟩) else none := by
  have hlt : bssId.toNat < intf.bss.length := by
    by_contra hge
    rw [List.getElem?_eq_none (not_lt.mp hge)] at hbss
    exact absurd hbss (by simp)
  rw [returnConnectedSta, access_of_isIface h, if_neg (by omega), hbss, Option.bind_eq_bind, Option.bind_some,
    numSta_eq bss]
  cases hlist : bss.1.staList with
  | nil => simp
  | cons sta rest =>
    rw [if_pos (by simp), if_neg (by simp), macLoop_cons]
    rfl

end Access

/-- All is as it should be exactly if neither number is the length of its array and the BSS has no
station. -/
theorem works_iff (had : Option HapdInterfaces) (wiphy bssId : ℤ) :
    Works had wiphy bssId ↔ Unaffected had wiphy bssId := by
  constructor
  · intro h
    refine ⟨?_, fun intf hintf => ⟨?_, fun bss hnonneg hbss => ?_⟩⟩
    · rintro interfaces rfl rfl
      have hchannel := h.channel_error fun intf hintf => by
        obtain ⟨interfaces', heq, -, hget⟩ := hintf
        obtain rfl := Option.some.inj heq
        rw [Int.toNat_natCast, List.getElem?_eq_none le_rfl] at hget
        exact absurd hget (by simp)
      rw [getCurrentChannel, access_length] at hchannel
      exact absurd hchannel (by simp)
    · rintro rfl
      have herror := h.connected_error (fun intf' hintf' => by rw [hintf.unique hintf']; omega) 0
      rw [returnConnectedSta, access_of_isIface hintf, if_neg (by omega), Int.toNat_natCast,
        List.getElem?_eq_none le_rfl] at herror
      exact absurd herror (by simp)
    · by_contra hlist
      obtain ⟨fuel, list, hreturn, -⟩ := h.connected intf bss hintf hnonneg hbss
      rw [returnConnectedSta_eq fuel hintf hnonneg hbss, if_neg hlist] at hreturn
      exact absurd hreturn (by simp)
  · rintro ⟨hwiphy, hbss⟩
    refine ⟨fun intf bss hintf hnonneg hget => ?_, fun hout fuel => ?_, fun hout => ?_, fun hout => ?_, fun hout => ?_⟩
    · have hlist := (hbss intf hintf).2 bss hnonneg hget
      refine ⟨0, ⟨0, none⟩, by rw [returnConnectedSta_eq 0 hintf hnonneg hget, if_pos hlist], ?_, ?_⟩
      · rw [hlist]
        rfl
      · rw [hlist]
        rfl
    · by_cases hex : ∃ intf, IsIface had wiphy intf
      · obtain ⟨intf, hintf⟩ := hex
        have hne := (hbss intf hintf).1
        have hnot := hout intf hintf
        rw [returnConnectedSta, access_of_isIface hintf, if_pos (by omega)]
      · exact access_of_not_isIface (fun intf hintf => hex ⟨intf, hintf⟩) hwiphy
    · by_cases hex : ∃ intf, IsIface had wiphy intf
      · obtain ⟨intf, hintf⟩ := hex
        have hnot := hout intf hintf
        rw [getSsid, access_of_isIface hintf, if_pos (by omega)]
      · exact access_of_not_isIface (fun intf hintf => hex ⟨intf, hintf⟩) hwiphy
    · exact access_of_not_isIface hout hwiphy
    · exact access_of_not_isIface hout hwiphy

/-- The table of a BSS that one station has joined. -/
def oneStation : StationTable :=
  ⟨(HostapdData.init ⟨2, by decide, by decide⟩).linkSta 10 #v[2, 0, 0, 0, 0, 1], ⟨2, by decide, by decide⟩,
    [.apStaAdd #v[2, 0, 0, 0, 0, 1] (some 10) true], run_iff_exec.mpr rfl⟩

/-- The call for a BSS with one station does not return. -/
theorem works_oneStation : ¬∀ (had : Option HapdInterfaces) (wiphy bssId : ℤ), Works had wiphy bssId := by
  intro h
  have hintf : IsIface (some ⟨[⟨⟨[], 6⟩, [oneStation]⟩]⟩) 0 ⟨⟨[], 6⟩, [oneStation]⟩ := ⟨_, rfl, le_rfl, rfl⟩
  obtain ⟨fuel, list, hreturn, -⟩ := (h _ 0 0).connected _ _ hintf le_rfl rfl
  have hlist : oneStation.1.staList ≠ [] := List.cons_ne_nil _ _
  rw [returnConnectedSta_eq fuel hintf le_rfl rfl, if_neg hlist] at hreturn
  exact absurd hreturn (by simp)

end GlobalVar

end Ethanol
