import EthanolHostapd.Ap.StaInfo
import EthanolHostapd.Containers.RefCounts
import EthanolHostapd.Traces.Run
import EthanolHostapd.Utils.Common
import EthanolHostapd.Wire.Encoder

/-!
# Dynamic VLAN interfaces

`ap/vlan_init.c`, the VLAN functions of `ap/sta_info.c` and the end of `vlan_dellink` in `ap/vlan_full.c`.
A station that is assigned to a VLAN for which there is no entry yet gets one that is made from a wildcard
entry, with an interface of its own.  Such an entry counts the stations that refer to it, once for
`vlan_id` and once for `vlan_id_bound`, and its interface goes when nothing is left to count.

With `CONFIG_FULL_DYNAMIC_VLAN` the entry goes too.  The bridges that this option sets up for an interface
are not modelled, nor are the groups of the authenticator.
-/

namespace Ethanol

open Wire

/-- `MAX_VLAN_ID`. -/
def maxVlanId : ℤ := 4094

/-- `VLAN_ID_WILDCARD`. -/
def vlanIdWildcard : ℤ := -1

/-- `IFNAMSIZ`. -/
def ifnamsiz : ℕ := 16

/-- `struct vlan_description`. -/
structure VlanDescription where
  notempty : Bool
  untagged : ℤ
  tagged : Vector ℤ 32
  deriving DecidableEq

/-- `vlan_compare`.  No description is like an empty one. -/
def vlanCompare (a b : Option VlanDescription) : ℤ :=
  match a.filter (·.notempty), b.filter (·.notempty) with
  | none, none => 0
  | some a, some b => if a.untagged ≠ b.untagged then 1 else if a.tagged ≠ b.tagged then 1 else 0
  | _, _ => 1

namespace VlanDescription

/-- What `os_zalloc` returns. -/
def zero : VlanDescription := ⟨false, 0, Vector.replicate 32 0⟩

/-- The description of one untagged VLAN. -/
def single (vlanId : ℤ) : VlanDescription := ⟨true, vlanId, Vector.replicate 32 0⟩

/-- What the callers of `ap_sta_set_vlan` see to before: `hostapd_vlan_valid` accepts the numbers of a
description that is not empty, and the tagged identifiers come first in their array. -/
structure Valid (desc : VlanDescription) : Prop where
  untagged_nonneg : 0 ≤ desc.untagged
  untagged_le : desc.untagged ≤ maxVlanId
  some_vlan : desc.untagged ≠ 0 ∨ desc.tagged[0] ≠ 0
  tagged_first : desc.tagged[0] = 0 → desc.tagged = Vector.replicate 32 0

end VlanDescription

/-- The argument of `ap_sta_set_vlan`. -/
def VlanArg : Type :=
  {vlanDesc : Option VlanDescription // ∀ desc ∈ vlanDesc, desc.notempty = true → desc.Valid}

/-- `struct hostapd_vlan`. -/
structure HostapdVlan where
  vlanId : ℤ
  vlanDesc : VlanDescription
  ifname : CString
  dynamicVlan : ℤ
  /-- Whether `vlan_add_dynamic` has made the entry.  The program does not keep this. -/
  added : Bool

/-- What is read of the configuration, and the build option. -/
structure VlanConfig where
  /-- `ssid.dynamic_vlan`. -/
  dynamicVlan : ℤ
  /-- `ssid.per_sta_vif`. -/
  perStaVif : Bool
  /-- Whether there is a WEP key. -/
  wepKey : Bool
  /-- Whether `hapd->wpa_auth` is set. -/
  wpaAuth : Bool
  /-- `CONFIG_FULL_DYNAMIC_VLAN`. -/
  full : Bool

/-- The fields of `struct sta_info` about VLANs. -/
structure VlanSta where
  sta : StaPtr
  vlanId : ℤ
  /-- The description behind the pointer. -/
  vlanDesc : Option VlanDescription
  vlanIdBound : ℤ

/-- The fields of `struct hostapd_data` about VLANs, and the interfaces of the system. -/
structure VlanData where
  conf : VlanConfig
  /-- `conf->vlan`. -/
  vlan : List HostapdVlan
  ifaces : Finset CString
  staList : List VlanSta

/-- How the calls that set up an interface come out. -/
structure AddOutcome where
  zalloc : Bool
  /-- `hostapd_vlan_if_add`. -/
  ifAdd : Bool
  /-- `wpa_auth_ensure_group`. -/
  ensureGroup : Bool
  /-- `hostapd_vlan_if_remove`, if the group was not set up. -/
  ifRemove : Bool

/-- How the calls of `hostapd_vlan_if_remove` in `vlan_remove_dynamic` come out. -/
structure RemoveOutcome where
  ifRemove : Bool
  /-- In `vlan_dellink`. -/
  again : Bool

/-- `DYNAMIC_VLAN_DISABLED`. -/
def dynamicVlanDisabled : ℤ := 0

/-- The name of the interface that is made from the one of a wildcard entry, if there is a `#` in it. -/
def dynamicIfname (ifname : CString) (vlanId : ℤ) : Option CString :=
  match ifname.chars.dropWhile (· ≠ 35) with
  | [] => none
  | _ :: pos => some (CString.ofBytes
      ((ifname.chars.takeWhile (· ≠ 35) ++ decimal vlanId ++ pos).take ifnamsiz))

/-- The search in `ap_sta_get_free_vlan_id`.  It starts anew, with the next identifier, at most once for each
entry of the list. -/
def freeVlanIdFrom (vlan : List HostapdVlan) : ℕ → ℤ → ℤ
  | 0, vlanId => vlanId
  | fuel + 1, vlanId =>
    if vlan.any (·.vlanId = vlanId) then freeVlanIdFrom vlan fuel (vlanId + 1) else vlanId

/-- `ap_sta_get_free_vlan_id`. -/
def apStaGetFreeVlanId (vlan : List HostapdVlan) : ℤ :=
  freeVlanIdFrom vlan vlan.length (maxVlanId + 2)

/-- The key for the walk to the first entry with an identifier and a positive count. -/
def HostapdVlan.counted (vlan : HostapdVlan) : ℤ × Bool := (vlan.vlanId, decide (0 < vlan.dynamicVlan))

/-- The key for the walk to the first entry with a description. -/
def HostapdVlan.compare (vlanDesc : Option VlanDescription) (vlan : HostapdVlan) : ℤ :=
  vlanCompare (some vlan.vlanDesc) vlanDesc

/-- `vlan->dynamic_vlan++`. -/
def HostapdVlan.incr (vlan : HostapdVlan) : HostapdVlan := { vlan with dynamicVlan := vlan.dynamicVlan + 1 }

/-- `vlan->dynamic_vlan--`. -/
def HostapdVlan.decr (vlan : HostapdVlan) : HostapdVlan := { vlan with dynamicVlan := vlan.dynamicVlan - 1 }

namespace VlanData

/-- `vlan_if_add`: the interfaces after it, and whether it succeeded. -/
def vlanIfAdd (hapd : VlanData) (vlan : HostapdVlan) (existsok : Bool) (out : AddOutcome) :
    Finset CString × Bool :=
  if hapd.conf.wepKey then (hapd.ifaces, false)
  else if vlan.ifname ∉ hapd.ifaces ∧ out.ifAdd = false then (hapd.ifaces, false)
  else if vlan.ifname ∈ hapd.ifaces ∧ existsok = false then (hapd.ifaces, false)
  else
    let ifaces := insert vlan.ifname hapd.ifaces
    if hapd.conf.wpaAuth = false || out.ensureGroup then (ifaces, true)
    else if out.ifRemove then (ifaces.erase vlan.ifname, false)
    else (ifaces, false)

/-- `vlan_if_remove`. -/
def vlanIfRemove (hapd : VlanData) (ifname : CString) (ok : Bool) : VlanData :=
  { hapd with ifaces := if ok then hapd.ifaces.erase ifname else hapd.ifaces }

/-- `vlan_add_dynamic`. -/
def vlanAddDynamic (hapd : VlanData) (vlan : HostapdVlan) (vlanId : ℤ) (vlanDesc : Option VlanDescription)
    (out : AddOutcome) : VlanData × Option HostapdVlan :=
  if vlan.vlanId ≠ vlanIdWildcard then (hapd, none)
  else match dynamicIfname vlan.ifname vlanId with
  | none => (hapd, none)
  | some ifname =>
    if out.zalloc = false then (hapd, none)
    else
      let n : HostapdVlan := ⟨vlanId, vlanDesc.getD .zero, ifname, 1, true⟩
      let (ifaces, ok) := { hapd with vlan := n :: hapd.vlan }.vlanIfAdd n false out
      if ok then ({ hapd with vlan := n :: hapd.vlan, ifaces }, some n)
      else ({ hapd with ifaces }, none)

/-- `vlan_dellink`, without the bridges. -/
def vlanDellink (hapd : VlanData) (ifname : CString) (ok : Bool) : VlanData :=
  match KeyedList.find (·.ifname) ifname hapd.vlan with
  | none => hapd
  | some vlan =>
    let hapd := if vlan.ifname ∈ hapd.ifaces then hapd.vlanIfRemove vlan.ifname ok else hapd
    { hapd with vlan := KeyedList.remove (·.ifname) ifname hapd.vlan }

/-- `vlan_remove_dynamic`. -/
def vlanRemoveDynamic (hapd : VlanData) (vlanId : ℤ) (out : RemoveOutcome) : VlanData :=
  if vlanId ≤ 0 then hapd
  else match KeyedList.find HostapdVlan.counted (vlanId, true) hapd.vlan with
  | none => hapd
  | some vlan =>
    let hapd := { hapd with
      vlan := KeyedList.assign HostapdVlan.counted (vlanId, true) HostapdVlan.decr hapd.vlan }
    if vlan.dynamicVlan - 1 = 0 then
      let hapd := hapd.vlanIfRemove vlan.ifname out.ifRemove
      if hapd.conf.full then hapd.vlanDellink vlan.ifname out.again else hapd
    else hapd

/-- A description counts only if dynamic VLANs are not disabled. -/
def effective (hapd : VlanData) (vlanDesc : Option VlanDescription) : Option VlanDescription :=
  if hapd.conf.dynamicVlan = dynamicVlanDisabled then none else vlanDesc

/-- "Check if there is something to do". -/
def somethingToDo (hapd : VlanData) (sta : VlanSta) (vlanDesc : Option VlanDescription) : Bool :=
  (hapd.conf.perStaVif && sta.vlanId = 0) ||
    (hapd.conf.dynamicVlan = dynamicVlanDisabled && !hapd.conf.perStaVif && sta.vlanId ≠ 0) ||
    vlanCompare vlanDesc sta.vlanDesc ≠ 0

/-- The entry for a description and the identifier the station gets.  The result is `none` if there is no
entry where there has to be one. -/
def chooseVlan (hapd : VlanData) (vlanDesc : Option VlanDescription) : Option (Option HostapdVlan × ℤ) :=
  if hapd.conf.perStaVif then
    match KeyedList.find (·.vlanId) vlanIdWildcard hapd.vlan with
    | none => none
    | some vlan => some (some vlan, apStaGetFreeVlanId hapd.vlan)
  else match vlanDesc.filter (·.notempty) with
  | none => some (none, 0)
  | some desc =>
    match KeyedList.find (HostapdVlan.compare vlanDesc) 0 hapd.vlan with
    | some vlan => some (some vlan, vlan.vlanId)
    | none =>
      -- the last one, since the walk goes on after it
      match KeyedList.find (·.vlanId) vlanIdWildcard hapd.vlan.reverse with
      | none => none
      | some vlan =>
        some (some vlan, if desc.tagged[0] ≠ 0 then apStaGetFreeVlanId hapd.vlan else desc.untagged)

/-- The middle of `ap_sta_set_vlan`: the entry, with one more reference, the identifier and the result. -/
def acquireVlan (hapd : VlanData) (vlanDesc : Option VlanDescription) (out : AddOutcome) :
    VlanData × Option HostapdVlan × ℤ × ℤ :=
  match hapd.chooseVlan vlanDesc with
  | none => (hapd, none, 0, -1)
  | some (none, vlanId) => (hapd, none, vlanId, 0)
  | some (some vlan, vlanId) =>
    if vlan.vlanId = vlanIdWildcard then
      match hapd.vlanAddDynamic vlan vlanId vlanDesc out with
      | (hapd, none) => (hapd, none, 0, -1)
      | (hapd, some n) => (hapd, some n, vlanId, 0)
    else if 0 < vlan.dynamicVlan then
      ({ hapd with
        vlan := KeyedList.assign (HostapdVlan.compare vlanDesc) 0 HostapdVlan.incr hapd.vlan },
        some vlan, vlanId, 0)
    else (hapd, some vlan, vlanId, 0)

/-- `*sta`, written. -/
def setSta (hapd : VlanData) (sta : VlanSta) : VlanData :=
  { hapd with staList := KeyedList.assign (·.sta) sta.sta (fun _ => sta) hapd.staList }

/-- `ap_sta_set_vlan`, with its result. -/
def apStaSetVlan (hapd : VlanData) (sta : VlanSta) (vlanDesc : Option VlanDescription) (add : AddOutcome)
    (remove : RemoveOutcome) : VlanData × ℤ :=
  let vlanDesc := hapd.effective vlanDesc
  if hapd.somethingToDo sta vlanDesc = false then (hapd, 0)
  else
    let (hapd, vlan, vlanId, ret) := hapd.acquireVlan vlanDesc add
    let hapd := hapd.setSta { sta with vlanId, vlanDesc := vlan.map (·.vlanDesc) }
    if vlanId ≠ sta.vlanId ∧ sta.vlanId ≠ 0 then (hapd.vlanRemoveDynamic sta.vlanId remove, ret)
    else (hapd, ret)

/-- The part of `ap_sta_bind_vlan` before `skip_counting`, if it is not skipped: one more reference, unless
there is no entry. -/
def bindVlan (hapd : VlanData) (sta : VlanSta) : Option VlanData :=
  if 0 < sta.vlanId then
    match KeyedList.find (·.vlanId) sta.vlanId hapd.vlan with
    | none => none
    | some vlan =>
      if 0 < vlan.dynamicVlan then
        some { hapd with vlan := KeyedList.assign (·.vlanId) sta.vlanId HostapdVlan.incr hapd.vlan }
      else some hapd
  else some hapd

/-- `ap_sta_bind_vlan`, with its result.  `ret` is what `hostapd_drv_set_sta_vlan` returns. -/
def apStaBindVlan (hapd : VlanData) (sta : VlanSta) (ret : ℤ) (remove : RemoveOutcome) : VlanData × ℤ :=
  if sta.vlanId = sta.vlanIdBound then (hapd, ret)
  else match hapd.bindVlan sta with
  | none => (hapd, -1)
  | some hapd =>
    let hapd := hapd.setSta { sta with vlanIdBound := sta.vlanId }
    if 0 < sta.vlanIdBound then (hapd.vlanRemoveDynamic sta.vlanIdBound remove, ret) else (hapd, ret)

/-- `ap_sta_add`: all fields of the station are zero. -/
def apStaAdd (hapd : VlanData) (sta : StaPtr) : VlanData :=
  { hapd with staList := ⟨sta, 0, none, 0⟩ :: hapd.staList }

/-- `ap_free_sta`. -/
def apFreeSta (hapd : VlanData) (sta : VlanSta) (remove removeBound : RemoveOutcome) : VlanData :=
  let hapd := { hapd with staList := KeyedList.remove (·.sta) sta.sta hapd.staList }
  let hapd := if sta.vlanId ≠ 0 then hapd.vlanRemoveDynamic sta.vlanId remove else hapd
  if sta.vlanIdBound ≠ 0 then hapd.vlanRemoveDynamic sta.vlanIdBound removeBound else hapd

end VlanData

/-- A line of the file of VLANs: an identifier, or none for `*`, and the name of an interface. -/
structure VlanLine where
  vlanId : Option {vlanId : ℤ // 1 ≤ vlanId ∧ vlanId ≤ maxVlanId}
  ifname : CString

/-- The entry that `hostapd_config_read_vlan_file` makes of a line. -/
def VlanLine.entry (line : VlanLine) : HostapdVlan :=
  let vlanId := line.vlanId.elim vlanIdWildcard (·.1)
  { vlanId
    vlanDesc := VlanDescription.single vlanId
    ifname := line.ifname
    dynamicVlan := 0
    added := false }

/-- A call about a station. -/
inductive VlanCall
  | apStaAdd (sta : StaPtr)
  | apStaSetVlan (sta : StaPtr) (vlanDesc : VlanArg) (add : AddOutcome) (remove : RemoveOutcome)
  | apStaBindVlan (sta : StaPtr) (ret : ℤ) (remove : RemoveOutcome)
  | apFreeSta (sta : StaPtr) (remove removeBound : RemoveOutcome)

namespace VlanData

/-- The list after `hostapd_config_read_vlan_file` and `vlan_init`.  The latter adds a wildcard entry if the
list is empty and there may be something to add. -/
def vlanInit (conf : VlanConfig) (lines : List VlanLine) (iface : CString) : List HostapdVlan :=
  if lines = [] ∧ (conf.dynamicVlan ≠ dynamicVlanDisabled ∨ conf.perStaVif = true) then
    [{ vlanId := vlanIdWildcard
       vlanDesc := .zero
       ifname := CString.ofBytes ((iface.chars ++ [46, 35]).take ifnamsiz)
       dynamicVlan := 0
       added := false }]
  else (lines.map VlanLine.entry).reverse

/-- The start. -/
def init (conf : VlanConfig) (lines : List VlanLine) (iface : CString) (ifaces : Finset CString) : VlanData where
  conf := conf
  vlan := vlanInit conf lines iface
  ifaces := ifaces
  staList := []

/-- The state after a call.  A new station is not one of the list, the others are about one of it. -/
def next (hapd : VlanData) : VlanCall → Option VlanData
  | .apStaAdd sta => if sta ∈ hapd.staList.map (·.sta) then none else some (hapd.apStaAdd sta)
  | .apStaSetVlan sta vlanDesc add remove => do
    let sta ← KeyedList.find (·.sta) sta hapd.staList
    some (hapd.apStaSetVlan sta vlanDesc.1 add remove).1
  | .apStaBindVlan sta ret remove => do
    let sta ← KeyedList.find (·.sta) sta hapd.staList
    some (hapd.apStaBindVlan sta ret remove).1
  | .apFreeSta sta remove removeBound => do
    let sta ← KeyedList.find (·.sta) sta hapd.staList
    some (hapd.apFreeSta sta remove removeBound)

end VlanData

end Ethanol
