import EthanolHostapd.Containers.KeyedList
import EthanolHostapd.Traces.Since
import EthanolHostapd.Wire.Encoder

/-!
# The registries of access points and stations

`list_devices.c`, on which `list_aps.c` and `list_stations.c` are built.  A device announces itself
with its MAC address, its host name and the port at which it listens.

An announcement of a device that is already registered does not change its entry: the callers rely on
`insert_device` to add new MAC addresses only.
-/

namespace Ethanol

open Wire

/-- `list_devices_t`.  `copy_string` keeps a `NULL` host name. -/
structure Device where
  macAddress : CString
  hostname : Option CString
  portNum : Int32
  deriving DecidableEq

/-- `find_device`. -/
def findDevice (macAddress : CString) (list : List Device) : Option Device :=
  KeyedList.find Device.macAddress macAddress list

/-- `insert_device`: the entry that it returns and the list. -/
def insertDevice (macAddress : CString) (hostname : Option CString) (portNum : Int32)
    (list : List Device) : Device × List Device :=
  match findDevice macAddress list with
  | some p => (p, list)
  | none => (⟨macAddress, hostname, portNum⟩, ⟨macAddress, hostname, portNum⟩ :: list)

/-- `remove_device`: the entry that was unlinked, if any, and the list. -/
def removeDevice (macAddress : CString) (list : List Device) : Option Device × List Device :=
  (findDevice macAddress list, KeyedList.remove Device.macAddress macAddress list)

/-- A call that changes a registry. -/
inductive DeviceCall
  | insert (macAddress : CString) (hostname : Option CString) (portNum : Int32)
  | remove (macAddress : CString)
  deriving DecidableEq

namespace DeviceCall

/-- The effect of a call on the registry. -/
def exec (list : List Device) : DeviceCall → List Device
  | insert macAddress hostname portNum => (insertDevice macAddress hostname portNum list).2
  | remove macAddress => (removeDevice macAddress list).2

/-- The registry after a sequence of calls, from the empty one. -/
def run (calls : List DeviceCall) : List Device := calls.foldl exec []

/-- The device was inserted and not removed since. -/
def Registered (macAddress : CString) : List DeviceCall → Prop :=
  Trace.Since (fun _ c => ∃ hostname portNum, c = insert macAddress hostname portNum)
    (fun c => c ≠ remove macAddress)

/-- The most recent insertion of the device gave this host name and port. -/
def LastAnnounced (d : Device) : List DeviceCall → Prop :=
  Trace.Since (fun _ c => c = insert d.macAddress d.hostname d.portNum)
    (fun c => ∀ hostname portNum, c ≠ insert d.macAddress hostname portNum)

/-- The device was inserted with this host name and port when it was not registered, and it was not
removed since. -/
def Announced (d : Device) : List DeviceCall → Prop :=
  Trace.Since
    (fun before c =>
      c = insert d.macAddress d.hostname d.portNum ∧ ¬ Registered d.macAddress before)
    (fun c => c ≠ remove d.macAddress)

end DeviceCall

open DeviceCall

/-! ## What a call does -/

/-- The registry holds no two entries with the same MAC address. -/
abbrev DistinctDevices (list : List Device) : Prop := KeyedList.Distinct Device.macAddress list

lemma distinct_exec {list : List Device} (h : DistinctDevices list) (c : DeviceCall) :
    DistinctDevices (c.exec list) := by
  cases c with
  | insert m hostname portNum =>
    simp only [exec, insertDevice]
    cases hm : findDevice m list with
    | some p => exact h
    | none => exact List.nodup_cons.mpr ⟨KeyedList.find_eq_none_iff.mp hm, h⟩
  | remove m => exact KeyedList.Distinct.remove h m

/-- An insertion adds an entry unless there is one. -/
lemma find_exec_insert (list : List Device) (m n : CString) (hostname : Option CString)
    (portNum : Int32) :
    findDevice n ((DeviceCall.insert m hostname portNum).exec list) =
      if m = n then (findDevice n list).or (some ⟨m, hostname, portNum⟩)
      else findDevice n list := by
  simp only [exec, insertDevice]
  by_cases h : m = n
  · subst h
    cases hm : findDevice m list with
    | some p => simp [hm]
    | none => simp [findDevice, KeyedList.find_cons]
  · cases hm : findDevice m list with
    | some p => simp [h]
    | none => simp [findDevice, KeyedList.find_cons, h]

lemma find_exec_remove {list : List Device} (hlist : DistinctDevices list) (m n : CString) :
    findDevice n ((DeviceCall.remove m).exec list) = if n = m then none else findDevice n list :=
  KeyedList.find_remove hlist m n

lemma run_concat (calls : List DeviceCall) (c : DeviceCall) :
    DeviceCall.run (calls ++ [c]) = c.exec (DeviceCall.run calls) := by
  simp [DeviceCall.run]

lemma distinct_run (calls : List DeviceCall) : DistinctDevices (DeviceCall.run calls) := by
  induction calls using List.reverseRecOn with
  | nil => exact List.nodup_nil
  | append_singleton calls c ih =>
    rw [run_concat]
    exact distinct_exec ih c

/-! ## The registry as a map -/

/-- A device has an entry exactly if it was inserted and not removed since. -/
lemma find_run_isSome_iff (calls : List DeviceCall) (m : CString) :
    (findDevice m (DeviceCall.run calls)).isSome ↔ DeviceCall.Registered m calls := by
  induction calls using List.reverseRecOn with
  | nil => simp [DeviceCall.run, findDevice, DeviceCall.Registered]
  | append_singleton calls c ih =>
    rw [run_concat, DeviceCall.Registered, Trace.since_concat, ← DeviceCall.Registered, ← ih]
    cases c with
    | insert m' hostname portNum =>
      rw [find_exec_insert]
      by_cases h : m' = m
      · simp [h]
      · simp [h]
    | remove m' =>
      rw [find_exec_remove (distinct_run calls)]
      by_cases h : m = m'
      · simp [h]
      · simp [h, Ne.symm h]

/-- The entry of a device is the one of the insertion that found it unregistered. -/
lemma find_run_eq_some_iff (calls : List DeviceCall) (m : CString) (d : Device) :
    findDevice m (DeviceCall.run calls) = some d ↔ d.macAddress = m ∧ Announced d calls := by
  induction calls using List.reverseRecOn with
  | nil => simp [DeviceCall.run, findDevice, Announced]
  | append_singleton calls c ih =>
    rw [run_concat, Announced, Trace.since_concat, ← Announced, ← find_run_isSome_iff]
    cases c with
    | insert m' hostname portNum =>
      rw [find_exec_insert]
      by_cases h : m' = m
      · subst h
        rw [if_pos rfl]
        cases hfind : findDevice m' (DeviceCall.run calls) with
        | some p =>
          -- the early return: the entry stays the one that was found
          rw [hfind] at ih
          rw [Option.some_or, ih]
          constructor
          · rintro ⟨rfl, hd⟩
            exact ⟨rfl, Or.inr ⟨by simp, hd⟩⟩
          · rintro ⟨rfl, ⟨-, hnew⟩ | ⟨-, hd⟩⟩
            · simp [hfind] at hnew
            · exact ⟨rfl, hd⟩
        | none =>
          rw [hfind] at ih
          have hnot : d.macAddress = m' → ¬ Announced d calls :=
            fun hd ha => absurd (ih.mpr ⟨hd, ha⟩) (by simp)
          rw [Option.none_or, Option.some.injEq]
          constructor
          · rintro rfl
            exact ⟨rfl, Or.inl ⟨rfl, by simp [hfind]⟩⟩
          · rintro ⟨hd, ⟨hc, -⟩ | ⟨-, ha⟩⟩
            · obtain ⟨h1, h2, h3⟩ := DeviceCall.insert.inj hc
              rw [h1, h2, h3]
            · exact absurd ha (hnot hd)
      · rw [if_neg h, ih]
        constructor
        · rintro ⟨rfl, hd⟩
          exact ⟨rfl, Or.inr ⟨by simp, hd⟩⟩
        · rintro ⟨rfl, ⟨hc, -⟩ | ⟨-, hd⟩⟩
          · exact absurd (DeviceCall.insert.inj hc).1 h
          · exact ⟨rfl, hd⟩
    | remove m' =>
      rw [find_exec_remove (distinct_run calls)]
      by_cases h : m = m'
      · subst h
        rw [if_pos rfl]
        constructor
        · intro hnone
          exact absurd hnone (by simp)
        · rintro ⟨rfl, ⟨hc, -⟩ | ⟨hne, -⟩⟩
          · exact absurd hc (by simp)
          · exact absurd rfl hne
      · rw [if_neg h, ih]
        constructor
        · rintro ⟨rfl, hd⟩
          exact ⟨rfl, Or.inr ⟨by simpa using Ne.symm h, hd⟩⟩
        · rintro ⟨rfl, ⟨hc, -⟩ | ⟨-, hd⟩⟩
          · exact absurd hc (by simp)
          · exact ⟨rfl, hd⟩

/-- `"02:00:00:00:00:01"`. -/
def someMac : CString :=
  ⟨[48, 50, 58, 48, 48, 58, 48, 48, 58, 48, 48, 58, 48, 48, 58, 48, 49], by decide⟩

end Ethanol
