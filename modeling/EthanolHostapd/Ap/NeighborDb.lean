import EthanolHostapd.Containers.KeyedList
import EthanolHostapd.Utils.Os
import EthanolHostapd.Ap.StaInfo

/-!
# The database of neighboring access points

`neighbor_db.c`.  An entry is found by its BSSID and SSID; a new entry is put at the front.
-/

namespace Ethanol

/-- A measurement report that is stored; it is not empty. -/
abbrev StoredReport : Type := { data : List UInt8 // data ≠ [] }

/-- `struct hostapd_neighbor_entry`. -/
structure HostapdNeighborEntry where
  bssid : MacAddr
  ssid : List UInt8
  nr : List UInt8
  lci : Option StoredReport
  civic : Option StoredReport
  lciDate : OsReltime

namespace HostapdNeighborEntry

/-- What an entry is found by. -/
def key (nr : HostapdNeighborEntry) : MacAddr × List UInt8 := (nr.bssid, nr.ssid)

/-- The reports are stored; the time is that of the LCI. -/
def store (entry : HostapdNeighborEntry) (nr : List UInt8) (lci civic : Option StoredReport) (now : Option OsReltime) :
    HostapdNeighborEntry :=
  { entry with nr, lci, civic, lciDate := if lci.isSome then now.getD entry.lciDate else entry.lciDate }

lemma key_store (entry : HostapdNeighborEntry) (nr : List UInt8) (lci civic : Option StoredReport)
    (now : Option OsReltime) : (entry.store nr lci civic now).key = entry.key := rfl

end HostapdNeighborEntry

/-- `nr_db`. -/
abbrev NeighborDb : Type := List HostapdNeighborEntry

namespace NeighborDb

variable (db : NeighborDb)

/-- `hostapd_neighbor_get`. -/
def hostapdNeighborGet (bssid : MacAddr) (ssid : Option (List UInt8)) : Option HostapdNeighborEntry :=
  db.find? fun nr => nr.bssid = bssid ∧ ∀ s ∈ ssid, nr.ssid = s

/-- `hostapd_neighbor_remove`. -/
def hostapdNeighborRemove (bssid : MacAddr) (ssid : Option (List UInt8)) : NeighborDb × Bool :=
  (db.eraseP fun nr => nr.bssid = bssid ∧ ∀ s ∈ ssid, nr.ssid = s, (db.hostapdNeighborGet bssid ssid).isSome)

/-- `hostapd_neighbor_set`.  `dup` says whether there is memory for the copies, `now` is what `os_get_time` says; an entry that
is found has the BSSID and the SSID already. -/
def hostapdNeighborSet (bssid : MacAddr) (ssid nr : List UInt8) (lci civic : Option StoredReport) (dup : Bool)
    (now : Option OsReltime) : NeighborDb × Bool :=
  if dup && (lci.isNone || now.isSome) then
    if (db.hostapdNeighborGet bssid (some ssid)).isSome then
      (KeyedList.assign HostapdNeighborEntry.key (bssid, ssid) (fun entry => entry.store nr lci civic now) db, true)
    else (HostapdNeighborEntry.store ⟨bssid, ssid, [], none, none, ⟨0, 0⟩⟩ nr lci civic now :: db, true)
  else ((db.hostapdNeighborRemove bssid (some ssid)).1, false)

lemma hostapdNeighborGet_some (bssid : MacAddr) (ssid : List UInt8) :
    db.hostapdNeighborGet bssid (some ssid) = KeyedList.find HostapdNeighborEntry.key (bssid, ssid) db := by
  simp [hostapdNeighborGet, KeyedList.find, HostapdNeighborEntry.key, Prod.ext_iff]

/-- `hostapd_neighbor_set` and `hostapd_neighbor_remove`, with their arguments. -/
inductive Call
  | set (bssid : MacAddr) (ssid nr : List UInt8) (lci civic : Option StoredReport) (dup : Bool) (now : Option OsReltime)
  | remove (bssid : MacAddr) (ssid : Option (List UInt8))

/-- The database after a call. -/
def call : Call → NeighborDb
  | .set bssid ssid nr lci civic dup now => (db.hostapdNeighborSet bssid ssid nr lci civic dup now).1
  | .remove bssid ssid => (db.hostapdNeighborRemove bssid ssid).1

variable {db}

lemma distinct_remove (hdb : KeyedList.Distinct HostapdNeighborEntry.key db) (bssid : MacAddr)
    (ssid : Option (List UInt8)) :
    KeyedList.Distinct HostapdNeighborEntry.key (db.hostapdNeighborRemove bssid ssid).1 :=
  hdb.sublist (List.eraseP_sublist.map _)

lemma distinct_set (hdb : KeyedList.Distinct HostapdNeighborEntry.key db) (bssid : MacAddr) (ssid nr : List UInt8)
    (lci civic : Option StoredReport) (dup : Bool) (now : Option OsReltime) :
    KeyedList.Distinct HostapdNeighborEntry.key (db.hostapdNeighborSet bssid ssid nr lci civic dup now).1 := by
  rw [hostapdNeighborSet]
  split_ifs with hok hget
  · unfold KeyedList.Distinct
    rw [KeyedList.map_key_assign fun entry => entry.key_store nr lci civic now]
    exact hdb
  · rw [hostapdNeighborGet_some, Bool.not_eq_true, Option.isSome_eq_false_iff, Option.isNone_iff_eq_none] at hget
    exact List.nodup_cons.mpr ⟨KeyedList.find_eq_none_iff.mp hget, hdb⟩
  · exact distinct_remove hdb bssid (some ssid)

/-- In every run there is at most one entry for a BSSID and an SSID. -/
theorem distinct_run (calls : List Call) : KeyedList.Distinct HostapdNeighborEntry.key (calls.foldl call []) := by
  have hrun : ∀ db : NeighborDb, KeyedList.Distinct HostapdNeighborEntry.key db →
      KeyedList.Distinct HostapdNeighborEntry.key (calls.foldl call db) := by
    induction calls with
    | nil => exact fun _ => id
    | cons c calls ih =>
      intro db hdb
      refine ih _ ?_
      cases c with
      | set bssid ssid nr lci civic dup now => exact distinct_set hdb bssid ssid nr lci civic dup now
      | remove bssid ssid => exact distinct_remove hdb bssid ssid
  exact hrun [] List.nodup_nil

/-- What has been set is found, and the other entries are as before. -/
theorem find_set (bssid : MacAddr) (ssid nr : List UInt8) (lci civic : Option StoredReport) (dup : Bool)
    (now : Option OsReltime) (hset : (db.hostapdNeighborSet bssid ssid nr lci civic dup now).2 = true) :
    (∃ entry, (db.hostapdNeighborSet bssid ssid nr lci civic dup now).1.hostapdNeighborGet bssid (some ssid) = some entry ∧
      entry.nr = nr ∧ entry.lci = lci ∧ entry.civic = civic) ∧
    ∀ bssid' ssid', (bssid', ssid') ≠ (bssid, ssid) →
      (db.hostapdNeighborSet bssid ssid nr lci civic dup now).1.hostapdNeighborGet bssid' (some ssid') =
        db.hostapdNeighborGet bssid' (some ssid') := by
  simp only [hostapdNeighborGet_some]
  rw [hostapdNeighborSet] at hset ⊢
  split_ifs at hset ⊢ with hok hget
  · rw [hostapdNeighborGet_some] at hget
    obtain ⟨old, hold⟩ := Option.isSome_iff_exists.mp hget
    refine ⟨⟨old.store nr lci civic now, ?_, rfl, rfl, rfl⟩, fun bssid' ssid' hne => ?_⟩
    · rw [KeyedList.find_assign fun entry => entry.key_store nr lci civic now, if_pos rfl, hold]
      rfl
    · rw [KeyedList.find_assign fun entry => entry.key_store nr lci civic now, if_neg hne]
  · refine ⟨⟨_, by rw [KeyedList.find_cons]; exact if_pos rfl, rfl, rfl, rfl⟩, fun bssid' ssid' hne => ?_⟩
    rw [KeyedList.find_cons]
    exact if_neg fun heq => hne heq.symm

end NeighborDb

end Ethanol
