import EthanolHostapd.Ap.Vlan
import EthanolHostapd.Containers.BinarySearch
import EthanolHostapd.Traces.Since
import EthanolHostapd.Utils.Common

/-!
# The lists of accepted and denied addresses

`hostapd_config_read_maclist` in `config_file.c` and `hostapd_maclist_found` in `ap/ap_config.c`.  A file has
a line for every address that is added or removed.  The lookup is a binary search; the list is sorted when a
file has been read to its end, and is left as it is at a line that is not valid or cannot be stored.

A run is a sequence of calls for one list.  The state records the changes that the lines of the files have
made, and an address is listed if it was added and not removed since.
-/

namespace Ethanol

open Wire Trace

/-- `struct mac_acl_entry`. -/
structure MacAclEntry where
  addr : MacAddr
  vlanId : VlanDescription
  deriving DecidableEq

/-- What a line does to the list. -/
inductive MaclistChange
  | remove (addr : MacAddr)
  | add (entry : MacAclEntry)
  deriving DecidableEq

/-- What a line says. -/
inductive MaclistLine
  | skip
  | invalid
  | change (c : MaclistChange)

/-- `struct mac_acl_entry **acl` and `int *num`, which is the length of the list. -/
structure Maclist where
  entries : List MacAclEntry
  /-- The changes made so far.  The program does not keep them. -/
  history : List MaclistChange

/-- The arguments of a call, and how the calls in it come out. -/
structure MaclistRead where
  /-- There may be no name, and there may be no file of that name. -/
  fname : Option (Option (List UInt8))
  /-- `os_realloc_array`, by the number of the line. -/
  realloc : ℕ → Bool

/-- `hostapd_acl_comp`. -/
def hostapdAclComp (a b : MacAclEntry) : ℤ := osMemcmp a.addr.toList b.addr.toList

/-- What is documented of `qsort` with `hostapd_acl_comp`: the order of entries that compare equal is not. -/
structure AclQsort where
  sort : List MacAclEntry → List MacAclEntry
  perm : ∀ l, (sort l).Perm l
  sorted : ∀ l, (sort l).Pairwise fun a b => hostapdAclComp a b ≤ 0

/-- The line in the buffer, with the variable `buf` after the newline was replaced. -/
def maclistLine (buf : List UInt8) : MaclistLine :=
  match buf.takeWhile fun c => c ≠ 0 && c ≠ 10 with
  | [] => .skip
  | 35 :: _ => .skip
  | 45 :: pos =>
    match hwaddrAton pos with
    | none => .invalid
    | some addr => .change (.remove addr)
  | pos =>
    match hwaddrAton pos with
    | none => .invalid
    | some addr =>
      let pos := pos.dropWhile fun c => c ≠ 32 && c ≠ 9
      let pos := pos.dropWhile fun c => c = 32 || c = 9
      let vlanId := if pos = [] then 0 else atoi pos
      .change (.add ⟨addr, { VlanDescription.zero with untagged := vlanId, notempty := vlanId ≠ 0 }⟩)

/-- `hostapd_maclist_found`: the description found, or `none` for 0. -/
def hostapdMaclistFound (list : List MacAclEntry) (addr : MacAddr) : Option VlanDescription :=
  (BinarySearch.search (fun e => osMemcmp e.addr.toList addr.toList) list).map (·.vlanId)

namespace Maclist

def init : Maclist := ⟨[], []⟩

/-- A line that is carried out. -/
def apply (acl : Maclist) : MaclistChange → Maclist
  | .remove addr =>
    ⟨acl.entries.filter fun e => osMemcmp e.addr.toList addr.toList ≠ 0, acl.history ++ [.remove addr]⟩
  | .add entry => ⟨acl.entries ++ [entry], acl.history ++ [.add entry]⟩

/-- The loop in `hostapd_config_read_maclist`, and whether it comes to the end of the file. -/
def readLines (realloc : ℕ → Bool) (acl : Maclist) : ℕ → List (List UInt8) → Maclist × Bool
  | _, [] => (acl, true)
  | line, buf :: bufs =>
    match maclistLine buf with
    | .skip => readLines realloc acl (line + 1) bufs
    | .invalid => (acl, false)
    | .change (.remove addr) => readLines realloc (acl.apply (.remove addr)) (line + 1) bufs
    | .change (.add entry) =>
      if realloc (line + 1) then readLines realloc (acl.apply (.add entry)) (line + 1) bufs else (acl, false)

/-- The lines of a file as they come into `char buf[128]`. -/
def bufs (f : List UInt8) : List (List UInt8) := fgetsLoop 127 f.length f

/-- `hostapd_config_read_maclist`. -/
def hostapdConfigReadMaclist (qsort : AclQsort) (acl : Maclist) (read : MaclistRead) : Maclist × ℤ :=
  match read.fname with
  | none => (acl, 0)
  | some none => (acl, -1)
  | some (some f) =>
    match acl.readLines read.realloc 0 (bufs f) with
    | (acl, true) => ({ acl with entries := qsort.sort acl.entries }, 0)
    | (acl, false) => (acl, -1)

/-- The system: one call after the other. -/
def next (qsort : AclQsort) (acl : Maclist) (read : MaclistRead) : Option Maclist :=
  some (acl.hostapdConfigReadMaclist qsort read).1

end Maclist

/-- The change adds the address. -/
def MaclistChange.Adds (addr : MacAddr) : MaclistChange → Prop
  | .add entry => entry.addr = addr
  | .remove _ => False

/-- The change removes the address. -/
def MaclistChange.Removes (addr : MacAddr) : MaclistChange → Prop
  | .add _ => False
  | .remove addr' => addr' = addr

/-- The address was added and not removed since. -/
def ListedIn (history : List MaclistChange) (addr : MacAddr) : Prop :=
  Since (fun _ c => c.Adds addr) (fun c => ¬ c.Removes addr) history

namespace MaclistRead

/-- The changes in the lines up to the first one that is not valid or cannot be stored. -/
def changesFrom (realloc : ℕ → Bool) : ℕ → List (List UInt8) → List MaclistChange
  | _, [] => []
  | line, buf :: bufs =>
    match maclistLine buf with
    | .skip => changesFrom realloc (line + 1) bufs
    | .invalid => []
    | .change (.remove addr) => .remove addr :: changesFrom realloc (line + 1) bufs
    | .change (.add entry) =>
      if realloc (line + 1) then .add entry :: changesFrom realloc (line + 1) bufs else []

/-- There is no such line. -/
def completeFrom (realloc : ℕ → Bool) : ℕ → List (List UInt8) → Bool
  | _, [] => true
  | line, buf :: bufs =>
    match maclistLine buf with
    | .skip => completeFrom realloc (line + 1) bufs
    | .invalid => false
    | .change (.remove _) => completeFrom realloc (line + 1) bufs
    | .change (.add _) => realloc (line + 1) && completeFrom realloc (line + 1) bufs

/-- The changes in the file. -/
def changes (read : MaclistRead) : List MaclistChange :=
  match read.fname with
  | some (some f) => changesFrom read.realloc 0 (Maclist.bufs f)
  | _ => []

/-- The file is read to its end. -/
def Complete (read : MaclistRead) : Prop :=
  ∀ f, read.fname = some (some f) → completeFrom read.realloc 0 (Maclist.bufs f) = true

/-- An address that is added and stays is not below one that was listed before and stays. -/
def AddsInOrder (before changes : List MaclistChange) : Prop :=
  ∀ l₁ entry l₂, changes = l₁ ++ .add entry :: l₂ → (∀ c ∈ l₂, ¬ c.Removes entry.addr) →
    ∀ addr, ListedIn (before ++ l₁) addr → (∀ c ∈ l₂, ¬ c.Removes addr) →
      beNat addr.toList ≤ beNat entry.addr.toList

/-- The file is read to its end, or the addresses added before the bad line come last anyway. -/
def KeepsOrder (acl : Maclist) (read : MaclistRead) : Prop :=
  read.Complete ∨ AddsInOrder acl.history read.changes

end MaclistRead

/-! ## The list and the changes -/

section Comparison

variable {a b : MacAddr}

lemma osMemcmp_addr_eq_zero : osMemcmp a.toList b.toList = 0 ↔ a = b := by
  rw [osMemcmp_eq_zero_iff (by simp)]
  exact Vector.toList_inj

lemma osMemcmp_addr_neg : osMemcmp a.toList b.toList < 0 ↔ beNat a.toList < beNat b.toList :=
  osMemcmp_neg_iff (by simp)

lemma osMemcmp_addr_pos : 0 < osMemcmp a.toList b.toList ↔ beNat b.toList < beNat a.toList := by
  have hneg : osMemcmp a.toList b.toList < 0 ↔ _ := osMemcmp_addr_neg
  have hzero : osMemcmp a.toList b.toList = 0 ↔ beNat a.toList = beNat b.toList := (osMemcmp_sign (by simp)).2
  omega

end Comparison

namespace Maclist

/-- The entries are in the order of their addresses. -/
def Sorted (acl : Maclist) : Prop :=
  acl.entries.Pairwise fun e₁ e₂ => beNat e₁.addr.toList ≤ beNat e₂.addr.toList

variable {qsort : AclQsort} {acl acl' : Maclist} {read : MaclistRead} {addr : MacAddr}

/-- The entries are what the changes so far have left. -/
def Accounted (acl : Maclist) : Prop :=
  ∀ addr, (∃ e ∈ acl.entries, e.addr = addr) ↔ ListedIn acl.history addr

@[simp] lemma history_apply (acl : Maclist) (c : MaclistChange) : (acl.apply c).history = acl.history ++ [c] := by
  cases c <;> rfl

lemma Accounted.apply (h : acl.Accounted) (c : MaclistChange) : (acl.apply c).Accounted := by
  intro addr
  rw [history_apply, ListedIn, since_concat]
  cases c with
  | remove addr' =>
    have hrest : (¬ (MaclistChange.remove addr').Removes addr ∧ ListedIn acl.history addr) ↔
        addr' ≠ addr ∧ ∃ e ∈ acl.entries, e.addr = addr := and_congr Iff.rfl (h addr).symm
    refine Iff.trans ?_ ((or_iff_right not_false).trans hrest).symm
    simp only [Maclist.apply, List.mem_filter, decide_eq_true_eq, ne_eq, osMemcmp_addr_eq_zero]
    constructor
    · rintro ⟨e, ⟨he, hne⟩, rfl⟩
      exact ⟨fun heq => hne heq.symm, e, he, rfl⟩
    · rintro ⟨hne, e, he, rfl⟩
      exact ⟨e, ⟨he, fun heq => hne heq.symm⟩, rfl⟩
  | add entry =>
    have hrest : (¬ (MaclistChange.add entry).Removes addr ∧ ListedIn acl.history addr) ↔
        ∃ e ∈ acl.entries, e.addr = addr := (and_iff_right not_false).trans (h addr).symm
    refine Iff.trans ?_ (or_congr Iff.rfl hrest).symm
    simp only [Maclist.apply, List.mem_append, List.mem_singleton, MaclistChange.Adds]
    constructor
    · rintro ⟨e, he | rfl, rfl⟩
      · exact Or.inr ⟨e, he, rfl⟩
      · exact Or.inl rfl
    · rintro (rfl | ⟨e, he, rfl⟩)
      · exact ⟨entry, Or.inr rfl, rfl⟩
      · exact ⟨e, Or.inl he, rfl⟩

/-- All changes of a file. -/
def applyAll (acl : Maclist) (changes : List MaclistChange) : Maclist := changes.foldl apply acl

@[simp] lemma history_applyAll (acl : Maclist) (changes : List MaclistChange) :
    (acl.applyAll changes).history = acl.history ++ changes := by
  induction changes generalizing acl with
  | nil => simp [applyAll]
  | cons c changes ih =>
    have h := ih (acl.apply c)
    rw [history_apply, List.append_assoc] at h
    exact h

lemma Accounted.applyAll (h : acl.Accounted) (changes : List MaclistChange) : (acl.applyAll changes).Accounted := by
  induction changes generalizing acl with
  | nil => exact h
  | cons c changes ih => exact ih (h.apply c)

/-- The loop makes the changes in the lines before the first bad one. -/
lemma readLines_eq (realloc : ℕ → Bool) (acl : Maclist) (line : ℕ) (bufs : List (List UInt8)) :
    acl.readLines realloc line bufs = (acl.applyAll (MaclistRead.changesFrom realloc line bufs),
      MaclistRead.completeFrom realloc line bufs) := by
  induction bufs generalizing acl line with
  | nil => rfl
  | cons buf bufs ih =>
    unfold readLines MaclistRead.changesFrom MaclistRead.completeFrom
    cases maclistLine buf with
    | skip => exact ih acl (line + 1)
    | invalid => rfl
    | change c =>
      cases c with
      | remove addr => exact ih (acl.apply (.remove addr)) (line + 1)
      | add entry =>
        dsimp only
        cases hrealloc : realloc (line + 1) with
        | false => rfl
        | true =>
          rw [if_pos rfl, if_pos rfl, Bool.true_and]
          exact ih (acl.apply (.add entry)) (line + 1)

/-- What a call does: the list is sorted or left as the changes have made it. -/
lemma read_cases (qsort : AclQsort) (acl : Maclist) (read : MaclistRead) :
    (acl.hostapdConfigReadMaclist qsort read).1 = acl.applyAll read.changes ∧
        (read.Complete → acl.applyAll read.changes = acl) ∨
      (acl.hostapdConfigReadMaclist qsort read).1 =
        { acl.applyAll read.changes with entries := qsort.sort (acl.applyAll read.changes).entries } := by
  unfold hostapdConfigReadMaclist MaclistRead.changes
  rcases hfname : read.fname with _ | _ | f
  · exact Or.inl ⟨rfl, fun _ => rfl⟩
  · exact Or.inl ⟨rfl, fun _ => rfl⟩
  · dsimp only
    rw [readLines_eq]
    cases hcomplete : MaclistRead.completeFrom read.realloc 0 (bufs f) with
    | true => exact Or.inr rfl
    | false =>
      refine Or.inl ⟨rfl, fun h => ?_⟩
      have htrue := h f hfname
      rw [hcomplete] at htrue
      exact absurd htrue (by simp)

lemma Sorted.init : init.Sorted := List.Pairwise.nil

lemma sorted_sort (acl : Maclist) : Sorted { acl with entries := qsort.sort acl.entries } := by
  refine (qsort.sorted acl.entries).imp ?_
  intro e₁ e₂ hle
  by_contra hlt
  have hpos := osMemcmp_addr_pos.mpr (not_le.mp hlt)
  exact hpos.not_ge hle

/-- Those that are not removed by later lines stay in order. -/
lemma Sorted.applyAll_filter {l₁ l₂ : List MaclistChange} (hacc : acl.Accounted) (hsorted : acl.Sorted)
    (hadds : MaclistRead.AddsInOrder acl.history (l₁ ++ l₂)) :
    ((acl.applyAll l₁).entries.Pairwise fun e₁ e₂ =>
      (∀ c ∈ l₂, ¬ c.Removes e₁.addr) → (∀ c ∈ l₂, ¬ c.Removes e₂.addr) →
        beNat e₁.addr.toList ≤ beNat e₂.addr.toList) := by
  induction l₁ using List.reverseRecOn generalizing l₂ with
  | nil => exact hsorted.imp fun hle _ _ => hle
  | append_singleton l₁ c ih =>
    rw [List.append_assoc, List.singleton_append] at hadds
    have hbefore := ih hadds
    have hlast : acl.applyAll (l₁ ++ [c]) = (acl.applyAll l₁).apply c := by simp [Maclist.applyAll]
    rw [hlast]
    cases c with
    | remove addr =>
      -- what is left has another address
      have hrest := hbefore.filter fun e => decide (osMemcmp e.addr.toList addr.toList ≠ 0)
      refine hrest.imp_of_mem ?_
      intro e₁ e₂ he₁ he₂ hle h₁ h₂
      have hkeep : ∀ e ∈ ((acl.applyAll l₁).apply (.remove addr)).entries, (∀ c ∈ l₂, ¬ c.Removes e.addr) →
          ∀ c ∈ MaclistChange.remove addr :: l₂, ¬ c.Removes e.addr := by
        intro e he hnot c hc
        rcases List.mem_cons.mp hc with rfl | hc
        · have hne := (List.mem_filter.mp he).2
          rw [decide_eq_true_eq, ne_eq, osMemcmp_addr_eq_zero] at hne
          exact fun heq => hne heq.symm
        · exact hnot c hc
      exact hle (hkeep e₁ he₁ h₁) (hkeep e₂ he₂ h₂)
    | add entry =>
      have hkeep : ∀ a : MacAddr, (∀ c ∈ l₂, ¬ c.Removes a) → ∀ c ∈ MaclistChange.add entry :: l₂, ¬ c.Removes a := by
        intro a hnot c hc
        rcases List.mem_cons.mp hc with rfl | hc
        · exact not_false
        · exact hnot c hc
      refine List.pairwise_append.mpr ⟨?_, List.pairwise_singleton _ _, ?_⟩
      · exact hbefore.imp fun hle h₁ h₂ => hle (hkeep _ h₁) (hkeep _ h₂)
      · intro e he e' he' h₁ h₂
        obtain rfl := List.mem_singleton.mp he'
        refine hadds l₁ e' l₂ rfl h₂ e.addr ?_ h₁
        have hlisted := (hacc.applyAll l₁ e.addr).mp ⟨e, he, rfl⟩
        rwa [history_applyAll] at hlisted

lemma Sorted.applyAll {changes : List MaclistChange} (hacc : acl.Accounted) (hsorted : acl.Sorted)
    (hadds : MaclistRead.AddsInOrder acl.history changes) : (acl.applyAll changes).Sorted := by
  have hadds' : MaclistRead.AddsInOrder acl.history (changes ++ []) := by rwa [List.append_nil]
  have h := hsorted.applyAll_filter hacc hadds'
  exact h.imp fun hle => hle (by simp) (by simp)

/-! ## Runs -/

lemma Accounted.init : init.Accounted := by
  intro addr
  simp [Maclist.init, ListedIn]

/-- A call changes the list as its lines say, whether it comes to the end of the file or not. -/
lemma Accounted.next (h : acl.Accounted) (hnext : next qsort acl read = some acl') : acl'.Accounted := by
  obtain rfl := Option.some.inj hnext
  have hall := h.applyAll read.changes
  rcases read_cases qsort acl read with ⟨heq, -⟩ | heq
  · rw [heq]
    exact hall
  · rw [heq]
    intro addr
    rw [← hall addr]
    constructor
    · rintro ⟨e, he, haddr⟩
      exact ⟨e, (qsort.perm _).mem_iff.mp he, haddr⟩
    · rintro ⟨e, he, haddr⟩
      exact ⟨e, (qsort.perm _).mem_iff.mpr he, haddr⟩

lemma Sorted.next (hacc : acl.Accounted) (hsorted : acl.Sorted) (hok : read.KeepsOrder acl)
    (hnext : next qsort acl read = some acl') : acl'.Sorted := by
  obtain rfl := Option.some.inj hnext
  rcases read_cases qsort acl read with ⟨heq, hnone⟩ | heq
  · rw [heq]
    rcases hok with hcomplete | hadds
    · rw [hnone hcomplete]
      exact hsorted
    · exact hsorted.applyAll hacc hadds
  · rw [heq]
    exact sorted_sort _

variable {reads : List MaclistRead}

/-- An address is in the list if and only if it was added and not removed since. -/
lemma run_accounted (hrun : Run (Maclist.next qsort) Maclist.init reads acl) : acl.Accounted :=
  hrun.invariant Accounted.init fun _ _ _ h hnext => h.next hnext

/-- The lookup in a list that is in order. -/
lemma Sorted.found_iff (h : acl.Sorted) (addr : MacAddr) :
    (hostapdMaclistFound acl.entries addr).isSome ↔ ∃ e ∈ acl.entries, e.addr = addr := by
  have hascending : BinarySearch.Ascending (fun e : MacAclEntry => osMemcmp e.addr.toList addr.toList) acl.entries := by
    refine h.imp ?_
    intro e₁ e₂ hle
    constructor
    · intro hpos
      exact osMemcmp_addr_pos.mpr ((osMemcmp_addr_pos.mp hpos).trans_le hle)
    · intro hneg
      exact osMemcmp_addr_neg.mpr (hle.trans_lt (osMemcmp_addr_neg.mp hneg))
  rw [hostapdMaclistFound, Option.isSome_map, BinarySearch.search_isSome_iff hascending]
  simp only [osMemcmp_addr_eq_zero]

/-- As long as the reads that stop at a bad line have added only addresses that come last anyway, an address is
found if and only if it was added and not removed since. -/
theorem run_found_iff (hrun : RunWith (Maclist.next qsort) (fun acl read => read.KeepsOrder acl) Maclist.init reads acl)
    (addr : MacAddr) : (hostapdMaclistFound acl.entries addr).isSome ↔ ListedIn acl.history addr := by
  have hboth : acl.Accounted ∧ acl.Sorted := by
    refine hrun.invariant (I := fun acl => acl.Accounted ∧ acl.Sorted) ⟨Accounted.init, Sorted.init⟩ ?_
    intro acl₁ read acl₂ ⟨hacc, hsorted⟩ hok hnext
    exact ⟨hacc.next hnext, hsorted.next hacc hok hnext⟩
  rw [hboth.2.found_iff, hboth.1 addr]

/-- The insertion sort is a `qsort`. -/
def insertionQsort : AclQsort where
  sort l := l.insertionSort fun a b => hostapdAclComp a b ≤ 0
  perm l := List.perm_insertionSort _ l
  sorted l := by
    have htotal : Std.Total fun a b : MacAclEntry => hostapdAclComp a b ≤ 0 := by
      refine ⟨fun a b => ?_⟩
      have hneg : hostapdAclComp a b < 0 ↔ _ := osMemcmp_addr_neg
      have hpos : 0 < hostapdAclComp b a ↔ _ := osMemcmp_addr_pos
      omega
    have htrans : IsTrans MacAclEntry fun a b => hostapdAclComp a b ≤ 0 := by
      refine ⟨fun a b c hab hbc => ?_⟩
      have hpos : 0 < hostapdAclComp a c ↔ _ := osMemcmp_addr_pos
      have hpos₁ : 0 < hostapdAclComp a b ↔ _ := osMemcmp_addr_pos
      have hpos₂ : 0 < hostapdAclComp b c ↔ _ := osMemcmp_addr_pos
      omega
    exact List.pairwise_insertionSort _ l

/-- The bytes of a text. -/
def text (s : String) : List UInt8 := s.toList.map fun c => UInt8.ofNat c.toNat

/-- A file in which every line can be stored. -/
def readText (s : String) : MaclistRead := ⟨some (some (text s)), fun _ => true⟩

example : ((init.hostapdConfigReadMaclist insertionQsort
    (readText "# staff\n02:00:00:00:00:02 7\n02:00:00:00:00:01\n-02:00:00:00:00:03\n")).1.entries.map fun e =>
      (e.addr.toList, e.vlanId.untagged)) = [([2, 0, 0, 0, 0, 1], 0), ([2, 0, 0, 0, 0, 2], 7)] := by decide +kernel

/-- A second file adds a later address before its bad line. -/
theorem run_found_iff_second_file :
    ∃ acl, RunWith (Maclist.next insertionQsort) (fun acl read => read.KeepsOrder acl) Maclist.init
      [readText "02:00:00:00:00:01\n", readText "02:00:00:00:00:02\nbad\n"] acl ∧
        ∀ addr, (hostapdMaclistFound acl.entries addr).isSome ↔ ListedIn acl.history addr := by
  have hcomplete : (readText "02:00:00:00:00:01\n").Complete := by
    intro f hf
    obtain rfl := Option.some.inj (Option.some.inj hf)
    decide +kernel
  obtain ⟨acl₁, hfirst⟩ : ∃ acl, Maclist.next insertionQsort init (readText "02:00:00:00:00:01\n") = some acl :=
    ⟨_, rfl⟩
  have hhistory : acl₁.history = [] ++ [.add ⟨#v[2, 0, 0, 0, 0, 1], VlanDescription.zero⟩] := by
    obtain rfl := Option.some.inj hfirst
    decide +kernel
  have hchanges : (readText "02:00:00:00:00:02\nbad\n").changes =
      [.add ⟨#v[2, 0, 0, 0, 0, 2], VlanDescription.zero⟩] := by decide +kernel
  have hadds : (readText "02:00:00:00:00:02\nbad\n").KeepsOrder acl₁ := by
    refine Or.inr ?_
    intro l₁ entry l₂ heq _ addr hlisted _
    rw [hchanges] at heq
    cases l₁ with
    | nil =>
      obtain ⟨hentry, -⟩ := List.cons.inj heq
      obtain rfl := MaclistChange.add.inj hentry
      rw [List.append_nil, hhistory, ListedIn, since_concat] at hlisted
      rcases hlisted with rfl | ⟨-, hnil⟩
      · decide
      · exact absurd hnil not_since_nil
    | cons c l₁ => simp at heq
  obtain ⟨acl₂, hsecond⟩ : ∃ acl, Maclist.next insertionQsort acl₁ (readText "02:00:00:00:00:02\nbad\n") = some acl :=
    ⟨_, rfl⟩
  have hrun : RunWith (Maclist.next insertionQsort) (fun acl read => read.KeepsOrder acl) Maclist.init
      [readText "02:00:00:00:00:01\n", readText "02:00:00:00:00:02\nbad\n"] acl₂ :=
    RunWith.cons (Or.inl hcomplete) hfirst (RunWith.cons hadds hsecond .nil)
  exact ⟨acl₂, hrun, fun addr => run_found_iff hrun addr⟩

/-- An address added before a bad line is in the list and is not found. -/
theorem bad_line_not_found :
    ¬ ∀ (qsort : AclQsort) (reads : List MaclistRead) (acl : Maclist),
      Run (Maclist.next qsort) Maclist.init reads acl →
        ∀ addr, (hostapdMaclistFound acl.entries addr).isSome ↔ ListedIn acl.history addr := by
  intro h
  have hrun : Run (Maclist.next insertionQsort) Maclist.init
      [readText "02:00:00:00:00:02\n", readText "02:00:00:00:00:01\nbad\n"] _ := run_iff_exec.mpr rfl
  have hiff := h _ _ _ hrun #v[2, 0, 0, 0, 0, 1]
  have hlisted := (run_accounted hrun #v[2, 0, 0, 0, 0, 1]).mp (by
    refine ⟨⟨#v[2, 0, 0, 0, 0, 1], VlanDescription.zero⟩, ?_, rfl⟩
    exact List.mem_of_getElem? (i := 1) (by decide +kernel))
  exact absurd (hiff.mpr hlisted) (by decide +kernel)

end Maclist

end Ethanol
