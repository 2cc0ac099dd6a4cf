import EthanolHostapd.Containers.Iterator
import EthanolHostapd.Radius.TunnelPasswords
import EthanolHostapd.Ap.StaInfo

/-!
# The keys of a station

`hostapd_wpa_auth_get_psk` of `wpa_auth_glue.c` with `hostapd_get_psk` of `ap_config.c`: first the keys of the configuration
that are for the station, then those that a RADIUS server has sent for it.  The caller continues with the key that it was
given last, as the loops over the keys in `wpa_auth.c` do.
-/

namespace Ethanol

open RadiusMsg (HostapdStaWpaPskShort)

/-! ## The code -/

/-- `struct hostapd_wpa_psk`. -/
structure HostapdWpaPsk where
  group : Bool
  psk : List UInt8
  addr : MacAddr
  p2pDevAddr : MacAddr

/-- Where a key is stored: in an entry of the configuration, in an entry of the list of a station, or in `sta->sae`. -/
inductive PskPtr
  | wpaPsk (i : ℕ)
  | staPsk (i : ℕ)
  | sae
  deriving DecidableEq

/-- What is read and written of a `struct sta_info`; `sae` is `sta->sae->pmk`. -/
structure PskSta where
  authAlg : ℕ
  sae : Option (List UInt8)
  psk : List HostapdStaWpaPskShort

/-- What is read and written of a `struct hostapd_data` for a station, if `ap_get_sta` finds it. -/
structure PskData where
  wpaPsk : List HostapdWpaPsk
  ssid : List UInt8
  sta : Option PskSta

/-- `WLAN_AUTH_SAE`. -/
def wlanAuthSae : ℕ := 3

/-- The condition of `hostapd_get_psk` for an entry, for the addresses of the station. -/
def pskMatches (addr : MacAddr) (p2pDevAddr : Option MacAddr) (psk : HostapdWpaPsk) : Bool :=
  psk.group ||
    match p2pDevAddr.filter fun p2p => p2p ≠ Vector.replicate 6 0 with -- is_zero_ether_addr
    | none => psk.addr == addr
    | some p2p => psk.p2pDevAddr == p2p

/-- The loop of `hostapd_get_psk`. -/
def hostapdGetPskLoop (isMatch : HostapdWpaPsk → Bool) (prevPsk : Option PskPtr) :
    List (HostapdWpaPsk × ℕ) → Bool → Option PskPtr
  | [], _ => none
  | psk :: rest, nextOk =>
    if nextOk && isMatch psk.1 then some (.wpaPsk psk.2)
    else hostapdGetPskLoop isMatch prevPsk rest (nextOk || prevPsk = some (.wpaPsk psk.2))

/-- `hostapd_get_psk`. -/
def hostapdGetPsk (conf : List HostapdWpaPsk) (addr : MacAddr) (p2pDevAddr : Option MacAddr) (prevPsk : Option PskPtr) :
    Option PskPtr :=
  hostapdGetPskLoop (pskMatches addr p2pDevAddr) prevPsk conf.zipIdx prevPsk.isNone

section Psk

variable (pbkdf2Sha1 : List UInt8 → List UInt8 → ℕ → List UInt8)

/-- A passphrase is converted. -/
def HostapdStaWpaPskShort.convert (ssid : List UInt8) (pos : HostapdStaWpaPskShort) : HostapdStaWpaPskShort :=
  if pos.isPassphrase then
    { pos with psk := pbkdf2Sha1 (pos.passphrase.takeWhile (· ≠ 0)) ssid 4096, isPassphrase := false }
  else pos

/-- The loop of `hostapd_wpa_auth_get_psk` over `sta->psk`, from the `i`-th entry on; `psk` is what has been found. -/
def staPskLoop (ssid : List UInt8) (prevPsk : Option PskPtr) :
    List HostapdStaWpaPskShort → ℕ → Option PskPtr → List HostapdStaWpaPskShort × Option PskPtr
  | [], _, psk => ([], psk)
  | pos :: rest, i, psk =>
    let pos := HostapdStaWpaPskShort.convert pbkdf2Sha1 ssid pos
    if prevPsk = some (.staPsk i) then (pos :: rest, if rest = [] then none else some (.staPsk (i + 1)))
    else
      let (rest, psk) := staPskLoop ssid prevPsk rest (i + 1) psk
      (pos :: rest, psk)

namespace PskData

variable (hapd : PskData)

/-- `hostapd_wpa_auth_get_psk`, with `CONFIG_SAE`. -/
def hostapdWpaAuthGetPsk (addr : MacAddr) (p2pDevAddr : Option MacAddr) (prevPsk : Option PskPtr) :
    PskData × Option PskPtr :=
  match hapd.sta with
  | none => (hapd, hostapdGetPsk hapd.wpaPsk addr p2pDevAddr prevPsk)
  | some sta =>
    if sta.authAlg = wlanAuthSae then
      (hapd, if sta.sae.isNone ∨ prevPsk.isSome then none else some .sae)
    else
      match hostapdGetPsk hapd.wpaPsk addr p2pDevAddr prevPsk with
      | some psk => (hapd, some psk)
      | none =>
        if sta.psk = [] then (hapd, none)
        else
          let (list, psk) := staPskLoop pbkdf2Sha1 hapd.ssid prevPsk sta.psk 0 (some (.staPsk 0))
          ({ hapd with sta := some { sta with psk := list } }, psk)

/-- The key at a place. -/
def key : PskPtr → Option (List UInt8)
  | .wpaPsk i => (hapd.wpaPsk[i]?).map HostapdWpaPsk.psk
  | .staPsk i => (hapd.sta.bind fun sta => sta.psk[i]?).map HostapdStaWpaPskShort.psk
  | .sae => hapd.sta.bind PskSta.sae

/-- The loop over the keys in `wpa_try_alt_snonce` and in `PTKCALCNEGOTIATING`, for a key management with PSKs: `verify` says
whether the MIC of the frame is right for a PMK.  There is no result if it has not ended after `fuel` keys. -/
def findPsk (addr : MacAddr) (p2pDevAddr : Option MacAddr) (verify : List UInt8 → Bool) (fuel : ℕ) :
    Option (PskData × Option PskPtr) :=
  Iterator.search (fun hapd prevPsk => hostapdWpaAuthGetPsk pbkdf2Sha1 hapd addr p2pDevAddr prevPsk)
    (fun hapd pmk => (hapd.key pmk).any verify) fuel hapd none

/-! ## What the keys are -/

/-- The station does not use SAE. -/
def NoSae : Prop := ∀ sta ∈ hapd.sta, sta.authAlg ≠ wlanAuthSae

/-- The entries of the configuration that are for the station. -/
def matching (addr : MacAddr) (p2pDevAddr : Option MacAddr) : List PskPtr :=
  (hapd.wpaPsk.zipIdx.filter fun psk => pskMatches addr p2pDevAddr psk.1).map fun psk => .wpaPsk psk.2

/-- The list of the station. -/
def staPsk : List HostapdStaWpaPskShort := (hapd.sta.map PskSta.psk).getD []

/-- The keys of the station, in this order. -/
def keys (addr : MacAddr) (p2pDevAddr : Option MacAddr) : List PskPtr :=
  hapd.matching addr p2pDevAddr ++ (List.range hapd.staPsk.length).map .staPsk

/-- All the passphrases of the station are converted. -/
def converted : PskData :=
  { hapd with sta := hapd.sta.map fun sta =>
      { sta with psk := sta.psk.map (HostapdStaWpaPskShort.convert pbkdf2Sha1 hapd.ssid) } }

end PskData

end Psk

/-! ## The keys of the configuration -/

section Conf

variable {isMatch : HostapdWpaPsk → Bool} {prevPsk : Option PskPtr}

lemma hostapdGetPskLoop_true (l : List (HostapdWpaPsk × ℕ)) : hostapdGetPskLoop isMatch prevPsk l true =
    (l.filter fun psk => isMatch psk.1).head?.map fun psk => .wpaPsk psk.2 := by
  induction l with
  | nil => rfl
  | cons psk rest ih =>
    rw [hostapdGetPskLoop, Bool.true_and, Bool.true_or, List.filter_cons, ih]
    split_ifs <;> rfl

/-- The loop goes on behind the last result. -/
lemma hostapdGetPskLoop_after {before after : List (HostapdWpaPsk × ℕ)} {psk : HostapdWpaPsk × ℕ}
    (hbefore : ∀ p ∈ before, p.2 ≠ psk.2) :
    hostapdGetPskLoop isMatch (some (.wpaPsk psk.2)) (before ++ psk :: after) false =
      hostapdGetPskLoop isMatch (some (.wpaPsk psk.2)) after true := by
  induction before with
  | nil => simp [hostapdGetPskLoop]
  | cons p before ih =>
    obtain ⟨hp, hbefore⟩ := List.forall_mem_cons.mp hbefore
    have hne : (some (PskPtr.wpaPsk psk.2) = some (.wpaPsk p.2)) = False := by
      simp only [Option.some.injEq, PskPtr.wpaPsk.injEq, eq_iff_iff, iff_false]
      exact fun heq => hp heq.symm
    rw [List.cons_append, hostapdGetPskLoop, Bool.false_and, if_neg Bool.false_ne_true]
    simp only [hne, Bool.false_or, decide_false]
    exact ih hbefore

lemma hostapdGetPskLoop_staPsk (i : ℕ) (l : List (HostapdWpaPsk × ℕ)) :
    hostapdGetPskLoop isMatch (some (.staPsk i)) l false = none := by
  induction l with
  | nil => rfl
  | cons psk rest ih =>
    rw [hostapdGetPskLoop, Bool.false_and, if_neg Bool.false_ne_true]
    exact ih

end Conf

lemma hostapdGetPsk_staPsk (conf : List HostapdWpaPsk) (addr : MacAddr) (p2pDevAddr : Option MacAddr) (i : ℕ) :
    hostapdGetPsk conf addr p2pDevAddr (some (.staPsk i)) = none := hostapdGetPskLoop_staPsk i _

/-- A member of a filtered list in the list itself; the next member of the filtered list is behind it. -/
lemma filter_split {α : Type*} {q : α → Bool} {l : List α} {n : ℕ} {x : α} (h : (l.filter q)[n]? = some x) :
    ∃ before after, l = before ++ x :: after ∧ (l.filter q)[n + 1]? = (after.filter q).head? := by
  induction l generalizing n with
  | nil => cases h
  | cons y l ih =>
    by_cases hy : q y = true
    · rw [List.filter_cons_of_pos hy] at h ⊢
      cases n with
      | zero =>
        obtain rfl := Option.some.inj h
        exact ⟨[], l, rfl, by rw [List.head?_eq_getElem?]; rfl⟩
      | succ n =>
        obtain ⟨before, after, hl, hnext⟩ := ih h
        exact ⟨y :: before, after, by rw [hl, List.cons_append], hnext⟩
    · rw [List.filter_cons_of_neg hy] at h ⊢
      obtain ⟨before, after, hl, hnext⟩ := ih h
      exact ⟨y :: before, after, by rw [hl, List.cons_append], hnext⟩

namespace PskData

variable (hapd : PskData) (addr : MacAddr) (p2pDevAddr : Option MacAddr)

lemma hostapdGetPsk_none : hostapdGetPsk hapd.wpaPsk addr p2pDevAddr none = (hapd.matching addr p2pDevAddr)[0]? := by
  rw [hostapdGetPsk, Option.isNone_none, hostapdGetPskLoop_true, matching, ← List.head?_eq_getElem?, List.head?_map]

/-- From one key of the configuration to the next. -/
lemma hostapdGetPsk_matching {n : ℕ} {prevPsk : PskPtr} (h : (hapd.matching addr p2pDevAddr)[n]? = some prevPsk) :
    hostapdGetPsk hapd.wpaPsk addr p2pDevAddr (some prevPsk) = (hapd.matching addr p2pDevAddr)[n + 1]? := by
  rw [matching, List.getElem?_map] at h
  obtain ⟨psk, hpsk, rfl⟩ := Option.map_eq_some_iff.mp h
  obtain ⟨before, after, hsplit, hnext⟩ := filter_split hpsk
  have hnodup : (hapd.wpaPsk.zipIdx.map Prod.snd).Nodup := by
    rw [List.zipIdx_map_snd]
    exact List.nodup_range'
  rw [hsplit, List.map_append, List.map_cons] at hnodup
  have hbefore : ∀ p ∈ before, p.2 ≠ psk.2 := fun p hp heq =>
    (List.nodup_append.mp hnodup).2.2 _ (List.mem_map_of_mem hp) _ List.mem_cons_self heq
  rw [hostapdGetPsk, Option.isNone_some, hsplit, hostapdGetPskLoop_after hbefore, hostapdGetPskLoop_true, ← hnext, matching,
    List.getElem?_map]

end PskData

/-! ## The keys of the RADIUS server -/

section StaPsk

variable {pbkdf2Sha1 : List UInt8 → List UInt8 → ℕ → List UInt8} {ssid : List UInt8} {prevPsk : Option PskPtr}

lemma HostapdStaWpaPskShort.isPassphrase_convert (pos : HostapdStaWpaPskShort) :
    (HostapdStaWpaPskShort.convert pbkdf2Sha1 ssid pos).isPassphrase = false := by
  rw [HostapdStaWpaPskShort.convert]
  split_ifs with h
  · rfl
  · exact Bool.eq_false_iff.mpr h

lemma HostapdStaWpaPskShort.convert_convert (pos : HostapdStaWpaPskShort) :
    HostapdStaWpaPskShort.convert pbkdf2Sha1 ssid (HostapdStaWpaPskShort.convert pbkdf2Sha1 ssid pos) =
      HostapdStaWpaPskShort.convert pbkdf2Sha1 ssid pos := by
  conv_lhs => rw [HostapdStaWpaPskShort.convert, HostapdStaWpaPskShort.isPassphrase_convert]
  rfl

/-- The whole list is converted if the last result is not in it. -/
lemma staPskLoop_of_ne (hprev : ∀ i, prevPsk ≠ some (.staPsk i)) (l : List HostapdStaWpaPskShort) (i : ℕ)
    (psk : Option PskPtr) : staPskLoop pbkdf2Sha1 ssid prevPsk l i psk =
      (l.map (HostapdStaWpaPskShort.convert pbkdf2Sha1 ssid), psk) := by
  induction l generalizing i with
  | nil => rfl
  | cons pos rest ih =>
    rw [staPskLoop, if_neg (hprev i), ih]
    rfl

/-- From one entry to the next, when all of them are converted. -/
lemma staPskLoop_of_converted {l : List HostapdStaWpaPskShort}
    (hl : ∀ pos ∈ l, HostapdStaWpaPskShort.convert pbkdf2Sha1 ssid pos = pos) {k : ℕ} (hk : k < l.length) (i : ℕ)
    (psk : Option PskPtr) : staPskLoop pbkdf2Sha1 ssid (some (.staPsk (i + k))) l i psk =
      (l, if k + 1 < l.length then some (.staPsk (i + (k + 1))) else none) := by
  induction l generalizing i k with
  | nil => cases hk
  | cons pos rest ih =>
    obtain ⟨hpos, hrest⟩ := List.forall_mem_cons.mp hl
    rw [staPskLoop, hpos]
    cases k with
    | zero =>
      rw [Nat.add_zero, if_pos rfl]
      cases rest with
      | nil => rfl
      | cons pos' rest => rw [if_neg (List.cons_ne_nil _ _), if_pos (by simp)]
    | succ k =>
      have hne : some (PskPtr.staPsk (i + (k + 1))) ≠ some (.staPsk i) := by
        simp only [ne_eq, Option.some.injEq, PskPtr.staPsk.injEq]
        omega
      have hnext := ih hrest (Nat.lt_of_succ_lt_succ hk) (i + 1)
      rw [if_neg hne]
      dsimp only
      rw [show i + (k + 1) = i + 1 + k by omega, hnext]
      simp only [List.length_cons, Nat.add_lt_add_iff_right]
      rw [show i + 1 + (k + 1) = i + (k + 1 + 1) by omega]

end StaPsk

/-! ## The run through all the keys -/

namespace PskData

variable {pbkdf2Sha1 : List UInt8 → List UInt8 → ℕ → List UInt8} {hapd : PskData} {addr : MacAddr}
  {p2pDevAddr prevAddr : Option MacAddr}

/-- Where the keys of the list of the station are. -/
lemma getElem?_staPtrs (m n : ℕ) : ((List.range m).map PskPtr.staPsk)[n]? = if n < m then some (.staPsk n) else none := by
  rw [List.getElem?_map]
  split_ifs with h
  · rw [List.getElem?_range h]
    rfl
  · rw [List.getElem?_eq_none (by rw [List.length_range]; omega)]
    rfl

lemma next_of_some (hsae : hapd.NoSae) {prevPsk : Option PskPtr} {psk : PskPtr}
    (h : hostapdGetPsk hapd.wpaPsk addr p2pDevAddr prevPsk = some psk) :
    hapd.hostapdWpaAuthGetPsk pbkdf2Sha1 addr p2pDevAddr prevPsk = (hapd, some psk) := by
  rw [hostapdWpaAuthGetPsk]
  cases hsta : hapd.sta with
  | none =>
    rw [h]
  | some sta =>
    dsimp only
    rw [if_neg (hsae sta hsta), h]

/-- Behind the keys of the configuration. -/
lemma next_of_none (hsae : hapd.NoSae) {prevPsk : Option PskPtr} (hprev : ∀ i, prevPsk ≠ some (.staPsk i))
    (h : hostapdGetPsk hapd.wpaPsk addr p2pDevAddr prevPsk = none) :
    hapd.hostapdWpaAuthGetPsk pbkdf2Sha1 addr p2pDevAddr prevPsk =
      (hapd.converted pbkdf2Sha1, ((List.range hapd.staPsk.length).map PskPtr.staPsk)[0]?) := by
  obtain ⟨wpaPsk, ssid, _ | ⟨authAlg, sae, psk⟩⟩ := hapd
  · rw [hostapdWpaAuthGetPsk]
    exact Prod.ext rfl h
  rw [hostapdWpaAuthGetPsk, getElem?_staPtrs]
  dsimp only at h ⊢
  rw [if_neg (hsae _ rfl), h]
  cases psk with
  | nil => rfl
  | cons pos rest =>
    dsimp only
    rw [if_neg (List.cons_ne_nil _ _), staPskLoop_of_ne hprev]
    rfl

/-- From one entry of the list of the station to the next. -/
lemma next_staPsk (hsae : hapd.NoSae) {i : ℕ} (hi : i < hapd.staPsk.length) :
    (hapd.converted pbkdf2Sha1).hostapdWpaAuthGetPsk pbkdf2Sha1 addr p2pDevAddr (some (.staPsk i)) =
      (hapd.converted pbkdf2Sha1, ((List.range hapd.staPsk.length).map PskPtr.staPsk)[i + 1]?) := by
  obtain ⟨wpaPsk, ssid, _ | sta⟩ := hapd
  · cases hi
  have hconverted : ∀ pos ∈ sta.psk.map (HostapdStaWpaPskShort.convert pbkdf2Sha1 ssid),
      HostapdStaWpaPskShort.convert pbkdf2Sha1 ssid pos = pos := by
    intro pos hpos
    obtain ⟨pos, -, rfl⟩ := List.mem_map.mp hpos
    exact HostapdStaWpaPskShort.convert_convert pos
  have hlt : i < (sta.psk.map (HostapdStaWpaPskShort.convert pbkdf2Sha1 ssid)).length := by
    rw [List.length_map]
    exact hi
  have hnil : sta.psk.map (HostapdStaWpaPskShort.convert pbkdf2Sha1 ssid) ≠ [] := List.ne_nil_of_length_pos (by omega)
  have hloop := staPskLoop_of_converted hconverted hlt 0 (some (.staPsk 0))
  rw [Nat.zero_add, Nat.zero_add, List.length_map] at hloop
  rw [hostapdWpaAuthGetPsk, getElem?_staPtrs]
  dsimp only [converted, Option.map_some]
  rw [if_neg (hsae sta rfl), hostapdGetPsk_staPsk]
  dsimp only
  rw [if_neg hnil, hloop]
  rfl

/-- A call after a key of the configuration, or the first call. -/
lemma next_of_matching (hsae : hapd.NoSae) {prevPsk : Option PskPtr} {k : ℕ} (hprev : ∀ i, prevPsk ≠ some (.staPsk i))
    (hk : k ≤ (hapd.matching addr p2pDevAddr).length)
    (h : hostapdGetPsk hapd.wpaPsk addr p2pDevAddr prevPsk = (hapd.matching addr p2pDevAddr)[k]?) :
    hapd.hostapdWpaAuthGetPsk pbkdf2Sha1 addr p2pDevAddr prevPsk =
      (if k < (hapd.matching addr p2pDevAddr).length then hapd else hapd.converted pbkdf2Sha1,
        (hapd.keys addr p2pDevAddr)[k]?) := by
  by_cases hlt : k < (hapd.matching addr p2pDevAddr).length
  · rw [List.getElem?_eq_getElem hlt] at h
    rw [next_of_some hsae h, if_pos hlt, keys, List.getElem?_append_left hlt, List.getElem?_eq_getElem hlt]
  · obtain rfl : k = (hapd.matching addr p2pDevAddr).length := by omega
    rw [List.getElem?_eq_none le_rfl] at h
    rw [next_of_none hsae hprev h, if_neg hlt, keys, List.getElem?_append_right le_rfl, Nat.sub_self]

/-- The state and the key after each call. -/
lemma calls_eq (hsae : hapd.NoSae) {n : ℕ} (hn : n ≤ (hapd.keys addr p2pDevAddr).length) :
    Iterator.calls (fun hapd prevPsk => hapd.hostapdWpaAuthGetPsk pbkdf2Sha1 addr p2pDevAddr prevPsk) hapd (n + 1) =
      (if n < (hapd.matching addr p2pDevAddr).length then hapd else hapd.converted pbkdf2Sha1,
        (hapd.keys addr p2pDevAddr)[n]?) := by
  induction n with
  | zero =>
    have hprev : ∀ i, none ≠ some (PskPtr.staPsk i) := by simp
    exact next_of_matching hsae hprev (Nat.zero_le _) (hapd.hostapdGetPsk_none addr p2pDevAddr)
  | succ n ih =>
    rw [Iterator.calls, ih (by omega)]
    dsimp only
    by_cases hlt : n < (hapd.matching addr p2pDevAddr).length
    · have hget : (hapd.matching addr p2pDevAddr)[n]? = some (hapd.matching addr p2pDevAddr)[n] :=
        List.getElem?_eq_getElem hlt
      have hprev : ∀ i, some (hapd.matching addr p2pDevAddr)[n] ≠ some (PskPtr.staPsk i) := by
        intro i heq
        obtain ⟨psk, -, hpsk⟩ := List.mem_map.mp (List.getElem_mem hlt)
        rw [← hpsk] at heq
        cases heq
      rw [if_pos hlt, keys, List.getElem?_append_left hlt, hget]
      exact next_of_matching hsae hprev hlt (hapd.hostapdGetPsk_matching addr p2pDevAddr hget)
    · have hlength : (hapd.keys addr p2pDevAddr).length = (hapd.matching addr p2pDevAddr).length + hapd.staPsk.length := by
        rw [keys, List.length_append, List.length_map, List.length_range]
      have hi : n - (hapd.matching addr p2pDevAddr).length < hapd.staPsk.length := by omega
      rw [if_neg hlt, if_neg (by omega), keys, List.getElem?_append_right (by omega), getElem?_staPtrs, if_pos hi,
        next_staPsk hsae hi, List.getElem?_append_right (by omega),
        show n + 1 - (hapd.matching addr p2pDevAddr).length = n - (hapd.matching addr p2pDevAddr).length + 1 by omega]

lemma staPsk_converted : (hapd.converted pbkdf2Sha1).staPsk =
    hapd.staPsk.map (HostapdStaWpaPskShort.convert pbkdf2Sha1 hapd.ssid) := by
  obtain ⟨wpaPsk, ssid, _ | sta⟩ := hapd <;> rfl

/-- The key at a place does not change when it is asked for. -/
lemma key_calls (hsae : hapd.NoSae) {n : ℕ} {psk : PskPtr} (hpsk : (hapd.keys addr p2pDevAddr)[n]? = some psk) :
    (Iterator.calls (fun hapd prevPsk => hapd.hostapdWpaAuthGetPsk pbkdf2Sha1 addr p2pDevAddr prevPsk) hapd
      (n + 1)).1.key psk = (hapd.converted pbkdf2Sha1).key psk := by
  obtain ⟨hlt, -⟩ := List.getElem?_eq_some_iff.mp hpsk
  rw [calls_eq hsae hlt.le]
  dsimp only
  split_ifs with hn
  · rw [keys, List.getElem?_append_left hn] at hpsk
    obtain ⟨entry, -, rfl⟩ := List.mem_map.mp (List.mem_of_getElem? hpsk)
    rfl
  · rfl

/-- The keys of a station without SAE: first those of the configuration that are for it, then those of the RADIUS server,
each with its passphrase converted, then none; so a loop over the keys ends, at the first one that is right. -/
theorem hostapdWpaAuthGetPsk_keys (pbkdf2Sha1 : List UInt8 → List UInt8 → ℕ → List UInt8) (hapd : PskData) (addr : MacAddr)
    (p2pDevAddr : Option MacAddr) (hsae : hapd.NoSae) :
    (∀ n ≤ (hapd.keys addr p2pDevAddr).length,
      (Iterator.calls (fun hapd prevPsk => hapd.hostapdWpaAuthGetPsk pbkdf2Sha1 addr p2pDevAddr prevPsk) hapd (n + 1)).2 =
        (hapd.keys addr p2pDevAddr)[n]?) ∧
    (∀ n i, (hapd.keys addr p2pDevAddr)[n]? = some (.staPsk i) →
      (Iterator.calls (fun hapd prevPsk => hapd.hostapdWpaAuthGetPsk pbkdf2Sha1 addr p2pDevAddr prevPsk) hapd
        (n + 1)).1.staPsk[i]? = (hapd.staPsk[i]?).map (HostapdStaWpaPskShort.convert pbkdf2Sha1 hapd.ssid)) ∧
    ∀ verify fuel, (hapd.keys addr p2pDevAddr).length < fuel →
      ∃ hapd', hapd.findPsk pbkdf2Sha1 addr p2pDevAddr verify fuel =
        some (hapd', (hapd.keys addr p2pDevAddr).find? fun psk =>
          ((hapd.converted pbkdf2Sha1).key psk).any verify) := by
  have henum : Iterator.Enumerates
      (fun hapd prevPsk => hostapdWpaAuthGetPsk pbkdf2Sha1 hapd addr p2pDevAddr prevPsk) hapd
      (hapd.keys addr p2pDevAddr) := fun n hn => congrArg Prod.snd (calls_eq hsae hn)
  refine ⟨henum, fun n i hi => ?_, fun verify fuel hfuel => ?_⟩
  · obtain ⟨hlt, -⟩ := List.getElem?_eq_some_iff.mp hi
    have hn : ¬n < (hapd.matching addr p2pDevAddr).length := by
      intro hn
      rw [keys, List.getElem?_append_left hn] at hi
      obtain ⟨entry, -, hentry⟩ := List.mem_map.mp (List.mem_of_getElem? hi)
      cases hentry
    rw [calls_eq hsae hlt.le]
    dsimp only
    rw [if_neg hn, staPsk_converted, List.getElem?_map]
  · exact Iterator.search_eq_find henum (fun n psk hpsk => by rw [key_calls hsae hpsk]) hfuel

/-- A key for all stations, one for another station, and two of the RADIUS server. -/
def exampleKeys : PskData where
  wpaPsk := [⟨false, [1], Vector.replicate 6 9, Vector.replicate 6 0⟩, ⟨true, [2], Vector.replicate 6 0, Vector.replicate 6 0⟩]
  ssid := [115]
  sta := some ⟨0, none, [⟨false, [3], []⟩, ⟨true, [], [112, 0]⟩]⟩

theorem hostapdWpaAuthGetPsk_keys_example :
    exampleKeys.keys (Vector.replicate 6 5) none = [.wpaPsk 1, .staPsk 0, .staPsk 1] ∧
    ∃ hapd', exampleKeys.findPsk (fun passphrase ssid _ => passphrase ++ ssid) (Vector.replicate 6 5) none
      (fun key => key = [112, 115]) 4 = some (hapd', some (.staPsk 1)) := by
  refine ⟨by decide +kernel, ?_⟩
  have hsae : exampleKeys.NoSae := by
    intro sta hsta
    obtain rfl := Option.some.inj hsta
    decide
  obtain ⟨-, -, hfind⟩ := hostapdWpaAuthGetPsk_keys (fun passphrase ssid _ => passphrase ++ ssid) exampleKeys
    (Vector.replicate 6 5) none hsae
  exact hfind (fun key => key = [112, 115]) 4 (by decide +kernel)

end PskData

end Ethanol
