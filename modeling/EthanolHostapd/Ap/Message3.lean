import EthanolHostapd.Ap.KeyData
import EthanolHostapd.Ap.OwnElements
import EthanolHostapd.Wire.Writer

/-!
# The key data of message 3/4

The part of `SM_STATE(WPA_PTK, PTKINITNEGOTIATING)` that allocates a buffer of `kde_len` bytes and fills it, with
`ieee80211w_kde_add` and `wpa_write_ftie`.  The length is summed up beforehand; behind the elements and the PMKID only
the FTIE looks at the room that is left.
-/

namespace Ethanol

open Wire Buffer

/-! ## The code -/

/-- What else is read of `struct wpa_auth_config`. -/
structure Message3Config where
  disableGtk : Bool
  r0KeyHolder : List UInt8
  length_r0KeyHolder : r0KeyHolder.length ≤ 48 -- FT_R0KH_ID_MAX_LEN
  r1KeyHolder : Vector UInt8 6
  reassociationDeadline : ℕ
  r0KeyLifetime : ℕ
  ipAddrMask : Vector UInt8 4
  ipAddrGo : Vector UInt8 4

/-- What is read of `struct wpa_state_machine`.  `assocRespFtie` is the FTIE of the association response, if it is
stored. -/
structure Message3Sm where
  wpa : Option WpaVersion
  wpaKeyMgmt : ℕ
  mgmtFrameProt : Bool
  pmkR1Name : Pmkid
  assocRespFtie : Option Element
  ipAddr : Vector UInt8 4

/-- What is read of `struct wpa_group`: `gtk` holds the `GTK_len` bytes of `GTK[GN - 1]`, `igtk` is `IGTK[GN_igtk - 4]`,
and `setKeysDone` stands for `WPA_GROUP_SETKEYSDONE`. -/
structure Message3Group where
  gn : ℕ
  gtk : List UInt8
  gnIgtk : ℕ
  igtk : Vector UInt8 32
  setKeysDone : Bool

/-- What comes from outside: random bytes, the sequence number of the IGTK and memory. -/
structure Message3Env where
  randomGtk : (n : ℕ) → Option (Vector UInt8 n)
  randomIgtk : (n : ℕ) → Option (Vector UInt8 n)
  seqnum : Option (Vector UInt8 8)
  malloc : (n : ℕ) → Option (Vector UInt8 n)

/-- `wpa_cipher_key_len`. -/
def wpaCipherKeyLen (cipher : ℕ) : ℕ :=
  if cipher = wpaCipherCcmp256 ∨ cipher = wpaCipherGcmp256 ∨ cipher = wpaCipherBipGmac256 ∨
      cipher = wpaCipherBipCmac256 then 32
  else if cipher = wpaCipherCcmp ∨ cipher = wpaCipherGcmp ∨ cipher = wpaCipherAes128Cmac ∨
      cipher = wpaCipherBipGmac128 then 16
  else if cipher = wpaCipherTkip then 32
  else 0

/-- The offset behind the element at `off`. -/
def skipElement (ie : List UInt8) (off : ℕ) : Option ℕ := (ie[off + 1]?).map fun len => off + len.toNat + 2

/-- `wpa_ie` and `wpa_ie_len` for a station: the own elements, or without the RSN element and a mobility domain element
behind it for a station that only has WPA.  There is no result if something behind the own elements is read. -/
def selectElements (conf : WpaAuthConfig) (wpa : Option WpaVersion) (ie : List UInt8) : Option (List UInt8) :=
  if wpa = some .wpa ∧ conf.wpa &&& wpaProtoRsn ≠ 0 then do
    let off ← skipElement ie 0
    let id ← ie[0]?
    if off < ie.length ∧ id = wlanEidRsn then
      let id ← ie[off]?
      let off ← if id = 54 then skipElement ie off else some off -- WLAN_EID_MOBILITY_DOMAIN
      let stop ← skipElement ie off
      Buffer.read ie off (stop - off)
    else some ie
  else some ie

/-- `ieee80211w_kde_len`. -/
def ieee80211wKdeLen (conf : WpaAuthConfig) (sm : Message3Sm) : ℕ :=
  if sm.mgmtFrameProt then 2 + 4 + (2 + 6) + wpaCipherKeyLen conf.groupMgmtCipher else 0

/-- The IGTK for a station; random bytes if there is none for the BSS. -/
def igtkFor (cfg : Message3Config) (group : Message3Group) (env : Message3Env) (len : ℕ) : Option (List UInt8) :=
  if cfg.disableGtk then (env.randomIgtk len).map Vector.toList else some (group.igtk.toList.take len)

/-- The first two fields of `struct wpa_igtk_kde`. -/
def igtkKdeStart (group : Message3Group) (env : Message3Env) : List UInt8 :=
  [UInt8.ofNat group.gnIgtk, 0] ++
    if group.setKeysDone then (env.seqnum.map fun rsc => rsc.toList.take 6).getD (List.replicate 6 0)
    else List.replicate 6 0

/-- `ieee80211w_kde_add`. -/
def ieee80211wKdeAdd (conf : WpaAuthConfig) (cfg : Message3Config) (sm : Message3Sm) (group : Message3Group)
    (env : Message3Env) : Writer UInt8 :=
  if sm.mgmtFrameProt then
    match igtkFor cfg group env (wpaCipherKeyLen conf.groupMgmtCipher) with
    | none => Writer.skip
    | some igtk => Writer.put (wpaAddKde (rsnSuite 9) (igtkKdeStart group env ++ igtk) none) -- RSN_KEY_DATA_IGTK
  else Writer.skip

/-- The body of the FTIE of `wpa_write_ftie`. -/
def ftieBody (r1KeyHolder : Vector UInt8 6) (r0khId : Option (List UInt8)) (anonce snonce : Option (Vector UInt8 32))
    (subelem : Option (List UInt8)) : List UInt8 :=
  leBytes 2 0 ++ (List.replicate 16 0 ++ ((anonce.map Vector.toList).getD (List.replicate 32 0) ++
    ((snonce.map Vector.toList).getD (List.replicate 32 0) ++ (([1, 6] ++ r1KeyHolder.toList) ++
      ((r0khId.map fun id => [3, UInt8.ofNat id.length] ++ id).getD [] ++ subelem.getD [])))))

/-- `wpa_write_ftie`. -/
def wpaWriteFtie (r1KeyHolder : Vector UInt8 6) (r0khId : Option (List UInt8)) (anonce snonce : Option (Vector UInt8 32))
    (subelem : Option (List UInt8)) : Writer UInt8 := fun buf pos =>
  if buf.length - pos < 2 + 82 + 2 + 6 + 2 + (r0khId.getD []).length + (subelem.getD []).length then some none
  else
    let body := ftieBody r1KeyHolder r0khId anonce snonce subelem
    Writer.put (55 :: UInt8.ofNat body.length :: body) buf pos -- WLAN_EID_FAST_BSS_TRANSITION

/-- The FTIE that is stored, if there is room for it, or a new one. -/
def message3Ftie (cfg : Message3Config) (sm : Message3Sm) : Writer UInt8 := fun buf pos =>
  match sm.assocRespFtie with
  | some ftie =>
    if 2 + ftie.body.length ≤ buf.length - pos then Writer.put ftie.bytes buf pos
    else wpaWriteFtie cfg.r1KeyHolder (some cfg.r0KeyHolder) none none none buf pos
  | none => wpaWriteFtie cfg.r1KeyHolder (some cfg.r0KeyHolder) none none none buf pos

/-- `WLAN_EID_TIMEOUT_INTERVAL` with a type. -/
def timeoutInterval (type : UInt8) (value : ℕ) : List UInt8 := [56, 5, type] ++ leBytes 4 value

/-- `wpa_key_mgmt_ft(sm->wpa_key_mgmt)`, with `CONFIG_IEEE80211R`. -/
def Message3Sm.Ft (build : RsnBuild) (sm : Message3Sm) : Prop := build.ieee80211r = true ∧ wpaKeyMgmtFt sm.wpaKeyMgmt

instance (build : RsnBuild) (sm : Message3Sm) : Decidable (sm.Ft build) := inferInstanceAs (Decidable (_ ∧ _))

/-- `WPA_GET_BE32(sm->ip_addr) > 0`, with `CONFIG_P2P`. -/
def Message3Sm.HasIpAddr (p2p : Bool) (sm : Message3Sm) : Prop := p2p = true ∧ 0 < beNat sm.ipAddr.toList

instance (p2p : Bool) (sm : Message3Sm) : Decidable (sm.HasIpAddr p2p) := inferInstanceAs (Decidable (_ ∧ _))

/-- `gtk` with `gtk_len`, where the inner `none` is `NULL`.  Without random bytes there is no message. -/
def message3Gtk (cfg : Message3Config) (sm : Message3Sm) (group : Message3Group) (env : Message3Env) :
    Option (Option (List UInt8)) :=
  if sm.wpa = some .wpa2 then
    if cfg.disableGtk then (env.randomGtk group.gtk.length).map fun gtk => some gtk.toList else some (some group.gtk)
  else some none

section Message

variable (build : RsnBuild) (p2p : Bool) (conf : WpaAuthConfig) (cfg : Message3Config) (sm : Message3Sm)
  (group : Message3Group) (env : Message3Env) (wpaIe : List UInt8) (gtk : Option (List UInt8))

/-- `kde_len`. -/
def kdeLen : ℕ :=
  wpaIe.length + ieee80211wKdeLen conf sm + (gtk.map fun gtk => 2 + 4 + 2 + gtk.length).getD 0 +
    (if sm.Ft build then 2 + pmkidLen + 300 else 0) + (if sm.HasIpAddr p2p then 2 + 4 + 3 * 4 else 0)

/-- The elements with the PMKR1Name in the RSN element. -/
def message3Elements : Writer UInt8 :=
  (Writer.put wpaIe).andThen
    (if sm.Ft build then fun kde elen => wpaInsertPmkid kde elen sm.pmkR1Name else Writer.skip)

/-- `RSN_KEY_DATA_GROUPKEY`. -/
def message3GtkKde : Writer UInt8 :=
  match gtk with
  | some gtk => Writer.put (wpaAddKde (rsnSuite 1) [UInt8.ofNat (group.gn &&& 3), 0] (some gtk))
  | none => Writer.skip

/-- The FTIE and two timeout intervals, of the types `WLAN_TIMEOUT_REASSOC_DEADLINE` and `WLAN_TIMEOUT_KEY_LIFETIME`. -/
def message3Ft : Writer UInt8 :=
  if sm.Ft build then
    (message3Ftie cfg sm).andThen ((Writer.put (timeoutInterval 1 cfg.reassociationDeadline)).andThen
      (Writer.put (timeoutInterval 2 (cfg.r0KeyLifetime * 60))))
  else Writer.skip

/-- `WFA_KEY_DATA_IP_ADDR_ALLOC`. -/
def message3IpAddr : Writer UInt8 :=
  if sm.HasIpAddr p2p then
    Writer.put (wpaAddKde (rsnSelector 0x50 0x6f 0x9a 5)
      (sm.ipAddr.toList ++ (cfg.ipAddrMask.toList ++ cfg.ipAddrGo.toList)) none)
  else Writer.skip

/-- Everything that is written behind `kde`. -/
def message3KeyData : Writer UInt8 :=
  ((((message3Elements build sm wpaIe).andThen (message3GtkKde group gtk)).andThen
    (ieee80211wKdeAdd conf cfg sm group env)).andThen (message3Ft build cfg sm)).andThen (message3IpAddr p2p cfg sm)

/-- `PTKINITNEGOTIATING` as far as the key data: the buffer and the position behind what is sent, or `none` if the state
returns without a message.  The outer option is an access outside the buffer. -/
def ptkInitNegotiating : Option (Option (List UInt8 × ℕ)) :=
  match message3Gtk cfg sm group env with
  | none => some none
  | some gtk =>
    match env.malloc (kdeLen build p2p conf sm wpaIe gtk) with
    | none => some none
    | some kde => message3KeyData build p2p conf cfg sm group env wpaIe gtk kde.toList 0

end Message

/-! ## What each part takes -/

lemma length_wpaAddKde (kde : ℕ) (data : List UInt8) (data2 : Option (List UInt8)) :
    (wpaAddKde kde data data2).length = 2 + 4 + data.length + (data2.getD []).length := by
  rw [wpaAddKde, List.length_cons, List.length_cons, List.length_append, List.length_append, length_beBytes]
  omega

section Parts

variable {build : RsnBuild} {p2p : Bool} {conf : WpaAuthConfig} {cfg : Message3Config} {sm : Message3Sm}
  {group : Message3Group} {env : Message3Env} {gtk : Option (List UInt8)}

lemma length_igtkFor {len : ℕ} {igtk : List UInt8} (h : igtkFor cfg group env len = some igtk) : igtk.length ≤ len := by
  unfold igtkFor at h
  split at h
  · obtain ⟨random, -, rfl⟩ := Option.map_eq_some_iff.mp h
    exact random.length_toList.le
  · obtain rfl := Option.some.inj h
    exact List.length_take_le _ _

lemma length_igtkKdeStart : (igtkKdeStart group env).length = 2 + 6 := by
  rw [igtkKdeStart, List.length_append]
  cases group.setKeysDone with
  | false => simp
  | true =>
    cases env.seqnum with
    | none => simp
    | some rsc => simp

/-- The IGTK takes what has been counted for it. -/
lemma takes_ieee80211wKdeAdd : (ieee80211wKdeAdd conf cfg sm group env).Takes (ieee80211wKdeLen conf sm) := by
  unfold ieee80211wKdeAdd ieee80211wKdeLen
  split
  · cases higtk : igtkFor cfg group env (wpaCipherKeyLen conf.groupMgmtCipher) with
    | none => exact Writer.takes_skip.mono (Nat.zero_le _)
    | some igtk =>
      apply Writer.takes_put
      have hlength := length_igtkFor higtk
      rw [length_wpaAddKde, List.length_append, length_igtkKdeStart, Option.getD_none, List.length_nil]
      omega
  · exact Writer.takes_skip

lemma takes_message3GtkKde :
    (message3GtkKde group gtk).Takes ((gtk.map fun gtk => 2 + 4 + 2 + gtk.length).getD 0) := by
  cases gtk with
  | none => exact Writer.takes_skip
  | some gtk =>
    apply Writer.takes_put
    rw [length_wpaAddKde]
    exact Nat.le_refl _

lemma length_ftieBody (r1KeyHolder : Vector UInt8 6) (id : List UInt8) (anonce snonce : Option (Vector UInt8 32))
    (subelem : Option (List UInt8)) :
    (ftieBody r1KeyHolder (some id) anonce snonce subelem).length = 92 + id.length + (subelem.getD []).length := by
  have hnonce (nonce : Option (Vector UInt8 32)) :
      ((nonce.map Vector.toList).getD (List.replicate 32 0)).length = 32 := by
    cases nonce <;> simp
  simp only [ftieBody, List.length_append, length_leBytes, List.length_replicate, hnonce, List.length_cons,
    List.length_nil, Vector.length_toList, Option.map_some, Option.getD_some]
  omega

/-- The FTIE is put if there is room for it. -/
lemma wpaWriteFtie_spec (r1KeyHolder : Vector UInt8 6) (id : List UInt8) (anonce snonce : Option (Vector UInt8 32))
    (subelem : Option (List UInt8)) (buf : List UInt8) (pos : ℕ) :
    (buf.length - pos < 94 + id.length + (subelem.getD []).length →
      wpaWriteFtie r1KeyHolder (some id) anonce snonce subelem buf pos = some none) ∧
    (94 + id.length + (subelem.getD []).length ≤ buf.length - pos → ∃ buf',
      wpaWriteFtie r1KeyHolder (some id) anonce snonce subelem buf pos =
        some (some (buf', pos + (94 + id.length + (subelem.getD []).length))) ∧ buf'.length = buf.length) := by
  have hlength := length_ftieBody r1KeyHolder id anonce snonce subelem
  obtain ⟨body, hbody⟩ : ∃ body, body = ftieBody r1KeyHolder (some id) anonce snonce subelem := ⟨_, rfl⟩
  rw [← hbody] at hlength
  constructor
  · intro hshort
    rw [wpaWriteFtie, if_pos (by simpa using hshort)]
  · intro hroom
    have hput : pos + (55 :: UInt8.ofNat body.length :: body).length ≤ buf.length := by
      rw [List.length_cons, List.length_cons]
      omega
    have hpos : pos + (55 :: UInt8.ofNat body.length :: body).length =
        pos + (94 + id.length + (subelem.getD []).length) := by
      rw [List.length_cons, List.length_cons]
      omega
    refine ⟨splice buf pos (55 :: UInt8.ofNat body.length :: body), ?_, length_splice hput⟩
    rw [wpaWriteFtie, if_neg (by simpa using hroom)]
    dsimp only
    rw [← hbody, Writer.put, write_eq_some hput, Option.map_some, hpos]

/-- A new FTIE takes at most 142 bytes: the identifier of the R0 key holder is bounded. -/
lemma takes_wpaWriteFtie :
    (wpaWriteFtie cfg.r1KeyHolder (some cfg.r0KeyHolder) none none none).Takes 286 := by
  intro buf pos hroom
  have hbound := cfg.length_r0KeyHolder
  obtain ⟨hshort, hput⟩ := wpaWriteFtie_spec cfg.r1KeyHolder cfg.r0KeyHolder none none none buf pos
  rw [Option.getD_none, List.length_nil] at hshort hput
  by_cases hfits : 94 + cfg.r0KeyHolder.length + 0 ≤ buf.length - pos
  · obtain ⟨buf', hbuf', hlength⟩ := hput hfits
    refine ⟨_, hbuf', fun bs' pos' heq => ?_⟩
    obtain ⟨rfl, rfl⟩ := Prod.mk.inj (Option.some.inj heq)
    exact ⟨hlength, by omega⟩
  · exact ⟨none, hshort (by omega), fun _ _ heq => nomatch heq⟩

/-- The stored FTIE is an element, so it takes at most 257 bytes. -/
lemma takes_message3Ftie : (message3Ftie cfg sm).Takes 286 := by
  intro buf pos hroom
  unfold message3Ftie Writer.Within
  cases sm.assocRespFtie with
  | none => exact takes_wpaWriteFtie buf pos hroom
  | some ftie =>
    have hlength := ftie.length_body
    dsimp only
    split
    · apply Writer.takes_put _ buf pos hroom
      rw [Element.length_bytes]
      omega
    · exact takes_wpaWriteFtie buf pos hroom

lemma length_timeoutInterval (type : UInt8) (value : ℕ) : (timeoutInterval type value).length = 7 := by
  simp [timeoutInterval]

/-- The allowance of 300 bytes for the FTIE and the two timeout intervals. -/
lemma takes_message3Ft : (message3Ft build cfg sm).Takes (if sm.Ft build then 300 else 0) := by
  have hinterval (type : UInt8) (value : ℕ) : (Writer.put (timeoutInterval type value)).Takes 7 :=
    Writer.takes_put (length_timeoutInterval type value).le
  exact Writer.takes_ite (takes_message3Ftie.andThen ((hinterval 1 _).andThen (hinterval 2 _)))

lemma takes_message3IpAddr :
    (message3IpAddr p2p cfg sm).Takes (if sm.HasIpAddr p2p then 2 + 4 + 3 * 4 else 0) := by
  apply Writer.takes_ite
  apply Writer.takes_put
  rw [length_wpaAddKde]
  simp

end Parts

/-! ## The own elements in the buffer -/

section Own

variable {build : RsnBuild} {conf : WpaAuthConfig} {own : OwnElements} {wpa : Option WpaVersion} {wpaIe : List UInt8}

lemma skipElement_bytes (before : List UInt8) (e : Element) (rest : List UInt8) :
    skipElement (before ++ (e.bytes ++ rest)) before.length = some (before ++ e.bytes).length := by
  have hlen : (before ++ (e.bytes ++ rest))[before.length + 1]? = some e.len := by
    rw [List.getElem?_append_right (Nat.le_succ _), Nat.succ_eq_add_one, Nat.add_sub_cancel_left]
    rfl
  rw [skipElement, hlen, Option.map_some, Element.toNat_len, List.length_append, Element.length_bytes, Nat.add_assoc]

lemma id_bytes (before : List UInt8) (e : Element) (rest : List UInt8) :
    (before ++ (e.bytes ++ rest))[before.length]? = some e.id := by
  rw [List.getElem?_append_right le_rfl, Nat.sub_self]
  rfl

/-- The element at an offset is taken. -/
lemma readElement {before rest : List UInt8} {e : Element} :
    ((skipElement (before ++ (e.bytes ++ rest)) before.length).bind fun stop =>
      Buffer.read (before ++ (e.bytes ++ rest)) before.length (stop - before.length)) = some e.bytes := by
  have hn : (before ++ e.bytes).length - before.length = e.bytes.length := by
    rw [List.length_append]
    omega
  rw [skipElement_bytes, Option.bind_some, hn, read_block rfl rfl]

/-- Without an RSN element in front the own elements are taken as they are. -/
lemma selectElements_other {e : Element} {es : List Element} (hid : e.id ≠ wlanEidRsn) :
    selectElements conf wpa (elementBytes (e :: es)) = some (elementBytes (e :: es)) := by
  have hskip := skipElement_bytes [] e (elementBytes es)
  have hget := id_bytes [] e (elementBytes es)
  rw [List.nil_append, List.length_nil] at hskip hget
  rw [selectElements, elementBytes_cons]
  split
  · rw [hskip, hget]
    simp only [bind, Option.bind_some]
    rw [if_neg (fun hand => hid hand.2)]
  · rfl

/-- A station that only has WPA does not get the RSN element, if there is another element, and not the mobility domain
element. -/
lemma selectElements_rsn {rsn : Element} {es : List Element} (hwpa : wpa = some .wpa ∧ conf.wpa &&& wpaProtoRsn ≠ 0)
    (hid : rsn.id = wlanEidRsn) :
    selectElements conf wpa (elementBytes (rsn :: es)) =
      match es with
      | [] => some (elementBytes [rsn])
      | e :: es => if e.id = 54 then (es.head?).map Element.bytes else some e.bytes := by
  have hskip := skipElement_bytes [] rsn (elementBytes es)
  have hget := id_bytes [] rsn (elementBytes es)
  rw [List.nil_append, List.length_nil] at hskip hget
  rw [selectElements, if_pos hwpa, elementBytes_cons, hskip, hget]
  simp only [bind, Option.bind_some, List.nil_append]
  match es with
  | [] => rw [elementBytes_nil, List.append_nil, if_neg (fun hand => Nat.lt_irrefl _ hand.1), elementBytes_cons,
      elementBytes_nil, List.append_nil]
  | e :: es =>
    have hlt : rsn.bytes.length < (rsn.bytes ++ elementBytes (e :: es)).length := by
      rw [List.length_append, elementBytes_cons, List.length_append, e.length_bytes]
      omega
    rw [if_pos ⟨hlt, hid⟩, elementBytes_cons, id_bytes, Option.bind_some]
    dsimp only
    by_cases hmdie : e.id = 54
    · rw [if_pos hmdie, if_pos hmdie, skipElement_bytes, Option.bind_some, ← List.append_assoc]
      match es with
      | [] =>
        have hbeyond : (rsn.bytes ++ e.bytes ++ elementBytes [])[(rsn.bytes ++ e.bytes).length + 1]? = none := by
          rw [elementBytes_nil, List.append_nil]
          exact List.getElem?_eq_none (Nat.le_succ _)
        rw [skipElement, hbeyond]
        rfl
      | f :: es =>
        rw [elementBytes_cons]
        exact readElement
    · rw [if_neg hmdie, if_neg hmdie]
      exact readElement

/-- What is in front of the own elements, and what is behind an RSN element. -/
lemma toList_cases (hown : own.WrittenFor conf) :
    own.toList = [] ∧ own.wpa = none ∨ (∃ e es, own.toList = e :: es ∧ e.id ≠ wlanEidRsn) ∨
      ∃ rsn, own.rsn = some rsn ∧ own.toList = rsn :: (own.mdie.toList ++ own.wpa.toList) ∧ rsn.id = wlanEidRsn := by
  have hosenId := hown.osen_id
  have hrsnOwn := hown.rsn_own
  have hmdieId := hown.mdie_id
  have hwpaId := hown.wpa_id
  have hor := hown.osen_or
  obtain ⟨osen, rsn, mdie, wpaElement⟩ := own
  cases osen with
  | some e =>
    refine Or.inr (Or.inl ⟨e, _, rfl, ?_⟩)
    rw [hosenId e rfl]
    decide
  | none =>
    cases rsn with
    | some r => exact Or.inr (Or.inr ⟨r, rfl, rfl, (hrsnOwn r rfl).1⟩)
    | none =>
      cases mdie with
      | some m =>
        refine Or.inr (Or.inl ⟨m, _, rfl, ?_⟩)
        rw [hmdieId m rfl]
        decide
      | none =>
        cases wpaElement with
        | some w =>
          refine Or.inr (Or.inl ⟨w, _, rfl, ?_⟩)
          rw [hwpaId w rfl]
          decide
        | none => exact Or.inl ⟨rfl, rfl⟩

/-- A station gets all of the own elements or only the WPA element. -/
lemma selectElements_cases {conf' : WpaAuthConfig} (hown : own.WrittenFor conf)
    (h : selectElements conf' wpa (elementBytes own.toList) = some wpaIe) :
    wpaIe = elementBytes own.toList ∨ ∃ e ∈ own.wpa, wpaIe = e.bytes := by
  by_cases hwpa : wpa = some .wpa ∧ conf'.wpa &&& wpaProtoRsn ≠ 0
  · obtain ⟨hempty, -⟩ | ⟨e, es, hlist, hid⟩ | ⟨rsn, -, hlist, hid⟩ := toList_cases hown
    · rw [hempty, selectElements, if_pos hwpa] at h
      cases h
    · rw [hlist, selectElements_other hid] at h
      rw [hlist]
      exact Or.inl (Option.some.inj h).symm
    · rw [hlist, selectElements_rsn hwpa hid] at h
      rw [hlist]
      cases hmdie : own.mdie with
      | none =>
        cases hwpaElement : own.wpa with
        | none =>
          rw [hmdie, hwpaElement] at h
          exact Or.inl (Option.some.inj h).symm
        | some w =>
          rw [hmdie, hwpaElement] at h
          have hw : w.id ≠ 54 := by
            rw [hown.wpa_id w hwpaElement]
            decide
          exact Or.inr ⟨w, rfl, (Option.some.inj ((if_neg hw).symm.trans h)).symm⟩
      | some m =>
        rw [hmdie] at h
        have hhead := (if_pos (hown.mdie_id m hmdie)).symm.trans h
        cases hwpaElement : own.wpa with
        | none =>
          rw [hwpaElement] at hhead
          cases hhead
        | some w =>
          rw [hwpaElement] at hhead
          exact Or.inr ⟨w, rfl, (Option.some.inj hhead).symm⟩
  · rw [selectElements, if_neg hwpa] at h
    exact Or.inl (Option.some.inj h).symm

/-- With the WPA element there, nothing behind the own elements is read. -/
lemma selectElements_isSome (hown : own.WrittenFor conf) (hwpa : own.wpa.isSome) :
    (selectElements conf wpa (elementBytes own.toList)).isSome := by
  obtain ⟨w, hw⟩ := Option.isSome_iff_exists.mp hwpa
  by_cases hc : wpa = some .wpa ∧ conf.wpa &&& wpaProtoRsn ≠ 0
  · obtain ⟨-, hnone⟩ | ⟨e, es, hlist, hid⟩ | ⟨rsn, -, hlist, hid⟩ := toList_cases hown
    · rw [hw] at hnone
      cases hnone
    · rw [hlist, selectElements_other hid]
      rfl
    · rw [hlist, selectElements_rsn hc hid, hw]
      cases hmdie : own.mdie with
      | none =>
        have hid' : w.id ≠ 54 := by
          rw [hown.wpa_id w hw]
          decide
        simp [hid']
      | some m => simp [hown.mdie_id m hmdie]
  · rw [selectElements, if_neg hc]
    rfl

end Own

/-! ## The PMKR1Name in the RSN element -/

section Insert

variable {front room : List UInt8} {es : List Element} {pmkid : Pmkid}

/-- The search for an RSN element that is not there. -/
lemma findRsn_none (h : ∀ e ∈ es, e.id ≠ wlanEidRsn) (front : List UInt8) :
    findRsn (front ++ (elementBytes es ++ room)) (front ++ elementBytes es).length front.length = none := by
  induction es generalizing front with
  | nil =>
    rw [findRsn, if_neg]
    simp
  | cons e es ih =>
    obtain ⟨he, hes⟩ := List.forall_mem_cons.mp h
    have hsplit : front ++ (elementBytes (e :: es) ++ room) = front ++ (e.bytes ++ (elementBytes es ++ room)) := by
      rw [elementBytes_cons, List.append_assoc]
    have hdrop : (front ++ (e.bytes ++ (elementBytes es ++ room))).drop front.length =
        e.bytes ++ (elementBytes es ++ room) := List.drop_left
    obtain ⟨hid, hbyte⟩ := getD_of_drop hdrop
    have hstep : front.length + 2 + e.body.length = (front ++ e.bytes).length := by
      rw [List.length_append, Element.length_bytes]
      omega
    have hlt : front.length < (front ++ elementBytes (e :: es)).length := by
      rw [elementBytes_cons, List.length_append, List.length_append, Element.length_bytes]
      omega
    have hnext := ih hes (front ++ e.bytes)
    rw [hsplit, findRsn, if_pos hlt, hid, if_neg he, hbyte, Element.toNat_len, hstep, ← List.append_assoc front,
      elementBytes_cons, ← List.append_assoc front, hnext]

lemma wpaInsertPmkid_none (h : ∀ e ∈ es, e.id ≠ wlanEidRsn) :
    wpaInsertPmkid (elementBytes es ++ room) (elementBytes es).length pmkid = some none := by
  have hnone : findRsn ([] ++ (elementBytes es ++ room)) ([] ++ elementBytes es).length ([] : List UInt8).length = none :=
    findRsn_none h []
  rw [List.nil_append, List.nil_append, List.length_nil] at hnone
  rw [wpaInsertPmkid, hnone]

/-- The string grows by 18 bytes at most if the RSN element has its capabilities. -/
lemma wpaInsertPmkid_le {pre post : List Element} {rsn : Element} (hpre : ∀ e ∈ pre, e.id ≠ wlanEidRsn)
    (hrsn : OwnRsn rsn) (hroom : 20 ≤ room.length) :
    ∃ result,
      wpaInsertPmkid (elementBytes (pre ++ rsn :: post) ++ room) (elementBytes (pre ++ rsn :: post)).length pmkid =
        some result ∧
      ∀ buf iesLen, result = some (buf, iesLen) →
        buf.length = (elementBytes (pre ++ rsn :: post) ++ room).length ∧
          iesLen ≤ (elementBytes (pre ++ rsn :: post)).length + 18 := by
  obtain ⟨hid, suites, tail, hbody, htail⟩ := hrsn
  obtain hfail | ⟨capab, more, room', hsplits, hresult⟩ := wpaInsertPmkid_result post pmkid hpre hid hbody hroom
  · exact ⟨none, hfail, fun _ _ heq => nomatch heq⟩
  · refine ⟨_, hresult, fun buf iesLen heq => ?_⟩
    rw [heq] at hresult
    refine ⟨length_of_wpaInsertPmkid hresult, ?_⟩
    obtain ⟨-, rfl⟩ := Prod.mk.inj (Option.some.inj heq)
    have hbodyLength := congrArg List.length hbody
    have hnew := length_newBody suites capab more pmkid
    rw [List.length_append] at hbodyLength
    rw [length_followers hsplits, elementBytes_append, elementBytes_cons, List.length_append, List.length_append,
      rsn.length_bytes, hnew, hbodyLength]
    cases hsplits with
    | nothing => exact absurd rfl htail
    | capabilities hcapab =>
      rw [List.length_nil]
      omega
    | counted hcapab hn hgone =>
      simp only [List.length_append, length_leBytes]
      omega

end Insert

/-! ## The whole buffer -/

section Fits

variable {build : RsnBuild} {p2p : Bool} {conf : WpaAuthConfig} {own : OwnElements} {cfg : Message3Config}
  {sm : Message3Sm} {group : Message3Group} {env : Message3Env} {wpa : Option WpaVersion} {wpaIe room : List UInt8}

/-- The insertion into what has been selected of the own elements. -/
lemma wpaInsertPmkid_selected {conf' : WpaAuthConfig} (hown : own.WrittenFor conf)
    (h : selectElements conf' wpa (elementBytes own.toList) = some wpaIe) (pmkid : Pmkid) (hroom : 20 ≤ room.length) :
    ∃ result, wpaInsertPmkid (wpaIe ++ room) wpaIe.length pmkid = some result ∧
      ∀ buf iesLen, result = some (buf, iesLen) →
        buf.length = (wpaIe ++ room).length ∧ iesLen ≤ wpaIe.length + 18 := by
  have hnone {es : List Element} (hes : ∀ e ∈ es, e.id ≠ wlanEidRsn) :
      ∃ result, wpaInsertPmkid (elementBytes es ++ room) (elementBytes es).length pmkid = some result ∧
        ∀ buf iesLen, result = some (buf, iesLen) →
          buf.length = (elementBytes es ++ room).length ∧ iesLen ≤ (elementBytes es).length + 18 :=
    ⟨none, wpaInsertPmkid_none hes, fun _ _ heq => nomatch heq⟩
  have hosen : ∀ e ∈ own.osen.toList, e.id ≠ wlanEidRsn := by
    intro e he
    rw [hown.osen_id e (Option.mem_toList.mp he)]
    decide
  have hmdie : ∀ e ∈ own.mdie.toList, e.id ≠ wlanEidRsn := by
    intro e he
    rw [hown.mdie_id e (Option.mem_toList.mp he)]
    decide
  have hwpa : ∀ e ∈ own.wpa.toList, e.id ≠ wlanEidRsn := by
    intro e he
    rw [hown.wpa_id e (Option.mem_toList.mp he)]
    decide
  obtain rfl | ⟨e, he, rfl⟩ := selectElements_cases hown h
  · rw [OwnElements.toList]
    cases hrsn : own.rsn with
    | none =>
      rw [Option.toList_none, List.nil_append]
      exact hnone (List.forall_mem_append.mpr ⟨hosen, List.forall_mem_append.mpr ⟨hmdie, hwpa⟩⟩)
    | some rsn => exact wpaInsertPmkid_le hosen (hown.rsn_own rsn hrsn) hroom
  · have hsingle := hnone (List.forall_mem_singleton.mpr (hwpa e (Option.mem_toList.mpr he)))
    rw [elementBytes_cons, elementBytes_nil, List.append_nil] at hsingle
    exact hsingle

/-- The elements with the PMKR1Name, where there is room for an FTIE behind them. -/
lemma within_message3Elements (build : RsnBuild) (sm : Message3Sm) {conf' : WpaAuthConfig} (hown : own.WrittenFor conf)
    (h : selectElements conf' wpa (elementBytes own.toList) = some wpaIe) {kde : List UInt8}
    (hroom : wpaIe.length + (if sm.Ft build then 2 + pmkidLen + 300 else 0) ≤ kde.length) :
    (message3Elements build sm wpaIe).Within (wpaIe.length + if sm.Ft build then 2 + pmkidLen else 0) kde 0 := by
  have hle : wpaIe.length ≤ kde.length := Nat.le_of_add_right_le hroom
  have hput : Writer.put wpaIe kde 0 = some (some (wpaIe ++ kde.drop wpaIe.length, wpaIe.length)) := by
    have hfits : 0 + wpaIe.length ≤ kde.length := by rwa [Nat.zero_add]
    rw [Writer.put, write_eq_some hfits, Option.map_some, splice, Nat.zero_add, List.take_zero, List.nil_append]
  have hlength : (wpaIe ++ kde.drop wpaIe.length).length = kde.length := by
    rw [List.length_append, List.length_drop, Nat.add_sub_cancel' hle]
  rw [Writer.Within, message3Elements, Writer.andThen, hput, Option.bind_some]
  dsimp only
  by_cases hft : sm.Ft build
  · rw [if_pos hft, pmkidLen] at hroom
    rw [if_pos hft, if_pos hft]
    have hdrop : 20 ≤ (kde.drop wpaIe.length).length := by
      rw [List.length_drop]
      omega
    obtain ⟨result, hresult, hafter⟩ := wpaInsertPmkid_selected hown h sm.pmkR1Name hdrop
    refine ⟨result, hresult, fun buf pos heq => ?_⟩
    obtain ⟨hbuf, hpos⟩ := hafter buf pos heq
    rw [pmkidLen]
    exact ⟨hbuf.trans hlength, by omega⟩
  · rw [if_neg hft, if_neg hft]
    refine ⟨_, rfl, fun buf pos heq => ?_⟩
    obtain ⟨rfl, rfl⟩ := Prod.mk.inj (Option.some.inj heq)
    exact ⟨hlength, by omega⟩

/-- Everything fits into `kde_len` bytes. -/
lemma within_message3KeyData (cfg : Message3Config) (group : Message3Group) (env : Message3Env)
    {conf' : WpaAuthConfig} (hown : own.WrittenFor conf)
    (h : selectElements conf' wpa (elementBytes own.toList) = some wpaIe) {gtk : Option (List UInt8)} {kde : List UInt8}
    (hlength : kde.length = kdeLen build p2p conf' sm wpaIe gtk) :
    (message3KeyData build p2p conf' cfg sm group env wpaIe gtk).Within kde.length kde 0 := by
  have hsum : kdeLen build p2p conf' sm wpaIe gtk =
      wpaIe.length + (if sm.Ft build then 2 + pmkidLen else 0) + (gtk.map fun gtk => 2 + 4 + 2 + gtk.length).getD 0 +
        ieee80211wKdeLen conf' sm + (if sm.Ft build then 300 else 0) +
          (if sm.HasIpAddr p2p then 2 + 4 + 3 * 4 else 0) := by
    rw [kdeLen]
    split <;> omega
  have hfirst : wpaIe.length + (if sm.Ft build then 2 + pmkidLen + 300 else 0) ≤ kde.length := by
    rw [hlength, kdeLen]
    omega
  rw [hlength, hsum]
  rw [hlength, hsum] at hfirst
  have helements := within_message3Elements build sm hown h (hlength.trans hsum ▸ hfirst)
  refine (((helements.andThen takes_message3GtkKde ?_).andThen takes_ieee80211wKdeAdd ?_).andThen
    takes_message3Ft ?_).andThen takes_message3IpAddr ?_
  all_goals omega

end Fits

/-- Message 3/4 fits.  The elements are those that have been written into a buffer of 128 bytes, and none of these bytes
is behind it; the configuration may have changed since then.  What is put into the buffer for the key data is put inside
its `kde_len` bytes. -/
theorem message3_fits (build : RsnBuild) (p2p : Bool) (own conf : WpaAuthConfig) (cfg : Message3Config) (sm : Message3Sm)
    (group : Message3Group) (env : Message3Env) :
    (wpaAuthGenWpaIe build own).bytes.length ≤ 128 ∧
      ((wpaAuthGenWpaIe build own).ok = true →
        (conf.wpa &&& wpaProtoWpa ≠ 0 → conf = own →
          (selectElements conf sm.wpa (wpaAuthGenWpaIe build own).bytes).isSome) ∧
        ∀ wpaIe, selectElements conf sm.wpa (wpaAuthGenWpaIe build own).bytes = some wpaIe →
          ∃ result, ptkInitNegotiating build p2p conf cfg sm group env wpaIe = some result ∧
            ∀ kde pos, result = some (kde, pos) →
              ∃ gtk, message3Gtk cfg sm group env = some gtk ∧
                kde.length = kdeLen build p2p conf sm wpaIe gtk ∧ pos ≤ kdeLen build p2p conf sm wpaIe gtk) := by
  refine ⟨length_wpaAuthGenWpaIe_le build own, fun hok => ?_⟩
  obtain ⟨elements, hown, hbytes⟩ := wpaAuthGenWpaIe_ok hok
  rw [hbytes]
  refine ⟨fun hwpa heq => ?_, fun wpaIe hselect => ?_⟩
  · subst heq
    exact selectElements_isSome hown (hown.wpa_isSome hwpa)
  · unfold ptkInitNegotiating
    cases hgtk : message3Gtk cfg sm group env with
    | none => exact ⟨none, rfl, fun _ _ heq => nomatch heq⟩
    | some gtk =>
      dsimp only
      cases hmalloc : env.malloc (kdeLen build p2p conf sm wpaIe gtk) with
      | none => exact ⟨none, rfl, fun _ _ heq => nomatch heq⟩
      | some kde =>
        have hlength : kde.toList.length = kdeLen build p2p conf sm wpaIe gtk := kde.length_toList
        obtain ⟨result, hresult, hafter⟩ := within_message3KeyData cfg group env hown hselect hlength
        refine ⟨result, hresult, fun buf pos heq => ⟨gtk, rfl, ?_⟩⟩
        obtain ⟨hbuf, hpos⟩ := hafter buf pos heq
        exact ⟨hbuf.trans hlength, by omega⟩

end Ethanol
