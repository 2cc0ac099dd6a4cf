import EthanolHostapd.Ap.PmksaCache

/-!
# Disconnect requests of a RADIUS server

`hostapd_das_find_sta` and `hostapd_das_disconnect` of `ap/hostapd.c`.  A request has attributes of a session; the
stations that one of them rules out lose a mark, one attribute after the other, and a station is disconnected if it is
the only one that still has the mark.
-/

namespace Ethanol

/-! ## The code -/

/-- `struct hostapd_ip_addr`. -/
inductive HostapdIpAddr
  | unset
  | v4 (addr : Vector UInt8 4)
  | v6 (addr : Vector UInt8 16)
  deriving DecidableEq

/-- What is read of `struct radius_das_attrs` to identify the NAS. -/
structure DasNasAttrs where
  nasIpAddr : Option (Vector UInt8 4)
  nasIdentifier : Option (List UInt8)
  nasIpv6Addr : Option (Vector UInt8 16)

/-- `timeout_next`. -/
inductive TimeoutNext
  | nullfunc | disassoc | deauth | remove | disassocFromCli
  deriving DecidableEq

/-- What else is read and written of `struct sta_info`, apart from the mark. -/
structure DasSta where
  acctSessionId : UInt64
  eapolSm : Option PmksaEapolData
  flags : BitVec 32
  timeoutNext : TimeoutNext
  deauthReason : ℕ

/-- What is read and written of `struct hostapd_data`; `pmksa` is the cache of `wpa_auth`, and `deauthSent` are the
frames that the driver has been asked to send. -/
structure DasHapd where
  hapd : HostapdData
  sta : StaPtr → DasSta
  radiusDasMatch : StaPtr → Bool
  nasIdentifier : Option (List UInt8)
  ownIpAddr : HostapdIpAddr
  pmksa : Option PmksaCache
  deauthSent : List (MacAddr × ℕ)

/-- `enum radius_das_res`. -/
inductive RadiusDasRes
  | success | nasMismatch | sessionNotFound | multiSessionMatch
  deriving DecidableEq

/-- `hostapd_das_nas_mismatch`; `ipv6` stands for `CONFIG_IPV6`. -/
def hostapdDasNasMismatch (ipv6 : Bool) (s : DasHapd) (attr : DasNasAttrs) : Bool :=
  (attr.nasIdentifier.any fun id => s.nasIdentifier ≠ some id) ||
    (attr.nasIpAddr.any fun addr => s.ownIpAddr ≠ .v4 addr) ||
    (ipv6 && attr.nasIpv6Addr.any fun addr => s.ownIpAddr ≠ .v6 addr)

/-- The marks, and the number of attributes so far. -/
structure DasMarks where
  mark : StaPtr → Bool
  numAttr : ℕ

/-- The loop over the stations: a station that is not `ok` loses its mark, and the others that have one are counted. -/
def dasLoop (ok : StaPtr → Bool) : List StaPtr → (StaPtr → Bool) → ℕ → (StaPtr → Bool) × ℕ
  | [], mark, count => (mark, count)
  | sta :: staList, mark, count =>
    if ¬mark sta then dasLoop ok staList mark count
    else if ok sta then dasLoop ok staList mark (count + 1)
    else dasLoop ok staList (Function.update mark sta false) count

/-- An attribute that rules out stations; the error is a return of `NULL`. -/
def dasAttr (given : Option (List UInt8)) (fits : List UInt8 → Bool) (ok : List UInt8 → StaPtr → Bool)
    (staList : List StaPtr) (p : DasMarks) : Except DasMarks DasMarks :=
  match given with
  | none => .ok p
  | some value =>
    if ¬fits value then .error { p with numAttr := p.numAttr + 1 }
    else
      let (mark, count) := dasLoop (ok value) staList p.mark 0
      if count = 0 then .error ⟨mark, p.numAttr + 1⟩ else .ok ⟨mark, p.numAttr + 1⟩

section Attributes

variable (s : DasHapd) (attr : DasAttrs)

/-- `Calling-Station-Id`: the station is looked up, and all others lose the mark. -/
def dasStaAddr (p : DasMarks) : Except DasMarks DasMarks :=
  match attr.staAddr with
  | none => .ok p
  | some addr =>
    match s.hapd.apGetSta addr with
    | none => .error { p with numAttr := p.numAttr + 1 }
    | some selected =>
      .ok ⟨fun sta => if sta ∈ s.hapd.staList ∧ sta ≠ selected then false else p.mark sta, p.numAttr + 1⟩

/-- `Acct-Session-Id`. -/
def dasAcctSessionId : DasMarks → Except DasMarks DasMarks :=
  dasAttr attr.acctSessionId (fun id => id.length = 16)
    (fun id sta => id = hexDigits (s.sta sta).acctSessionId) s.hapd.staList

/-- `Acct-Multi-Session-Id`. -/
def dasAcctMultiSessionId : DasMarks → Except DasMarks DasMarks :=
  dasAttr attr.acctMultiSessionId (fun id => id.length = 16)
    (fun id sta => (s.sta sta).eapolSm.any fun sm =>
      sm.acctMultiSessionId ≠ 0 && id = hexDigits sm.acctMultiSessionId) s.hapd.staList

/-- `Chargeable-User-Identity`. -/
def dasCui : DasMarks → Except DasMarks DasMarks :=
  dasAttr attr.cui (fun _ => true)
    (fun cui sta => ((s.sta sta).eapolSm.bind fun sm => sm.radiusCui) = some cui) s.hapd.staList

/-- `User-Name`. -/
def dasUserName : DasMarks → Except DasMarks DasMarks :=
  dasAttr attr.userName (fun _ => true)
    (fun name sta => ((s.sta sta).eapolSm.bind fun sm => sm.identity) = some name) s.hapd.staList

end Attributes

/-- The last loop of `hostapd_das_find_sta`: the station and `multi`. -/
def selectMarked (mark : StaPtr → Bool) : Option StaPtr → List StaPtr → Option StaPtr × Bool
  | selected, [] => (selected, false)
  | selected, sta :: staList =>
    if mark sta then
      match selected with
      | some _ => (none, true)
      | none => selectMarked mark (some sta) staList
    else selectMarked mark selected staList

/-- The station that is found, `multi`, and the marks. -/
structure DasFound where
  selected : Option StaPtr
  multi : Bool
  mark : StaPtr → Bool

/-- `hostapd_das_find_sta`. -/
def hostapdDasFindSta (s : DasHapd) (attr : DasAttrs) : DasFound :=
  let start : DasMarks := ⟨fun sta => if sta ∈ s.hapd.staList then true else s.radiusDasMatch sta, 0⟩
  match dasStaAddr s attr start >>= dasAcctSessionId s attr >>= dasAcctMultiSessionId s attr >>= dasCui s attr >>=
      dasUserName s attr with
  | .error p => ⟨none, false, p.mark⟩
  | .ok p =>
    if p.numAttr = 0 then ⟨none, false, p.mark⟩
    else
      let (selected, multi) := selectMarked p.mark none s.hapd.staList
      ⟨selected, multi, p.mark⟩

/-- `WLAN_REASON_PREV_AUTH_NOT_VALID`. -/
def wlanReasonPrevAuthNotValid : ℕ := 2

/-- `WLAN_STA_AUTH | WLAN_STA_ASSOC | WLAN_STA_ASSOC_REQ_OK`, and `WLAN_STA_AUTHORIZED`. -/
def wlanStaDeauthMask : BitVec 32 := 1 ||| 2 ||| 1 <<< 15 ||| 1 <<< 5

/-- `WLAN_STA_PENDING_DEAUTH_CB`. -/
def wlanStaPendingDeauthCb : BitVec 32 := 1 <<< 30

/-- `ap_sta_deauthenticate`, without the timeouts. -/
def apStaDeauthenticate (s : DasHapd) (sta : StaPtr) (reason : ℕ) : DasHapd :=
  { s with sta := Function.update s.sta sta { s.sta sta with
      eapolSm := none
      flags := (s.sta sta).flags &&& ~~~wlanStaDeauthMask ||| wlanStaPendingDeauthCb
      timeoutNext := .remove
      deauthReason := reason } }

/-- `hostapd_das_disconnect_pmksa`: whether an entry has been found. -/
def hostapdDasDisconnectPmksa (s : DasHapd) (attr : DasAttrs) : DasHapd × Bool :=
  match s.pmksa with
  | none => (s, false)
  | some pmksa =>
    ({ s with pmksa := some (pmksa.radiusDasDisconnect attr) },
      attr.acctSessionId.isNone && pmksa.pmksa.any fun entry => dasAttrMatch entry attr ≠ 0)

/-- `hostapd_das_disconnect`. -/
def hostapdDasDisconnect (ipv6 : Bool) (s : DasHapd) (nas : DasNasAttrs) (attr : DasAttrs) : DasHapd × RadiusDasRes :=
  if hostapdDasNasMismatch ipv6 s nas then (s, .nasMismatch)
  else
    let found := hostapdDasFindSta s attr
    let s := { s with radiusDasMatch := found.mark }
    match found.selected with
    | none =>
      if found.multi then (s, .multiSessionMatch)
      else
        let (s, removed) := hostapdDasDisconnectPmksa s attr
        if removed then (s, .success) else (s, .sessionNotFound)
    | some sta =>
      let s := { s with
        pmksa := s.pmksa.map fun pmksa => pmksa.remove (s.hapd.addr sta)
        deauthSent := s.deauthSent ++ [(s.hapd.addr sta, wlanReasonPrevAuthNotValid)] }
      (apStaDeauthenticate s sta wlanReasonPrevAuthNotValid, .success)

/-! ## The passes -/

/-- A session attribute is given. -/
def DasAttrs.Given (attr : DasAttrs) : Prop :=
  attr.staAddr.isSome ∨ attr.acctSessionId.isSome ∨ attr.acctMultiSessionId.isSome ∨ attr.cui.isSome ∨
    attr.userName.isSome

/-- A station satisfies every attribute that is given. -/
structure DasMatches (s : DasHapd) (attr : DasAttrs) (sta : StaPtr) : Prop where
  staAddr : ∀ addr ∈ attr.staAddr, s.hapd.addr sta = addr
  acctSessionId : ∀ id ∈ attr.acctSessionId, id = hexDigits (s.sta sta).acctSessionId
  acctMultiSessionId : ∀ id ∈ attr.acctMultiSessionId, ∃ sm ∈ (s.sta sta).eapolSm,
    sm.acctMultiSessionId ≠ 0 ∧ id = hexDigits sm.acctMultiSessionId
  cui : ∀ cui ∈ attr.cui, ∃ sm ∈ (s.sta sta).eapolSm, sm.radiusCui = some cui
  userName : ∀ name ∈ attr.userName, ∃ sm ∈ (s.sta sta).eapolSm, sm.identity = some name

/-- The marks are those of the stations of the list with `P`. -/
def Marks (staList : List StaPtr) (P : StaPtr → Prop) (mark : StaPtr → Bool) : Prop :=
  ∀ sta ∈ staList, mark sta = true ↔ P sta

/-- What a pass does that keeps the mark of the stations with `Q` only; `given` says whether its attribute is given. -/
def PassSpec (staList : List StaPtr) (given : Prop) (Q : StaPtr → Prop)
    (pass : DasMarks → Except DasMarks DasMarks) : Prop :=
  ∀ P p, Marks staList P p.mark →
    (∃ p', pass p = .ok p' ∧ Marks staList (fun sta => P sta ∧ Q sta) p'.mark ∧
      (p'.numAttr = 0 ↔ p.numAttr = 0 ∧ ¬given)) ∨
    (∃ p', pass p = .error p') ∧ ∀ sta ∈ staList, P sta → ¬Q sta

@[simp] lemma length_hexDigits (n : UInt64) : (hexDigits n).length = 16 := by
  simp [hexDigits]

section Passes

variable {staList : List StaPtr} {mark : StaPtr → Bool} {P Q R : StaPtr → Prop}
  {given given' : Prop}

/-- A station loses its mark exactly if it is in the list and not `ok`, and the others that have one are counted. -/
lemma dasLoop_spec (ok mark : StaPtr → Bool) (count : ℕ) (hlist : staList.Nodup) :
    (∀ sta, (dasLoop ok staList mark count).1 sta = (mark sta && (ok sta || !(decide (sta ∈ staList))))) ∧
      (dasLoop ok staList mark count).2 = count + (staList.filter fun sta => mark sta && ok sta).length := by
  induction staList generalizing mark count with
  | nil => exact ⟨by simp [dasLoop], by simp [dasLoop]⟩
  | cons sta staList ih =>
    obtain ⟨hnew, hrest⟩ := List.nodup_cons.mp hlist
    rw [dasLoop, List.filter_cons]
    cases hmark : mark sta with
    | false =>
      obtain ⟨hmarks, hcount⟩ := ih mark count hrest
      refine ⟨fun sta' => ?_, by simpa using hcount⟩
      rw [if_pos Bool.false_ne_true, hmarks]
      by_cases heq : sta' = sta
      · subst heq
        simp [hmark]
      · simp [heq]
    | true =>
      rw [if_neg (not_not.mpr rfl)]
      cases hok : ok sta with
      | true =>
        obtain ⟨hmarks, hcount⟩ := ih mark (count + 1) hrest
        refine ⟨fun sta' => ?_, ?_⟩
        · rw [if_pos rfl, hmarks]
          by_cases heq : sta' = sta
          · subst heq
            simp [hok]
          · simp [heq]
        · rw [if_pos rfl, hcount]
          simp
          omega
      | false =>
        obtain ⟨hmarks, hcount⟩ := ih (Function.update mark sta false) count hrest
        rw [if_neg Bool.false_ne_true]
        refine ⟨fun sta' => ?_, ?_⟩
        · rw [hmarks]
          by_cases heq : sta' = sta
          · subst heq
            simp [hok]
          · simp [heq]
        · have hfilter : (staList.filter fun sta' => Function.update mark sta false sta' && ok sta') =
              staList.filter fun sta' => mark sta' && ok sta' := by
            refine List.filter_congr fun sta' hmem => ?_
            have hne : sta' ≠ sta := fun heq => hnew (heq ▸ hmem)
            rw [Function.update_of_ne hne]
          rw [hcount, hfilter]
          simp

/-- One pass after another. -/
lemma PassSpec.bind {pass pass' : DasMarks → Except DasMarks DasMarks} (h : PassSpec staList given Q pass)
    (h' : PassSpec staList given' R pass') :
    PassSpec staList (given ∨ given') (fun sta => Q sta ∧ R sta) fun p => pass p >>= pass' := by
  intro P p hp
  obtain ⟨p', hp', hmarks, hnum⟩ | ⟨⟨p', hp'⟩, hnone⟩ := h P p hp
  · obtain ⟨p'', hp'', hmarks', hnum'⟩ | ⟨⟨p'', hp''⟩, hnone⟩ := h' _ p' hmarks
    · refine Or.inl ⟨p'', ?_, fun sta hmem => (hmarks' sta hmem).trans and_assoc, ?_⟩
      · change pass p >>= pass' = _
        rw [hp']
        exact hp''
      · rw [hnum', hnum, not_or, and_assoc]
    · refine Or.inr ⟨⟨p'', ?_⟩, fun sta hmem hP hand => hnone sta hmem ⟨hP, hand.1⟩ hand.2⟩
      change pass p >>= pass' = _
      rw [hp']
      exact hp''
  · refine Or.inr ⟨⟨p', ?_⟩, fun sta hmem hP hand => hnone sta hmem hP hand.1⟩
    change pass p >>= pass' = _
    rw [hp']
    rfl

/-- An attribute keeps the mark of the stations that it fits. -/
lemma dasAttr_spec (hlist : staList.Nodup) (value : Option (List UInt8)) {fits : List UInt8 → Bool}
    {ok : List UInt8 → StaPtr → Bool} (hQ : ∀ sta, Q sta ↔ ∀ v ∈ value, ok v sta = true)
    (hfits : ∀ v sta, ok v sta = true → fits v = true) :
    PassSpec staList value.isSome Q (dasAttr value fits ok staList) := by
  intro P p hp
  cases value with
  | none =>
    refine Or.inl ⟨p, rfl, fun sta hmem => (hp sta hmem).trans ?_, by simp⟩
    exact (and_iff_left ((hQ sta).mpr (by simp))).symm
  | some v =>
    have hQ' (sta : StaPtr) : Q sta ↔ ok v sta = true := by simp [hQ]
    obtain ⟨hmarks, hcount⟩ := dasLoop_spec (ok v) p.mark 0 hlist
    rw [dasAttr]
    by_cases hfit : fits v = true
    · rw [if_neg (not_not.mpr hfit)]
      dsimp only
      rw [hcount, Nat.zero_add]
      by_cases hzero : (staList.filter fun sta => p.mark sta && ok v sta).length = 0
      · rw [if_pos hzero]
        refine Or.inr ⟨⟨_, rfl⟩, fun sta hmem hP hQsta => ?_⟩
        have hin : sta ∈ staList.filter fun sta => p.mark sta && ok v sta := by
          rw [List.mem_filter, Bool.and_eq_true]
          exact ⟨hmem, (hp sta hmem).mpr hP, (hQ' sta).mp hQsta⟩
        rw [List.length_eq_zero_iff.mp hzero] at hin
        exact absurd hin List.not_mem_nil
      · rw [if_neg hzero]
        refine Or.inl ⟨_, rfl, fun sta hmem => ?_, by simp⟩
        change (dasLoop (ok v) staList p.mark 0).1 sta = true ↔ P sta ∧ Q sta
        rw [hmarks, hQ', ← hp sta hmem]
        simp [hmem]
    · rw [if_pos hfit]
      exact Or.inr ⟨⟨_, rfl⟩, fun sta _ _ hQsta => hfit (hfits v sta ((hQ' sta).mp hQsta))⟩

/-- The last loop looks at the stations that still have the mark. -/
lemma selectMarked_eq (mark : StaPtr → Bool) (staList : List StaPtr) :
    selectMarked mark none staList =
      match staList.filter mark with
      | [] => (none, false)
      | [sta] => (some sta, false)
      | _ :: _ :: _ => (none, true) := by
  have hone (selected : StaPtr) (l : List StaPtr) :
      selectMarked mark (some selected) l =
        match l.filter mark with
        | [] => (some selected, false)
        | _ :: _ => (none, true) := by
    induction l with
    | nil => rfl
    | cons sta l ih =>
      rw [selectMarked, List.filter_cons]
      cases mark sta with
      | true => rfl
      | false => exact ih
  induction staList with
  | nil => rfl
  | cons sta staList ih =>
    rw [selectMarked, List.filter_cons]
    cases mark sta with
    | true =>
      rw [if_pos rfl, if_pos rfl, hone]
      cases staList.filter mark <;> rfl
    | false => exact ih

/-- The last loop returns the station with the mark if there is exactly one, and it finds out if there are more. -/
lemma selectMarked_spec (hlist : staList.Nodup) (hmark : Marks staList P mark) :
    (∀ sta, (selectMarked mark none staList).1 = some sta ↔
        sta ∈ staList ∧ P sta ∧ ∀ other ∈ staList, P other → other = sta) ∧
      ((selectMarked mark none staList).2 = true ↔
        ∃ sta ∈ staList, ∃ other ∈ staList, sta ≠ other ∧ P sta ∧ P other) := by
  have hmem (sta : StaPtr) : sta ∈ staList.filter mark ↔ sta ∈ staList ∧ P sta := by
    rw [List.mem_filter]
    exact and_congr_right fun hin => hmark sta hin
  have hnodup := hlist.filter mark
  rw [selectMarked_eq]
  match hfilter : staList.filter mark with
  | [] =>
    rw [hfilter] at hmem
    have hnone (sta : StaPtr) (hin : sta ∈ staList) (hP : P sta) : False :=
      List.not_mem_nil ((hmem sta).mpr ⟨hin, hP⟩)
    refine ⟨fun sta => iff_of_false (by simp) fun h => hnone sta h.1 h.2.1, iff_of_false (by simp) ?_⟩
    rintro ⟨sta, hin, -, -, -, hP, -⟩
    exact hnone sta hin hP
  | [first] =>
    rw [hfilter] at hmem
    have honly (sta : StaPtr) (hin : sta ∈ staList) (hP : P sta) : sta = first :=
      List.mem_singleton.mp ((hmem sta).mpr ⟨hin, hP⟩)
    obtain ⟨hin, hP⟩ := (hmem first).mp (List.mem_singleton_self first)
    refine ⟨fun sta => ⟨fun heq => ?_, fun h => ?_⟩, iff_of_false (by simp) ?_⟩
    · obtain rfl := Option.some.inj heq
      exact ⟨hin, hP, honly⟩
    · exact congrArg some (h.2.2 first hin hP)
    · rintro ⟨sta, hsta, other, hother, hne, hPsta, hPother⟩
      exact hne ((honly sta hsta hPsta).trans (honly other hother hPother).symm)
  | first :: second :: rest =>
    rw [hfilter] at hmem hnodup
    obtain ⟨hfirst, hPfirst⟩ := (hmem first).mp List.mem_cons_self
    obtain ⟨hsecond, hPsecond⟩ := (hmem second).mp (List.mem_cons_of_mem _ List.mem_cons_self)
    have hne : first ≠ second := fun heq => (List.nodup_cons.mp hnodup).1 (heq ▸ List.mem_cons_self)
    refine ⟨fun sta => iff_of_false (by simp) fun h => hne ?_, iff_of_true rfl ?_⟩
    · exact (h.2.2 first hfirst hPfirst).trans (h.2.2 second hsecond hPsecond).symm
    · exact ⟨first, hfirst, second, hsecond, hne, hPfirst, hPsecond⟩

end Passes

section Find

variable {s : DasHapd} (h : s.hapd.Agrees) (attr : DasAttrs)
include h

lemma dasStaAddr_spec :
    PassSpec s.hapd.staList attr.staAddr.isSome (fun sta => ∀ addr ∈ attr.staAddr, s.hapd.addr sta = addr)
      (dasStaAddr s attr) := by
  intro P p hp
  cases haddr : attr.staAddr with
  | none =>
    refine Or.inl ⟨p, by rw [dasStaAddr, haddr], fun sta hmem => (hp sta hmem).trans ?_, by simp⟩
    exact (and_iff_left (by simp)).symm
  | some addr =>
    have hget : s.hapd.apGetSta addr = KeyedList.find s.hapd.addr addr s.hapd.staList := h.hash.find addr
    cases hfind : KeyedList.find s.hapd.addr addr s.hapd.staList with
    | none =>
      rw [hfind] at hget
      refine Or.inr ⟨⟨{ p with numAttr := p.numAttr + 1 }, by simp only [dasStaAddr, haddr, hget]⟩, fun sta hmem _ hQ => ?_⟩
      rw [KeyedList.find_eq_none_iff] at hfind
      exact hfind (hQ addr rfl ▸ List.mem_map_of_mem hmem)
    | some selected =>
      rw [hfind] at hget
      have hselected := KeyedList.key_of_find hfind
      have hin := KeyedList.mem_of_find hfind
      have hpass : dasStaAddr s attr p = .ok ⟨fun sta =>
          if sta ∈ s.hapd.staList ∧ sta ≠ selected then false else p.mark sta, p.numAttr + 1⟩ := by
        simp only [dasStaAddr, haddr, hget]
      refine Or.inl ⟨_, hpass, fun sta hmem => ?_, by simp⟩
      have hsame : (∀ a ∈ some addr, s.hapd.addr sta = a) ↔ sta = selected := by
        constructor
        · intro hQ
          have hkey : s.hapd.addr sta = s.hapd.addr selected := (hQ addr rfl).trans hselected.symm
          exact Option.some.inj ((KeyedList.find_of_mem h.distinct hmem).symm.trans
            (hkey ▸ KeyedList.find_of_mem h.distinct hin))
        · rintro rfl a ha
          exact hselected.trans (Option.some.inj ha)
      change (if sta ∈ s.hapd.staList ∧ sta ≠ selected then false else p.mark sta) = true ↔
        P sta ∧ ∀ a ∈ some addr, s.hapd.addr sta = a
      rw [hsame, ← hp sta hmem]
      simp [hmem, and_comm]

lemma nodup_staList : s.hapd.staList.Nodup := List.Nodup.of_map _ h.distinct

/-- The five passes leave the mark to the stations that satisfy every attribute. -/
lemma hostapdDasFindSta_cases :
    (∃ p : DasMarks, hostapdDasFindSta s attr = (if p.numAttr = 0 then ⟨none, false, p.mark⟩ else
        ⟨(selectMarked p.mark none s.hapd.staList).1, (selectMarked p.mark none s.hapd.staList).2, p.mark⟩) ∧
      Marks s.hapd.staList (DasMatches s attr) p.mark ∧ (p.numAttr = 0 ↔ ¬attr.Given)) ∨
    (∃ mark, hostapdDasFindSta s attr = ⟨none, false, mark⟩) ∧ ∀ sta ∈ s.hapd.staList, ¬DasMatches s attr sta := by
  have hlist := nodup_staList h
  have hsession : PassSpec s.hapd.staList attr.acctSessionId.isSome
      (fun sta => ∀ id ∈ attr.acctSessionId, id = hexDigits (s.sta sta).acctSessionId) (dasAcctSessionId s attr) := by
    refine dasAttr_spec hlist _ (fun sta => by simp) fun id sta hid => ?_
    rw [of_decide_eq_true hid, length_hexDigits]
    rfl
  have hmulti : PassSpec s.hapd.staList attr.acctMultiSessionId.isSome
      (fun sta => ∀ id ∈ attr.acctMultiSessionId, ∃ sm ∈ (s.sta sta).eapolSm,
        sm.acctMultiSessionId ≠ 0 ∧ id = hexDigits sm.acctMultiSessionId) (dasAcctMultiSessionId s attr) := by
    have hany (id : List UInt8) (sta : StaPtr) : ((s.sta sta).eapolSm.any fun sm =>
        sm.acctMultiSessionId ≠ 0 && id = hexDigits sm.acctMultiSessionId) = true ↔
          ∃ sm ∈ (s.sta sta).eapolSm, sm.acctMultiSessionId ≠ 0 ∧ id = hexDigits sm.acctMultiSessionId := by
      rw [Option.any_eq_true]
      simp
    refine dasAttr_spec hlist _ (fun sta => by simp only [hany]) fun id sta hid => ?_
    obtain ⟨sm, -, -, rfl⟩ := (hany id sta).mp hid
    rw [length_hexDigits]
    rfl
  have hcui : PassSpec s.hapd.staList attr.cui.isSome
      (fun sta => ∀ cui ∈ attr.cui, ∃ sm ∈ (s.sta sta).eapolSm, sm.radiusCui = some cui) (dasCui s attr) :=
    dasAttr_spec hlist _ (fun sta => by simp [Option.bind_eq_some_iff]) fun _ _ _ => rfl
  have huser : PassSpec s.hapd.staList attr.userName.isSome
      (fun sta => ∀ name ∈ attr.userName, ∃ sm ∈ (s.sta sta).eapolSm, sm.identity = some name) (dasUserName s attr) :=
    dasAttr_spec hlist _ (fun sta => by simp [Option.bind_eq_some_iff]) fun _ _ _ => rfl
  have hall := ((((dasStaAddr_spec h attr).bind hsession).bind hmulti).bind hcui).bind huser
  obtain ⟨p, hp, hmarks, hnum⟩ | ⟨⟨p, hp⟩, hnone⟩ := hall (fun _ => True)
    ⟨fun sta => if sta ∈ s.hapd.staList then true else s.radiusDasMatch sta, 0⟩ (fun sta hmem => by simp [hmem])
  · refine Or.inl ⟨p, ?_, fun sta hmem => (hmarks sta hmem).trans ?_, ?_⟩
    · rw [hostapdDasFindSta]
      dsimp only at hp ⊢
      rw [hp]
    · constructor
      · rintro ⟨-, ⟨⟨⟨haddr, hsession⟩, hmulti⟩, hcui⟩, huser⟩
        exact ⟨haddr, hsession, hmulti, hcui, huser⟩
      · rintro ⟨haddr, hsession, hmulti, hcui, huser⟩
        exact ⟨trivial, ⟨⟨⟨haddr, hsession⟩, hmulti⟩, hcui⟩, huser⟩
    · rw [hnum, DasAttrs.Given]
      simp only [true_and, or_assoc]
  · refine Or.inr ⟨⟨p.mark, ?_⟩, fun sta hmem hsta => hnone sta hmem trivial ?_⟩
    · rw [hostapdDasFindSta]
      dsimp only at hp ⊢
      rw [hp]
    · obtain ⟨haddr, hsession, hmulti, hcui, huser⟩ := hsta
      exact ⟨⟨⟨⟨haddr, hsession⟩, hmulti⟩, hcui⟩, huser⟩

/-- The station that is found. -/
lemma selected_iff (sta : StaPtr) :
    (hostapdDasFindSta s attr).selected = some sta ↔ attr.Given ∧ sta ∈ s.hapd.staList ∧ DasMatches s attr sta ∧
      ∀ other ∈ s.hapd.staList, DasMatches s attr other → other = sta := by
  obtain ⟨p, hfound, hmarks, hnum⟩ | ⟨⟨mark, hfound⟩, hnone⟩ := hostapdDasFindSta_cases h attr
  · rw [hfound]
    by_cases hgiven : attr.Given
    · rw [if_neg fun hzero => hnum.mp hzero hgiven]
      exact ((selectMarked_spec (nodup_staList h) hmarks).1 sta).trans (and_iff_right hgiven).symm
    · rw [if_pos (hnum.mpr hgiven)]
      exact iff_of_false (by simp) fun hand => hgiven hand.1
  · rw [hfound]
    exact iff_of_false (by simp) fun hand => hnone sta hand.2.1 hand.2.2.1

/-- When more than one station is found. -/
lemma multi_iff :
    (hostapdDasFindSta s attr).multi = true ↔ attr.Given ∧ ∃ sta ∈ s.hapd.staList, ∃ other ∈ s.hapd.staList,
      sta ≠ other ∧ DasMatches s attr sta ∧ DasMatches s attr other := by
  obtain ⟨p, hfound, hmarks, hnum⟩ | ⟨⟨mark, hfound⟩, hnone⟩ := hostapdDasFindSta_cases h attr
  · rw [hfound]
    by_cases hgiven : attr.Given
    · rw [if_neg fun hzero => hnum.mp hzero hgiven]
      exact (selectMarked_spec (nodup_staList h) hmarks).2.trans (and_iff_right hgiven).symm
    · rw [if_pos (hnum.mpr hgiven)]
      exact iff_of_false (by simp) fun hand => hgiven hand.1
  · rw [hfound]
    refine iff_of_false (by simp) ?_
    rintro ⟨-, sta, hmem, -, -, -, hsta, -⟩
    exact hnone sta hmem hsta

end Find

/-- Only the station that has been found is deauthenticated, and no request for another NAS has an effect. -/
lemma hostapdDasDisconnect_spec (ipv6 : Bool) (s : DasHapd) (nas : DasNasAttrs) (attr : DasAttrs) :
    (hostapdDasDisconnect ipv6 s nas attr).1.hapd = s.hapd ∧
      (hostapdDasDisconnect ipv6 s nas attr).1.deauthSent = s.deauthSent ++
        (if hostapdDasNasMismatch ipv6 s nas then none else (hostapdDasFindSta s attr).selected).toList.map
          (fun sta => (s.hapd.addr sta, wlanReasonPrevAuthNotValid)) ∧
      ∀ sta, (hostapdDasFindSta s attr).selected ≠ some sta →
        (hostapdDasDisconnect ipv6 s nas attr).1.sta sta = s.sta sta := by
  rw [hostapdDasDisconnect]
  by_cases hnas : hostapdDasNasMismatch ipv6 s nas = true
  · rw [if_pos hnas, if_pos hnas]
    exact ⟨rfl, by simp, fun _ _ => rfl⟩
  · rw [if_neg hnas, if_neg hnas]
    dsimp only
    cases hselected : (hostapdDasFindSta s attr).selected with
    | none =>
      dsimp only
      split
      · exact ⟨rfl, by simp, fun _ _ => rfl⟩
      · rw [hostapdDasDisconnectPmksa]
        cases s.pmksa with
        | none => exact ⟨rfl, by simp, fun _ _ => rfl⟩
        | some pmksa =>
          dsimp only
          split
          · exact ⟨rfl, by simp, fun _ _ => rfl⟩
          · exact ⟨rfl, by simp, fun _ _ => rfl⟩
    | some selected =>
      refine ⟨rfl, rfl, fun sta hne => Function.update_of_ne (fun heq => hne ?_) _ _⟩
      rw [heq]

/-- A station is found exactly if an attribute is given and no other station satisfies every given one, `multi` is set
exactly if an attribute is given and two stations satisfy every given one, and only the station that is found is
deauthenticated. -/
theorem hostapdDas_spec {s : DasHapd} (h : s.hapd.Agrees) (attr : DasAttrs) :
    (∀ sta, (hostapdDasFindSta s attr).selected = some sta ↔ attr.Given ∧ sta ∈ s.hapd.staList ∧
        DasMatches s attr sta ∧ ∀ other ∈ s.hapd.staList, DasMatches s attr other → other = sta) ∧
      ((hostapdDasFindSta s attr).multi = true ↔ attr.Given ∧ ∃ sta ∈ s.hapd.staList, ∃ other ∈ s.hapd.staList,
        sta ≠ other ∧ DasMatches s attr sta ∧ DasMatches s attr other) ∧
      ∀ ipv6 nas, (hostapdDasDisconnect ipv6 s nas attr).1.hapd = s.hapd ∧
        (hostapdDasDisconnect ipv6 s nas attr).1.deauthSent = s.deauthSent ++
          (if hostapdDasNasMismatch ipv6 s nas then none else (hostapdDasFindSta s attr).selected).toList.map
            (fun sta => (s.hapd.addr sta, wlanReasonPrevAuthNotValid)) ∧
        ∀ sta, (hostapdDasFindSta s attr).selected ≠ some sta →
          (hostapdDasDisconnect ipv6 s nas attr).1.sta sta = s.sta sta :=
  ⟨selected_iff h attr, multi_iff h attr, fun ipv6 nas => hostapdDasDisconnect_spec ipv6 s nas attr⟩

/-- A BSS with two stations whose sessions are 1 and 2. -/
def twoSessions : DasHapd where
  hapd := ((HostapdData.init ⟨3, by decide, by decide⟩).linkSta 10 #v[6, 0, 0, 0, 0, 1]).linkSta 20 #v[6, 0, 0, 0, 0, 2]
  sta := fun sta => ⟨if sta = 10 then 1 else 2, none, 0, .nullfunc, 0⟩
  radiusDasMatch := fun _ => false
  nasIdentifier := none
  ownIpAddr := .unset
  pmksa := none
  deauthSent := []

lemma agrees_twoSessions : twoSessions.hapd.Agrees := by
  have hfirst := (HostapdData.agrees_init ⟨3, by decide, by decide⟩).linkSta
    (show (HostapdData.init ⟨3, by decide, by decide⟩).apGetSta #v[6, 0, 0, 0, 0, 1] = none by decide) (by decide)
    (show (HostapdData.init ⟨3, by decide, by decide⟩).allocated 10 = false by decide)
  exact hfirst.linkSta (by decide) (by decide) (by decide)

theorem hostapdDas_spec_twoSessions :
    (hostapdDasFindSta twoSessions ⟨none, none, some (hexDigits 2), none, none⟩).selected = some 20 := by
  refine ((hostapdDas_spec agrees_twoSessions _).1 20).mpr ⟨Or.inr (Or.inl rfl), by decide, ⟨?_, ?_, ?_, ?_, ?_⟩, ?_⟩
  · simp
  · simp [twoSessions]
  · simp
  · simp
  · simp
  · intro other hother hmatches
    have hid := hmatches.acctSessionId (hexDigits 2) rfl
    have hcases : other = 20 ∨ other = 10 := by simpa [twoSessions, HostapdData.linkSta, HostapdData.init] using hother
    obtain rfl | rfl := hcases
    · rfl
    · exact absurd hid (by decide)

/-- Without an attribute every station satisfies all that are given, but `multi` is not set. -/
theorem multi_not_given :
    (∀ sta ∈ [10, 20], sta ∈ twoSessions.hapd.staList ∧ DasMatches twoSessions ⟨none, none, none, none, none⟩ sta) ∧
      twoSessions.hapd.Agrees ∧ (hostapdDasFindSta twoSessions ⟨none, none, none, none, none⟩).multi = false := by
  refine ⟨fun sta hsta => ⟨?_, ⟨by simp, by simp, by simp, by simp, by simp⟩⟩, agrees_twoSessions, by decide⟩
  revert sta
  decide

end Ethanol
