import EthanolHostapd.Ap.Message3
import EthanolHostapd.Ap.WpaAuthFt.RicResponse

/-!
# Elements of a reassociation response

`wpa_sm_write_assoc_resp_ies` of `wpa_auth_ft.c` with what it calls, and the check `wpa_ft_validate_reassoc` that a
request passes before.  The response is put into a buffer of `max_len` bytes; the number of answers to resource requests
is up to the station.
-/

namespace Ethanol

open Wire

/-! ## The code -/

/-- What else is read of `struct wpa_auth_config`. -/
structure FtRespConfig where
  r0KeyHolder : List UInt8
  r1KeyHolder : Vector UInt8 6
  ric : RicEnv

/-- What is read of `struct wpa_state_machine`, and the address of the authenticator.  `kck` and `kek` are as long as
`kck_len` and `kek_len` say; `assocRespFtie` is the element that is stored. -/
structure FtRespSm where
  addr : Vector UInt8 6
  authAddr : Vector UInt8 6
  wpaKeyMgmt : ℕ
  pmkR1Name : Pmkid
  r0khId : List UInt8
  aNonce : Vector UInt8 32
  sNonce : Vector UInt8 32
  mgmtFrameProt : Bool
  kck : List UInt8
  kek : List UInt8
  assocRespFtie : Option (List UInt8)

/-- Memory, the sequence numbers, and the functions of the crypto library. -/
structure FtRespEnv where
  zallocGtk : Bool
  zallocIgtk : Bool
  realloc : Bool
  mallocFtie : Bool
  seqnum : ℕ → Vector UInt8 8
  aesWrap : List UInt8 → (n : ℕ) → List UInt8 → Option (Vector UInt8 (8 * n + 8))
  omac1 : List UInt8 → List (List UInt8) → Option (Vector UInt8 16)

/-- The GTK, padded for the key wrap if it is no multiple of eight bytes or too short. -/
def paddedGtk (gtk : List UInt8) : List UInt8 :=
  let pad := if gtk.length % 8 ≠ 0 then 8 - gtk.length % 8 else 0
  let pad := if gtk.length + pad < 16 then pad + 8 else pad
  if pad ≠ 0 ∧ gtk.length < 32 then gtk ++ 0xdd :: List.replicate (pad - 1) 0 else gtk

/-- `wpa_ft_gtk_subelem`. -/
def wpaFtGtkSubelem (env : FtRespEnv) (sm : FtRespSm) (group : Message3Group) : Option (List UInt8) :=
  if 32 < group.gtk.length then none
  else
    let key := paddedGtk group.gtk
    if env.zallocGtk then
      (env.aesWrap sm.kek (key.length / 8) key).map fun wrapped =>
        [2, UInt8.ofNat (11 + key.length + 8)] ++ (leBytes 2 (group.gn &&& 3) ++ (UInt8.ofNat group.gtk.length ::
          ((env.seqnum group.gn).toList ++ wrapped.toList)))
    else none

/-- `wpa_ft_igtk_subelem`. -/
def wpaFtIgtkSubelem (env : FtRespEnv) (sm : FtRespSm) (group : Message3Group) : Option (List UInt8) :=
  if env.zallocIgtk then
    (env.aesWrap sm.kek (16 / 8) (group.igtk.toList.take 16)).map fun wrapped =>
      [4, 1 + 1 + 2 + 6 + 1 + 16 + 8 - 2] ++ (leBytes 2 group.gnIgtk ++ ((env.seqnum group.gnIgtk).toList.take 6 ++
        (16 :: wrapped.toList)))
  else none

/-- The subelements with the keys for fast transition, where the inner `none` is `NULL`; the outer `none` ends the
response. -/
def ftSubelem (env : FtRespEnv) (sm : FtRespSm) (group : Message3Group) : Option (Option (List UInt8)) :=
  let gtk := wpaFtGtkSubelem env sm group
  if sm.mgmtFrameProt then
    match wpaFtIgtkSubelem env sm group with
    | none => none
    | some igtk => if env.realloc then some (some (gtk.getD [] ++ igtk)) else none
  else some gtk

/-- `wpa_ft_mic`: the MIC over some elements, where a missing element is left out. -/
def wpaFtMic (env : FtRespEnv) (sm : FtRespSm) (transactionSeqnum : UInt8) (mdie ftie rsnie : List UInt8)
    (ric : Option (List UInt8)) : Option (Vector UInt8 16) :=
  if sm.kck.length ≠ 16 then none
  else if ftie.length < 2 + 82 then none
  else
    env.omac1 sm.kck ([sm.addr.toList, sm.authAddr.toList, [transactionSeqnum], rsnie, mdie, ftie.take (2 + 2),
      List.replicate 16 0, ftie.drop (2 + 2 + 16)] ++ ric.toList)

/-- What `wpa_sm_write_assoc_resp_ies` leaves: the buffer, the position that it returns and the stored FTIE. -/
structure AssocResp where
  buf : List UInt8
  pos : ℕ
  assocRespFtie : Option (List UInt8)

section Response

variable (build : RsnBuild) (conf : WpaAuthConfig) (cfg : FtRespConfig) (sm : FtRespSm) (group : Message3Group)
  (env : FtRespEnv) (authFt : Bool) (reqIes : List UInt8)

/-- The answers to the resource requests, from `pos` on, with the count in the FTIE at `ftie`. -/
def assocRespRic (ftie : ℕ) (buf : List UInt8) (pos : ℕ) : Option (List UInt8 × ℕ) := do
  match ← wpaFtParseIes build reqIes with
  | none => pure (buf, pos)
  | some parse =>
    match parse.ric with
    | none => pure (buf, pos)
    | some ric =>
      let (buf, stop) ← wpaFtProcessRic cfg.ric reqIes (ric + parse.ricLen) ric buf pos
      if authFt then
        let count ← ieee80211IeCount buf pos (stop - pos)
        let old ← buf[ftie + 2 + 1]?
        let buf ← Buffer.write buf (ftie + 2 + 1) [old + UInt8.ofNat count]
        pure (buf, stop)
      else pure (buf, stop)

/-- The MIC of the response. -/
def assocRespMic (mdie ftie ricStart : ℕ) (buf : List UInt8) (pos : ℕ) : Option (List UInt8) := do
  let rsnieBytes ← Buffer.read buf 0 mdie
  let mdieBytes ← Buffer.read buf mdie (ftie - mdie)
  let ftieBytes ← Buffer.read buf ftie (ricStart - ftie)
  let ricBytes ← Buffer.read buf ricStart (pos - ricStart)
  match wpaFtMic env sm 6 mdieBytes ftieBytes rsnieBytes (if pos = ricStart then none else some ricBytes) with
  | none => pure buf
  | some mic => Buffer.write buf (ftie + 2 + 2) mic.toList

/-- What follows the FTIE, which is between `ftie` and `ricStart`. -/
def assocRespEnd (mdie ftie : ℕ) (buf : List UInt8) (ricStart : ℕ) : Option AssocResp := do
  let buf ← if authFt then Buffer.write buf (ftie + 2 + 1) [3] else some buf
  let (buf, pos) ← assocRespRic build cfg authFt reqIes ftie buf ricStart
  let buf ← if authFt then assocRespMic sm env mdie ftie ricStart buf pos else some buf
  let stored ← Buffer.read buf ftie (ricStart - ftie)
  pure ⟨buf, pos, if env.mallocFtie then some stored else none⟩

/-- The FTIE of the response. -/
def assocRespFtie (subelem : Option (List UInt8)) : Buffer.Writer UInt8 :=
  if authFt then wpaWriteFtie cfg.r1KeyHolder (some sm.r0khId) (some sm.aNonce) (some sm.sNonce) subelem
  else wpaWriteFtie cfg.r1KeyHolder (some cfg.r0KeyHolder) none none none

/-- The RSN element of the response, only for fast transition. -/
def assocRespRsn (maxLen : ℕ) : Written :=
  if authFt then wpaWriteRsnIe build conf maxLen (some sm.pmkR1Name) else Written.nothing

/-- `wpa_sm_write_assoc_resp_ies` for a buffer of `max_len` bytes; `authFt` stands for `WLAN_AUTH_FT`.  There is no
result if something outside the buffer or the request is accessed. -/
def wpaSmWriteAssocRespIes (buf : List UInt8) : Option AssocResp :=
  if ¬wpaKeyMgmtFt sm.wpaKeyMgmt then some ⟨buf, 0, sm.assocRespFtie⟩
  else do
    let rsn := assocRespRsn build conf sm authFt buf.length
    let buf ← Buffer.write buf 0 rsn.bytes
    if ¬rsn.ok then pure ⟨buf, 0, sm.assocRespFtie⟩
    else
      let mdie := rsn.bytes.length
      let written := wpaWriteMdie conf (buf.length - mdie)
      let buf ← Buffer.write buf mdie written.bytes
      if ¬written.ok then pure ⟨buf, mdie, sm.assocRespFtie⟩
      else
        let ftie := mdie + written.bytes.length
        match if authFt then ftSubelem env sm group else some none with
        | none => pure ⟨buf, ftie, sm.assocRespFtie⟩
        | some subelem =>
          match ← assocRespFtie cfg sm authFt subelem buf ftie with
          | none => pure ⟨buf, ftie, sm.assocRespFtie⟩
          | some (buf, pos) => assocRespEnd build cfg sm env authFt reqIes mdie ftie buf pos

end Response

/-- The elements that the MIC of a request protects agree with the MIC. -/
def validMic (env : FtRespEnv) (sm : FtRespSm) (ies : List UInt8) (parse : WpaFtIes) (rsn mdie ftie : ℕ × ℕ) :
    Option ℕ := do
  let ftieBytes ← Buffer.read ies (ftie.1 - 2) (ftie.2 + 2)
  let mdieBytes ← Buffer.read ies (mdie.1 - 2) (mdie.2 + 2)
  let rsnBytes ← Buffer.read ies (rsn.1 - 2) (rsn.2 + 2)
  let ricBytes ← match parse.ric with
    | none => some none
    | some ric => (Buffer.read ies ric parse.ricLen).map some
  let count ← match parse.ric with
    | none => some 0
    | some ric => ieee80211IeCount ies ric parse.ricLen
  if (ftieBytes.getD 3 0).toNat ≠ 3 + count then pure 65535
  else
    match wpaFtMic env sm 5 mdieBytes ftieBytes rsnBytes ricBytes with
    | none => pure 1
    | some mic => if mic.toList ≠ (ftieBytes.drop 4).take 16 then pure 55 else pure 0 -- WLAN_STATUS_INVALID_FTIE

/-- `wpa_ft_validate_reassoc`: the status code. -/
def wpaFtValidateReassoc (build : RsnBuild) (conf : WpaAuthConfig) (cfg : FtRespConfig) (sm : FtRespSm)
    (env : FtRespEnv) (ies : List UInt8) : Option ℕ := do
  match ← wpaFtParseIes build ies with
  | none => pure 1 -- WLAN_STATUS_UNSPECIFIED_FAILURE
  | some parse =>
    match parse.rsn, parse.rsnPmkid, parse.mdie, parse.ftie with
    | none, _, _, _ => pure 1
    | some _, none, _, _ => pure 53 -- WLAN_STATUS_INVALID_PMKID
    | some rsn, some pmkid, mdie, ftie =>
      if pmkid ≠ sm.pmkR1Name.bytes then pure 53
      else
        match mdie with
        | none => pure 54 -- WLAN_STATUS_INVALID_MDIE
        | some mdie =>
          if mdie.2 < 3 then pure 54
          else if (← Buffer.read ies mdie.1 2) ≠ conf.mobilityDomain.toList then pure 54
          else
            match ftie with
            | none => pure 55
            | some ftie =>
              if ftie.2 < 82 then pure 55
              else if (← Buffer.read ies (ftie.1 + 50) 32) ≠ sm.sNonce.toList then pure 65535
              else if (← Buffer.read ies (ftie.1 + 18) 32) ≠ sm.aNonce.toList then pure 65535
              else
                match parse.r0khId, parse.r1khId with
                | none, _ => pure 65535
                | some r0khId, r1khId =>
                  if (← Buffer.read ies r0khId.1 r0khId.2) ≠ sm.r0khId then pure 65535
                  else
                    match r1khId with
                    | none => pure 65535
                    | some r1khId =>
                      if (← Buffer.read ies r1khId 6) ≠ cfg.r1KeyHolder.toList then pure 65535
                      else validMic env sm ies parse rsn mdie ftie

/-! ## The answers and the room for them -/

/-- The resource requests of a reassociation request. -/
def requestedResources (build : RsnBuild) (reqIes : List UInt8) : List RicRequest :=
  match wpaFtParseIes build reqIes with
  | some (some parse) =>
    match parse.ric with
    | some ric => ricRequests (walk (fun _ => false) (Buffer.window reqIes ric parse.ricLen)).1
    | none => []
  | _ => []

section Room

variable {build : RsnBuild} {conf : WpaAuthConfig} {cfg : FtRespConfig} {sm : FtRespSm} {group : Message3Group}
  {env : FtRespEnv} {authFt : Bool} {reqIes buf : List UInt8} {mdie ftie ricStart pos : ℕ}

/-- The walk over a container that starts with a RIC data element answers its requests. -/
lemma wpaFtProcessRic_eq {ric ricLen : ℕ} {es : List Element} {after : List UInt8} (ricEnv : RicEnv)
    (hdrop : reqIes.drop ric = elementBytes es ++ after) (hlen : ricLen = (elementBytes es).length)
    (hhead : ∀ e ∈ es.head?, e.id = wlanEidRicData) :
    wpaFtProcessRic ricEnv reqIes (ric + ricLen) ric buf pos =
      answerAll ricEnv (ricRequests (walk (fun _ => false) (Buffer.window reqIes ric ricLen)).1) buf pos := by
  have hwindow : Buffer.window reqIes ric ricLen = elementBytes es ++ [] := by
    rw [Buffer.window, hdrop, hlen, List.take_left, List.append_nil]
  have hwalk : (walk (fun _ => false) (Buffer.window reqIes ric ricLen)).1 = es := by
    rw [hwindow, walk_elementBytes fun _ _ => rfl, walk_of_none rfl, List.append_nil]
  obtain ⟨hes, hlead, hgroups⟩ := splitRic_spec es
  have hnoLead : (splitRic es).1 = [] := by
    cases es with
    | nil => rfl
    | cons e es => rw [splitRic, if_pos (hhead e rfl)]
  rw [hnoLead, List.nil_append] at hes
  rw [hes] at hdrop hlen
  rw [hwalk, ricRequests, wpaFtProcessRic_groups hgroups hdrop (by rw [hlen])]

/-- The answers and their count are put inside the buffer if and only if the room never misleads the test. -/
lemma assocRespRic_spec (build : RsnBuild) (cfg : FtRespConfig) (authFt : Bool) (reqIes : List UInt8)
    (hftie : ftie + 94 ≤ pos) (hpos : pos ≤ buf.length) :
    (AnswersFit cfg.ric (buf.length - pos) (requestedResources build reqIes) → ∃ buf' pos',
        assocRespRic build cfg authFt reqIes ftie buf pos = some (buf', pos') ∧ buf'.length = buf.length ∧
          pos ≤ pos' ∧ pos' ≤ buf.length) ∧
      (¬AnswersFit cfg.ric (buf.length - pos) (requestedResources build reqIes) →
        assocRespRic build cfg authFt reqIes ftie buf pos = none) := by
  obtain ⟨result, hresult, hric⟩ := wpaFtParseIes_ric build reqIes
  have hnothing {c : Prop} (hc : c) : (c → ∃ buf' pos', some (buf, pos) = some (buf', pos') ∧
      buf'.length = buf.length ∧ pos ≤ pos' ∧ pos' ≤ buf.length) ∧
      (¬c → some (buf, pos) = none) := ⟨fun _ => ⟨buf, pos, rfl, rfl, le_rfl, hpos⟩, fun hnot => absurd hc hnot⟩
  simp only [requestedResources, assocRespRic, hresult, bind, Option.bind_some]
  match result with
  | none => exact hnothing trivial
  | some parse =>
    dsimp only
    cases hparse : parse.ric with
    | none => exact hnothing trivial
    | some ric =>
      obtain ⟨es, after, hdrop, -, hlen, hhead⟩ := hric parse rfl ric hparse
      dsimp only
      rw [wpaFtProcessRic_eq cfg.ric hdrop hlen hhead]
      obtain ⟨hfits, hnot⟩ := answerAll_iff cfg.ric
        (ricRequests (walk (fun _ => false) (Buffer.window reqIes ric parse.ricLen)).1) hpos
      refine ⟨fun hand => ?_, fun hnand => by rw [hnot hnand]; rfl⟩
      obtain ⟨buf', pos', hanswer, hlength, hle, hle'⟩ := hfits hand
      rw [hanswer, Option.bind_some]
      dsimp only
      cases authFt with
      | false => exact ⟨buf', pos', rfl, hlength, hle, hle'⟩
      | true =>
        obtain ⟨count, hcount⟩ : ∃ count, ieee80211IeCount buf' pos (pos' - pos) = some count :=
          ieee80211IeCount_inside (by omega)
        have hbyte : ftie + 2 + 1 < buf'.length := by omega
        have hwrite (b : UInt8) : ftie + 2 + 1 + [b].length ≤ buf'.length := hbyte
        rw [if_pos rfl, hcount, Option.bind_some, List.getElem?_eq_getElem hbyte, Option.bind_some,
          Buffer.write_eq_some (hwrite _), Option.bind_some]
        exact ⟨_, pos', rfl, (Buffer.length_splice (hwrite _)).trans hlength, hle, hle'⟩

/-- The MIC is over bytes that have been written and it is put into the FTIE. -/
lemma assocRespMic_spec (sm : FtRespSm) (env : FtRespEnv) (hmdie : mdie ≤ ftie) (hftie : ftie + 94 ≤ ricStart)
    (hric : ricStart ≤ pos) (hpos : pos ≤ buf.length) :
    ∃ buf', assocRespMic sm env mdie ftie ricStart buf pos = some buf' ∧ buf'.length = buf.length := by
  have hread {off n : ℕ} (h : off + n ≤ buf.length) := Buffer.read_eq_some h
  rw [assocRespMic, hread (show 0 + mdie ≤ buf.length by omega), hread (show mdie + (ftie - mdie) ≤ buf.length by omega),
    hread (show ftie + (ricStart - ftie) ≤ buf.length by omega),
    hread (show ricStart + (pos - ricStart) ≤ buf.length by omega)]
  simp only [bind, Option.bind_some]
  split
  · exact ⟨buf, rfl, rfl⟩
  · next mic hmic =>
    have hwrite : ftie + 2 + 2 + mic.toList.length ≤ buf.length := by
      rw [mic.length_toList]
      omega
    exact ⟨_, Buffer.write_eq_some hwrite, Buffer.length_splice hwrite⟩

lemma assocRespEnd_eq (build : RsnBuild) (cfg : FtRespConfig) (sm : FtRespSm) (env : FtRespEnv) (authFt : Bool)
    (reqIes : List UInt8) (mdie ftie : ℕ) (buf : List UInt8) (ricStart : ℕ) :
    assocRespEnd build cfg sm env authFt reqIes mdie ftie buf ricStart =
      (if authFt then Buffer.write buf (ftie + 2 + 1) [3] else some buf).bind fun buf =>
        (assocRespRic build cfg authFt reqIes ftie buf ricStart).bind fun after =>
          (if authFt then assocRespMic sm env mdie ftie ricStart after.1 after.2 else some after.1).bind fun buf =>
            (Buffer.read buf ftie (ricStart - ftie)).map fun stored =>
              ⟨buf, after.2, if env.mallocFtie then some stored else none⟩ := by
  have hmap (read : Option (List UInt8)) (f : List UInt8 → AssocResp) :
      (read.bind fun stored => some (f stored)) = read.map f := by
    cases read <;> rfl
  cases authFt with
  | false =>
    simp only [assocRespEnd, bind, pure, if_neg Bool.false_ne_true, Option.bind_some, hmap]
  | true =>
    simp only [assocRespEnd, bind, pure, if_true, hmap]

/-- What becomes of the buffer behind the FTIE. -/
lemma assocRespEnd_spec (build : RsnBuild) (cfg : FtRespConfig) (sm : FtRespSm) (env : FtRespEnv) (authFt : Bool)
    (reqIes : List UInt8) (hmdie : mdie ≤ ftie) (hftie : ftie + 94 ≤ ricStart) (hric : ricStart ≤ buf.length) :
    (∃ resp, assocRespEnd build cfg sm env authFt reqIes mdie ftie buf ricStart = some resp ∧
        resp.buf.length = buf.length ∧ resp.pos ≤ buf.length) ↔
      AnswersFit cfg.ric (buf.length - ricStart) (requestedResources build reqIes) := by
  have hcount : ftie + 2 + 1 + [(3 : UInt8)].length ≤ buf.length := by
    rw [List.length_singleton]
    omega
  obtain ⟨start, hstart, hlength⟩ : ∃ start,
      (if authFt = true then Buffer.write buf (ftie + 2 + 1) [3] else some buf) = some start ∧
        start.length = buf.length := by
    cases authFt with
    | false => exact ⟨buf, rfl, rfl⟩
    | true => exact ⟨_, Buffer.write_eq_some hcount, Buffer.length_splice hcount⟩
  obtain ⟨hfits, hnot⟩ := assocRespRic_spec build cfg authFt reqIes hftie (hric.trans hlength.ge)
  rw [hlength] at hfits hnot
  rw [assocRespEnd_eq, hstart, Option.bind_some]
  constructor
  · rintro ⟨resp, hresp, -⟩
    by_contra hmisled
    rw [hnot hmisled] at hresp
    cases hresp
  · intro hfit
    obtain ⟨buf', pos', hanswer, hlength', hle, hle'⟩ := hfits hfit
    obtain ⟨last, hlast, hlastLength⟩ : ∃ last,
        (if authFt = true then assocRespMic sm env mdie ftie ricStart buf' pos' else some buf') = some last ∧
          last.length = buf.length := by
      cases authFt with
      | false => exact ⟨buf', rfl, hlength'⟩
      | true =>
        obtain ⟨last, hlast, hlastLength⟩ := assocRespMic_spec sm env hmdie hftie hle (hle'.trans hlength'.ge)
        exact ⟨last, hlast, hlastLength.trans hlength'⟩
    have hstored : ftie + (ricStart - ftie) ≤ last.length := by omega
    rw [hanswer, Option.bind_some]
    dsimp only
    rw [hlast, Option.bind_some, Buffer.read_eq_some hstored, Option.map_some]
    exact ⟨_, rfl, hlastLength, hle'⟩

end Room

/-! ## The whole function -/

/-- The number of bytes in front of the answers, if the response gets there: the RSN element, the mobility domain element
and the FTIE. -/
def beforeAnswers (build : RsnBuild) (conf : WpaAuthConfig) (cfg : FtRespConfig) (sm : FtRespSm)
    (group : Message3Group) (env : FtRespEnv) (authFt : Bool) (maxLen : ℕ) : Option ℕ :=
  let rsn := assocRespRsn build conf sm authFt maxLen
  if ¬rsn.ok ∨ maxLen < rsn.bytes.length + (2 + 3) then none
  else
    (if authFt then ftSubelem env sm group else some none).bind fun subelem =>
      let r0khId := if authFt then sm.r0khId else cfg.r0KeyHolder
      let size := rsn.bytes.length + (2 + 3) + (94 + r0khId.length + (subelem.getD []).length)
      if size ≤ maxLen then some size else none

lemma assocRespFtie_spec (cfg : FtRespConfig) (sm : FtRespSm) (authFt : Bool) (subelem : Option (List UInt8))
    (buf : List UInt8) (pos : ℕ) {size : ℕ} (hsubelem : authFt = false → subelem = none)
    (hsize : size = 94 + (if authFt then sm.r0khId else cfg.r0KeyHolder).length + (subelem.getD []).length) :
    (buf.length - pos < size → assocRespFtie cfg sm authFt subelem buf pos = some none) ∧
      (size ≤ buf.length - pos → ∃ buf',
        assocRespFtie cfg sm authFt subelem buf pos = some (some (buf', pos + size)) ∧ buf'.length = buf.length) := by
  cases authFt with
  | true =>
    have hwrite := wpaWriteFtie_spec cfg.r1KeyHolder sm.r0khId (some sm.aNonce) (some sm.sNonce) subelem buf pos
    rw [if_pos rfl] at hsize
    rw [← hsize] at hwrite
    exact hwrite
  | false =>
    have hwrite := wpaWriteFtie_spec cfg.r1KeyHolder cfg.r0KeyHolder none none none buf pos
    rw [if_neg Bool.false_ne_true, hsubelem rfl] at hsize
    rw [← hsize] at hwrite
    exact hwrite

/-- With room for the RSN element the response is put inside its buffer, and only the request is read, if and only if no
resource request is reached with four or five bytes left. -/
theorem wpaSmWriteAssocRespIes_iff (build : RsnBuild) (conf : WpaAuthConfig) (cfg : FtRespConfig) (sm : FtRespSm)
    (group : Message3Group) (env : FtRespEnv) (authFt : Bool) (reqIes buf : List UInt8)
    (hroom : (assocRespRsn build conf sm authFt buf.length).bytes.length ≤ buf.length) :
    (∃ resp, wpaSmWriteAssocRespIes build conf cfg sm group env authFt reqIes buf = some resp ∧
        resp.buf.length = buf.length ∧ resp.pos ≤ buf.length) ↔
      (wpaKeyMgmtFt sm.wpaKeyMgmt → ∀ size ∈ beforeAnswers build conf cfg sm group env authFt buf.length,
        AnswersFit cfg.ric (buf.length - size) (requestedResources build reqIes)) := by
  have hearly {c : Prop} {resp : AssocResp} (hlength : resp.buf.length = buf.length) (hpos : resp.pos ≤ buf.length)
      (hc : c) : (∃ r, some resp = some r ∧ r.buf.length = buf.length ∧ r.pos ≤ buf.length) ↔ c :=
    iff_of_true ⟨resp, rfl, hlength, hpos⟩ hc
  by_cases hft : wpaKeyMgmtFt sm.wpaKeyMgmt
  swap
  · rw [wpaSmWriteAssocRespIes, if_pos hft]
    exact hearly rfl (Nat.zero_le _) fun h => absurd h hft
  obtain ⟨rsn, hrsn⟩ : ∃ rsn, rsn = assocRespRsn build conf sm authFt buf.length := ⟨_, rfl⟩
  rw [← hrsn] at hroom
  have hput : 0 + rsn.bytes.length ≤ buf.length := by omega
  have hlength := Buffer.length_splice hput
  simp only [wpaSmWriteAssocRespIes, hft, not_true_eq_false, if_false, forall_true_left, beforeAnswers, ← hrsn, bind,
    Buffer.write_eq_some hput, Option.bind_some, pure]
  obtain ⟨buf', hbuf'⟩ : ∃ buf', buf' = Buffer.splice buf 0 rsn.bytes := ⟨_, rfl⟩
  rw [← hbuf'] at hlength ⊢
  by_cases hok : rsn.ok = true
  swap
  · rw [if_pos hok, if_pos (Or.inl hok)]
    exact hearly hlength (Nat.zero_le _) (by simp)
  rw [if_neg (not_not.mpr hok)]
  by_cases hmdie : buf.length < rsn.bytes.length + (2 + 3)
  · have hwritten : wpaWriteMdie conf (buf'.length - rsn.bytes.length) = ⟨[], false⟩ := by
      rw [wpaWriteMdie, if_pos (by omega)]
    have hnothing : rsn.bytes.length + ([] : List UInt8).length ≤ buf'.length := by
      rw [List.length_nil]
      omega
    rw [hwritten, Buffer.write_eq_some hnothing, Option.bind_some, if_pos Bool.false_ne_true, if_pos (Or.inr hmdie)]
    exact hearly ((Buffer.length_splice hnothing).trans hlength) hroom (by simp)
  · obtain ⟨written, hwritten, hwrittenOk, hwrittenLength⟩ : ∃ written,
        wpaWriteMdie conf (buf'.length - rsn.bytes.length) = written ∧ written.ok = true ∧
          written.bytes.length = 2 + 3 := by
      rw [wpaWriteMdie, if_neg (by omega)]
      exact ⟨_, rfl, rfl, by simp⟩
    have hmdieRoom : rsn.bytes.length + written.bytes.length ≤ buf'.length := by omega
    have hmdieLength := Buffer.length_splice hmdieRoom
    rw [hwritten, Buffer.write_eq_some hmdieRoom, Option.bind_some, if_neg (not_not.mpr hwrittenOk),
      if_neg (not_or.mpr ⟨not_not.mpr hok, hmdie⟩), hwrittenLength]
    obtain ⟨start, hstart⟩ : ∃ start, start = Buffer.splice buf' rsn.bytes.length written.bytes := ⟨_, rfl⟩
    rw [← hstart] at hmdieLength ⊢
    cases hsubelem : if authFt = true then ftSubelem env sm group else some none with
    | none => exact hearly (hmdieLength.trans hlength) (not_lt.mp hmdie) (by simp)
    | some subelem =>
      have hnone : authFt = false → subelem = none := by
        rintro rfl
        exact (Option.some.inj hsubelem).symm
      obtain ⟨size, hsize⟩ : ∃ size, size =
          94 + (if authFt then sm.r0khId else cfg.r0KeyHolder).length + (subelem.getD []).length := ⟨_, rfl⟩
      obtain ⟨hshort, hwrite⟩ :=
        assocRespFtie_spec cfg sm authFt subelem start (rsn.bytes.length + (2 + 3)) hnone hsize
      rw [Option.bind_some, ← hsize]
      dsimp only
      by_cases hfits : rsn.bytes.length + (2 + 3) + size ≤ buf.length
      · obtain ⟨buf'', hbuf'', hlength''⟩ := hwrite (by omega)
        have hbehind : rsn.bytes.length + (2 + 3) + size ≤ buf''.length := by omega
        have hend := assocRespEnd_spec build cfg sm env authFt reqIes
          (show rsn.bytes.length ≤ rsn.bytes.length + (2 + 3) by omega) (by omega) hbehind
        have hsame : buf''.length = buf.length := hlength''.trans (hmdieLength.trans hlength)
        rw [hsame] at hend
        rw [hbuf'', Option.bind_some, if_pos hfits]
        simpa using hend
      · rw [hshort (by omega), Option.bind_some, if_neg hfits]
        exact hearly (hmdieLength.trans hlength) (not_lt.mp hmdie) (by simp)

/-! ## A transition with one request -/

def transitionConf : WpaAuthConfig where
  wpa := wpaProtoRsn
  wpaKeyMgmt := wpaKeyMgmtFtPsk
  wpaPairwise := 0
  wpaGroup := wpaCipherCcmp
  rsnPairwise := wpaCipherCcmp
  rsnPreauth := false
  peerkey := false
  wmmEnabled := false
  okc := false
  ieee80211w := .noMgmtFrameProtection
  groupMgmtCipher := wpaCipherAes128Cmac
  mobilityDomain := Vector.replicate 2 0xa1
  ftOverDs := false

def transitionCfg : FtRespConfig := ⟨[0x61], Vector.replicate 6 1, ⟨true, none⟩⟩

def transitionSm : FtRespSm where
  addr := Vector.replicate 6 2
  authAddr := Vector.replicate 6 3
  wpaKeyMgmt := wpaKeyMgmtFtPsk
  pmkR1Name := Vector.replicate 16 7
  r0khId := [0x61]
  aNonce := Vector.replicate 32 4
  sNonce := Vector.replicate 32 5
  mgmtFrameProt := false
  kck := List.replicate 16 6
  kek := List.replicate 16 7
  assocRespFtie := none

def transitionGroup : Message3Group := ⟨1, List.replicate 16 8, 4, Vector.replicate 32 9, true⟩

def transitionEnv : FtRespEnv where
  zallocGtk := true
  zallocIgtk := true
  realloc := true
  mallocFtie := true
  seqnum := fun _ => Vector.replicate 8 0
  aesWrap := fun _ _ _ => some (Vector.replicate _ 0)
  omac1 := fun _ _ => some (Vector.replicate 16 0)

/-- The RSN element, the mobility domain element, the FTIE, and a RIC data element without a resource descriptor. -/
def transitionReq : List UInt8 :=
  (wpaWriteRsnIe ⟨true, true⟩ transitionConf 128 (some transitionSm.pmkR1Name)).bytes ++
    (wpaWriteMdie transitionConf 128).bytes ++ ([55, 93, 0, 4] ++ List.replicate 16 0 ++ List.replicate 32 4 ++
      List.replicate 32 5 ++ [1, 6] ++ List.replicate 6 1 ++ [3, 1, 0x61]) ++ [wlanEidRicData, 4, 1, 0, 0, 0]

/-- Six bytes behind the FTIE are enough. -/
theorem wpaSmWriteAssocRespIes_iff_enough :
    ∃ resp, wpaSmWriteAssocRespIes ⟨true, true⟩ transitionConf transitionCfg transitionSm transitionGroup transitionEnv
        true transitionReq (List.replicate (177 + 6) 0) = some resp ∧
      resp.buf.length = (List.replicate (177 + 6) (0 : UInt8)).length ∧
      resp.pos ≤ (List.replicate (177 + 6) (0 : UInt8)).length :=
  (wpaSmWriteAssocRespIes_iff ⟨true, true⟩ transitionConf transitionCfg transitionSm transitionGroup transitionEnv true
    transitionReq _ (by decide +kernel)).mpr (by decide +kernel)

/-- With four bytes the answer to a valid request goes beyond the end of the buffer. -/
theorem wpaSmWriteAssocRespIes_outside :
    wpaFtValidateReassoc ⟨true, true⟩ transitionConf transitionCfg transitionSm transitionEnv transitionReq = some 0 ∧
      (assocRespRsn ⟨true, true⟩ transitionConf transitionSm true (177 + 4)).ok = true ∧
      (assocRespRsn ⟨true, true⟩ transitionConf transitionSm true (177 + 4)).bytes.length ≤ 177 + 4 ∧
      (wpaSmWriteAssocRespIes ⟨true, true⟩ transitionConf transitionCfg transitionSm transitionGroup transitionEnv
        true transitionReq (List.replicate (177 + 4) 0)).isNone := by
  decide +kernel

end Ethanol
