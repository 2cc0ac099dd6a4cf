import EthanolHostapd.Common.FtIes
import EthanolHostapd.Common.Ieee80211Common

/-!
# Resource responses

`wpa_ft_process_ric` of `wpa_auth_ft.c`, which walks over the resource requests of a reassociation request and answers
each of them by `wpa_ft_process_rdie`, and `wmm_process_tspec` of `wmm.c`.  The room that is left is tested before the
answer is put, but the test does not count the two bytes in front of the descriptor.
-/

namespace Ethanol

open Wire

/-! ## The code -/

/-- `WMM_ADDTS_STATUS_*`. -/
inductive WmmAddtsStatus
  | admissionAccepted | invalidParameters | refused
  deriving DecidableEq

/-- A product as a 32-bit `int`. -/
def toInt32 (n : ℕ) : ℤ := Int.bmod n (2 ^ 32)

/-- `wmm_process_tspec`, for the bytes of the element. -/
def wmmProcessTspec (tspec : List UInt8) : WmmAddtsStatus × List UInt8 :=
  let nominal := leNat ((tspec.drop 11).take 2)
  let meanDataRate := leNat ((tspec.drop 39).take 4)
  let minimumPhyRate := leNat ((tspec.drop 55).take 4)
  let surplus := leNat ((tspec.drop 59).take 2)
  if nominal = 0 then (.invalidParameters, tspec)
  else
    let pps := (meanDataRate / 8 + nominal - 1) / nominal
    if minimumPhyRate < 1000000 then (.invalidParameters, tspec)
    else
      let duration := nominal % 0x8000 * 8 / (minimumPhyRate / 1000000) + 50
      if surplus ≤ 0x2000 then (.invalidParameters, tspec)
      else
        let mediumTime := (toInt32 (surplus * pps * duration)).tdiv 0x2000
        if 750000 < mediumTime then (.refused, tspec)
        else (.admissionAccepted, tspec.take 61 ++ leBytes 2 ((mediumTime.tdiv 32) % 65536).toNat)

/-- Whether the authenticator has its own MLME, and the callback `add_tspec`: its result and the element it leaves. -/
structure RicEnv where
  apMlme : Bool
  addTspec : Option (List UInt8 → ℤ × Vector UInt8 63)

/-- What becomes of a TSPEC that is in the answer: the result as a status code, where zero means that it has been
accepted and `none` that nobody has looked at it, and the element. -/
def processTspec (env : RicEnv) (tspec : List UInt8) : Option ℤ × List UInt8 :=
  if env.apMlme then
    match wmmProcessTspec tspec with
    | (.invalidParameters, tspec) => (some 38, tspec) -- WLAN_STATUS_INVALID_PARAMETERS
    | (.refused, tspec) => (some 37, tspec) -- WLAN_STATUS_REQUEST_DECLINED
    | (.admissionAccepted, tspec) => (some 0, tspec)
  else
    match env.addTspec with
    | none => (none, tspec)
    | some addTspec =>
      if 0 ≤ (addTspec tspec).1 then (some (addTspec tspec).1, (addTspec tspec).2.toList)
      else (none, (addTspec tspec).2.toList)

/-- The answer ends at `pos` with a status code in the descriptor at `rdie`. -/
def refuse (buf : List UInt8) (rdie pos : ℕ) (status : ℤ) : Option (List UInt8 × ℕ) :=
  (Buffer.write buf (rdie + 2) (leBytes 2 (status % 65536).toNat)).map fun buf => (buf, pos)

/-- `wpa_ft_process_rdie`: from the buffer and the position to those behind the answer. -/
def wpaFtProcessRdie (env : RicEnv) (buf : List UInt8) (pos : ℕ) (id : UInt8) (ies : List UInt8) :
    Option (List UInt8 × ℕ) :=
  if buf.length - pos < 4 then some (buf, pos)
  else do
    let rdie := pos + 2
    let buf ← Buffer.write buf pos [wlanEidRicData, 4, id, 0, 0, 0]
    let pos := pos + 2 + 4
    let (res, parse) := ieee80211ParseElems ies true
    if res = .parseFailed then refuse buf rdie pos 1 -- WLAN_STATUS_UNSPECIFIED_FAILURE
    else
      match parse.elems.ptr .wmmTspec with
      | none => refuse buf rdie pos 1
      | some wmmTspec =>
        if (parse.elems.len .wmmTspec).toNat + 2 < 63 then refuse buf rdie pos 1
        else if buf.length - pos < 63 then refuse buf rdie pos 1
        else do
          let tspec ← Buffer.read ies (wmmTspec - 2) 63
          let buf ← Buffer.write buf pos tspec
          let (status, tspec) := processTspec env tspec
          let buf ← Buffer.write buf pos tspec
          match status with
          | none => refuse buf rdie pos 1
          | some 0 =>
            let buf ← Buffer.write buf (rdie + 1) [1]
            pure (buf, pos + 63)
          | some status => refuse buf rdie pos status

/-- The inner loop of `wpa_ft_process_ric`: the position behind the descriptors of a request. -/
def ricDescriptors (ies : List UInt8) (stop rpos : ℕ) : Option ℕ :=
  if rpos + 2 ≤ stop then
    (ies[rpos + 1]?).bind fun len =>
      if rpos + 2 + len.toNat ≤ stop then
        (ies[rpos]?).bind fun id =>
          if id = wlanEidRicData then some rpos else ricDescriptors ies stop (rpos + 2 + len.toNat)
      else some rpos
  else some rpos
termination_by stop - rpos

lemma le_of_ricDescriptors {ies : List UInt8} {stop rpos next : ℕ} (h : ricDescriptors ies stop rpos = some next) :
    rpos ≤ next := by
  induction rpos using ricDescriptors.induct stop generalizing next with
  | case1 rpos hle ih =>
    rw [ricDescriptors, if_pos hle] at h
    obtain ⟨len, hlen, h⟩ := Option.bind_eq_some_iff.mp h
    split at h
    · next hfits =>
      obtain ⟨id, hid, h⟩ := Option.bind_eq_some_iff.mp h
      split at h
      · exact (Option.some.inj h).le
      · have hnext := ih len hfits h
        omega
    · exact (Option.some.inj h).le
  | case2 rpos hle =>
    rw [ricDescriptors, if_neg hle] at h
    exact (Option.some.inj h).le

/-- `wpa_ft_process_ric` for the requests from `rpos` up to `stop`. -/
def wpaFtProcessRic (env : RicEnv) (ies : List UInt8) (stop rpos : ℕ) (buf : List UInt8) (pos : ℕ) :
    Option (List UInt8 × ℕ) :=
  if rpos + 4 < stop then
    (ies[rpos]?).bind fun eid =>
      if eid ≠ wlanEidRicData then some (buf, pos)
      else
        (ies[rpos + 1]?).bind fun len =>
          if len < 4 ∨ stop < rpos + 2 + len.toNat then some (buf, pos)
          else
            (ies[rpos + 2]?).bind fun id =>
              match h : ricDescriptors ies stop (rpos + 2 + len.toNat) with
              | none => none
              | some next =>
                (Buffer.read ies (rpos + 2 + len.toNat) (next - (rpos + 2 + len.toNat))).bind fun descriptors =>
                  (wpaFtProcessRdie env buf pos id descriptors).bind fun after =>
                    wpaFtProcessRic env ies stop next after.1 after.2
  else some (buf, pos)
termination_by stop - rpos
decreasing_by
  have hle := le_of_ricDescriptors h
  omega

/-! ## The size of an answer -/

/-- A request has a TSPEC that is accepted. -/
def tspecAccepted (env : RicEnv) (ies : List UInt8) : Bool :=
  let (res, parse) := ieee80211ParseElems ies true
  match parse.elems.ptr .wmmTspec with
  | none => false
  | some wmmTspec =>
    res ≠ .parseFailed ∧ 63 ≤ (parse.elems.len .wmmTspec).toNat + 2 ∧
      (processTspec env (Buffer.window ies (wmmTspec - 2) 63)).1 = some 0

/-- The number of bytes of the answer to a request, if there is some room. -/
def answerSize (env : RicEnv) (room : ℕ) (ies : List UInt8) : ℕ :=
  if room < 4 then 0 else if tspecAccepted env ies ∧ 2 + 4 + 63 ≤ room then 2 + 4 + 63 else 2 + 4

/-- The room does not mislead the test. -/
def RoomOk (room : ℕ) : Prop := room < 4 ∨ 2 + 4 ≤ room

instance (room : ℕ) : Decidable (RoomOk room) := inferInstanceAs (Decidable (_ ∨ _))

section Answer

variable {env : RicEnv} {buf ies : List UInt8} {pos rdie : ℕ} {id : UInt8}

lemma refuse_spec (pos : ℕ) (h : rdie + 4 ≤ buf.length) (status : ℤ) :
    ∃ buf', refuse buf rdie pos status = some (buf', pos) ∧ buf'.length = buf.length := by
  have hroom : rdie + 2 + (leBytes 2 (status % 65536).toNat).length ≤ buf.length := by
    rw [length_leBytes]
    omega
  rw [refuse, Buffer.write_eq_some hroom]
  exact ⟨_, rfl, Buffer.length_splice hroom⟩

lemma length_wmmProcessTspec {tspec : List UInt8} (h : tspec.length = 63) : (wmmProcessTspec tspec).2.length = 63 := by
  unfold wmmProcessTspec
  dsimp only
  split_ifs
  · exact h
  · exact h
  · exact h
  · exact h
  · simp [h]

lemma length_processTspec (env : RicEnv) {tspec : List UInt8} (h : tspec.length = 63) : (processTspec env tspec).2.length = 63 := by
  unfold processTspec
  split
  · have hlength := length_wmmProcessTspec h
    split
    · next heq => rw [heq] at hlength; exact hlength
    · next heq => rw [heq] at hlength; exact hlength
    · next heq => rw [heq] at hlength; exact hlength
  · split
    · exact h
    · split <;> simp

/-- The TSPEC is inside the string, with its header. -/
lemma wmmTspec_inside (ies : List UInt8) {wmmTspec : ℕ}
    (h : (ieee80211ParseElems ies true).2.elems.ptr .wmmTspec = some wmmTspec) :
    2 ≤ wmmTspec ∧ wmmTspec + ((ieee80211ParseElems ies true).2.elems.len .wmmTspec).toNat ≤ ies.length := by
  have hstart : (⟨.cleared, 0, [], []⟩ : ElemsState).Handled ies [] :=
    ⟨fun o ho => absurd ho List.not_mem_nil, Ieee80211Elems.Records.cleared, rfl⟩
  have hhandled : (parseElemsLoop ies true 0 ies.length ⟨.cleared, 0, [], []⟩).2.Handled ies
      ([] ++ located 0 (walk isMic ies).1) := (parseElemsLoop_spec hstart rfl).1
  rw [List.nil_append] at hhandled
  obtain ⟨e, he, -, hlen⟩ := hhandled.records.ptr .wmmTspec wmmTspec h
  obtain ⟨before, after, hes, rfl⟩ := mem_located he
  have hlength := congrArg List.length (walk_append isMic ies)
  rw [List.length_append, hes, List.length_append, List.length_append, Element.length_bytes] at hlength
  have hbyte : ((ieee80211ParseElems ies true).2.elems.len .wmmTspec).toNat = e.body.length := by
    rw [← Element.toNat_len, ← hlen rfl]
    rfl
  omega

/-- With less than four bytes there is no answer. -/
lemma wpaFtProcessRdie_none (h : buf.length - pos < 4) : wpaFtProcessRdie env buf pos id ies = some (buf, pos) := by
  rw [wpaFtProcessRdie, if_pos h]

/-- With four or five bytes the answer goes beyond the end. -/
lemma wpaFtProcessRdie_outside (hfour : 4 ≤ buf.length - pos) (hsix : buf.length - pos < 6) :
    wpaFtProcessRdie env buf pos id ies = none := by
  have hwrite : Buffer.write buf pos [wlanEidRicData, 4, id, 0, 0, 0] = none := by
    rw [Buffer.write, if_neg]
    simp only [List.length_cons, List.length_nil]
    omega
  rw [wpaFtProcessRdie, if_neg (by omega)]
  simp only [hwrite, bind, Option.bind_none]

/-- When a request is accepted. -/
lemma tspecAccepted_iff (env : RicEnv) (ies : List UInt8) :
    tspecAccepted env ies = true ↔ ∃ wmmTspec, (ieee80211ParseElems ies true).1 ≠ .parseFailed ∧
      (ieee80211ParseElems ies true).2.elems.ptr .wmmTspec = some wmmTspec ∧
      63 ≤ ((ieee80211ParseElems ies true).2.elems.len .wmmTspec).toNat + 2 ∧
      (processTspec env (Buffer.window ies (wmmTspec - 2) 63)).1 = some 0 := by
  rw [tspecAccepted]
  rcases ieee80211ParseElems ies true with ⟨res, parse⟩
  dsimp only
  cases parse.elems.ptr .wmmTspec with
  | none => simp
  | some wmmTspec => simp

/-- With six bytes the answer is inside the buffer. -/
lemma wpaFtProcessRdie_inside (env : RicEnv) (id : UInt8) (ies : List UInt8) (h : pos + 6 ≤ buf.length) :
    ∃ buf', wpaFtProcessRdie env buf pos id ies = some (buf', pos + answerSize env (buf.length - pos) ies) ∧
      buf'.length = buf.length := by
  have hroom : pos + [wlanEidRicData, 4, id, 0, 0, 0].length ≤ buf.length := h
  have hinside {wmmTspec : ℕ} := @wmmTspec_inside ies wmmTspec
  have haccepted := tspecAccepted_iff env ies
  have hnot : ¬buf.length - pos < 4 := by omega
  obtain ⟨start, hstart⟩ : ∃ start, start = Buffer.splice buf pos [wlanEidRicData, 4, id, 0, 0, 0] := ⟨_, rfl⟩
  have hlength : start.length = buf.length := by
    rw [hstart]
    exact Buffer.length_splice hroom
  have hrefuse (b : List UInt8) (hb : b.length = buf.length) (status : ℤ)
      (hsize : ¬(tspecAccepted env ies = true ∧ 2 + 4 + 63 ≤ buf.length - pos)) :
      ∃ buf', refuse b (pos + 2) (pos + 2 + 4) status = some (buf', pos + answerSize env (buf.length - pos) ies) ∧
        buf'.length = buf.length := by
    have hrdie : pos + 2 + 4 ≤ b.length := by omega
    obtain ⟨buf', hbuf', hlength'⟩ := refuse_spec (pos + 2 + 4) hrdie status
    rw [answerSize, if_neg hnot, if_neg hsize]
    exact ⟨buf', hbuf', hlength'.trans hb⟩
  rw [wpaFtProcessRdie, if_neg hnot]
  simp only [Buffer.write_eq_some hroom, ← hstart, bind, Option.bind_some]
  rcases hparse : ieee80211ParseElems ies true with ⟨res, parse⟩
  rw [hparse] at hinside haccepted
  dsimp only at hinside haccepted ⊢
  by_cases hfailed : res = .parseFailed
  · rw [if_pos hfailed]
    refine hrefuse start hlength 1 fun hand => ?_
    obtain ⟨wmmTspec, hok, -⟩ := haccepted.mp hand.1
    exact hok hfailed
  · rw [if_neg hfailed]
    cases hptr : parse.elems.ptr .wmmTspec with
    | none =>
      refine hrefuse start hlength 1 fun hand => ?_
      obtain ⟨wmmTspec, -, hsome, -⟩ := haccepted.mp hand.1
      rw [hptr] at hsome
      cases hsome
    | some wmmTspec =>
      obtain ⟨htwo, hend⟩ := hinside hptr
      dsimp only
      by_cases hlong : (parse.elems.len .wmmTspec).toNat + 2 < 63
      · rw [if_pos hlong]
        refine hrefuse start hlength 1 fun hand => ?_
        obtain ⟨wmmTspec, -, -, hle, -⟩ := haccepted.mp hand.1
        omega
      · rw [if_neg hlong]
        by_cases hshort : start.length - (pos + 2 + 4) < 63
        · rw [if_pos hshort]
          exact hrefuse start hlength 1 fun hand => by omega
        · have hread : wmmTspec - 2 + 63 ≤ ies.length := by omega
          obtain ⟨tspec, htspec⟩ : ∃ tspec, tspec = Buffer.window ies (wmmTspec - 2) 63 := ⟨_, rfl⟩
          have htspecLength : tspec.length = 63 := by
            rw [htspec]
            exact Buffer.length_window hread
          have hanswerLength := length_processTspec env htspecLength
          have hput : pos + 2 + 4 + tspec.length ≤ start.length := by omega
          have hputLength := Buffer.length_splice hput
          have hanswer : pos + 2 + 4 + (processTspec env tspec).2.length ≤
              (Buffer.splice start (pos + 2 + 4) tspec).length := by omega
          have hafter := Buffer.length_splice hanswer
          have hiff : tspecAccepted env ies = true ↔ (processTspec env tspec).1 = some 0 := by
            rw [haccepted, htspec]
            constructor
            · rintro ⟨wmmTspec', -, hsome, -, hzero⟩
              obtain rfl := Option.some.inj (hptr.symm.trans hsome)
              exact hzero
            · intro hzero
              exact ⟨wmmTspec, hfailed, hptr, by omega, hzero⟩
          rw [if_neg hshort, Buffer.read_eq_some hread, ← htspec, Option.bind_some, Buffer.write_eq_some hput,
            Option.bind_some, Buffer.write_eq_some hanswer, Option.bind_some]
          by_cases hzero : (processTspec env tspec).1 = some 0
          · have hdescr : pos + 2 + 1 + [(1 : UInt8)].length ≤
                (Buffer.splice (Buffer.splice start (pos + 2 + 4) tspec) (pos + 2 + 4)
                  (processTspec env tspec).2).length := by
              rw [List.length_singleton]
              omega
            have hdescrLength := Buffer.length_splice hdescr
            rw [hzero, answerSize, if_neg hnot, if_pos ⟨hiff.mpr hzero, by omega⟩]
            rw [Buffer.write_eq_some hdescr, Option.bind_some]
            exact ⟨_, rfl, by omega⟩
          · have hnone : ¬(tspecAccepted env ies = true ∧ 2 + 4 + 63 ≤ buf.length - pos) :=
              fun hand => hzero (hiff.mp hand.1)
            split
            · exact hrefuse _ (by omega) 1 hnone
            · next hstatus => exact absurd hstatus hzero
            · exact hrefuse _ (by omega) _ hnone

end Answer

/-! ## The requests -/

/-- The elements in front of the first RIC data element, and each RIC data element with those that follow it. -/
def splitRic : List Element → List Element × List (Element × List Element)
  | [] => ([], [])
  | e :: es => if e.id = wlanEidRicData then ([], (e, (splitRic es).1) :: (splitRic es).2) else
    (e :: (splitRic es).1, (splitRic es).2)

/-- A request: the identifier of its descriptor and the elements that describe what is asked for. -/
abbrev RicRequest : Type := UInt8 × List UInt8

/-- The requests, up to a RIC data element that is too short. -/
def ricRequests (es : List Element) : List RicRequest :=
  ((splitRic es).2.takeWhile fun g => 4 ≤ g.1.body.length).map fun g => (g.1.body.getD 0 0, elementBytes g.2)

/-- The answers one after the other. -/
def answerAll (env : RicEnv) : List RicRequest → List UInt8 → ℕ → Option (List UInt8 × ℕ)
  | [], buf, pos => some (buf, pos)
  | q :: qs, buf, pos =>
    (wpaFtProcessRdie env buf pos q.1 q.2).bind fun after => answerAll env qs after.1 after.2

/-- No request is reached with a room that misleads the test. -/
def AnswersFit (env : RicEnv) : ℕ → List RicRequest → Prop
  | _, [] => True
  | room, q :: qs => RoomOk room ∧ AnswersFit env (room - answerSize env room q.2) qs

instance decidableAnswersFit (env : RicEnv) : (room : ℕ) → (qs : List RicRequest) → Decidable (AnswersFit env room qs)
  | _, [] => isTrue trivial
  | room, q :: qs =>
    have := decidableAnswersFit env (room - answerSize env room q.2) qs
    inferInstanceAs (Decidable (_ ∧ _))

section Requests

variable {env : RicEnv} {ies rest after : List UInt8} {rpos stop pos : ℕ} {es : List Element} {buf : List UInt8}

lemma splitRic_spec (es : List Element) :
    es = (splitRic es).1 ++ (splitRic es).2.flatMap (fun g => g.1 :: g.2) ∧
      (∀ e ∈ (splitRic es).1, e.id ≠ wlanEidRicData) ∧
      ∀ g ∈ (splitRic es).2, g.1.id = wlanEidRicData ∧ ∀ e ∈ g.2, e.id ≠ wlanEidRicData := by
  induction es with
  | nil => exact ⟨rfl, by simp [splitRic], by simp [splitRic]⟩
  | cons e es ih =>
    obtain ⟨hes, hlead, hgroups⟩ := ih
    rw [splitRic]
    split
    · next hid =>
      refine ⟨?_, by simp, List.forall_mem_cons.mpr ⟨⟨hid, hlead⟩, hgroups⟩⟩
      rw [List.nil_append, List.flatMap_cons, List.cons_append, ← hes]
    · next hid =>
      refine ⟨?_, List.forall_mem_cons.mpr ⟨hid, hlead⟩, hgroups⟩
      rw [List.cons_append, ← hes]

/-- The inner loop ends at the next RIC data element or at the end. -/
lemma ricDescriptors_eq {lead more : List Element} (hlead : ∀ e ∈ lead, e.id ≠ wlanEidRicData)
    (hmore : ∀ e ∈ more.head?, e.id = wlanEidRicData)
    (hdrop : ies.drop rpos = elementBytes lead ++ elementBytes more ++ after)
    (hstop : stop = rpos + (elementBytes lead).length + (elementBytes more).length) :
    ricDescriptors ies stop rpos = some (rpos + (elementBytes lead).length) := by
  induction lead generalizing rpos with
  | nil =>
    rw [elementBytes_nil, List.nil_append] at hdrop
    rw [elementBytes_nil, List.length_nil] at hstop ⊢
    cases more with
    | nil =>
      rw [elementBytes_nil, List.length_nil] at hstop
      rw [ricDescriptors, if_neg (by omega), Nat.add_zero]
    | cons e more =>
      rw [elementBytes_cons, List.length_append, Element.length_bytes] at hstop
      rw [elementBytes_cons, List.append_assoc] at hdrop
      obtain ⟨hid, hlen⟩ := header_of_drop hdrop
      rw [ricDescriptors, if_pos (by omega), hlen, Option.bind_some, Element.toNat_len, if_pos (by omega), hid,
        Option.bind_some, if_pos (hmore e rfl), Nat.add_zero]
  | cons e lead ih =>
    obtain ⟨he, hlead⟩ := List.forall_mem_cons.mp hlead
    rw [elementBytes_cons, List.append_assoc, List.append_assoc] at hdrop
    rw [elementBytes_cons, List.length_append, Element.length_bytes] at hstop
    obtain ⟨hid, hlen⟩ := header_of_drop hdrop
    have hnext : ies.drop (rpos + 2 + e.body.length) = elementBytes lead ++ elementBytes more ++ after := by
      have hoff : rpos + 2 + e.body.length = rpos + e.bytes.length := by
        rw [Element.length_bytes]
        omega
      rw [hoff, ← List.drop_drop, hdrop, List.drop_left, List.append_assoc]
    have hlast := ih hlead hnext (by omega)
    rw [ricDescriptors, if_pos (by omega), hlen, Option.bind_some, Element.toNat_len, if_pos (by omega), hid,
      Option.bind_some, if_neg he, hlast, elementBytes_cons, List.length_append, Element.length_bytes]
    congr 1
    omega

/-- The outer loop answers the requests one after the other, and it only reads the requests. -/
lemma wpaFtProcessRic_groups {gs : List (Element × List Element)}
    (hgs : ∀ g ∈ gs, g.1.id = wlanEidRicData ∧ ∀ e ∈ g.2, e.id ≠ wlanEidRicData)
    (hdrop : ies.drop rpos = elementBytes (gs.flatMap fun g => g.1 :: g.2) ++ after)
    (hstop : stop = rpos + (elementBytes (gs.flatMap fun g => g.1 :: g.2)).length) :
    wpaFtProcessRic env ies stop rpos buf pos =
      answerAll env ((gs.takeWhile fun g => 4 ≤ g.1.body.length).map
        fun g => (g.1.body.getD 0 0, elementBytes g.2)) buf pos := by
  induction gs generalizing rpos buf pos with
  | nil =>
    rw [List.flatMap_nil, elementBytes_nil, List.length_nil] at hstop
    rw [wpaFtProcessRic, if_neg (by omega)]
    rfl
  | cons g gs ih =>
    obtain ⟨rdie, lead⟩ := g
    obtain ⟨⟨hid, hlead⟩, hgs⟩ := List.forall_mem_cons.mp hgs
    rw [List.flatMap_cons, elementBytes_append, elementBytes_cons] at hdrop hstop
    dsimp only at hid hlead hdrop hstop
    rw [List.append_assoc, List.append_assoc] at hdrop
    rw [List.length_append, List.length_append, Element.length_bytes] at hstop
    obtain ⟨hget, hlen⟩ := header_of_drop hdrop
    by_cases hfour : 4 ≤ rdie.body.length
    · have hbehind : ies.drop (rpos + 2 + rdie.body.length) =
          elementBytes lead ++ elementBytes (gs.flatMap fun g => g.1 :: g.2) ++ after := by
        have hoff : rpos + 2 + rdie.body.length = rpos + rdie.bytes.length := by
          rw [Element.length_bytes]
          omega
        rw [hoff, ← List.drop_drop, hdrop, List.drop_left, List.append_assoc]
      have hmore : ∀ e ∈ (gs.flatMap fun g => g.1 :: g.2).head?, e.id = wlanEidRicData := by
        cases gs with
        | nil => simp
        | cons g gs =>
          intro e he
          obtain rfl := Option.some.inj he
          exact (hgs g List.mem_cons_self).1
      have hmoreStop : stop = rpos + 2 + rdie.body.length + (elementBytes lead).length +
          (elementBytes (gs.flatMap fun g => g.1 :: g.2)).length := by omega
      have hnext := ricDescriptors_eq hlead hmore hbehind hmoreStop
      have hfirst : ies[rpos + 2]? = some (rdie.body.getD 0 0) := by
        have hbody : ies.drop (rpos + 2) = rdie.body ++ (elementBytes lead ++
            (elementBytes (gs.flatMap fun g => g.1 :: g.2) ++ after)) := by
          rw [← List.drop_drop, hdrop]
          rfl
        have hzero : (ies.drop (rpos + 2))[0]? = some (rdie.body.getD 0 0) := by
          rw [hbody, List.getElem?_append_left (by omega), List.getD_eq_getElem?_getD,
            List.getElem?_eq_getElem (by omega)]
          rfl
        rw [List.getElem?_drop] at hzero
        exact hzero
      have hread : Buffer.read ies (rpos + 2 + rdie.body.length)
          (rpos + 2 + rdie.body.length + (elementBytes lead).length - (rpos + 2 + rdie.body.length)) =
            some (elementBytes lead) := by
        have hlength := congrArg List.length hdrop
        rw [List.length_drop, List.length_append, List.length_append, Element.length_bytes] at hlength
        rw [Nat.add_sub_cancel_left, Buffer.read_eq_some (by omega), Buffer.window, hbehind, List.append_assoc,
          List.take_left]
      have hafter : ies.drop (rpos + 2 + rdie.body.length + (elementBytes lead).length) =
          elementBytes (gs.flatMap fun g => g.1 :: g.2) ++ after := by
        rw [← List.drop_drop, hbehind, List.append_assoc, List.drop_left]
      have hnotShort : ¬(rdie.len < 4 ∨ stop < rpos + 2 + rdie.len.toNat) := by
        rw [Element.toNat_len, UInt8.lt_iff_toNat_lt, Element.toNat_len]
        have hnat : (4 : UInt8).toNat = 4 := by decide
        omega
      rw [wpaFtProcessRic, if_pos (by omega), hget, Option.bind_some, if_neg (not_not.mpr hid), hlen, Option.bind_some,
        if_neg hnotShort, hfirst, Option.bind_some, Element.toNat_len]
      split
      · next hnone =>
        rw [hnext] at hnone
        cases hnone
      · next next hsome =>
        obtain rfl := Option.some.inj (hnext.symm.trans hsome)
        rw [hread, Option.bind_some, List.takeWhile_cons_of_pos (by simpa using hfour), List.map_cons, answerAll]
        congr 1
        funext result
        exact ih hgs hafter (by omega)
    · have hshort : rdie.len < 4 ∨ stop < rpos + 2 + rdie.len.toNat := by
        rw [UInt8.lt_iff_toNat_lt, Element.toNat_len]
        have hnat : (4 : UInt8).toNat = 4 := by decide
        omega
      rw [List.takeWhile_cons_of_neg (by simpa using hfour), wpaFtProcessRic]
      split
      · rw [hget, Option.bind_some, if_neg (not_not.mpr hid), hlen, Option.bind_some, if_pos hshort]
        rfl
      · rfl

/-- The answers stay inside the buffer if and only if no request is reached with four or five bytes left. -/
lemma answerAll_iff (env : RicEnv) (qs : List RicRequest) (hpos : pos ≤ buf.length) :
    (AnswersFit env (buf.length - pos) qs → ∃ buf' pos', answerAll env qs buf pos = some (buf', pos') ∧
        buf'.length = buf.length ∧ pos ≤ pos' ∧ pos' ≤ buf.length) ∧
      (¬AnswersFit env (buf.length - pos) qs → answerAll env qs buf pos = none) := by
  induction qs generalizing buf pos with
  | nil => exact ⟨fun _ => ⟨buf, pos, rfl, rfl, le_rfl, hpos⟩, fun hnot => absurd trivial hnot⟩
  | cons q qs ih =>
    rw [answerAll, AnswersFit]
    by_cases hfour : buf.length - pos < 4
    · have hsize : answerSize env (buf.length - pos) q.2 = 0 := by rw [answerSize, if_pos hfour]
      rw [wpaFtProcessRdie_none hfour, Option.bind_some, hsize, Nat.sub_zero]
      obtain ⟨hfits, hnot⟩ := ih hpos
      exact ⟨fun hand => hfits hand.2, fun hnand => hnot fun hrest => hnand ⟨Or.inl hfour, hrest⟩⟩
    · by_cases hsix : buf.length - pos < 6
      · rw [wpaFtProcessRdie_outside (by omega) hsix]
        refine ⟨fun hand => absurd hand.1 ?_, fun _ => rfl⟩
        rw [RoomOk]
        omega
      · obtain ⟨buf', hbuf', hlength⟩ := wpaFtProcessRdie_inside env q.1 q.2
          (show pos + 6 ≤ buf.length by omega)
        have hle : answerSize env (buf.length - pos) q.2 ≤ buf.length - pos := by
          rw [answerSize, if_neg hfour]
          split <;> omega
        rw [hbuf', Option.bind_some]
        dsimp only
        have hpos' : pos + answerSize env (buf.length - pos) q.2 ≤ buf'.length := by omega
        obtain ⟨hfits, hnot⟩ := ih hpos'
        rw [hlength, Nat.sub_add_eq] at hfits hnot
        refine ⟨fun hand => ?_, fun hnand => hnot fun hrest => hnand ⟨Or.inr (by omega), hrest⟩⟩
        obtain ⟨buf'', pos'', hresult, hlength', hle', hle''⟩ := hfits hand.2
        exact ⟨buf'', pos'', hresult, hlength', by omega, hle''⟩

end Requests

end Ethanol
