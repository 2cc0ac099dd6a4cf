import EthanolHostapd.Ap.Dfs

/-!
# Radar on the channels in use

When the driver reports radar, `dfs_are_channels_overlapped` decides whether the access point has to leave its channel.
It compares channel numbers, of the entries of the table from the first channel of the configuration on, and of the first
segment only; neither the first index nor the number of entries behind it is checked.
-/

namespace Ethanol

/-- The frequencies of the channels in the reported range. -/
def DfsEvent.Covers (e : DfsEvent) (freq : ℤ) : Prop := e.range.1 ≤ freq ∧ freq ≤ e.range.1 + 20 * ((e.range.2 : ℤ) - 1)

/-- A radar channel that the configuration occupies is in the reported range. -/
def DfsConfig.Overlaps (conf : DfsConfig) (e : DfsEvent) (c : HostapdChannelData) : Prop :=
  c.radar = true ∧ c.chan ∈ conf.occupied ∧ e.Covers c.freq

/-- The entry is compared, which are those from the first channel on. -/
def DfsConfig.Compared (conf : DfsConfig) (mode : HostapdHwModes) (i : ℕ) : Prop :=
  ∃ start start₁, conf.dfsGetStartChanIdx mode = some (start, start₁) ∧
    start ≤ i ∧ i < start + conf.dfsGetUsedNChans.1

/-- The number of a radar channel is one of the numbers from that of the first reported frequency on. -/
def DfsEvent.Hits (e : DfsEvent) (unset : UInt8) (c : HostapdChannelData) : Prop :=
  c.radar = true ∧ ∃ j : ℕ, j < e.range.2 ∧ c.chan = (ieee80211FreqToChan e.range.1).getD unset.toNat + j * 4

/-- The first channel is found, and the entries from it on are in the table. -/
def DfsConfig.InTable (conf : DfsConfig) (mode : HostapdHwModes) : Prop :=
  ∃ start start₁, conf.dfsGetStartChanIdx mode = some (start, start₁) ∧
    start + conf.dfsGetUsedNChans.1 ≤ mode.channels.length

/-- An overlap that the comparison does not see. -/
def DfsConfig.Missed (conf : DfsConfig) (mode : HostapdHwModes) (e : DfsEvent) (unset : UInt8) (i : ℕ) : Prop :=
  ∃ c, mode.channels[i]? = some c ∧ conf.Overlaps e c ∧ ¬(conf.Compared mode i ∧ e.Hits unset c)

/-- An entry that is taken for an overlap and is none. -/
def DfsConfig.Invented (conf : DfsConfig) (mode : HostapdHwModes) (e : DfsEvent) (unset : UInt8) (i : ℕ) : Prop :=
  ∃ c, mode.channels[i]? = some c ∧ conf.Compared mode i ∧ e.Hits unset c ∧ ¬conf.Overlaps e c

/-- The report is handled inside of the table, and it is recognised whether it concerns the configuration. -/
structure RadarRecognized (iface : DfsIface) (mode : HostapdHwModes) (e : DfsEvent) (out : RadarOutcome) : Prop where
  inside : ({ iface with currentMode := some mode }.hostapdDfsRadarDetected e out).isSome
  exact : ∃ res, dfsAreChannelsOverlapped mode iface.conf e out.radarChan = some res ∧
    (res ≠ 0 ↔ ∃ c ∈ mode.channels, iface.conf.Overlaps e c)

section Overlap

variable {conf : DfsConfig} {mode mode' : HostapdHwModes} {e : DfsEvent} {unset : UInt8}

/-- The comparison has a result for entries inside the table, and it says whether one of them is hit. -/
lemma dfsAreChannelsOverlapped_of_inTable (h : conf.InTable mode) (e : DfsEvent) (unset : UInt8) :
    ∃ res, dfsAreChannelsOverlapped mode conf e unset = some res ∧
      (res ≠ 0 ↔ ∃ i c, mode.channels[i]? = some c ∧ conf.Compared mode i ∧ e.Hits unset c) := by
  obtain ⟨start, start₁, hstart, hinside⟩ := h
  obtain ⟨chans, hchans⟩ : ∃ chans, dfsChans mode start conf.dfsGetUsedNChans.1 = some chans := ⟨_, if_pos hinside⟩
  have hcompared (c : HostapdChannelData) :
      c ∈ chans ↔ ∃ i, mode.channels[i]? = some c ∧ conf.Compared mode i := by
    rw [mem_dfsChans hchans]
    constructor
    · rintro ⟨i, hi, hrange⟩
      exact ⟨i, hi, start, start₁, hstart, hrange⟩
    · rintro ⟨i, hi, start', start₁', hstart', hrange⟩
      obtain ⟨rfl, -⟩ := Prod.mk.inj (Option.some.inj (hstart.symm.trans hstart'))
      exact ⟨i, hi, hrange⟩
  have hhits : (∃ i c, mode.channels[i]? = some c ∧ conf.Compared mode i ∧ e.Hits unset c) ↔
      ∃ c ∈ chans, e.Hits unset c := by
    constructor
    · rintro ⟨i, c, hi, hin, hhit⟩
      exact ⟨c, (hcompared c).mpr ⟨i, hi, hin⟩, hhit⟩
    · rintro ⟨c, hc, hhit⟩
      obtain ⟨i, hi, hin⟩ := (hcompared c).mp hc
      exact ⟨i, c, hi, hin, hhit⟩
  rw [hhits]
  unfold dfsAreChannelsOverlapped
  simp only [hstart, hchans, Option.bind_eq_bind, Option.bind_some]
  by_cases hnone : dfsCheckChansRadar chans = 0
  · refine ⟨0, if_pos hnone, iff_of_false (not_not_intro rfl) ?_⟩
    rintro ⟨c, hc, hradar, -⟩
    exact List.countP_eq_zero.mp hnone c hc hradar
  · rw [if_neg hnone]
    refine ⟨_, rfl, ?_⟩
    rw [Ne, List.sum_eq_zero_iff_forall_eq_nat, List.forall_mem_map]
    constructor
    · intro hsome
      by_contra hnot
      refine hsome fun c hc => List.countP_eq_zero.mpr fun j hj hchan => hnot ?_
      obtain ⟨hmem, hradar⟩ := List.mem_filter.mp hc
      obtain ⟨k, hk, rfl⟩ : ∃ k : ℕ, k < e.range.2 ∧ (k : ℤ) = j := by simpa [eq_comm] using hj
      exact ⟨c, hmem, hradar, k, hk, of_decide_eq_true hchan⟩
    · rintro ⟨c, hc, hradar, j, hj, hchan⟩ hzero
      have hnone := hzero c (List.mem_filter.mpr ⟨hc, hradar⟩)
      exact List.countP_eq_zero.mp hnone j (by simpa using hj) (decide_eq_true hchan)

/-- Without the first channel, or with too few entries behind it, there is an access outside of the table. -/
lemma inTable_of_dfsAreChannelsOverlapped {res : ℕ} (h : dfsAreChannelsOverlapped mode conf e unset = some res) :
    conf.InTable mode := by
  unfold dfsAreChannelsOverlapped at h
  obtain ⟨⟨start, start₁⟩, hstart, h⟩ := Option.bind_eq_some_iff.mp h
  obtain ⟨chans, hchans, -⟩ := Option.bind_eq_some_iff.mp h
  refine ⟨start, start₁, hstart, ?_⟩
  unfold dfsChans at hchans
  by_contra hnot
  rw [if_neg hnot] at hchans
  cases hchans

/-- What is looked up by number does not depend on the flags. -/
lemma inTable_congr (hchan : mode'.channels.map HostapdChannelData.chan = mode.channels.map HostapdChannelData.chan) :
    conf.InTable mode' ↔ conf.InTable mode := by
  have hlength : mode'.channels.length = mode.channels.length := by
    have hlengths := congrArg List.length hchan
    rwa [List.length_map, List.length_map] at hlengths
  have hidx (no : ℤ) : DfsConfig.chanIdx mode' no = DfsConfig.chanIdx mode no := by
    have hmap (mode : HostapdHwModes) : DfsConfig.chanIdx mode no =
        (mode.channels.map HostapdChannelData.chan).findIdx? fun chan => chan = no := by
      rw [List.findIdx?_map]
      rfl
    rw [hmap, hmap, hchan]
  unfold DfsConfig.InTable DfsConfig.dfsGetStartChanIdx
  simp only [hidx, hlength]

end Overlap

section State

variable {freq : ℤ} {state : BitVec 32} {n : ℕ} {chans : List HostapdChannelData} {mode : HostapdHwModes} {e : DfsEvent}

/-- A new state only changes flags. -/
lemma chan_setDfsStateFreq (freq : ℤ) (state : BitVec 32) (chans : List HostapdChannelData) :
    (setDfsStateFreq freq state chans).1.map HostapdChannelData.chan = chans.map HostapdChannelData.chan := by
  induction chans with
  | nil => rfl
  | cons c cs ih =>
    rw [setDfsStateFreq]
    split
    · rfl
    · simp only [List.map_cons, ih]

lemma chan_setDfsStateFrom (state : BitVec 32) (n : ℕ) (freq : ℤ) (chans : List HostapdChannelData) :
    (setDfsStateFrom state n freq chans).1.map HostapdChannelData.chan = chans.map HostapdChannelData.chan := by
  induction n generalizing freq chans with
  | zero => rfl
  | succ n ih => exact (ih (freq + 20) _).trans (chan_setDfsStateFreq freq state chans)

lemma chan_setDfsState (mode : HostapdHwModes) (e : DfsEvent) (state : BitVec 32) :
    ∃ mode', (setDfsState (some mode) e state).1 = some mode' ∧
      mode'.channels.map HostapdChannelData.chan = mode.channels.map HostapdChannelData.chan := by
  unfold setDfsState
  by_cases hband : mode.ieee80211a = true
  · exact ⟨_, congrArg Prod.fst (if_pos hband), chan_setDfsStateFrom state e.range.2 e.range.1 mode.channels⟩
  · exact ⟨mode, congrArg Prod.fst (if_neg hband), rfl⟩

end State

/-- For every table, configuration and report: the report is handled inside of the table and recognised if and only if
the entries to compare are in the table, and no entry for which the comparison goes wrong decides: for an overlap that is
missed there is another one that is hit, and for one that is invented there is a real one. -/
theorem radarRecognized_iff (iface : DfsIface) (mode : HostapdHwModes) (e : DfsEvent) (out : RadarOutcome) :
    RadarRecognized iface mode e out ↔ iface.conf.InTable mode ∧
      ((∃ i, iface.conf.Missed mode e out.radarChan i) →
        ∃ i c, mode.channels[i]? = some c ∧ iface.conf.Compared mode i ∧ e.Hits out.radarChan c) ∧
      ((∃ i, iface.conf.Invented mode e out.radarChan i) → ∃ c ∈ mode.channels, iface.conf.Overlaps e c) := by
  have hinside (h : iface.conf.InTable mode) :
      ({ iface with currentMode := some mode }.hostapdDfsRadarDetected e out).isSome := by
    unfold DfsIface.hostapdDfsRadarDetected
    split
    · rfl
    · obtain ⟨mode', hmode', hchan⟩ := chan_setDfsState mode e hostapdChanDfsUnavailable
      obtain ⟨res, hres, -⟩ := dfsAreChannelsOverlapped_of_inTable ((inTable_congr hchan).mpr h) e out.radarChan
      simp only [hmode', hres, Option.bind_eq_bind, Option.bind_some]
      split <;> rfl
  constructor
  · rintro ⟨-, res, hres, hexact⟩
    have hin := inTable_of_dfsAreChannelsOverlapped hres
    obtain ⟨res', hres', hhits⟩ := dfsAreChannelsOverlapped_of_inTable hin e out.radarChan
    obtain rfl := Option.some.inj (hres.symm.trans hres')
    refine ⟨hin, ?_, ?_⟩
    · rintro ⟨i, c, hi, hoverlaps, -⟩
      exact hhits.mp (hexact.mpr ⟨c, List.mem_of_getElem? hi, hoverlaps⟩)
    · rintro ⟨i, c, hi, hcompared, hhit, -⟩
      exact hexact.mp (hhits.mpr ⟨i, c, hi, hcompared, hhit⟩)
  · rintro ⟨hin, hmissed, hinvented⟩
    obtain ⟨res, hres, hhits⟩ := dfsAreChannelsOverlapped_of_inTable hin e out.radarChan
    refine ⟨hinside hin, res, hres, hhits.trans ⟨?_, ?_⟩⟩
    · rintro ⟨i, c, hi, hcompared, hhit⟩
      by_cases hoverlaps : iface.conf.Overlaps e c
      · exact ⟨c, List.mem_of_getElem? hi, hoverlaps⟩
      · exact hinvented ⟨i, c, hi, hcompared, hhit, hoverlaps⟩
    · rintro ⟨c, hc, hoverlaps⟩
      obtain ⟨i, hi⟩ := List.mem_iff_getElem?.mp hc
      by_cases hhit : iface.conf.Compared mode i ∧ e.Hits out.radarChan c
      · exact ⟨i, c, hi, hhit⟩
      · exact hmissed ⟨i, c, hi, hoverlaps, hhit⟩

/-- With 80+80 MHz, radar in the second segment is not recognised: channels 36 to 48 are no radar channels, and radar is
reported on channel 100.  Without the first channel in the table, the entry before the table is read. -/
theorem radar_not_recognized :
    let out : RadarOutcome := ⟨0, false, none, none, false, false, false⟩
    let mode : HostapdHwModes := ⟨true, ((List.range 4).map fun i : ℕ => ⟨36 + 4 * i, 5180 + 20 * i, 0⟩) ++
      (DfsIface.radarTable 100 4).channels⟩
    ¬RadarRecognized (DfsIface.init none ⟨36, 1, true, true, true, 3, 42, 106, []⟩) mode ⟨5500, .w20, 5500⟩ out ∧
      dfsAreChannelsOverlapped mode ⟨36, 1, true, true, true, 3, 42, 106, []⟩ ⟨5500, .w20, 5500⟩ 0 = some 0 ∧
      ¬RadarRecognized (DfsIface.init none (DfsIface.conf80 52 0)) (DfsIface.radarTable 52 4) ⟨5260, .w20, 5260⟩ out ∧
      { DfsIface.init none (DfsIface.conf80 52 0) with
        currentMode := some (DfsIface.radarTable 52 4) }.hostapdDfsRadarDetected ⟨5260, .w20, 5260⟩ out = none := by
  intro out mode
  have hmissed : dfsAreChannelsOverlapped mode ⟨36, 1, true, true, true, 3, 42, 106, []⟩ ⟨5500, .w20, 5500⟩ 0 = some 0 := by
    decide +kernel
  have houtside : ({ DfsIface.init none (DfsIface.conf80 52 0) with
      currentMode := some (DfsIface.radarTable 52 4) }.hostapdDfsRadarDetected ⟨5260, .w20, 5260⟩ out).isSome = false := by
    decide +kernel
  refine ⟨fun h => ?_, hmissed, fun h => ?_, Option.isSome_eq_false_iff.mp houtside |> Option.isNone_iff_eq_none.mp⟩
  · obtain ⟨res, hres, hexact⟩ := h.exact
    obtain rfl := Option.some.inj (hmissed.symm.trans hres)
    have hoverlaps : (⟨100, 5500, hostapdChanRadar ||| hostapdChanDfsUsable⟩ : HostapdChannelData) ∈ mode.channels ∧
        DfsConfig.Overlaps ⟨36, 1, true, true, true, 3, 42, 106, []⟩ ⟨5500, .w20, 5500⟩
          ⟨100, 5500, hostapdChanRadar ||| hostapdChanDfsUsable⟩ :=
      ⟨by decide +kernel, by decide +kernel, by decide +kernel, by decide +kernel, by decide +kernel⟩
    exact hexact.mpr ⟨_, hoverlaps⟩ rfl
  · exact absurd (houtside.symm.trans h.inside) Bool.false_ne_true

/-! ## Tables without gaps -/

section Regular

variable {conf : DfsConfig} {mode : HostapdHwModes} {e : DfsEvent} {c : HostapdChannelData} {k : ℕ}

/-- The channels from the first one on are occupied. -/
lemma mem_occupied (hsec : conf.secondaryChannel ∈ [-1, 0, 1]) (hfirst : conf.startChans.1 ≠ -1)
    (hk : k < conf.dfsGetUsedNChans.1) : conf.startChans.1 + 4 * (k : ℤ) ∈ conf.occupied := by
  have hht (ht : Bool) (sec channel : ℤ) (hsec : sec ∈ [-1, 0, 1])
      (hk : k < if (ht && decide (sec ≠ 0)) = true then 2 else 1) :
      (if (ht && decide (sec = -1)) = true then channel - 4 else channel) + 4 * (k : ℤ) ∈
        if (ht && decide (sec ≠ 0)) = true then [channel, channel + 4 * sec] else [channel] := by
    simp only [List.mem_cons, List.not_mem_nil, or_false] at hsec
    cases ht with
    | false =>
      obtain rfl : k = 0 := by simpa using hk
      simp
    | true =>
      rcases hsec with rfl | rfl | rfl
      · have hk2 : k < 2 := by simpa using hk
        interval_cases k <;> simp [sub_eq_add_neg]
      · obtain rfl : k = 0 := by simpa using hk
        simp
      · have hk2 : k < 2 := by simpa using hk
        interval_cases k <;> simp
  have hsegment (seg : UInt8) (hk : k < 4) : (seg.toNat : ℤ) - 6 + 4 * (k : ℤ) ∈ segment80 seg := by
    interval_cases k <;> simp [segment80] <;> omega
  unfold DfsConfig.occupied
  unfold DfsConfig.startChans at hfirst ⊢
  unfold DfsConfig.dfsGetUsedNChans at hk
  by_cases hac : conf.ieee80211ac = true
  · rw [if_pos hac] at hfirst hk ⊢
    rw [if_pos hac]
    by_cases h0 : conf.vhtOperChwidth = 0
    · simp only [h0] at hk ⊢
      exact hht _ _ _ hsec hk
    by_cases h1 : conf.vhtOperChwidth = 1
    · simp only [h1] at hk ⊢
      exact hsegment _ hk
    by_cases h2 : conf.vhtOperChwidth = 2
    · simp only [h2] at hk ⊢
      exact List.mem_map.mpr ⟨k, List.mem_range.mpr hk, rfl⟩
    by_cases h3 : conf.vhtOperChwidth = 3
    · simp only [h3] at hk ⊢
      exact List.mem_append_left _ (hsegment _ hk)
    · exfalso
      apply hfirst
      split <;> first | contradiction | rfl
  · rw [if_neg hac] at hk ⊢
    rw [if_neg hac]
    exact hht _ _ _ hsec hk

/-- A radar channel at a distance of some channels from the first reported frequency is hit if it is in the range. -/
lemma hits_iff_covers (unset : UInt8) (hradar : c.radar = true) (hfreq : c.freq = 5000 + 5 * c.chan)
    (hgrid : 20 ∣ c.freq - e.range.1) (hband : 5000 ≤ e.range.1 ∧ e.range.1 < 5900) :
    e.Hits unset c ↔ e.Covers c.freq := by
  obtain ⟨m, hm⟩ := hgrid
  have hknown : ieee80211FreqToChan e.range.1 = some ((e.range.1 - 5000) / 5) := by
    unfold ieee80211FreqToChan
    rw [if_neg (by omega), if_neg (by omega), if_neg (by omega), if_pos (by omega), if_pos (by omega)]
  unfold DfsEvent.Hits DfsEvent.Covers
  rw [hknown, Option.getD_some]
  constructor
  · rintro ⟨-, j, hj, hchan⟩
    omega
  · rintro ⟨hlow, hhigh⟩
    exact ⟨hradar, m.toNat, by omega, by omega⟩

/-- If the channels of the configuration are in a table without gaps, with the numbers of their frequencies, and there is
no second segment, then radar on its channels is recognised. -/
theorem radarRecognized_of_regular {iface : DfsIface} (out : RadarOutcome) (hregular : DfsIface.Regular mode)
    (hsec : iface.conf.secondaryChannel ∈ [-1, 0, 1])
    (hwidth : ¬(iface.conf.ieee80211ac = true ∧ iface.conf.vhtOperChwidth = 3))
    (hall : ∀ k < iface.conf.dfsGetUsedNChans.1, ∃ c ∈ mode.channels, c.chan = iface.conf.startChans.1 + 4 * (k : ℤ))
    (hradar : ∀ c ∈ mode.channels, c.radar = true → c.freq = 5000 + 5 * c.chan ∧ 20 ∣ c.freq - e.range.1)
    (hband : 5000 ≤ e.range.1 ∧ e.range.1 < 5900) : RadarRecognized iface mode e out := by
  have hn : 0 < iface.conf.dfsGetUsedNChans.1 ∧ iface.conf.dfsGetUsedNChans.1 ≤ 8 := by
    unfold DfsConfig.dfsGetUsedNChans
    split_ifs <;> (try split) <;> simp
  have hseg1 : ¬-1 < iface.conf.startChans.2 := by
    unfold DfsConfig.startChans
    by_cases hac : iface.conf.ieee80211ac = true
    · rw [if_pos hac]
      split <;> simp_all
    · rw [if_neg hac]
      exact lt_irrefl (-1)
  obtain ⟨c₀, hc₀, hchan₀⟩ := hall 0 hn.1
  obtain ⟨start, hidx⟩ : ∃ start, DfsConfig.chanIdx mode iface.conf.startChans.1 = some start := by
    refine Option.isSome_iff_exists.mp (List.findIdx?_isSome.trans (List.any_eq_true.mpr ⟨c₀, hc₀, ?_⟩))
    simpa using hchan₀
  have hstart : iface.conf.dfsGetStartChanIdx mode = some (start, none) := by
    unfold DfsConfig.dfsGetStartChanIdx
    simp only [hidx, Option.bind_eq_bind, Option.bind_some, if_neg hseg1, Option.pure_def]
  obtain ⟨c₁, hc₁, hchan₁⟩ := DfsIface.getElem_start hstart
  have hfirst : iface.conf.startChans.1 ≠ -1 := by
    have hnonneg := hregular.nonneg c₁ (List.mem_of_getElem? hc₁)
    omega
  -- the channels of the configuration are the entries from the first one on
  have hentry (k : ℕ) (hk : k < iface.conf.dfsGetUsedNChans.1) :
      ∃ c, mode.channels[start + k]? = some c ∧ c.chan = iface.conf.startChans.1 + 4 * (k : ℤ) := by
    obtain ⟨c, hc, hchan⟩ := hall k hk
    obtain ⟨i, hi⟩ := List.mem_iff_getElem?.mp hc
    obtain rfl := hregular.consecutive start i k c₁ c hc₁ hi (by omega) (by rw [hchan, hchan₁])
    exact ⟨c, hi, hchan⟩
  have hcompared (i : ℕ) : iface.conf.Compared mode i ↔ start ≤ i ∧ i < start + iface.conf.dfsGetUsedNChans.1 := by
    constructor
    · rintro ⟨start', start₁, hstart', hrange⟩
      obtain ⟨rfl, -⟩ := Prod.mk.inj (Option.some.inj (hstart.symm.trans hstart'))
      exact hrange
    · exact fun hrange => ⟨start, none, hstart, hrange⟩
  refine (radarRecognized_iff iface mode e out).mpr ⟨⟨start, none, hstart, ?_⟩, ?_, ?_⟩
  · obtain ⟨c, hc, -⟩ := hentry (iface.conf.dfsGetUsedNChans.1 - 1) (by omega)
    have hlt := (List.getElem?_eq_some_iff.mp hc).1
    omega
  · rintro ⟨i, c, hi, ⟨hflag, hocc, hcovers⟩, hnot⟩
    have hmem := List.mem_of_getElem? hi
    refine absurd ⟨(hcompared i).mpr ?_, ?_⟩ hnot
    · rcases DfsIface.occupied_first hsec hocc hfirst with ⟨k, hk, hchan⟩ | ⟨hac, h3, -⟩
      · have hik := hregular.consecutive start i k c₁ c hc₁ hi (by omega) (by rw [hchan, hchan₁])
        omega
      · exact absurd ⟨hac, h3⟩ hwidth
    · obtain ⟨hfreq, hgrid⟩ := hradar c hmem hflag
      exact (hits_iff_covers out.radarChan hflag hfreq hgrid hband).mpr hcovers
  · rintro ⟨i, c, hi, hin, hhit, -⟩
    have hmem := List.mem_of_getElem? hi
    obtain ⟨hfreq, hgrid⟩ := hradar c hmem hhit.1
    obtain ⟨hle, hlt⟩ := (hcompared i).mp hin
    obtain ⟨c', hc', hchan⟩ := hentry (i - start) (by omega)
    rw [Nat.add_sub_cancel' hle, hi] at hc'
    obtain rfl := Option.some.inj hc'
    refine ⟨c, hmem, hhit.1, ?_, (hits_iff_covers out.radarChan hhit.1 hfreq hgrid hband).mp hhit⟩
    rw [hchan]
    exact mem_occupied hsec hfirst (by omega)

end Regular

end Ethanol
