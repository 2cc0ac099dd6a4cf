import EthanolHostapd.Ap.Dfs

/-!
# The choice of a channel

`dfs_find_channel` is called twice by `dfs_get_valid_channel`, to count the channels and to take one of them.  Here it is
the loop with its counter; what it counts are the entries of `HostapdHwModes.dfsFindChannel`.

The channels of 20 MHz that a wider one consists of are looked up from the entry of the first of them on, so they count
only if they are behind it in the table.
-/

namespace Ethanol

/-! ## The code -/

namespace HostapdHwModes

/-- The loop of `dfs_find_channel` over the entries with their indices, with `ret_chan` if there is one. -/
def dfsFindChannelFrom (mode : HostapdHwModes) (conf : DfsConfig) (skipRadar retChan : Bool) (idx : ℕ) :
    List (HostapdChannelData × ℕ) → ℕ → ℕ × Option HostapdChannelData
  | [], channelIdx => (channelIdx, none)
  | (chan, i) :: entries, channelIdx =>
    if conf.ieee80211n && conf.secondaryChannel ≠ 0 && !chan.dfsIsChanAllowed conf.dfsGetUsedNChans.1 then
      mode.dfsFindChannelFrom conf skipRadar retChan idx entries channelIdx
    else if !mode.dfsChanRangeAvailable chan i conf.dfsGetUsedNChans.1 skipRadar then
      mode.dfsFindChannelFrom conf skipRadar retChan idx entries channelIdx
    else if !conf.isInChanlist chan then mode.dfsFindChannelFrom conf skipRadar retChan idx entries channelIdx
    else if retChan && idx = channelIdx then (idx, some chan)
    else mode.dfsFindChannelFrom conf skipRadar retChan idx entries (channelIdx + 1)

/-- `dfs_find_channel`: the number that is returned, and the channel. -/
def dfsFindChannelLoop (mode : HostapdHwModes) (conf : DfsConfig) (retChan : Bool) (idx : ℕ) (skipRadar : Bool) :
    ℕ × Option HostapdChannelData :=
  mode.dfsFindChannelFrom conf skipRadar retChan idx mode.channels.zipIdx 0

end HostapdHwModes

/-- `dfs_get_valid_channel` with its two calls of `dfs_find_channel`. -/
def dfsGetValidChannelLoop (mode : Option HostapdHwModes) (conf : DfsConfig) (skipRadar : Bool) (rand : Option UInt32) :
    Option DfsChoice :=
  match mode with
  | none => none
  | some mode =>
    if !mode.ieee80211a then none
    else
      let numAvailableChandefs := (mode.dfsFindChannelLoop conf false 0 skipRadar).1
      if numAvailableChandefs = 0 then none
      else
        match rand with
        | none => none
        | some rand =>
          let chanIdx := rand.toNat % numAvailableChandefs
          match (mode.dfsFindChannelLoop conf true chanIdx skipRadar).2 with
          | none => none
          | some chan =>
            let secondaryChannel := if conf.secondaryChannel ≠ 0 then 1 else 0
            some ⟨chan, secondaryChannel, conf.dfsAdjustVhtCenterFreq chan secondaryChannel⟩

/-! ## Eligible channels -/

/-- The channel is neither disabled nor unavailable because of radar, and it is not waiting for a check if radar is to be
skipped. -/
structure HostapdChannelData.Usable (c : HostapdChannelData) (skipRadar : Bool) : Prop where
  enabled : c.disabled = false
  available : c.radar = true → c.dfsState ≠ hostapdChanDfsUnavailable
  checked : skipRadar = true → c.radar = true → c.dfsState = hostapdChanDfsAvailable

namespace HostapdHwModes

/-- The first entry with a frequency, from an index on. -/
def FirstFrom (mode : HostapdHwModes) (i : ℕ) (freq : ℤ) (c : HostapdChannelData) : Prop :=
  ∃ j, i ≤ j ∧ mode.channels[j]? = some c ∧ c.freq = freq ∧
    ∀ l c', i ≤ l → l < j → mode.channels[l]? = some c' → c'.freq ≠ freq

/-- The entry may be the first channel of the width, and is in the list. -/
def Listed (conf : DfsConfig) (c : HostapdChannelData) : Prop :=
  (conf.ieee80211n = true → conf.secondaryChannel ≠ 0 → c.dfsIsChanAllowed conf.dfsGetUsedNChans.1 = true) ∧
    conf.isInChanlist c = true

/-- The entry can be chosen: what is found for its channels of 20 MHz, from it on, is usable. -/
def Eligible (mode : HostapdHwModes) (conf : DfsConfig) (skipRadar : Bool) (i : ℕ) : Prop :=
  ∃ c, mode.channels[i]? = some c ∧ Listed conf c ∧
    ∀ k < conf.dfsGetUsedNChans.1, ∃ d, mode.FirstFrom i (c.freq + k * 20) d ∧ d.Usable skipRadar

/-- The same, with the channels of 20 MHz anywhere in the table. -/
def EligibleAnywhere (mode : HostapdHwModes) (conf : DfsConfig) (skipRadar : Bool) (i : ℕ) : Prop :=
  ∃ c, mode.channels[i]? = some c ∧ Listed conf c ∧
    ∀ k < conf.dfsGetUsedNChans.1, (∃ d ∈ mode.channels, d.freq = c.freq + k * 20) ∧
      ∀ d ∈ mode.channels, d.freq = c.freq + k * 20 → d.Usable skipRadar

/-- The frequencies increase from entry to entry. -/
def Ascending (mode : HostapdHwModes) : Prop := mode.channels.Pairwise fun c d => c.freq < d.freq

section Find

variable {mode : HostapdHwModes} {conf : DfsConfig} {skipRadar : Bool} {entries : List (HostapdChannelData × ℕ)}
  {i n : ℕ} {c d : HostapdChannelData} {freq : ℤ}

/-- The three tests of an entry. -/
def passes (mode : HostapdHwModes) (conf : DfsConfig) (skipRadar : Bool) (p : HostapdChannelData × ℕ) : Bool :=
  !(conf.ieee80211n && conf.secondaryChannel ≠ 0 && !p.1.dfsIsChanAllowed conf.dfsGetUsedNChans.1) &&
    mode.dfsChanRangeAvailable p.1 p.2 conf.dfsGetUsedNChans.1 skipRadar && conf.isInChanlist p.1

lemma dfsFindChannelFrom_cons (retChan : Bool) (idx channelIdx : ℕ) (p : HostapdChannelData × ℕ) :
    mode.dfsFindChannelFrom conf skipRadar retChan idx (p :: entries) channelIdx =
      if mode.passes conf skipRadar p = true then
        if (retChan && idx = channelIdx) = true then (idx, some p.1)
        else mode.dfsFindChannelFrom conf skipRadar retChan idx entries (channelIdx + 1)
      else mode.dfsFindChannelFrom conf skipRadar retChan idx entries channelIdx := by
  rw [dfsFindChannelFrom, passes]
  cases (conf.ieee80211n && decide (conf.secondaryChannel ≠ 0) &&
    !p.1.dfsIsChanAllowed conf.dfsGetUsedNChans.1)
  · cases mode.dfsChanRangeAvailable p.1 p.2 conf.dfsGetUsedNChans.1 skipRadar
    · rfl
    · cases conf.isInChanlist p.1 <;> rfl
  · rfl

/-- Without a place for the channel, the entries that pass are counted. -/
lemma dfsFindChannelFrom_count (idx channelIdx : ℕ) :
    (mode.dfsFindChannelFrom conf skipRadar false idx entries channelIdx).1 =
      channelIdx + (entries.filter (mode.passes conf skipRadar)).length := by
  induction entries generalizing channelIdx with
  | nil => rfl
  | cons p entries ih =>
    rw [dfsFindChannelFrom_cons]
    by_cases hp : mode.passes conf skipRadar p = true
    · rw [if_pos hp, Bool.false_and, if_neg Bool.false_ne_true, ih, List.filter_cons_of_pos hp, List.length_cons]
      omega
    · rw [if_neg hp, ih, List.filter_cons_of_neg hp]

/-- With a place for it, the entry with that number among those that pass is taken. -/
lemma dfsFindChannelFrom_pick {idx channelIdx : ℕ} (hle : channelIdx ≤ idx) :
    (mode.dfsFindChannelFrom conf skipRadar true idx entries channelIdx).2 =
      ((entries.filter (mode.passes conf skipRadar)).map Prod.fst)[idx - channelIdx]? := by
  induction entries generalizing channelIdx with
  | nil => rfl
  | cons p entries ih =>
    rw [dfsFindChannelFrom_cons]
    by_cases hp : mode.passes conf skipRadar p = true
    · rw [if_pos hp, Bool.true_and, List.filter_cons_of_pos hp, List.map_cons]
      by_cases hidx : idx = channelIdx
      · rw [if_pos (decide_eq_true hidx), hidx, Nat.sub_self, List.getElem?_cons_zero]
      · have hsub : idx - channelIdx = (idx - (channelIdx + 1)) + 1 := by omega
        rw [if_neg (by simpa using hidx), ih (by omega), hsub, List.getElem?_cons_succ]
    · rw [if_neg hp, ih hle, List.filter_cons_of_neg hp]

/-- Both calls see the channels of `dfsFindChannel`. -/
lemma dfsFindChannelLoop_eq (mode : HostapdHwModes) (conf : DfsConfig) (skipRadar : Bool) (idx : ℕ) :
    (mode.dfsFindChannelLoop conf false idx skipRadar).1 = (mode.dfsFindChannel conf skipRadar).length ∧
      (mode.dfsFindChannelLoop conf true idx skipRadar).2 = (mode.dfsFindChannel conf skipRadar)[idx]? := by
  have hfound : mode.dfsFindChannel conf skipRadar =
      (mode.channels.zipIdx.filter (mode.passes conf skipRadar)).map Prod.fst := rfl
  rw [hfound]
  refine ⟨(dfsFindChannelFrom_count idx 0).trans ?_, dfsFindChannelFrom_pick (Nat.zero_le idx)⟩
  rw [Nat.zero_add, List.length_map]

/-- The lookup of a frequency. -/
lemma dfsGetChanData_eq_some_iff : mode.dfsGetChanData freq i = some c ↔ mode.FirstFrom i freq c := by
  unfold dfsGetChanData FirstFrom
  rw [List.find?_eq_some_iff_getElem]
  constructor
  · rintro ⟨hfreq, j, hj, hget, hbefore⟩
    have hget' : mode.channels[i + j]? = some c := by
      rw [← List.getElem?_drop, List.getElem?_eq_getElem hj, hget]
    refine ⟨i + j, Nat.le_add_right i j, hget', of_decide_eq_true hfreq, fun l c' hle hlt hl => ?_⟩
    have hdrop : (mode.channels.drop i)[l - i]? = some c' := by rw [List.getElem?_drop, Nat.add_sub_cancel' hle, hl]
    obtain ⟨hlt', rfl⟩ := List.getElem?_eq_some_iff.mp hdrop
    simpa using hbefore (l - i) (by omega)
  · rintro ⟨j, hle, hj, hfreq, hbefore⟩
    have hdrop : (mode.channels.drop i)[j - i]? = some c := by rw [List.getElem?_drop, Nat.add_sub_cancel' hle, hj]
    obtain ⟨hlt, hget⟩ := List.getElem?_eq_some_iff.mp hdrop
    refine ⟨decide_eq_true hfreq, j - i, hlt, hget, fun l hl => ?_⟩
    have hget' : mode.channels[i + l]? = some (mode.channels.drop i)[l] := by
      rw [← List.getElem?_drop, List.getElem?_eq_getElem]
    simpa using hbefore (i + l) _ (Nat.le_add_right i l) (by omega) hget'

/-- The tests of the state. -/
lemma dfsChannelAvailable_iff : c.dfsChannelAvailable skipRadar = true ↔ c.Usable skipRadar := by
  unfold HostapdChannelData.dfsChannelAvailable
  constructor
  · intro h
    constructor
    · by_contra hdisabled
      simp_all
    · rintro hradar hstate
      simp_all [hostapdChanDfsUnavailable, hostapdChanDfsAvailable]
    · rintro rfl hradar
      by_contra hstate
      simp_all
  · rintro ⟨henabled, havailable, hchecked⟩
    cases hradar : c.radar with
    | false => simp [henabled]
    | true =>
      cases skipRadar with
      | false => simpa [henabled] using havailable hradar
      | true =>
        rw [hchecked rfl hradar]
        simp [henabled, hostapdChanDfsUnavailable, hostapdChanDfsAvailable]

/-- Channels that are found for different frequencies are different entries, so there are enough of them. -/
lemma le_of_firstFrom (h : ∀ k < n, ∃ d, mode.FirstFrom i (freq + (k : ℤ) * 20) d) (hi : i ≤ mode.channels.length) :
    i + n ≤ mode.channels.length := by
  have hindex : ∀ k, k < n → ∃ j, i ≤ j ∧ ∃ d, mode.channels[j]? = some d ∧ d.freq = freq + (k : ℤ) * 20 := by
    intro k hk
    obtain ⟨d, j, hle, hj, hfreq, -⟩ := h k hk
    exact ⟨j, hle, d, hj, hfreq⟩
  choose! j hle hd using hindex
  have hlt (k : ℕ) (hk : k < n) : j k < mode.channels.length := by
    obtain ⟨d, hj, -⟩ := hd k hk
    exact (List.getElem?_eq_some_iff.mp hj).1
  have hinj : Function.Injective fun k : Fin n => (⟨j k - i, by have := hlt k k.2; have := hle k k.2; omega⟩ :
      Fin (mode.channels.length - i)) := by
    intro k k' heq
    have hval : j k - i = j k' - i := congrArg Fin.val heq
    have hsame : j k = j k' := by
      have hk := hle k k.2
      have hk' := hle k' k'.2
      omega
    obtain ⟨d, hj, hfreq⟩ := hd k k.2
    obtain ⟨d', hj', hfreq'⟩ := hd k' k'.2
    obtain rfl := Option.some.inj (hj.symm.trans (hsame ▸ hj'))
    exact Fin.ext (by omega)
  have hcard := Fintype.card_le_of_injective _ hinj
  rw [Fintype.card_fin, Fintype.card_fin] at hcard
  omega

/-- An entry passes if and only if it is eligible. -/
lemma passes_iff (hi : mode.channels[i]? = some c) :
    mode.passes conf skipRadar (c, i) = true ↔ mode.Eligible conf skipRadar i := by
  have hrange : mode.dfsChanRangeAvailable c i conf.dfsGetUsedNChans.1 skipRadar = true ↔
      ∀ k < conf.dfsGetUsedNChans.1, ∃ d, mode.FirstFrom i (c.freq + k * 20) d ∧ d.Usable skipRadar := by
    unfold dfsChanRangeAvailable
    rw [Bool.and_eq_true, decide_eq_true_eq, List.all_eq_true]
    constructor
    · rintro ⟨-, hall⟩ k hk
      have hk' := hall k (List.mem_range.mpr hk)
      cases hfind : mode.dfsGetChanData (c.freq + k * 20) i with
      | none =>
        rw [hfind] at hk'
        cases hk'
      | some d =>
        rw [hfind] at hk'
        exact ⟨d, dfsGetChanData_eq_some_iff.mp hfind, dfsChannelAvailable_iff.mp hk'⟩
    · intro hall
      refine ⟨le_of_firstFrom (fun k hk => (hall k hk).imp fun _ h => h.1)
        (List.getElem?_eq_some_iff.mp hi).1.le, fun k hk => ?_⟩
      obtain ⟨d, hfirst, husable⟩ := hall k (List.mem_range.mp hk)
      rw [dfsGetChanData_eq_some_iff.mpr hfirst]
      exact dfsChannelAvailable_iff.mpr husable
  have hlisted : (!(conf.ieee80211n && decide (conf.secondaryChannel ≠ 0) &&
      !c.dfsIsChanAllowed conf.dfsGetUsedNChans.1) && conf.isInChanlist c) = true ↔ Listed conf c := by
    unfold Listed
    cases conf.ieee80211n with
    | false => simp
    | true =>
      simp
      tauto
  unfold passes Eligible
  rw [Bool.and_right_comm, Bool.and_eq_true, hlisted, hrange, hi]
  simp

/-- The channels that are found are those of the eligible entries. -/
lemma mem_dfsFindChannel (conf : DfsConfig) (skipRadar : Bool) (c : HostapdChannelData) :
    c ∈ mode.dfsFindChannel conf skipRadar ↔ ∃ i, mode.channels[i]? = some c ∧ mode.Eligible conf skipRadar i := by
  have hfound : mode.dfsFindChannel conf skipRadar =
      (mode.channels.zipIdx.filter (mode.passes conf skipRadar)).map Prod.fst := rfl
  rw [hfound, List.mem_map]
  constructor
  · rintro ⟨⟨c', i⟩, hmem, rfl⟩
    obtain ⟨hzip, hpasses⟩ := List.mem_filter.mp hmem
    have hi : mode.channels[i]? = some c' := List.mem_zipIdx_iff_getElem?.mp hzip
    exact ⟨i, hi, (passes_iff hi).mp hpasses⟩
  · rintro ⟨i, hi, heligible⟩
    exact ⟨(c, i), List.mem_filter.mpr ⟨List.mem_zipIdx_iff_getElem?.mpr hi, (passes_iff hi).mpr heligible⟩, rfl⟩

/-- If the frequencies increase then a channel above another one is behind it, and it is the only one. -/
lemma Ascending.firstFrom_iff (h : mode.Ascending) (hi : mode.channels[i]? = some c) (hle : c.freq ≤ freq) :
    mode.FirstFrom i freq d ↔ d ∈ mode.channels ∧ d.freq = freq := by
  have hless (j l : ℕ) (cj cl : HostapdChannelData) (hj : mode.channels[j]? = some cj)
      (hl : mode.channels[l]? = some cl) (hlt : j < l) : cj.freq < cl.freq := by
    obtain ⟨hj', rfl⟩ := List.getElem?_eq_some_iff.mp hj
    obtain ⟨hl', rfl⟩ := List.getElem?_eq_some_iff.mp hl
    exact List.pairwise_iff_getElem.mp h j l hj' hl' hlt
  constructor
  · rintro ⟨j, -, hj, hfreq, -⟩
    exact ⟨List.mem_of_getElem? hj, hfreq⟩
  · rintro ⟨hmem, hfreq⟩
    obtain ⟨j, hj⟩ := List.mem_iff_getElem?.mp hmem
    refine ⟨j, ?_, hj, hfreq, fun l c' _ hlt hl => ?_⟩
    · by_contra hlt
      have hbelow := hless j i d c hj hi (by omega)
      omega
    · have hbelow := hless l j c' d hl hj hlt
      omega

lemma Ascending.eligible_iff (h : mode.Ascending) :
    mode.Eligible conf skipRadar i ↔ mode.EligibleAnywhere conf skipRadar i := by
  unfold Eligible EligibleAnywhere
  refine exists_congr fun c => and_congr_right fun hi => and_congr_right fun _ => forall₂_congr fun k _ => ?_
  have hle : c.freq ≤ c.freq + k * 20 := by omega
  have hfirst (d : HostapdChannelData) := h.firstFrom_iff (d := d) hi hle
  constructor
  · rintro ⟨d, hd, husable⟩
    refine ⟨⟨d, (hfirst d).mp hd⟩, fun d' hmem hfreq => ?_⟩
    -- there is only one channel of that frequency
    obtain ⟨j, hle, hj, hfreqj, hbefore⟩ := hd
    obtain ⟨j', hle', hj', hfreqj', hbefore'⟩ := (hfirst d').mpr ⟨hmem, hfreq⟩
    have hsame : j = j' := by
      rcases Nat.lt_trichotomy j j' with hlt | heq | hlt
      · exact absurd hfreqj (hbefore' j d hle hlt hj)
      · exact heq
      · exact absurd hfreqj' (hbefore j' d' hle' hlt hj')
    subst hsame
    obtain rfl := Option.some.inj (hj.symm.trans hj')
    exact husable
  · rintro ⟨⟨d, hmem, hfreq⟩, hall⟩
    exact ⟨d, (hfirst d).mpr ⟨hmem, hfreq⟩, hall d hmem hfreq⟩

end Find

end HostapdHwModes

/-! ## The choice -/

section Choice

variable {mode : HostapdHwModes} {conf : DfsConfig} {skipRadar : Bool} {rand : UInt32} {choice : DfsChoice}

/-- What is drawn is an entry of the list of channels. -/
lemma dfsGetValidChannelLoop_eq (hband : mode.ieee80211a = true) (conf : DfsConfig) (skipRadar : Bool)
    (rand : Option UInt32) :
    dfsGetValidChannelLoop (some mode) conf skipRadar rand = dfsGetValidChannel (some mode) conf skipRadar rand := by
  unfold dfsGetValidChannelLoop dfsGetValidChannel
  simp only [hband, Bool.not_true, Bool.false_eq_true, if_false, (mode.dfsFindChannelLoop_eq conf skipRadar _).1,
    (mode.dfsFindChannelLoop_eq conf skipRadar _).2, Option.bind_eq_bind, Option.bind_some]
  by_cases hnone : (mode.dfsFindChannel conf skipRadar).length = 0
  · rw [if_pos hnone]
    cases rand with
    | none => rfl
    | some rand => simp [List.eq_nil_of_length_eq_zero hnone]
  · rw [if_neg hnone]
    cases rand with
    | none => rfl
    | some rand =>
      dsimp only [Option.bind_some]
      cases (mode.dfsFindChannel conf skipRadar)[rand.toNat % (mode.dfsFindChannel conf skipRadar).length]? <;> rfl

/-- The channel that is chosen is the one that the random number stands for. -/
lemma dfsGetValidChannelLoop_chan (hband : mode.ieee80211a = true) (conf : DfsConfig) (skipRadar : Bool) (rand : UInt32) :
    (dfsGetValidChannelLoop (some mode) conf skipRadar (some rand)).map DfsChoice.chan =
      (mode.dfsFindChannel conf skipRadar)[rand.toNat % (mode.dfsFindChannel conf skipRadar).length]? := by
  rw [dfsGetValidChannelLoop_eq hband]
  unfold dfsGetValidChannel
  simp only [hband, Bool.not_true, Bool.false_eq_true, if_false, Option.bind_eq_bind, Option.bind_some]
  cases (mode.dfsFindChannel conf skipRadar)[rand.toNat % (mode.dfsFindChannel conf skipRadar).length]? <;> rfl

end Choice

/-- For every table of channels in the 5 GHz band and every configuration, no channel is returned exactly if no entry is
eligible, an eligible one is returned otherwise, and each of them for some random number.  If the frequencies increase in
the table then it does not matter where the channels of 20 MHz are looked for. -/
theorem dfsGetValidChannel_spec {mode : HostapdHwModes} (hband : mode.ieee80211a = true)
    (hsize : mode.channels.length < 2 ^ 31) (conf : DfsConfig) (skipRadar : Bool) :
    (∀ rand, dfsGetValidChannelLoop (some mode) conf skipRadar (some rand) = none ↔
      ∀ i, ¬mode.Eligible conf skipRadar i) ∧
    (∀ rand choice, dfsGetValidChannelLoop (some mode) conf skipRadar (some rand) = some choice →
      ∃ i, mode.channels[i]? = some choice.chan ∧ mode.Eligible conf skipRadar i) ∧
    (∀ i, mode.Eligible conf skipRadar i →
      ∃ rand choice, dfsGetValidChannelLoop (some mode) conf skipRadar (some rand) = some choice ∧
        mode.channels[i]? = some choice.chan) ∧
    (mode.Ascending → ∀ i, mode.Eligible conf skipRadar i ↔ mode.EligibleAnywhere conf skipRadar i) := by
  have hchan := dfsGetValidChannelLoop_chan hband conf skipRadar
  have hmem (c : HostapdChannelData) := mode.mem_dfsFindChannel conf skipRadar c
  refine ⟨fun rand => ?_, fun rand choice h => ?_, fun i heligible => ?_, fun h i => h.eligible_iff⟩
  · rw [← Option.map_eq_none_iff (f := DfsChoice.chan), hchan, List.getElem?_eq_none_iff]
    constructor
    · intro hlength i heligible
      have ⟨c, hi, _⟩ := heligible
      have hpos := List.length_pos_of_mem ((hmem c).mpr ⟨i, hi, heligible⟩)
      exact absurd (Nat.mod_lt rand.toNat hpos) (Nat.not_lt.mpr hlength)
    · intro hnone
      have hempty : mode.dfsFindChannel conf skipRadar = [] := by
        refine List.eq_nil_iff_forall_not_mem.mpr fun c hc => ?_
        obtain ⟨i, -, heligible⟩ := (hmem c).mp hc
        exact hnone i heligible
      rw [hempty]
      exact Nat.zero_le _
  · have hget := hchan rand
    rw [h, Option.map_some] at hget
    exact (hmem choice.chan).mp (List.mem_of_getElem? hget.symm)
  · have ⟨c, hi, _⟩ := heligible
    obtain ⟨k, hk⟩ := List.mem_iff_getElem?.mp ((hmem c).mpr ⟨i, hi, heligible⟩)
    have hlt : k < (mode.dfsFindChannel conf skipRadar).length := (List.getElem?_eq_some_iff.mp hk).1
    have hle : (mode.dfsFindChannel conf skipRadar).length ≤ mode.channels.length := by
      unfold HostapdHwModes.dfsFindChannel
      rw [List.length_map]
      exact (List.length_filter_le _ _).trans List.length_zipIdx.le
    -- the index itself is a random number
    have hrand : (UInt32.ofNat k).toNat % (mode.dfsFindChannel conf skipRadar).length = k := by
      rw [UInt32.toNat_ofNat', Nat.mod_eq_of_lt (show k < 2 ^ 32 by omega), Nat.mod_eq_of_lt hlt]
    have hget := hchan (UInt32.ofNat k)
    rw [hrand, hk] at hget
    obtain ⟨choice, hchoice, rfl⟩ := Option.map_eq_some_iff.mp hget
    exact ⟨UInt32.ofNat k, choice, hchoice, hi⟩

/-- The channels 36 and 40. -/
theorem dfsGetValidChannel_spec_pair :
    let mode : HostapdHwModes := ⟨true, [⟨36, 5180, 0⟩, ⟨40, 5200, 0⟩]⟩
    let conf : DfsConfig := ⟨36, 1, true, false, true, 0, 0, 0, []⟩
    (mode.ieee80211a = true ∧ mode.channels.length < 2 ^ 31) ∧
    (∀ rand, dfsGetValidChannelLoop (some mode) conf false (some rand) = none ↔ ∀ i, ¬mode.Eligible conf false i) :=
  ⟨⟨rfl, by decide⟩, (dfsGetValidChannel_spec (show HostapdHwModes.ieee80211a ⟨true, [⟨36, 5180, 0⟩, ⟨40, 5200, 0⟩]⟩ = true from rfl) (by decide)
    ⟨36, 1, true, false, true, 0, 0, 0, []⟩ false).1⟩

/-- With the same two channels in the other order, no channel of 40 MHz is found. -/
theorem dfsGetValidChannel_order :
    let mode : HostapdHwModes := ⟨true, [⟨40, 5200, 0⟩, ⟨36, 5180, 0⟩]⟩
    let conf : DfsConfig := ⟨36, 1, true, false, true, 0, 0, 0, []⟩
    mode.EligibleAnywhere conf false 1 ∧
      ∀ rand, dfsGetValidChannelLoop (some mode) conf false (some rand) = none := by
  intro mode conf
  refine ⟨⟨⟨36, 5180, 0⟩, rfl, ⟨fun _ _ => by decide, by decide⟩, fun k hk => ?_⟩, fun rand => rfl⟩
  have husable (c : HostapdChannelData) (hc : c ∈ mode.channels) : c.Usable false := by
    have hflag : c.flag = 0 := by
      simp only [mode, List.mem_cons, List.not_mem_nil, or_false] at hc
      rcases hc with rfl | rfl <;> rfl
    have hradar : c.radar = false := by simp [HostapdChannelData.radar, hflag]
    have hdisabled : c.disabled = false := by simp [HostapdChannelData.disabled, hflag]
    exact ⟨hdisabled, fun h => absurd (hradar.symm.trans h) Bool.false_ne_true, nofun⟩
  have hk2 : k < 2 := hk
  refine ⟨?_, fun d hd _ => husable d hd⟩
  interval_cases k
  · exact ⟨⟨36, 5180, 0⟩, by simp [mode], by simp⟩
  · exact ⟨⟨40, 5200, 0⟩, by simp [mode], by simp⟩

end Ethanol
