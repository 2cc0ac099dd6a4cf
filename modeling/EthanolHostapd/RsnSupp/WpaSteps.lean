import EthanolHostapd.RsnSupp.Wpa

/-!
# What a frame can do to the station

`rxEapol_cases` says once what `wpa_sm_rx_eapol` can do: nothing that matters, derive a new TPTK, or verify a frame, answer it
and install the keys that it brings.  Everything else that the functions do only adds to the history, which is what `Grows`
says.
-/

namespace Ethanol

variable {Nonce Pmk : Type}

/-! ## Entries of the history -/

namespace SuppAct

/-- The installation of a group key. -/
def isGtk : SuppAct Nonce → Bool
  | .installedGtk .. => true
  | _ => false

/-- What the station may do without a verified frame. -/
def inert : SuppAct Nonce → Bool
  | .deauthenticated => true
  | .sent .msg2of4 _ => true
  | _ => false

/-- What the station may do after a verified frame with this counter, apart from the installation of the PTK. -/
def answers (c : BitVec 64) : SuppAct Nonce → Bool
  | .deauthenticated => true
  | .sent .msg4of4 c' => c' = c
  | .sent .msg2of2 c' => c' = c
  | .installedGtk .. => true
  | .installedIgtk .. => true
  | .portValid => true
  | _ => false

end SuppAct

/-! ## Growth of the history -/

/-- Only good entries are added to the history, at most so many of them for a GTK, and the keys and the replay counter are as
before. -/
structure Grows (good : SuppAct Nonce → Bool) (gtks : ℕ) (sm sm' : WpaSm Nonce Pmk) : Prop where
  ptk : sm'.ptk = sm.ptk
  ptkSet : sm'.ptkSet = sm.ptkSet
  tptk : sm'.tptk = sm.tptk
  tptkSet : sm'.tptkSet = sm.tptkSet
  tkToSet : sm'.tkToSet = sm.tkToSet
  rxReplayCounter : sm'.rxReplayCounter = sm.rxReplayCounter
  rxReplayCounterSet : sm'.rxReplayCounterSet = sm.rxReplayCounterSet
  history : ∃ acts, sm'.history = acts ++ sm.history ∧ (∀ act ∈ acts, good act = true) ∧ acts.countP SuppAct.isGtk ≤ gtks

namespace Grows

variable {good : SuppAct Nonce → Bool} {m n : ℕ} {sm sm₁ sm₂ : WpaSm Nonce Pmk}

lemma refl (sm : WpaSm Nonce Pmk) : Grows good n sm sm :=
  ⟨rfl, rfl, rfl, rfl, rfl, rfl, rfl, [], rfl, by simp, by simp⟩

lemma trans (h : Grows good m sm sm₁) (h' : Grows good n sm₁ sm₂) : Grows good (m + n) sm sm₂ := by
  obtain ⟨acts, hacts, hgood, hgtks⟩ := h.history
  obtain ⟨acts', hacts', hgood', hgtks'⟩ := h'.history
  refine ⟨h'.ptk.trans h.ptk, h'.ptkSet.trans h.ptkSet, h'.tptk.trans h.tptk, h'.tptkSet.trans h.tptkSet,
    h'.tkToSet.trans h.tkToSet, h'.rxReplayCounter.trans h.rxReplayCounter,
    h'.rxReplayCounterSet.trans h.rxReplayCounterSet, acts' ++ acts, ?_, ?_, ?_⟩
  · rw [hacts', hacts, List.append_assoc]
  · intro act hact
    rcases List.mem_append.mp hact with hact | hact
    · exact hgood' act hact
    · exact hgood act hact
  · rw [List.countP_append]
    omega

lemma mono (h : Grows good m sm sm₁) (hmn : m ≤ n) : Grows good n sm sm₁ := by
  obtain ⟨acts, hacts, hgood, hgtks⟩ := h.history
  exact { h with history := ⟨acts, hacts, hgood, hgtks.trans hmn⟩ }

/-- One entry that is not for a GTK. -/
lemma record (act : SuppAct Nonce) (hgood : good act = true) (hgtk : act.isGtk = false) (sm : WpaSm Nonce Pmk) :
    Grows good 0 sm (sm.record act) :=
  ⟨rfl, rfl, rfl, rfl, rfl, rfl, rfl, [act], rfl, by simpa using hgood, by simp [hgtk]⟩

lemma failed (hgood : good .deauthenticated = true) (sm : WpaSm Nonce Pmk) : Grows good 0 sm sm.failed :=
  record _ hgood rfl sm

/-- The second function is called only after the first. -/
lemma andThen {r : WpaSm Nonce Pmk × Bool} (h : Grows good m sm r.1) (next : WpaSm Nonce Pmk → WpaSm Nonce Pmk × Bool)
    (hnext : ∀ sm, Grows good n sm (next sm).1) : Grows good (m + n) sm (WpaSm.andThen r next).1 := by
  unfold WpaSm.andThen
  split
  · exact h.trans (hnext r.1)
  · exact h.mono (Nat.le_add_right m n)

end Grows

/-- A new TPTK is kept. -/
def Derives (ptk : SuppPtk) (anonce : Nonce) (sm sm' : WpaSm Nonce Pmk) : Prop :=
  sm' = { sm with
    tptk := ptk
    tptkSet := true
    tkToSet := true
    history := .derived ptk anonce sm.snonce :: sm.history }

/-- The TK is handed to the driver. -/
def Installs (conf : SuppConfig) (sm sm' : WpaSm Nonce Pmk) : Prop :=
  sm.tkToSet = true ∧ sm' = { sm with
    ptk := { sm.ptk with tk := zeroTk }
    tkToSet := false
    history := .installedPtk (sm.ptk.tk.take (wpaCipherKeyLen conf.pairwiseCipher)) :: sm.history }

namespace WpaSm

variable (p : SuppParams Nonce Pmk) (conf : SuppConfig) (env : SuppEnv Nonce Pmk) (sm : WpaSm Nonce Pmk)
  (key : SuppKey Nonce) (ies : SuppIes) (keyData : List UInt8)

/-! ## The keys of a group -/

section

variable (c : BitVec 64)

lemma grows_wpaState (good : SuppAct Nonce → Bool) (state : SuppState) :
    Grows good 0 sm { sm with wpaState := state } := { Grows.refl sm with }

lemma grows_portValid (secure : Bool) :
    Grows (SuppAct.answers c) 0 sm (if secure then sm.record .portValid else sm) := by
  split
  · exact Grows.record _ rfl rfl sm
  · exact Grows.refl sm

lemma grows_keyNegComplete (secure : Bool) : Grows (SuppAct.answers c) 0 sm (sm.keyNegComplete secure) :=
  (grows_wpaState sm _ .completed).trans (grows_portValid _ c secure)

lemma grows_installGtk (gd : SuppGtkData) : Grows (SuppAct.answers c) 1 sm (sm.installGtk conf env key gd).1 := by
  simp only [installGtk]
  generalize (if conf.groupCipher = wpaCipherTkip then swapMichael gd.gtk else gd.gtk) = gtk
  split
  · exact Grows.refl sm
  · exact ⟨rfl, rfl, rfl, rfl, rfl, rfl, rfl, [_], rfl, by simp [SuppAct.answers], by simp [SuppAct.isGtk]⟩

lemma grows_pairwiseGtk (gtk : List UInt8) :
    Grows (SuppAct.answers c) 1 sm (sm.pairwiseGtk conf env key gtk).1 := by
  unfold pairwiseGtk
  split
  · exact Grows.refl sm
  · refine Grows.andThen (m := 1) ?_ (fun sm => (sm.keyNegComplete key.secure, true)) fun sm =>
      grows_keyNegComplete sm c key.secure
    split
    · exact Grows.refl sm
    · split
      · exact Grows.refl sm
      · exact grows_installGtk conf env sm key c _

lemma grows_ieee80211wSetKeys : Grows (SuppAct.answers c) 0 sm (sm.ieee80211wSetKeys conf env ies).1 := by
  unfold ieee80211wSetKeys
  split
  · exact Grows.refl sm
  · split
    · exact Grows.refl sm
    · dsimp only
      split
      · exact Grows.refl sm
      · split
        · exact Grows.refl sm
        · split
          · exact Grows.refl sm
          · exact Grows.record _ rfl rfl sm

lemma grows_message3Gtk : Grows (SuppAct.answers c) 1 sm (sm.message3Gtk conf env key ies).1 := by
  unfold message3Gtk
  split
  · exact (grows_keyNegComplete sm c _).mono (Nat.zero_le 1)
  · split
    · exact Grows.refl sm
    · exact grows_pairwiseGtk conf env sm key c _

lemma grows_process1of2Rsn : Grows (SuppAct.answers c) 0 sm (sm.process1of2Rsn conf env key keyData).1 := by
  unfold process1of2Rsn
  split
  · exact Grows.refl sm
  · split
    · exact Grows.refl sm
    · split
      · exact Grows.refl sm
      · split
        · exact Grows.refl sm
        · split
          · exact Grows.refl sm
          · exact grows_ieee80211wSetKeys conf env sm _ c

end

/-! ## Verified frames -/

/-- `wpa_supplicant_install_ptk` hands over the TK or does nothing. -/
lemma installPtk_cases :
    (sm.installPtk conf env).1 = sm ∨ Installs conf sm (sm.installPtk conf env).1 := by
  unfold installPtk
  split
  · exact .inl rfl
  · rename_i hset
    split
    · exact .inl rfl
    · split
      · exact .inl rfl
      · split
        · exact .inl rfl
        · exact .inr ⟨by simpa using hset, rfl⟩

/-- After the PTK, at most one GTK is installed. -/
lemma installKeys_cases (c : BitVec 64) :
    ∃ sm₁, (sm₁ = sm ∨ Installs conf sm sm₁) ∧
      Grows (SuppAct.answers c) 1 sm₁ (sm.installKeys conf env key ies).1 := by
  have hrest (sm : WpaSm Nonce Pmk) : Grows (SuppAct.answers c) 1 sm
      (andThen (({ (if key.secure then sm.record .portValid else sm) with
        wpaState := .groupHandshake }).message3Gtk conf env key ies) fun sm => sm.ieee80211wSetKeys conf env ies).1 := by
    have hstart := (grows_portValid sm c key.secure).trans (grows_wpaState _ _ .groupHandshake)
    have hgtk := hstart.trans (grows_message3Gtk conf env _ key ies c)
    exact hgtk.andThen _ fun sm => grows_ieee80211wSetKeys conf env sm ies c
  refine ⟨(if key.install then sm.installPtk conf env else (sm, true)).1, ?_, ?_⟩
  · split
    · exact installPtk_cases conf env sm
    · exact .inl rfl
  · unfold installKeys
    generalize (if key.install then sm.installPtk conf env else (sm, true)) = r
    exact (Grows.refl (n := 0) r.1).andThen _ hrest

/-- Message 3 is answered before any key is installed. -/
lemma process3of4_cases [DecidableEq Nonce] :
    ∃ sm₁ sm₂, Grows (SuppAct.answers key.replayCounter) 0 sm sm₁ ∧ (sm₂ = sm₁ ∨ Installs conf sm₁ sm₂) ∧
      Grows (SuppAct.answers key.replayCounter) 1 sm₂ (sm.process3of4 conf env key keyData) := by
  have hstate := grows_wpaState sm (SuppAct.answers key.replayCounter) .fourWayHandshake
  have hfails : ∃ sm₁ sm₂, Grows (SuppAct.answers key.replayCounter) 0 sm sm₁ ∧ (sm₂ = sm₁ ∨ Installs conf sm₁ sm₂) ∧
      Grows (SuppAct.answers key.replayCounter) 1 sm₂ ({ sm with wpaState := .fourWayHandshake }.failed) :=
    ⟨_, _, hstate, .inl rfl, (Grows.failed rfl _).mono (Nat.zero_le 1)⟩
  unfold process3of4
  dsimp only
  split
  · exact hfails
  · rename_i ies _
    split
    · exact hfails
    · split
      · exact hfails
      · have hreply (sm : WpaSm Nonce Pmk) : Grows (SuppAct.answers key.replayCounter) 0 sm
            { sm.record (.sent .msg4of4 key.replayCounter) with renewSnonce := true } :=
          { Grows.record (.sent .msg4of4 key.replayCounter) (by simp [SuppAct.answers]) rfl sm with }
        obtain ⟨sm₂, hinstall, hgrows⟩ := installKeys_cases conf env
          { ({ sm with wpaState := .fourWayHandshake }.record (.sent .msg4of4 key.replayCounter)) with renewSnonce := true }
          key ies key.replayCounter
        refine ⟨_, sm₂, hstate.trans (hreply _), hinstall, ?_⟩
        split
        · exact { hgrows with }
        · exact hgrows.trans (Grows.failed rfl _)

/-- The first message of the group key handshake brings at most one GTK. -/
lemma grows_process1of2 :
    Grows (SuppAct.answers key.replayCounter) 1 sm (sm.process1of2 p conf env key keyData) := by
  unfold process1of2
  split
  · exact (Grows.failed rfl sm).mono (Nat.zero_le 1)
  · dsimp only
    have hkeys : Grows (SuppAct.answers key.replayCounter) 0 sm
        (if rsnProto conf then sm.process1of2Rsn conf env key keyData else (sm, sm.process1of2Wpa p conf key keyData)).1 := by
      split
      · exact grows_process1of2Rsn conf env sm key keyData _
      · exact Grows.refl sm
    generalize (if rsnProto conf then sm.process1of2Rsn conf env key keyData
      else (sm, sm.process1of2Wpa p conf key keyData)) = r at hkeys ⊢
    have hstate := hkeys.trans (grows_wpaState r.1 _ .groupHandshake)
    split
    · exact (hstate.trans (Grows.failed rfl _)).mono (Nat.zero_le 1)
    · rename_i gd _
      have hreply := (hstate.trans (grows_installGtk conf env _ key _ gd)).andThen (n := 0)
        (fun sm => if env.sendFails then (sm, false) else (sm.record (.sent .msg2of2 key.replayCounter), true)) fun sm => by
          split
          · exact Grows.refl sm
          · exact Grows.record _ (by simp [SuppAct.answers]) rfl sm
      generalize WpaSm.andThen _ _ = r at hreply ⊢
      split
      · exact hreply.trans (Grows.failed rfl _)
      · split
        · exact { hreply with }
        · exact hreply.trans (grows_keyNegComplete _ _ _)

/-! ## Message 1 -/

lemma renewedSnonce_cases (good : SuppAct Nonce → Bool) {sm sm' : WpaSm Nonce Pmk}
    (h : sm.renewedSnonce env = some sm') : Grows good 0 sm sm' := by
  unfold renewedSnonce at h
  split at h
  · obtain ⟨snonce, -, rfl⟩ := Option.map_eq_some_iff.mp h
    exact { Grows.refl sm with }
  · obtain rfl := Option.some.inj h
    exact Grows.refl sm

/-- A new TPTK, and the reply. -/
lemma deriveTptk_cases :
    ∃ ptk sm₁, ptk = stationPtk conf (p.derivePtk sm.pmk sm.snonce key.keyNonce) ∧ Derives ptk key.keyNonce sm sm₁ ∧
      Grows SuppAct.inert 0 sm₁ (sm.deriveTptk p conf env key) := by
  have hreply (sm : WpaSm Nonce Pmk) : Grows SuppAct.inert 0 sm
      { sm.record (.sent .msg2of4 key.replayCounter) with anonce := key.keyNonce } :=
    { Grows.record (.sent .msg2of4 key.replayCounter) rfl rfl sm with }
  refine ⟨_, _, rfl, rfl, ?_⟩
  unfold deriveTptk
  dsimp only
  split
  · exact Grows.failed rfl _
  · exact hreply _

/-- Message 1 fails, or there is a new TPTK. -/
lemma process1of4_cases :
    Grows SuppAct.inert 0 sm (sm.process1of4 p conf env key keyData) ∨
      ∃ ptk sm₁ sm₂, Grows SuppAct.inert 0 sm sm₁ ∧
        ptk = stationPtk conf (p.derivePtk sm₁.pmk sm₁.snonce key.keyNonce) ∧ Derives ptk key.keyNonce sm₁ sm₂ ∧
        Grows SuppAct.inert 0 sm₂ (sm.process1of4 p conf env key keyData) := by
  have hstate := grows_wpaState sm SuppAct.inert .fourWayHandshake
  unfold process1of4
  dsimp only
  split
  · exact .inl (Grows.refl sm)
  · split
    · exact .inl (hstate.trans (Grows.failed rfl _))
    · have hpmk : Grows SuppAct.inert 0 sm
          { sm with wpaState := .fourWayHandshake, pmk := env.newPmk.getD sm.pmk } := { hstate with }
      split
      · exact .inl hpmk
      · exact .inl (hpmk.trans (Grows.failed rfl _))
      · split
        · exact .inl (hpmk.trans (Grows.failed rfl _))
        · rename_i sm₁ hsnonce
          obtain ⟨ptk, sm₂, hptk, hderives, hgrows⟩ := deriveTptk_cases p conf env sm₁ key
          exact .inr ⟨ptk, sm₁, sm₂, hpmk.trans (renewedSnonce_cases env SuppAct.inert hsnonce), hptk, hderives, hgrows⟩

/-! ## A frame -/

variable [DecidableEq Nonce]

/-- What a frame can do. -/
lemma rxEapol_cases :
    Grows SuppAct.inert 0 sm (sm.rxEapol p conf env key) ∨
      (∃ ptk sm₁ sm₂, Grows SuppAct.inert 0 sm sm₁ ∧
        ptk = stationPtk conf (p.derivePtk sm₁.pmk sm₁.snonce key.keyNonce) ∧ Derives ptk key.keyNonce sm₁ sm₂ ∧
        Grows SuppAct.inert 0 sm₂ (sm.rxEapol p conf env key)) ∨
      ∃ sm₀ sm₁ sm₂, (sm.rxReplayCounterSet = true → sm.rxReplayCounter < key.replayCounter) ∧
        sm.verifyEapolKeyMic p key = some sm₀ ∧ Grows (SuppAct.answers key.replayCounter) 0 sm₀ sm₁ ∧
        (sm₂ = sm₁ ∨ Installs conf sm₁ sm₂) ∧
        Grows (SuppAct.answers key.replayCounter) 1 sm₂ (sm.rxEapol p conf env key) := by
  unfold rxEapol
  split
  · exact .inl (Grows.refl sm)
  · split
    · exact .inl (Grows.refl sm)
    · rename_i hreplay
      have hnew : sm.rxReplayCounterSet = true → sm.rxReplayCounter < key.replayCounter := by
        intro hset
        exact BitVec.not_le.mp fun hle => hreplay ⟨hset, hle⟩
      split
      · exact .inl (Grows.refl sm)
      · split
        · exact .inl (Grows.refl sm)
        · cases hmic : key.mic with
          | false =>
            simp only [Bool.false_eq_true, if_false]
            split
            · exact .inl (Grows.refl sm)
            · simp only [processKey, hmic, Bool.false_eq_true, if_false]
              split
              · split
                · exact .inl (Grows.refl sm)
                · exact (process1of4_cases p conf env sm key _).imp_right .inl
              · split
                · exact .inl (Grows.refl sm)
                · exact .inl (Grows.refl sm)
          | true =>
            simp only [if_true]
            split
            · exact .inl (Grows.refl sm)
            · rename_i sm₀ hverify
              refine .inr (.inr ?_)
              have hnone : ∃ sm₁ sm₂, Grows (SuppAct.answers key.replayCounter) 0 sm₀ sm₁ ∧
                  (sm₂ = sm₁ ∨ Installs conf sm₁ sm₂) ∧ Grows (SuppAct.answers key.replayCounter) 1 sm₂ sm₀ :=
                ⟨sm₀, sm₀, Grows.refl sm₀, .inl rfl, Grows.refl sm₀⟩
              split
              · exact ⟨sm₀, sm₀, sm₀, hnew, hverify, Grows.refl sm₀, .inl rfl, Grows.refl sm₀⟩
              · simp only [processKey, hmic, if_true]
                split
                · split
                  · exact ⟨sm₀, sm₀, sm₀, hnew, hverify, Grows.refl sm₀, .inl rfl, Grows.refl sm₀⟩
                  · obtain ⟨sm₁, sm₂, h⟩ := process3of4_cases conf env sm₀ key _
                    exact ⟨sm₀, sm₁, sm₂, hnew, hverify, h⟩
                · split
                  · exact ⟨sm₀, sm₀, sm₀, hnew, hverify, Grows.refl sm₀, .inl rfl, Grows.refl sm₀⟩
                  · exact ⟨sm₀, sm₀, sm₀, hnew, hverify, Grows.refl sm₀, .inl rfl,
                      grows_process1of2 p conf env sm₀ key _⟩

end WpaSm

end Ethanol
