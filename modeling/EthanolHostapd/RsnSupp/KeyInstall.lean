import EthanolHostapd.RsnSupp.WpaSteps
import EthanolHostapd.Traces.History

/-!
# What the station hands to the driver

Two statements about every run.  A TK is handed over only after a message 1, and it is that of the PTK that was verified last,
unless that one was handed over before: then it is a key of zeros.  And nothing is installed or answered but for a verified
frame, whose replay counter is larger than those of all verified frames of the association, and at most one GTK for each.
-/

namespace Ethanol

open Trace

variable {Nonce Pmk : Type}

/-! ## What a history says about the keys -/

/-- The PTK that was verified last, and whether its TK was handed over since. -/
def heldPtk : List (SuppAct Nonce) → Option (SuppPtk × Bool)
  | [] => none
  | .promoted ptk :: _ => some (ptk, false)
  | .installedPtk _ :: h => (heldPtk h).map fun held => (held.1, true)
  | .cleared :: _ => none
  | _ :: h => heldPtk h

/-- There was a message 1 since a TK was handed over. -/
def newTk : List (SuppAct Nonce) → Bool
  | [] => false
  | .derived .. :: _ => true
  | .installedPtk _ :: _ => false
  | _ :: h => newTk h

/-- The PTK of the last message 1 that was not verified yet. -/
def unverifiedPtk : List (SuppAct Nonce) → Option SuppPtk
  | [] => none
  | .derived ptk _ _ :: _ => some ptk
  | .promoted _ :: _ => none
  | .cleared :: _ => none
  | _ :: h => unverifiedPtk h

/-- A PTK that is held was verified. -/
lemma promoted_of_heldPtk {h : List (SuppAct Nonce)} {ptk : SuppPtk} {used : Bool} (hheld : heldPtk h = some (ptk, used)) :
    ∃ earlier, .promoted ptk :: earlier <:+ h := by
  induction h generalizing used with
  | nil => exact absurd hheld (by simp [heldPtk])
  | cons act h ih =>
    have hskip (used : Bool) (hheld : heldPtk h = some (ptk, used)) : ∃ earlier, .promoted ptk :: earlier <:+ act :: h := by
      obtain ⟨earlier, hearlier⟩ := ih hheld
      exact ⟨earlier, hearlier.trans (List.suffix_cons act h)⟩
    cases act with
    | promoted ptk' =>
      obtain ⟨rfl, -⟩ := Prod.mk.inj (Option.some.inj hheld)
      exact ⟨h, List.suffix_rfl⟩
    | installedPtk tk =>
      obtain ⟨held, hheld', heq⟩ := Option.map_eq_some_iff.mp hheld
      obtain ⟨rfl, -⟩ := Prod.mk.inj heq
      exact hskip held.2 hheld'
    | cleared => exact absurd hheld (by simp [heldPtk])
    | _ => exact hskip used hheld

/-- What is left of a PTK in memory. -/
def leftPtk (held : SuppPtk × Bool) : SuppPtk := if held.2 then { held.1 with tk := zeroTk } else held.1

/-- The PTK is the one of the last message 1, and the TK is that of the PTK, or zero if it was handed over. -/
def keyAllowed (conf : SuppConfig) : SuppAct Nonce → List (SuppAct Nonce) → Prop
  | .promoted ptk, before => unverifiedPtk before = some ptk
  | .installedPtk tk, before => newTk before = true ∧
      ∃ held, heldPtk before = some held ∧ tk = (leftPtk held).tk.take (wpaCipherKeyLen conf.pairwiseCipher)
  | _, _ => True

/-- The state agrees with its history about the keys. -/
structure KeysAgree (conf : SuppConfig) (sm : WpaSm Nonce Pmk) : Prop where
  tk : sm.tkToSet = newTk sm.history
  ptk : (if sm.ptkSet then some sm.ptk else none) = (heldPtk sm.history).map leftPtk
  tptk : sm.tptkSet = true → unverifiedPtk sm.history = some sm.tptk
  warranted : Warranted (keyAllowed conf) sm.history

/-- Entries that are not about the PTK. -/
def aboutNoPtk (act : SuppAct Nonce) : Prop :=
  ∀ conf h, keyAllowed conf act h ∧ heldPtk (act :: h) = heldPtk h ∧ newTk (act :: h) = newTk h ∧
    unverifiedPtk (act :: h) = unverifiedPtk h

lemma aboutNoPtk_inert {act : SuppAct Nonce} (hact : act.inert = true) : aboutNoPtk act := by
  intro conf h
  cases act with
  | sent msg c => exact ⟨trivial, rfl, rfl, rfl⟩
  | deauthenticated => exact ⟨trivial, rfl, rfl, rfl⟩
  | _ => exact absurd hact (by simp [SuppAct.inert])

lemma aboutNoPtk_answers {c : BitVec 64} {act : SuppAct Nonce} (hact : act.answers c = true) : aboutNoPtk act := by
  intro conf h
  cases act with
  | derived ptk anonce snonce => exact absurd hact (by simp [SuppAct.answers])
  | promoted ptk => exact absurd hact (by simp [SuppAct.answers])
  | accepted c' => exact absurd hact (by simp [SuppAct.answers])
  | installedPtk tk => exact absurd hact (by simp [SuppAct.answers])
  | cleared => exact absurd hact (by simp [SuppAct.answers])
  | replayReset => exact absurd hact (by simp [SuppAct.answers])
  | _ => exact ⟨trivial, rfl, rfl, rfl⟩

section

variable {p : SuppParams Nonce Pmk} {conf : SuppConfig} {good : SuppAct Nonce → Bool} {n : ℕ} {sm sm' : WpaSm Nonce Pmk}
  {key : SuppKey Nonce}

/-- Entries that are not about the PTK change nothing. -/
lemma KeysAgree.grows (h : KeysAgree conf sm) (hgood : ∀ act, good act = true → aboutNoPtk act)
    (hgrows : Grows good n sm sm') : KeysAgree conf sm' := by
  obtain ⟨acts, hacts, hall, -⟩ := hgrows.history
  obtain ⟨hwarranted, hheld, hnew, hunverified⟩ := h.warranted.append acts
    (fun h' => heldPtk h' = heldPtk sm.history ∧ newTk h' = newTk sm.history ∧
      unverifiedPtk h' = unverifiedPtk sm.history) ⟨rfl, rfl, rfl⟩ fun act hact before hkeep => by
        obtain ⟨hallowed, hheld, hnew, hunverified⟩ := hgood act (hall act hact) conf before
        exact ⟨hallowed, hheld.trans hkeep.1, hnew.trans hkeep.2.1, hunverified.trans hkeep.2.2⟩
  rw [← hacts] at hwarranted hheld hnew hunverified
  constructor
  · rw [hgrows.tkToSet, h.tk, hnew]
  · rw [hgrows.ptkSet, hgrows.ptk, h.ptk, hheld]
  · intro hset
    rw [hgrows.tptk, hunverified]
    exact h.tptk (hgrows.tptkSet ▸ hset)
  · exact hwarranted

lemma KeysAgree.derives {ptk : SuppPtk} {anonce : Nonce} (h : KeysAgree conf sm) (hderives : Derives ptk anonce sm sm') :
    KeysAgree conf sm' := by
  obtain rfl := hderives
  exact ⟨rfl, h.ptk, fun _ => rfl, warranted_cons.mpr ⟨trivial, h.warranted⟩⟩

lemma KeysAgree.installs (h : KeysAgree conf sm) (hset : sm.ptkSet = true) (hinstalls : Installs conf sm sm') :
    KeysAgree conf sm' := by
  obtain ⟨htk, rfl⟩ := hinstalls
  have hptk := h.ptk
  rw [if_pos hset] at hptk
  obtain ⟨held, hheld, hleft⟩ := Option.map_eq_some_iff.mp hptk.symm
  refine ⟨rfl, ?_, h.tptk, warranted_cons.mpr ⟨⟨h.tk ▸ htk, held, hheld, by rw [hleft]⟩, h.warranted⟩⟩
  simp only [hset, if_true, heldPtk, hheld, Option.map_some, leftPtk, ← hleft]
  split <;> rfl

/-- A verified frame leaves a PTK. -/
lemma KeysAgree.verified (h : KeysAgree conf sm) (hverify : sm.verifyEapolKeyMic p key = some sm') :
    KeysAgree conf sm' ∧ sm'.ptkSet = true := by
  unfold WpaSm.verifyEapolKeyMic at hverify
  dsimp only at hverify
  split at hverify
  · rename_i htptk
    obtain rfl := Option.some.inj hverify
    have hwarranted : Warranted (keyAllowed conf) (.promoted sm.tptk :: sm.history) :=
      warranted_cons.mpr ⟨h.tptk htptk.1, h.warranted⟩
    exact ⟨⟨h.tk, rfl, fun hset => absurd hset Bool.false_ne_true, warranted_cons.mpr ⟨trivial, hwarranted⟩⟩, rfl⟩
  · split at hverify
    · rename_i hptk
      obtain rfl := Option.some.inj hverify
      exact ⟨⟨h.tk, h.ptk, h.tptk, warranted_cons.mpr ⟨trivial, h.warranted⟩⟩, hptk.1⟩
    · exact absurd hverify (by simp)

lemma KeysAgree.clearPtk (h : KeysAgree conf sm) : KeysAgree conf sm.clearPtk :=
  ⟨h.tk, rfl, fun hset => absurd hset Bool.false_ne_true, warranted_cons.mpr ⟨trivial, h.warranted⟩⟩

lemma KeysAgree.rxEapol [DecidableEq Nonce] (h : KeysAgree conf sm) (env : SuppEnv Nonce Pmk) (key : SuppKey Nonce) :
    KeysAgree conf (sm.rxEapol p conf env key) := by
  have hinert : ∀ act : SuppAct Nonce, act.inert = true → aboutNoPtk act := fun _ => aboutNoPtk_inert
  have hanswers : ∀ act : SuppAct Nonce, act.answers key.replayCounter = true → aboutNoPtk act :=
    fun _ => aboutNoPtk_answers
  rcases WpaSm.rxEapol_cases p conf env sm key with hgrows | ⟨ptk, sm₁, sm₂, hgrows, -, hderives, hgrows'⟩ |
    ⟨sm₀, sm₁, sm₂, -, hverify, hgrows, hinstall, hgrows'⟩
  · exact h.grows hinert hgrows
  · exact ((h.grows hinert hgrows).derives hderives).grows hinert hgrows'
  · obtain ⟨h₀, hset⟩ := h.verified hverify
    have h₁ := h₀.grows hanswers hgrows
    rcases hinstall with rfl | hinstalls
    · exact h₁.grows hanswers hgrows'
    · exact (h₁.installs (hgrows.ptkSet.trans hset) hinstalls).grows hanswers hgrows'

lemma KeysAgree.next [DecidableEq Nonce] (h : KeysAgree conf sm) {call : SuppCall Nonce Pmk}
    (hnext : suppNext p conf sm call = some sm') : KeysAgree conf sm' := by
  cases call with
  | rxEapol env key => exact Option.some.inj hnext ▸ h.rxEapol env key
  | notifyAssoc =>
    obtain rfl := Option.some.inj hnext
    exact KeysAgree.clearPtk ⟨h.tk, h.ptk, h.tptk, warranted_cons.mpr ⟨trivial, h.warranted⟩⟩
  | dropSa zeroPmk =>
    obtain rfl := Option.some.inj hnext
    exact { h.clearPtk with }
  | notifyDisassoc zeroPmk =>
    obtain rfl := Option.some.inj hnext
    exact { h.clearPtk with }
  | setPmk pmk =>
    obtain rfl := Option.some.inj hnext
    exact { h with }
  | setState state =>
    obtain rfl := Option.some.inj hnext
    exact { h with }

/-! ## Verified frames -/

/-- The frame that is processed, and whether a GTK was installed for it. -/
def frameOf : List (SuppAct Nonce) → Option (BitVec 64 × Bool)
  | .accepted c :: _ => some (c, false)
  | .installedGtk .. :: h => (frameOf h).map fun frame => (frame.1, true)
  | .installedPtk _ :: h => frameOf h
  | .installedIgtk .. :: h => frameOf h
  | .portValid :: h => frameOf h
  | .sent .. :: h => frameOf h
  | .deauthenticated :: h => frameOf h
  | _ => none

/-- The replay counters of the frames that were verified since the counter was reset. -/
def acceptedSince : List (SuppAct Nonce) → List (BitVec 64)
  | [] => []
  | .accepted c :: h => c :: acceptedSince h
  | .replayReset :: _ => []
  | _ :: h => acceptedSince h

/-- A verified frame is newer than those before, and all else belongs to a verified frame. -/
def frameAllowed : SuppAct Nonce → List (SuppAct Nonce) → Prop
  | .accepted c, before => ∀ c' ∈ acceptedSince before, c' < c
  | .installedGtk .., before => ∃ c, frameOf before = some (c, false)
  | .installedPtk _, before => (frameOf before).isSome
  | .installedIgtk .., before => (frameOf before).isSome
  | .portValid, before => (frameOf before).isSome
  | .sent .msg4of4 c, before => ∃ gtk, frameOf before = some (c, gtk)
  | .sent .msg2of2 c, before => ∃ gtk, frameOf before = some (c, gtk)
  | _, _ => True

/-- The state agrees with its history about the frames. -/
structure FramesAgree (sm : WpaSm Nonce Pmk) : Prop where
  counters : ∀ c ∈ acceptedSince sm.history, sm.rxReplayCounterSet = true ∧ c ≤ sm.rxReplayCounter
  warranted : Warranted frameAllowed sm.history

lemma FramesAgree.inert (h : FramesAgree sm) (hgrows : Grows SuppAct.inert n sm sm') : FramesAgree sm' := by
  obtain ⟨acts, hacts, hall, -⟩ := hgrows.history
  obtain ⟨hwarranted, hsince⟩ := h.warranted.append acts
    (fun h' => acceptedSince h' = acceptedSince sm.history) rfl fun act hact before hkeep => by
      have hinert := hall act hact
      cases act with
      | sent msg c =>
        cases msg with
        | msg2of4 => exact ⟨trivial, hkeep⟩
        | _ => exact absurd hinert (by simp [SuppAct.inert])
      | deauthenticated => exact ⟨trivial, hkeep⟩
      | _ => exact absurd hinert (by simp [SuppAct.inert])
  rw [← hacts] at hwarranted hsince
  refine ⟨?_, hwarranted⟩
  rw [hsince, hgrows.rxReplayCounter, hgrows.rxReplayCounterSet]
  exact h.counters

lemma FramesAgree.derives {ptk : SuppPtk} {anonce : Nonce} (h : FramesAgree sm) (hderives : Derives ptk anonce sm sm') :
    FramesAgree sm' := by
  obtain rfl := hderives
  exact ⟨h.counters, warranted_cons.mpr ⟨trivial, h.warranted⟩⟩

lemma FramesAgree.clearPtk (h : FramesAgree sm) : FramesAgree sm.clearPtk :=
  ⟨h.counters, warranted_cons.mpr ⟨trivial, h.warranted⟩⟩

/-- The entries for a verified frame, as long as at most one of them is for a GTK. -/
lemma warranted_answers {c : BitVec 64} {gtk : Bool} {h : List (SuppAct Nonce)} (hall : Warranted frameAllowed h)
    (hframe : frameOf h = some (c, gtk)) (acts : List (SuppAct Nonce)) (hacts : ∀ act ∈ acts, act.answers c = true)
    (hgtks : acts.countP SuppAct.isGtk + gtk.toNat ≤ 1) :
    Warranted frameAllowed (acts ++ h) ∧ frameOf (acts ++ h) = some (c, gtk || acts.any SuppAct.isGtk) ∧
      acceptedSince (acts ++ h) = acceptedSince h := by
  induction acts with
  | nil => exact ⟨hall, by simpa using hframe, rfl⟩
  | cons act acts ih =>
    have hact := hacts act List.mem_cons_self
    rw [List.countP_cons] at hgtks
    obtain ⟨hall', hframe', hsince⟩ := ih (fun act hact => hacts act (List.mem_cons_of_mem _ hact)) (by omega)
    cases act with
    | sent msg c' =>
      cases msg with
      | msg2of4 => exact absurd hact (by simp [SuppAct.answers])
      | msg4of4 =>
        obtain rfl : c' = c := by simpa [SuppAct.answers] using hact
        exact ⟨warranted_cons.mpr ⟨⟨_, hframe'⟩, hall'⟩, hframe', hsince⟩
      | msg2of2 =>
        obtain rfl : c' = c := by simpa [SuppAct.answers] using hact
        exact ⟨warranted_cons.mpr ⟨⟨_, hframe'⟩, hall'⟩, hframe', hsince⟩
    | installedGtk keyidx tx rsc key =>
      have hzero : acts.countP SuppAct.isGtk = 0 ∧ gtk = false := by
        simp only [SuppAct.isGtk, if_true] at hgtks
        cases gtk with
        | false => exact ⟨by omega, rfl⟩
        | true => exact absurd hgtks (by simp)
      have hany : acts.any SuppAct.isGtk = false := by simpa [List.countP_eq_zero] using hzero.1
      rw [hany, hzero.2] at hframe'
      refine ⟨warranted_cons.mpr ⟨⟨c, hframe'⟩, hall'⟩, ?_, hsince⟩
      simp [frameOf, hframe', SuppAct.isGtk]
    | installedIgtk keyid pn igtk =>
      exact ⟨warranted_cons.mpr ⟨by simp [frameAllowed, hframe'], hall'⟩, hframe', hsince⟩
    | portValid => exact ⟨warranted_cons.mpr ⟨by simp [frameAllowed, hframe'], hall'⟩, hframe', hsince⟩
    | deauthenticated => exact ⟨warranted_cons.mpr ⟨trivial, hall'⟩, hframe', hsince⟩
    | _ => exact absurd hact (by simp [SuppAct.answers])

end

/-- While a verified frame is processed. -/
structure Answering (c : BitVec 64) (sm : WpaSm Nonce Pmk) : Prop extends FramesAgree sm where
  frame : frameOf sm.history = some (c, false)

section

variable {p : SuppParams Nonce Pmk} {conf : SuppConfig} {c : BitVec 64} {sm sm' : WpaSm Nonce Pmk} {key : SuppKey Nonce}

lemma Answering.answers (h : Answering c sm) (hgrows : Grows (SuppAct.answers c) 1 sm sm') : FramesAgree sm' := by
  obtain ⟨acts, hacts, hall, hgtks⟩ := hgrows.history
  obtain ⟨hwarranted, -, hsince⟩ := warranted_answers h.warranted h.frame acts hall (by simpa using hgtks)
  rw [← hacts] at hwarranted hsince
  refine ⟨?_, hwarranted⟩
  rw [hsince, hgrows.rxReplayCounter, hgrows.rxReplayCounterSet]
  exact h.counters

/-- Without a GTK, one can still be installed. -/
lemma Answering.answersNoGtk (h : Answering c sm) (hgrows : Grows (SuppAct.answers c) 0 sm sm') : Answering c sm' := by
  refine ⟨h.answers (hgrows.mono (Nat.zero_le 1)), ?_⟩
  obtain ⟨acts, hacts, hall, hgtks⟩ := hgrows.history
  have hzero := Nat.le_zero.mp hgtks
  obtain ⟨-, hframe, -⟩ := warranted_answers h.warranted h.frame acts hall (by simp [hzero])
  have hany : acts.any SuppAct.isGtk = false := by simpa [List.countP_eq_zero] using hzero
  rw [hacts, hframe, hany]
  rfl

lemma Answering.installs (h : Answering c sm) (hinstalls : Installs conf sm sm') : Answering c sm' := by
  obtain ⟨-, rfl⟩ := hinstalls
  exact ⟨⟨h.counters, warranted_cons.mpr ⟨by simp [frameAllowed, h.frame], h.warranted⟩⟩, h.frame⟩

/-- A frame is verified whose counter is new. -/
lemma FramesAgree.verified (h : FramesAgree sm) (hnew : sm.rxReplayCounterSet = true → sm.rxReplayCounter < key.replayCounter)
    (hverify : sm.verifyEapolKeyMic p key = some sm') : Answering key.replayCounter sm' := by
  have hless : ∀ c ∈ acceptedSince sm.history, c < key.replayCounter := by
    intro c hc
    obtain ⟨hset, hle⟩ := h.counters c hc
    exact BitVec.lt_def.mpr (lt_of_le_of_lt (BitVec.le_def.mp hle) (BitVec.lt_def.mp (hnew hset)))
  have hcounters : ∀ c ∈ key.replayCounter :: acceptedSince sm.history, true = true ∧ c ≤ key.replayCounter := by
    intro c hc
    rcases List.mem_cons.mp hc with rfl | hc
    · exact ⟨rfl, BitVec.le_refl _⟩
    · exact ⟨rfl, BitVec.le_of_lt (hless c hc)⟩
  unfold WpaSm.verifyEapolKeyMic at hverify
  dsimp only at hverify
  split at hverify
  · obtain rfl := Option.some.inj hverify
    have hwarranted : Warranted frameAllowed (.promoted sm.tptk :: sm.history) :=
      warranted_cons.mpr ⟨trivial, h.warranted⟩
    exact ⟨⟨hcounters, warranted_cons.mpr ⟨hless, hwarranted⟩⟩, rfl⟩
  · split at hverify
    · obtain rfl := Option.some.inj hverify
      exact ⟨⟨hcounters, warranted_cons.mpr ⟨hless, h.warranted⟩⟩, rfl⟩
    · exact absurd hverify (by simp)

variable [DecidableEq Nonce]

lemma FramesAgree.rxEapol (h : FramesAgree sm) (env : SuppEnv Nonce Pmk) (key : SuppKey Nonce) :
    FramesAgree (sm.rxEapol p conf env key) := by
  rcases WpaSm.rxEapol_cases p conf env sm key with hgrows | ⟨ptk, sm₁, sm₂, hgrows, -, hderives, hgrows'⟩ |
    ⟨sm₀, sm₁, sm₂, hnew, hverify, hgrows, hinstall, hgrows'⟩
  · exact h.inert hgrows
  · exact ((h.inert hgrows).derives hderives).inert hgrows'
  · have h₁ := (h.verified hnew hverify).answersNoGtk hgrows
    rcases hinstall with rfl | hinstalls
    · exact h₁.answers hgrows'
    · exact (h₁.installs hinstalls).answers hgrows'

lemma FramesAgree.next (h : FramesAgree sm) {call : SuppCall Nonce Pmk} (hnext : suppNext p conf sm call = some sm') :
    FramesAgree sm' := by
  cases call with
  | rxEapol env key => exact Option.some.inj hnext ▸ h.rxEapol env key
  | notifyAssoc =>
    obtain rfl := Option.some.inj hnext
    exact FramesAgree.clearPtk ⟨by simp [acceptedSince], warranted_cons.mpr ⟨trivial, h.warranted⟩⟩
  | dropSa zeroPmk =>
    obtain rfl := Option.some.inj hnext
    exact { h.clearPtk with }
  | notifyDisassoc zeroPmk =>
    obtain rfl := Option.some.inj hnext
    exact { h.clearPtk with }
  | setPmk pmk =>
    obtain rfl := Option.some.inj hnext
    exact { h with }
  | setState state =>
    obtain rfl := Option.some.inj hnext
    exact { h with }

/-! ## Runs -/

/-- In every run, a TK is handed over only after a message 1 that came after the last time, and it is the TK of the PTK that
was verified last, which is that of the message 1 before.  If that TK was handed over already, zeros are. -/
theorem installedPtk_of_run {pmk : Pmk} {anonce snonce : Nonce} {calls : List (SuppCall Nonce Pmk)}
    (h : Run (suppNext p conf) { pmk, anonce, snonce } calls sm) {tk : List UInt8} {before : List (SuppAct Nonce)}
    (htk : .installedPtk tk :: before <:+ sm.history) :
    newTk before = true ∧
      ∃ ptk used, heldPtk before = some (ptk, used) ∧
        (∃ earlier, .promoted ptk :: earlier <:+ before ∧ unverifiedPtk earlier = some ptk) ∧
        tk = (if used then zeroTk else ptk.tk).take (wpaCipherKeyLen conf.pairwiseCipher) := by
  have hinv : KeysAgree conf sm :=
    h.invariant ⟨rfl, rfl, fun hset => absurd hset Bool.false_ne_true, warranted_nil⟩ fun _ _ _ h hnext => h.next hnext
  obtain ⟨hnew, ⟨ptk, used⟩, hheld, rfl⟩ := hinv.warranted _ _ htk
  obtain ⟨earlier, hearlier⟩ := promoted_of_heldPtk hheld
  have hunverified := hinv.warranted _ _ (hearlier.trans ((List.suffix_cons _ _).trans htk))
  refine ⟨hnew, ptk, used, hheld, ⟨earlier, hearlier, hunverified⟩, ?_⟩
  cases used with
  | false => rfl
  | true => rfl

/-! A forged message 1 after the TK was handed over, and message 3 once more. -/

/-- A PTK that shows its SNonce. -/
private def plainSupp : SuppParams ℕ Unit where
  derivePtk _ snonce _ := ⟨[UInt8.ofNat snonce], [], List.replicate 16 (UInt8.ofNat snonce)⟩
  eapolKeyMic kck _ := kck
  mem := ⟨fun _ => 0⟩

private def ccmpConfig : SuppConfig where
  proto := .wpa
  keyMgmt := wpaKeyMgmtPsk
  pairwiseCipher := wpaCipherCcmp
  groupCipher := wpaCipherCcmp
  mgmtGroupCipher := 0
  wpaRscRelaxation := false
  build := ⟨false, false, false⟩

private def plainEnv (random : ℕ) : SuppEnv ℕ Unit where
  networkCtx := true
  getPmk := .ok
  newPmk := none
  random := some random
  sendFails := false
  validIe _ := true
  setPtkFails := false
  setGtkFails := false
  setIgtkFails := false

private def pairwiseKey (mic : Bool) (counter : BitVec 64) (keyMic : List UInt8) : SuppKey ℕ where
  ver := 2
  keyType := true
  keyIndex := 0
  install := mic
  ack := true
  mic
  secure := false
  request := false
  encrKeyData := false
  smkMessage := false
  keyLength := 16
  replayCounter := counter
  keyNonce := 5
  keyIv := []
  keyRsc := []
  keyMic
  keyData := []

private def forgedMessage1 : List (SuppCall ℕ Unit) :=
  [.rxEapol (plainEnv 1) (pairwiseKey false 1 []), .rxEapol (plainEnv 1) (pairwiseKey true 2 [3]),
    .rxEapol (plainEnv 9) (pairwiseKey false 3 []), .rxEapol (plainEnv 1) (pairwiseKey true 4 [3])]

/-- The second message 3 makes the station install zeros. -/
theorem installedPtk_of_run_zeros :
    ∃ sm before, Run (suppNext plainSupp ccmpConfig) { pmk := (), anonce := 0, snonce := 3 } forgedMessage1 sm ∧
      .installedPtk (List.replicate 16 0) :: before <:+ sm.history ∧
      newTk before = true ∧
      ∃ ptk used, heldPtk before = some (ptk, used) ∧
        (∃ earlier, .promoted ptk :: earlier <:+ before ∧ unverifiedPtk earlier = some ptk) ∧
        List.replicate 16 0 = (if used then zeroTk else ptk.tk).take (wpaCipherKeyLen ccmpConfig.pairwiseCipher) := by
  obtain ⟨sm, hrun, hhead⟩ : ∃ sm, Run (suppNext plainSupp ccmpConfig) { pmk := (), anonce := 0, snonce := 3 }
      forgedMessage1 sm ∧ sm.history.head? = some (.installedPtk (List.replicate 16 0)) :=
    ⟨_, run_iff_exec.mpr rfl, by decide +kernel⟩
  have htk : .installedPtk (List.replicate 16 0) :: sm.history.tail <:+ sm.history :=
    (List.eq_cons_of_mem_head? hhead) ▸ List.suffix_rfl
  exact ⟨sm, _, hrun, htk, installedPtk_of_run hrun htk⟩

end

end Ethanol
