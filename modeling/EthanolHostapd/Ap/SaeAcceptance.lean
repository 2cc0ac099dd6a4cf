import EthanolHostapd.Ap.AuthSae

/-!
# When a station is accepted

A station is accepted on a confirm message that has the right value under the KCK in its data.  This KCK
belongs to the commits in the data as long as every commit message whose values are stored is carried
through to `sae_process_commit`, and this succeeds.
-/

namespace Ethanol

variable {Element : Type}

namespace SaeData

variable {p : SaeParams} {env : SaeEnv Element} {sae sae' : SaeData Element} {status : StatusCode}

/-- A confirm message of the peer may be accepted. -/
def Armed (p : SaeParams) (sae : SaeData Element) : Prop :=
  sae.state = .confirmed ∨ (sae.state = .committed ∧ p.mesh = false)

/-- Keys are derived when a commit message, whose values are stored, is processed. -/
structure CarriedThrough (p : SaeParams) (env : SaeEnv Element) (sae : SaeData Element) : Prop where
  nothing : sae.state = .nothing → p.mesh = false →
    ∀ sent, sae.sendCommit p env true = some (sent, .success) → sent.KeysDerivable env
  committed : sae.state = .committed → p.mesh = false → sae.KeysDerivable env
  confirmed : sae.state = .confirmed → sae.checkBigSync.2 = false →
    ∃ sent, { sae with sync := sae.sync + 1 }.sendCommit p env true = some (sent, .success) ∧
      sent.KeysDerivable env

lemma Armed.not_nothing (h : sae.Armed p) : sae.state ≠ .nothing := by
  intro hstate
  rcases h with h | ⟨h, -⟩
  · exact absurd (hstate.symm.trans h) (by simp)
  · exact absurd (hstate.symm.trans h) (by simp)

lemma smNothing_commit (hstate : sae.state = .nothing) (h : sae.smNothing p env 1 = .done sae' status) :
    sae'.state ≠ .accepted ∧ (sae.CarriedThrough p env → sae'.Armed p → sae'.Derived) := by
  unfold smNothing at h
  rw [if_pos rfl] at h
  obtain ⟨⟨sent, sentStatus⟩, hsent, h⟩ := andThen_done h
  have hsentState := (sendCommit_state hsent).trans hstate
  dsimp only at h
  split at h
  · obtain ⟨rfl, -⟩ := done_inj h
    rw [hsentState]
    exact ⟨by simp, fun _ harmed => absurd hsentState harmed.not_nothing⟩
  rename_i hok
  rw [not_not] at hok
  subst hok
  obtain ⟨⟨processed, ok⟩, hprocessed, h⟩ := andThen_done h
  dsimp only at h
  rcases processCommit_cases hprocessed with ⟨rfl, rfl⟩ | ⟨rfl, hderived, hprocessedState⟩
  · obtain ⟨rfl, -⟩ := done_inj h
    refine ⟨by simp, ?_⟩
    intro hcarried harmed
    rcases harmed with harmed | ⟨-, hmesh⟩
    · exact absurd harmed (by simp)
    · have hkeys := hcarried.nothing hstate hmesh sent hsent
      exact absurd (processCommit_ok hprocessed hkeys) Bool.false_ne_true
  · rw [if_neg (by simp)] at h
    split at h
    · rename_i hmesh
      obtain ⟨⟨confirm, confirmStatus⟩, hconfirm, h⟩ := andThen_done h
      obtain ⟨n, rfl⟩ := sendConfirmFrame_fst hconfirm
      dsimp only at h
      split at h
      · obtain ⟨rfl, -⟩ := done_inj h
        refine ⟨?_, fun _ _ => hderived⟩
        rw [hprocessedState]
        simp
      · obtain ⟨rfl, -⟩ := done_inj h
        exact ⟨by simp, fun _ _ => hderived⟩
    · obtain ⟨rfl, -⟩ := done_inj h
      refine ⟨?_, fun _ _ => hderived⟩
      rw [hprocessedState]
      simp

lemma smCommitted_commit (hstate : sae.state = .committed)
    (h : sae.smCommitted p env 1 = .done sae' status) :
    sae'.state ≠ .accepted ∧ (sae.CarriedThrough p env → sae'.Armed p → sae'.Derived) := by
  unfold smCommitted at h
  rw [if_pos rfl] at h
  obtain ⟨⟨processed, ok⟩, hprocessed, h₁⟩ := andThen_done h
  dsimp only at h₁
  rcases processCommit_cases hprocessed with ⟨rfl, rfl⟩ | ⟨rfl, hderived, hprocessedState⟩
  · obtain ⟨rfl, -⟩ := done_inj h₁
    refine ⟨by simp [hstate], ?_⟩
    intro hcarried harmed
    rcases harmed with harmed | ⟨-, hmesh⟩
    · exact absurd (hstate.symm.trans harmed) (by simp)
    · have hkeys := hcarried.committed hstate hmesh
      exact absurd (processCommit_ok hprocessed hkeys) Bool.false_ne_true
  · rw [if_neg (by simp)] at h₁
    obtain ⟨⟨confirm, confirmStatus⟩, hconfirm, h₂⟩ := andThen_done h₁
    obtain ⟨n, rfl⟩ := sendConfirmFrame_fst hconfirm
    dsimp only at h₂
    split at h₂
    · obtain ⟨rfl, -⟩ := done_inj h₂
      refine ⟨?_, fun _ _ => hderived⟩
      simp [hprocessedState, hstate]
    · obtain ⟨rfl, -⟩ := done_inj h₂
      exact ⟨by simp, fun _ _ => hderived⟩

lemma smConfirmed_commit (hstate : sae.state = .confirmed)
    (h : sae.smConfirmed p env 1 = .done sae' status) :
    sae'.state ≠ .accepted ∧ (sae.CarriedThrough p env → sae'.Armed p → sae'.Derived) := by
  unfold smConfirmed at h
  rw [if_pos rfl] at h
  split at h
  · rename_i hsync
    obtain ⟨rfl, -⟩ := done_inj h
    have hnothing := checkBigSync_fst hsync
    rw [hnothing]
    exact ⟨by simp, fun _ harmed => absurd hnothing harmed.not_nothing⟩
  rename_i hsync
  have hsync' : sae.checkBigSync.2 = false := by simpa using hsync
  obtain ⟨⟨sent, sentStatus⟩, hsent, h₁⟩ := andThen_done h
  have hsentState := (sendCommit_state hsent).trans hstate
  dsimp only at h₁
  split at h₁
  · rename_i hfails
    obtain ⟨rfl, -⟩ := done_inj h₁
    refine ⟨by simp [hsentState], ?_⟩
    intro hcarried
    obtain ⟨sent', hsent', -⟩ := hcarried.confirmed hstate hsync'
    exact absurd (Prod.mk.inj (Option.some.inj (hsent.symm.trans hsent'))).2 hfails
  obtain ⟨⟨processed, ok⟩, hprocessed, h₂⟩ := andThen_done h₁
  dsimp only at h₂
  rcases processCommit_cases hprocessed with ⟨rfl, rfl⟩ | ⟨rfl, hderived, hprocessedState⟩
  · obtain ⟨rfl, -⟩ := done_inj h₂
    refine ⟨by simp [hsentState], ?_⟩
    intro hcarried
    obtain ⟨sent', hsent', hkeys⟩ := hcarried.confirmed hstate hsync'
    obtain ⟨rfl, -⟩ := Prod.mk.inj (Option.some.inj (hsent.symm.trans hsent'))
    exact absurd (processCommit_ok hprocessed hkeys) Bool.false_ne_true
  · rw [if_neg (by simp)] at h₂
    obtain ⟨⟨confirm, confirmStatus⟩, hconfirm, h₃⟩ := andThen_done h₂
    obtain ⟨n, rfl⟩ := sendConfirmFrame_fst hconfirm
    obtain ⟨rfl, -⟩ := done_inj h₃
    exact ⟨by simp [hprocessedState, hsentState], fun _ _ => hderived⟩

/-- A commit message does not lead to acceptance, and if it is carried through, the keys belong to it. -/
lemma smStep_commit (h : sae.smStep p env 1 = .done sae' status) :
    sae'.state ≠ .accepted ∧ (sae.CarriedThrough p env → sae'.Armed p → sae'.Derived) := by
  unfold smStep at h
  rw [if_neg (by simp)] at h
  cases hstate : sae.state with
  | nothing =>
    rw [hstate] at h
    exact smNothing_commit hstate h
  | committed =>
    rw [hstate] at h
    exact smCommitted_commit hstate h
  | confirmed =>
    rw [hstate] at h
    exact smConfirmed_commit hstate h
  | accepted =>
    rw [hstate] at h
    exact absurd h (by simp [smAccepted])

lemma smConfirmed_confirm (h : sae.smConfirmed p env 2 = .done sae' status) :
    sae' = { sae with state := .accepted } := by
  unfold smConfirmed at h
  rw [if_neg (by simp)] at h
  exact (done_inj h).1.symm

lemma smCommitted_confirm (hstate : sae.state = .committed)
    (h : sae.smCommitted p env 2 = .done sae' status) :
    (sae'.state = .accepted → sae.Armed p) ∧ ((sae.Armed p → sae.Derived) → sae'.Armed p → sae'.Derived) := by
  unfold smCommitted at h
  rw [if_neg (by simp)] at h
  split at h
  · split at h
    · rename_i hsync
      obtain ⟨rfl, -⟩ := done_inj h
      have hnothing := checkBigSync_fst hsync
      refine ⟨fun haccepted => absurd (hnothing.symm.trans haccepted) (by simp), ?_⟩
      exact fun _ harmed => absurd hnothing harmed.not_nothing
    · obtain ⟨⟨sent, sentStatus⟩, hsent, h₁⟩ := andThen_done h
      obtain rfl := sendCommit_again hsent
      obtain ⟨rfl, -⟩ := done_inj h₁
      refine ⟨fun haccepted => absurd (hstate.symm.trans haccepted) (by simp), ?_⟩
      exact fun hderived harmed => hderived harmed
  · rename_i hmesh
    have harmed : sae.Armed p := Or.inr ⟨hstate, by simpa using hmesh⟩
    obtain ⟨⟨confirm, confirmStatus⟩, hconfirm, h₁⟩ := andThen_done h
    obtain ⟨n, rfl⟩ := sendConfirmFrame_fst hconfirm
    dsimp only at h₁
    split at h₁
    · obtain ⟨rfl, -⟩ := done_inj h₁
      exact ⟨fun _ => harmed, fun hderived _ => hderived harmed⟩
    · obtain rfl := smConfirmed_confirm h₁
      refine ⟨fun _ => harmed, ?_⟩
      rintro - (hother | ⟨hother, -⟩)
      · exact absurd hother (by simp)
      · exact absurd hother (by simp)

lemma smAccepted_confirm (hstate : sae.state = .accepted)
    (h : sae.smAccepted env 2 = .done sae' status) : ¬ sae'.Armed p := by
  unfold smAccepted at h
  rw [if_neg (by simp)] at h
  split at h
  · rename_i hsync
    obtain ⟨rfl, -⟩ := done_inj h
    exact fun harmed => absurd (checkBigSync_fst hsync) harmed.not_nothing
  · obtain ⟨⟨confirm, confirmStatus⟩, hconfirm, h₁⟩ := andThen_done h
    obtain ⟨n, rfl⟩ := sendConfirmFrame_fst hconfirm
    obtain ⟨rfl, -⟩ := done_inj h₁
    rintro (hother | ⟨hother, -⟩)
    · exact absurd (hstate.symm.trans hother) (by simp)
    · exact absurd (hstate.symm.trans hother) (by simp)

/-- A confirm message leads to acceptance in some states only, and keys that belong to the commits go on
doing so. -/
lemma smStep_confirm (h : sae.smStep p env 2 = .done sae' status) :
    (sae'.state = .accepted → sae.state = .accepted ∨ sae.Armed p) ∧
      ((sae.Armed p → sae.Derived) → sae'.Armed p → sae'.Derived) := by
  unfold smStep at h
  rw [if_neg (by simp)] at h
  cases hstate : sae.state with
  | nothing =>
    rw [hstate] at h
    dsimp only at h
    unfold smNothing at h
    rw [if_neg (by simp)] at h
    obtain ⟨rfl, -⟩ := done_inj h
    exact ⟨fun haccepted => absurd (hstate.symm.trans haccepted) (by simp), fun hderived => hderived⟩
  | committed =>
    rw [hstate] at h
    obtain ⟨harmed, hderived⟩ := smCommitted_confirm hstate h
    exact ⟨fun haccepted => Or.inr (harmed haccepted), hderived⟩
  | confirmed =>
    rw [hstate] at h
    obtain rfl := smConfirmed_confirm h
    refine ⟨fun _ => Or.inr (Or.inl hstate), ?_⟩
    rintro - (hother | ⟨hother, -⟩)
    · exact absurd hother (by simp)
    · exact absurd hother (by simp)
  | accepted =>
    rw [hstate] at h
    exact ⟨fun _ => Or.inl rfl, fun _ harmed => absurd harmed (smAccepted_confirm hstate h)⟩

/-- Keys that belong to the commits go on doing so. -/
def KeepsKeys (p : SaeParams) (sae sae' : SaeData Element) : Prop :=
  (sae.Armed p → sae.Derived) → sae'.Armed p → sae'.Derived

/-- Only an accepted station is accepted afterwards. -/
def KeepsUnaccepted (sae sae' : SaeData Element) : Prop := sae'.state = .accepted → sae.state = .accepted

/-- If a confirm message may be accepted after a commit message, then the values of the peer are the old
ones. -/
def Untouched (p : SaeParams) (sae sae' : SaeData Element) : Prop :=
  sae'.Armed p → sae'.peerCommitScalar = sae.peerCommitScalar ∧
    sae'.peerCommitElement = sae.peerCommitElement

/-- A commit message is carried through, or its values are not stored. -/
def CommitCarried [DecidableEq Element] (p : SaeParams) (env : SaeEnv Element) (sae : SaeData Element)
    (body : List UInt8) : Prop :=
  let parsed := sae.parseCommit env p.saeGroups body
  if parsed.2.1 = .success ∧ parsed.2.2.any (!env.tokenValid ·) = false then
    if parsed.2.2 = none ∧ env.useAntiClogging = true then p.mesh = true ∨ Untouched p sae parsed.1
    else parsed.1.CarriedThrough p env
  else Untouched p sae parsed.1

lemma keeps_of_state_eq_nothing (p : SaeParams) (sae : SaeData Element) (h : sae'.state = .nothing) :
    KeepsUnaccepted sae sae' ∧ KeepsKeys p sae sae' :=
  ⟨fun haccepted => absurd (h.symm.trans haccepted) (by simp),
    fun _ harmed => absurd h harmed.not_nothing⟩

lemma keeps_refl (sae : SaeData Element) : KeepsUnaccepted sae sae ∧ KeepsKeys p sae sae :=
  ⟨id, id⟩

lemma withPeer_state (sae : SaeData Element) (scalar : Option ℕ) (element : Option Element) :
    (sae.withPeer scalar element).state = sae.state := rfl

/-- A commit message that is not processed. -/
lemma keeps_parseCommit [DecidableEq Element] (env : SaeEnv Element) (sae : SaeData Element)
    (allowedGroups : Option (List ℕ)) (body : List UInt8) :
    KeepsUnaccepted sae (sae.parseCommit env allowedGroups body).1 ∧
      (Untouched p sae (sae.parseCommit env allowedGroups body).1 →
        KeepsKeys p sae (sae.parseCommit env allowedGroups body).1) := by
  obtain ⟨base, scalar, element, hbase, -, heq⟩ := parseCommit_fst env sae allowedGroups body
  rw [heq]
  rcases hbase with rfl | hnothing
  · refine ⟨fun haccepted => haccepted, ?_⟩
    intro huntouched hkeys harmed
    have hderived := hkeys harmed
    obtain ⟨tmp, c, htmp, -⟩ := hderived
    obtain ⟨hscalar, helement⟩ := huntouched harmed
    have hscalar' : scalar = base.peerCommitScalar := hscalar
    have helement' : element = base.peerCommitElement := by
      rw [← helement, peerCommitElement, withPeer, htmp]
      rfl
    rw [hscalar', helement', withPeer_self]
    exact hkeys harmed
  · obtain ⟨hunaccepted, hkeys⟩ := keeps_of_state_eq_nothing p sae
      ((withPeer_state base scalar element).trans hnothing)
    exact ⟨hunaccepted, fun _ => hkeys⟩

lemma setNextGroup_cases (env : SaeEnv Element) (groups : List ℕ) (sae : SaeData Element) :
    setNextGroup env groups sae = sae ∨ (setNextGroup env groups sae).state = .nothing := by
  induction groups generalizing sae with
  | nil => exact Or.inl rfl
  | cons group groups ih =>
    rw [setNextGroup]
    split
    · exact Or.inr (setGroup_state env group)
    · rcases ih (setGroup env group).1 with h | h
      · rw [h]
        exact Or.inr (setGroup_state env group)
      · exact Or.inr h

lemma pickNextGroup_cases (p : SaeParams) (env : SaeEnv Element) (sae : SaeData Element) :
    sae.pickNextGroup p env = sae ∨ (sae.pickNextGroup p env).state = .nothing := by
  unfold pickNextGroup
  split
  · exact Or.inl rfl
  split
  · exact Or.inl rfl
  · exact setNextGroup_cases env _ sae

end SaeData

namespace SaeSta

open SaeData

variable {p : SaeParams} {env : SaeEnv Element} {sta sta' : SaeSta Element} {sae : SaeData Element}
  {f : SaeFrame}

/-- The data after a commit message. -/
lemma receiveCommit_sae [DecidableEq Element] (p : SaeParams) (env : SaeEnv Element)
    (sta : SaeSta Element) (sae : SaeData Element) (f : SaeFrame) :
    (sta.receiveCommit p env sae f).sae = sta.sae ∨
      ∃ sae', (sta.receiveCommit p env sae f).sae = some sae' ∧ KeepsUnaccepted sae sae' ∧
        (CommitCarried p env sae f.body → KeepsKeys p sae sae') := by
  obtain ⟨hunaccepted, hkeys⟩ := keeps_parseCommit (p := p) env sae p.saeGroups f.body
  unfold receiveCommit CommitCarried
  dsimp only
  generalize sae.parseCommit env p.saeGroups f.body = parsed at hunaccepted hkeys ⊢
  by_cases hgood : parsed.2.1 = .success ∧ parsed.2.2.any (!env.tokenValid ·) = false
  · have hok := hgood.1
    have htoken : ¬ parsed.2.2.any (!env.tokenValid ·) = true := by
      rw [hgood.2]
      exact Bool.false_ne_true
    have hdiscard : ¬ parsed.2.1 = .silentlyDiscard := by
      rw [hok]
      exact StatusCode.silentlyDiscard_ne_success.symm
    rw [if_neg hdiscard, if_neg htoken, if_neg (not_not.mpr hok), if_pos hgood]
    split_ifs with hrequest hmesh
    · obtain ⟨hunaccepted', hkeys'⟩ := keeps_of_state_eq_nothing p sae
        (show ({ parsed.1 with state := .nothing } : SaeData Element).state = .nothing from rfl)
      exact Or.inr ⟨_, rfl, hunaccepted', fun _ => hkeys'⟩
    · refine Or.inr ⟨parsed.1, rfl, hunaccepted, ?_⟩
      rintro (hmesh' | huntouched)
      · exact absurd hmesh' hmesh
      · exact hkeys huntouched
    · cases hstep : parsed.1.smStep p env 1 with
      | freed => exact Or.inl rfl
      | missing => exact Or.inl rfl
      | done sae' status =>
        obtain ⟨hnot, hderived⟩ := smStep_commit hstep
        refine Or.inr ⟨sae', rfl, fun haccepted => absurd haccepted hnot, ?_⟩
        exact fun hcarried _ harmed => hderived hcarried harmed
  · rw [if_neg hgood]
    refine Or.inr ⟨parsed.1, ?_, hunaccepted, hkeys⟩
    split_ifs with hdiscard htoken hok
    · rfl
    · rfl
    · rfl
    · exact absurd ⟨not_not.mp hok, by simpa using htoken⟩ hgood
    · exact absurd ⟨not_not.mp hok, by simpa using htoken⟩ hgood
    · exact absurd ⟨not_not.mp hok, by simpa using htoken⟩ hgood

/-- The data after a confirm message. -/
lemma receiveConfirm_sae (p : SaeParams) (env : SaeEnv Element) (sta : SaeSta Element)
    (sae : SaeData Element) (f : SaeFrame) :
    (sta.receiveConfirm p env sae f).sae = sta.sae ∨
      ∃ sae', (sta.receiveConfirm p env sae f).sae = some sae' ∧ KeepsKeys p sae sae' ∧
        (sae'.state = .accepted → sae.state = .accepted ∨
          sae.Armed p ∧ sae.checkConfirm env f.body = some true) := by
  have hstep : (sae.Armed p → sae.checkConfirm env f.body = some true) →
      (sta.afterStep f.statusCode (sae.smStep p env 2)).sae = sta.sae ∨
      ∃ sae', (sta.afterStep f.statusCode (sae.smStep p env 2)).sae = some sae' ∧ KeepsKeys p sae sae' ∧
        (sae'.state = .accepted → sae.state = .accepted ∨
          sae.Armed p ∧ sae.checkConfirm env f.body = some true) := by
    intro hchecked
    cases hstep : sae.smStep p env 2 with
    | freed => exact Or.inl rfl
    | missing => exact Or.inl rfl
    | done sae' status =>
      obtain ⟨haccepted, hkeys⟩ := smStep_confirm hstep
      refine Or.inr ⟨sae', rfl, hkeys, ?_⟩
      intro hstate
      rcases haccepted hstate with h | h
      · exact Or.inl h
      · exact Or.inr ⟨h, hchecked h⟩
  unfold receiveConfirm
  split
  · cases hcheck : sae.checkConfirm env f.body with
    | none => exact Or.inl rfl
    | some ok =>
      cases ok with
      | false => exact Or.inr ⟨sae, rfl, id, Or.inl⟩
      | true =>
        rw [hcheck] at hstep
        exact hstep fun _ => rfl
  · rename_i hstate
    refine hstep ?_
    rintro (hconfirmed | ⟨-, hmesh⟩)
    · exact absurd (Or.inl hconfirmed) hstate
    · exact absurd (Or.inr (Or.inr hmesh)) hstate

/-- The token does not matter for the keys. -/
lemma keeps_token (sae : SaeData Element) {tmp : SaeTmp Element} (htmp : sae.tmp = some tmp)
    (token : Option (List UInt8)) :
    KeepsUnaccepted sae { sae with tmp := some { tmp with antiCloggingToken := token } } ∧
      KeepsKeys p sae { sae with tmp := some { tmp with antiCloggingToken := token } } := by
  refine ⟨id, ?_⟩
  intro hkeys harmed
  obtain ⟨tmp', c, htmp', hc, hderived⟩ := hkeys harmed
  obtain rfl := Option.some.inj (htmp.symm.trans htmp')
  exact ⟨_, c, rfl, hc, hderived⟩

/-- The data after an anti-clogging token request, in a mesh. -/
lemma tokenRequest_sae (hmesh : p.mesh = true) (env : SaeEnv Element) (sta : SaeSta Element)
    (sae : SaeData Element) (f : SaeFrame) :
    (sta.tokenRequest p env sae f).sae = sta.sae ∨
      ∃ sae', (sta.tokenRequest p env sae f).sae = some sae' ∧ KeepsUnaccepted sae sae' ∧
        KeepsKeys p sae sae' := by
  unfold tokenRequest
  split
  · exact Or.inr ⟨sae, rfl, keeps_refl sae⟩
  dsimp only
  have hallowed : KeepsUnaccepted sae (sae.groupAllowed env p.saeGroups (Wire.leNat (f.body.take 2))).1 ∧
      KeepsKeys p sae (sae.groupAllowed env p.saeGroups (Wire.leNat (f.body.take 2))).1 := by
    rcases groupAllowed_state env sae p.saeGroups (Wire.leNat (f.body.take 2)) with h | h
    · rw [h]
      exact keeps_refl sae
    · exact keeps_of_state_eq_nothing p sae h
  generalize sae.groupAllowed env p.saeGroups (Wire.leNat (f.body.take 2)) = allowed at hallowed ⊢
  cases htmp : allowed.1.tmp with
  | none => exact Or.inr ⟨allowed.1, rfl, hallowed⟩
  | some tmp =>
    dsimp only
    have htoken : ∀ token, KeepsUnaccepted sae
          { allowed.1 with tmp := some { tmp with antiCloggingToken := token } } ∧
        KeepsKeys p sae { allowed.1 with tmp := some { tmp with antiCloggingToken := token } } := by
      intro token
      obtain ⟨hunaccepted, hkeys⟩ := keeps_token (p := p) allowed.1 htmp token
      exact ⟨fun h => hallowed.1 (hunaccepted h), fun h => hkeys (hallowed.2 h)⟩
    split_ifs
    · exact Or.inr ⟨allowed.1, rfl, hallowed⟩
    · exact Or.inr ⟨_, rfl, htoken none⟩
    · split
      · exact Or.inl rfl
      · rename_i sent resp hsent
        obtain rfl := sendCommit_again hsent
        split
        · exact Or.inr ⟨_, rfl, htoken _⟩
        · refine Or.inr ⟨_, rfl, fun haccepted => absurd haccepted (by simp), ?_⟩
          rintro - (hconfirmed | ⟨-, hnomesh⟩)
          · exact absurd hconfirmed (by simp)
          · exact absurd (hmesh.symm.trans hnomesh) (by simp)

/-- The data after a frame. -/
lemma receive_sae [DecidableEq Element] (p : SaeParams) (env : SaeEnv Element) (sta : SaeSta Element)
    (sae : SaeData Element) (f : SaeFrame) :
    (sta.receive p env sae f).sae = sta.sae ∨
      ∃ sae', (sta.receive p env sae f).sae = some sae' ∧
        ((f.authTransaction = 1 → f.statusCode = .success → CommitCarried p env sae f.body) →
          KeepsKeys p sae sae') ∧
        (sae'.state = .accepted → sae.state = .accepted ∨
          f.authTransaction = 2 ∧ f.statusCode = .success ∧ sae.Armed p ∧
            sae.checkConfirm env f.body = some true) := by
  have hsame : ∃ sae', some sae = some sae' ∧
      ((f.authTransaction = 1 → f.statusCode = .success → CommitCarried p env sae f.body) →
        KeepsKeys p sae sae') ∧
      (sae'.state = .accepted → sae.state = .accepted ∨
        f.authTransaction = 2 ∧ f.statusCode = .success ∧ sae.Armed p ∧
          sae.checkConfirm env f.body = some true) :=
    ⟨sae, rfl, fun _ => (keeps_refl sae).2, Or.inl⟩
  unfold receive
  split_ifs with hcommit htoken hgroup hstatus hconfirm hstatus hstatus
  · rcases tokenRequest_sae htoken.1 env sta sae f with h | ⟨sae', h, hunaccepted, hkeys⟩
    · exact Or.inl h
    · exact Or.inr ⟨sae', h, fun _ => hkeys, fun haccepted => Or.inl (hunaccepted haccepted)⟩
  · rcases pickNextGroup_cases p env sae with h | h
    · rw [h]
      exact Or.inr hsame
    · obtain ⟨hunaccepted, hkeys⟩ := keeps_of_state_eq_nothing p sae h
      exact Or.inr ⟨_, rfl, fun _ => hkeys, fun haccepted => Or.inl (hunaccepted haccepted)⟩
  · exact Or.inr hsame
  · rcases receiveCommit_sae p env sta sae f with h | ⟨sae', h, hunaccepted, hkeys⟩
    · exact Or.inl h
    · refine Or.inr ⟨sae', h, fun hcarried => hkeys (hcarried hcommit (not_not.mp hstatus)), ?_⟩
      exact fun haccepted => Or.inl (hunaccepted haccepted)
  · exact Or.inr hsame
  · rcases receiveConfirm_sae p env sta sae f with h | ⟨sae', h, hkeys, haccepted⟩
    · exact Or.inl h
    · refine Or.inr ⟨sae', h, fun _ => hkeys, ?_⟩
      intro hstate
      rcases haccepted hstate with h | h
      · exact Or.inl h
      · exact Or.inr ⟨hconfirm, not_not.mp hstatus, h⟩
  · exact Or.inr hsame
  · exact Or.inr hsame

/-- The data after a retransmission. -/
lemma retransmit_sae (p : SaeParams) (env : SaeEnv Element) (sta : SaeSta Element)
    (sae : SaeData Element) :
    (sta.retransmit p env sae).sae = sta.sae ∨
      ∃ sae', (sta.retransmit p env sae).sae = some sae' ∧ KeepsUnaccepted sae sae' ∧
        KeepsKeys p sae sae' := by
  unfold retransmit
  split
  · rename_i hsync
    exact Or.inr ⟨_, rfl, keeps_of_state_eq_nothing p sae (checkBigSync_fst hsync)⟩
  dsimp only
  split
  · exact Or.inl rfl
  · rename_i sae' status hsent
    refine Or.inr ⟨sae', rfl, ?_⟩
    split at hsent
    · obtain rfl := sendCommit_again hsent
      exact ⟨id, id⟩
    · obtain ⟨n, rfl⟩ := sendConfirmFrame_fst hsent
      exact ⟨id, id⟩
    · obtain ⟨rfl, -⟩ := Prod.mk.inj (Option.some.inj hsent)
      exact ⟨id, id⟩

/-- Wherever a confirm message may be accepted, the KCK belongs to the commits. -/
def Keyed (p : SaeParams) (sta : SaeSta Element) : Prop :=
  ∀ sae, sta.sae = some sae → sae.Armed p → sae.Derived

/-- Every commit message is carried through, or its values are not stored. -/
def Carried [DecidableEq Element] (p : SaeParams) (sta : SaeSta Element) : SaeEvent Element → Prop
  | .frame f env => f.authTransaction = 1 → f.statusCode = .success →
      CommitCarried p env (sta.sae.getD {}) f.body
  | _ => True

lemma not_armed_new (p : SaeParams) : ¬ Armed p ({} : SaeData Element) :=
  fun harmed => absurd rfl harmed.not_nothing

/-- The data after `handle_auth_sae`. -/
lemma handleAuthSae_sae [DecidableEq Element] (p : SaeParams) (env : SaeEnv Element)
    (sta : SaeSta Element) (f : SaeFrame) :
    (sta.handleAuthSae p env f).sae = sta.sae ∨
      ∃ sae', (sta.handleAuthSae p env f).sae = some sae' ∧
        (Carried p sta (.frame f env) → KeepsKeys p (sta.sae.getD {}) sae') ∧
        (sae'.state = .accepted → (sta.sae.getD {}).state = .accepted ∨
          f.authTransaction = 2 ∧ f.statusCode = .success ∧ Armed p (sta.sae.getD {}) ∧
            (sta.sae.getD {}).checkConfirm env f.body = some true) := by
  unfold handleAuthSae Carried
  cases hsae : sta.sae with
  | some sae =>
    have h := receive_sae p env sta sae f
    rw [hsae] at h
    exact h
  | none =>
    dsimp only
    split
    · exact Or.inl rfl
    · have h := receive_sae p env sta {} f
      rw [hsae] at h
      exact h

lemma keyed_getD (h : sta.Keyed p) : Armed p (sta.sae.getD {}) → Derived (sta.sae.getD {}) := by
  intro harmed
  cases hsae : sta.sae with
  | some sae =>
    rw [hsae] at harmed
    exact h sae hsae harmed
  | none =>
    rw [hsae] at harmed
    exact absurd harmed (not_armed_new p)

lemma keyed_next [DecidableEq Element] {event : SaeEvent Element} (h : sta.Keyed p)
    (hok : Carried p sta event) (hnext : sta.next p event = some sta') : sta'.Keyed p := by
  unfold next at hnext
  split at hnext
  · exact absurd hnext (by simp)
  cases event with
  | frame f env =>
    obtain rfl := Option.some.inj hnext
    intro sae hsae
    rcases handleAuthSae_sae p env sta f with hsame | ⟨sae', hsae', hkeys, -⟩
    · exact h sae (hsame.symm.trans hsae)
    · obtain rfl := Option.some.inj (hsae'.symm.trans hsae)
      exact hkeys hok (keyed_getD h)
  | retransmit env =>
    dsimp only at hnext
    split at hnext
    · exact absurd hnext (by simp)
    rename_i sae₀ hsae₀
    split at hnext
    · obtain rfl := Option.some.inj hnext
      intro sae hsae
      rcases retransmit_sae p env sta sae₀ with hsame | ⟨sae', hsae', -, hkeys⟩
      · exact h sae (hsame.symm.trans hsae)
      · obtain rfl := Option.some.inj (hsae'.symm.trans hsae)
        exact hkeys (h sae₀ hsae₀)
    · exact absurd hnext (by simp)
  | addUnassoc =>
    obtain rfl := Option.some.inj hnext
    exact h
  | freeSta =>
    obtain rfl := Option.some.inj hnext
    intro sae hsae
    exact absurd hsae (by simp)

/-- In every run in which commit messages are carried through, a station becomes accepted only on a confirm
message that has the right value under a KCK which was derived from the commits that are there. -/
theorem run_accepted_derived [DecidableEq Element] {events : List (SaeEvent Element)}
    (hrun : Trace.RunWith (next p) (Carried p) {} events sta) {event : SaeEvent Element}
    (hnext : sta.next p event = some sta')
    (hbefore : ∀ sae, sta.sae = some sae → sae.state ≠ .accepted) {sae' : SaeData Element}
    (hafter : sta'.sae = some sae') (haccepted : sae'.state = .accepted) :
    ∃ f env sae tmp c, event = .frame f env ∧ f.authTransaction = 2 ∧ f.statusCode = .success ∧
      sta.sae = some sae ∧ sae.tmp = some tmp ∧ tmp.commits sae.peerCommitScalar = some c ∧
      tmp.derived = some (c, tmp.kck) ∧ Verifies env tmp.kck c f.body := by
  have hkeyed : sta.Keyed p := by
    refine hrun.invariant ?_ fun _ _ _ h hok hnext => keyed_next h hok hnext
    exact fun sae hsae => absurd hsae (by simp)
  have hold : ¬ sta'.sae = sta.sae := fun h => hbefore sae' (h.symm.trans hafter) haccepted
  unfold next at hnext
  split at hnext
  · exact absurd hnext (by simp)
  cases event with
  | frame f env =>
    obtain rfl := Option.some.inj hnext
    rcases handleAuthSae_sae p env sta f with hsame | ⟨sae₁, hsae₁, -, hcause⟩
    · exact absurd hsame hold
    obtain rfl := Option.some.inj (hsae₁.symm.trans hafter)
    cases hsae : sta.sae with
    | none =>
      rw [hsae] at hcause
      rcases hcause haccepted with h | ⟨-, -, h, -⟩
      · exact absurd h (by simp)
      · exact absurd h (not_armed_new p)
    | some sae =>
      rw [hsae] at hcause
      rcases hcause haccepted with h | ⟨htransaction, hstatus, harmed, hcheck⟩
      · exact absurd h (hbefore sae hsae)
      obtain ⟨tmp, c, htmp, hc, hderived⟩ := hkeyed sae hsae harmed
      obtain ⟨tmp', c', htmp', hc', hverifies⟩ := checkConfirm_true hcheck
      obtain rfl := Option.some.inj (htmp.symm.trans htmp')
      obtain rfl := Option.some.inj (hc.symm.trans hc')
      exact ⟨f, env, sae, tmp, c, rfl, htransaction, hstatus, rfl, htmp, hc, hderived, hverifies⟩
  | retransmit env =>
    dsimp only at hnext
    split at hnext
    · exact absurd hnext (by simp)
    rename_i sae₀ hsae₀
    split at hnext
    · obtain rfl := Option.some.inj hnext
      rcases retransmit_sae p env sta sae₀ with hsame | ⟨sae₁, hsae₁, hunaccepted, -⟩
      · exact absurd hsame hold
      · obtain rfl := Option.some.inj (hsae₁.symm.trans hafter)
        exact absurd (hunaccepted haccepted) (hbefore sae₀ hsae₀)
    · exact absurd hnext (by simp)
  | addUnassoc =>
    obtain rfl := Option.some.inj hnext
    exact absurd rfl hold
  | freeSta =>
    obtain rfl := Option.some.inj hnext
    exact absurd hafter (by simp)

end SaeSta

/-- The data with `plainSaeCommit` and the own commit. -/
def plainCommits : SaeData ℕ where
  peerCommitScalar := some 2
  group := 19
  tmp := some {
    group := some ⟨.ecc, 1, 100⟩
    ownCommitScalar := some 11
    ownCommitElement := some 6
    peerCommitElement := some 1027
    pwe := some 7
    saeRand := some 5 }

lemma plainCommit_carried :
    SaeData.CommitCarried {} plainSaeEnv ({} : SaeData ℕ) plainSaeCommit.body := by
  have hsend : (SaeData.parseCommit plainSaeEnv ({} : SaeData ℕ) none plainSaeCommit.body).1.sendCommit {}
      plainSaeEnv true = some (plainCommits, .success) := by decide +kernel
  have hstate : (SaeData.parseCommit plainSaeEnv ({} : SaeData ℕ) none plainSaeCommit.body).1.state =
      .nothing := by decide +kernel
  unfold SaeData.CommitCarried
  dsimp only
  rw [if_pos (by decide +kernel), if_neg (by decide +kernel)]
  constructor
  · intro _ _ sent hsent
    obtain ⟨rfl, -⟩ := Prod.mk.inj (Option.some.inj (hsend.symm.trans hsent))
    exact ⟨_, _, _, _, _, rfl, rfl, rfl, rfl, rfl, rfl⟩
  · intro hcommitted
    exact absurd (hstate.symm.trans hcommitted) (by simp)
  · intro hconfirmed
    exact absurd (hstate.symm.trans hconfirmed) (by simp)

namespace SaeSta

/-- A commit and a confirm message, and nothing fails. -/
theorem run_accepted_derived_plain :
    ∃ sta sta' sae sae' tmp c,
      Trace.RunWith (next {}) (Carried {}) {} [.frame plainSaeCommit plainSaeEnv] sta ∧
      sta.next {} (.frame (plainSaeConfirm (List.replicate 31 1 ++ [8])) plainSaeEnv) = some sta' ∧
      sta.sae = some sae ∧ sae.state = .committed ∧ sta'.sae = some sae' ∧ sae'.state = .accepted ∧
      sae.tmp = some tmp ∧ tmp.commits sae.peerCommitScalar = some c ∧
      tmp.derived = some (c, tmp.kck) := by
  have hstates : ((next {} {} (.frame plainSaeCommit plainSaeEnv)).bind fun sta =>
      (sta.next {} (.frame (plainSaeConfirm (List.replicate 31 1 ++ [8])) plainSaeEnv)).bind fun sta' =>
        sta.sae.bind fun sae => sta'.sae.map fun sae' => (sae.state, sae'.state)) =
      some (.committed, .accepted) := by decide +kernel
  obtain ⟨sta, hcommit, h⟩ := Option.bind_eq_some_iff.mp hstates
  obtain ⟨sta', hconfirm, h⟩ := Option.bind_eq_some_iff.mp h
  obtain ⟨sae, hsae, h⟩ := Option.bind_eq_some_iff.mp h
  obtain ⟨sae', hsae', h⟩ := Option.map_eq_some_iff.mp h
  obtain ⟨hstate, hstate'⟩ := Prod.mk.inj h
  have hrun : Trace.RunWith (next {}) (Carried {}) {} ([] ++ [.frame plainSaeCommit plainSaeEnv]) sta :=
    Trace.RunWith.nil.snoc (fun _ _ => plainCommit_carried) hcommit
  have hbefore : ∀ sae₁, sta.sae = some sae₁ → sae₁.state ≠ .accepted := by
    intro sae₁ hsae₁
    obtain rfl := Option.some.inj (hsae.symm.trans hsae₁)
    rw [hstate]
    simp
  obtain ⟨_, _, sae₁, tmp, c, -, -, -, hsae₁, htmp, hc, hderived, -⟩ :=
    run_accepted_derived hrun hconfirm hbefore hsae' hstate'
  obtain rfl := Option.some.inj (hsae.symm.trans hsae₁)
  exact ⟨sta, sta', sae, sae', tmp, c, hrun, hconfirm, hsae, hstate, hsae', hstate', htmp, hc, hderived⟩

/-- Keys cannot be derived from the commits; a confirm message for the KCK of zeros is accepted. -/
theorem accepted_without_keys :
    ∃ sta sta' sae sae' tmp, Trace.Run (next {}) {}
        [.frame plainSaeCommit { plainSaeEnv with deriveK := fun _ _ _ _ => none }] sta ∧
      sta.next {} (.frame (plainSaeConfirm (List.replicate 32 0)) plainSaeEnv) = some sta' ∧
      sta.sae = some sae ∧ sae.state = .committed ∧ sta'.sae = some sae' ∧ sae'.state = .accepted ∧
      sae.tmp = some tmp ∧ tmp.derived = none := by
  have hstates : ((Trace.exec (next {}) {}
      [.frame plainSaeCommit { plainSaeEnv with deriveK := fun _ _ _ _ => none }]).bind fun sta =>
      (sta.next {} (.frame (plainSaeConfirm (List.replicate 32 0)) plainSaeEnv)).bind fun sta' =>
        sta.sae.bind fun sae => sta'.sae.bind fun sae' => sae.tmp.map fun tmp =>
          (sae.state, sae'.state, tmp.derived)) = some (.committed, .accepted, none) := by decide +kernel
  obtain ⟨sta, hcommit, h⟩ := Option.bind_eq_some_iff.mp hstates
  obtain ⟨sta', hconfirm, h⟩ := Option.bind_eq_some_iff.mp h
  obtain ⟨sae, hsae, h⟩ := Option.bind_eq_some_iff.mp h
  obtain ⟨sae', hsae', h⟩ := Option.bind_eq_some_iff.mp h
  obtain ⟨tmp, htmp, h⟩ := Option.map_eq_some_iff.mp h
  obtain ⟨hstate, h⟩ := Prod.mk.inj h
  obtain ⟨hstate', hderived⟩ := Prod.mk.inj h
  exact ⟨sta, sta', sae, sae', tmp, Trace.run_iff_exec.mpr hcommit, hconfirm, hsae, hstate, hsae', hstate',
    htmp, hderived⟩

end SaeSta

end Ethanol
