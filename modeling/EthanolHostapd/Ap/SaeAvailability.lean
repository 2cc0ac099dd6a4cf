import EthanolHostapd.Ap.AuthSae

/-!
# Missing values and freed stations

In an infrastructure network the own commit and the password element are there in every state but
`SAE_NOTHING`, as long as there is temporary data.  The rest can be missing when a confirm message comes:
`sae_check_confirm` is called in every state, and an element that could not be read is stored as missing.
A commit message of an accepted station frees the station in the middle of `handle_auth_sae`.
-/

namespace Ethanol

variable {Element : Type}

/-! ## The own commit -/

namespace SaeTmp

variable {tmp : SaeTmp Element}

/-- There is a group, an own commit and a password element. -/
structure HasOwn (tmp : SaeTmp Element) : Prop where
  group : tmp.group.isSome = true
  scalar : tmp.ownCommitScalar.isSome = true
  element : tmp.ownCommitElement.isSome = true
  pwe : tmp.pwe.isSome = true

lemma HasOwn.commits_isSome (h : tmp.HasOwn) {peerCommitScalar : Option ℕ}
    (hscalar : peerCommitScalar.isSome = true) (helement : tmp.peerCommitElement.isSome = true) :
    (tmp.commits peerCommitScalar).isSome = true := by
  obtain ⟨ownScalar, h₁⟩ := Option.isSome_iff_exists.mp h.scalar
  obtain ⟨ownElement, h₂⟩ := Option.isSome_iff_exists.mp h.element
  obtain ⟨peerScalar, h₃⟩ := Option.isSome_iff_exists.mp hscalar
  obtain ⟨peerElement, h₄⟩ := Option.isSome_iff_exists.mp helement
  obtain ⟨pwe, h₅⟩ := Option.isSome_iff_exists.mp h.pwe
  simp [commits, h₁, h₂, h₃, h₄, h₅]

lemma peerCommitElement_of_commits {peerCommitScalar : Option ℕ}
    (h : (tmp.commits peerCommitScalar).isSome = true) : tmp.peerCommitElement.isSome = true := by
  obtain ⟨c, hc⟩ := Option.isSome_iff_exists.mp h
  obtain ⟨_, _, hc⟩ := Option.bind_eq_some_iff.mp hc
  obtain ⟨_, _, hc⟩ := Option.bind_eq_some_iff.mp hc
  obtain ⟨_, _, hc⟩ := Option.bind_eq_some_iff.mp hc
  obtain ⟨_, helement, _⟩ := Option.bind_eq_some_iff.mp hc
  rw [helement]
  rfl

end SaeTmp

namespace SaeData

variable {p : SaeParams} {env : SaeEnv Element} {sae sae' : SaeData Element} {status : StatusCode}
  {tmp : SaeTmp Element}

/-- What the loop of `sae_derive_commit` keeps, and what there is when it finds a mask. -/
lemma deriveCommitScalar_spec (env : SaeEnv Element) (n : ℕ) (tmp : SaeTmp Element) :
    (deriveCommitScalar env n tmp).1.group = tmp.group ∧
      (deriveCommitScalar env n tmp).1.pwe = tmp.pwe ∧
      (deriveCommitScalar env n tmp).1.ownCommitElement = tmp.ownCommitElement ∧
      (deriveCommitScalar env n tmp).1.peerCommitElement = tmp.peerCommitElement ∧
      (tmp.ownCommitScalar.isSome = true →
        (deriveCommitScalar env n tmp).1.ownCommitScalar.isSome = true) ∧
      ((deriveCommitScalar env n tmp).2.isSome = true →
        (deriveCommitScalar env n tmp).1.ownCommitScalar.isSome = true ∧
          (deriveCommitScalar env n tmp).1.saeRand.isSome = true) := by
  induction n generalizing tmp with
  | zero => exact ⟨rfl, rfl, rfl, rfl, id, fun h => absurd h (by simp [deriveCommitScalar])⟩
  | succ n ih =>
    rw [deriveCommitScalar]
    cases env.rand n with
    | none => exact ⟨rfl, rfl, rfl, rfl, id, fun h => absurd h (by simp)⟩
    | some rand =>
      dsimp only
      cases env.mask n with
      | none => exact ⟨rfl, rfl, rfl, rfl, id, fun h => absurd h (by simp)⟩
      | some mask =>
        dsimp only
        split_ifs with hfails hbad
        · exact ⟨rfl, rfl, rfl, rfl, id, fun h => absurd h (by simp)⟩
        · obtain ⟨h₁, h₂, h₃, h₄, h₅, h₆⟩ := ih
            { tmp with saeRand := some rand, ownCommitScalar := some ((rand + mask) % tmp.order) }
          exact ⟨h₁, h₂, h₃, h₄, fun _ => h₅ rfl, h₆⟩
        · exact ⟨rfl, rfl, rfl, rfl, fun _ => rfl, fun _ => ⟨rfl, rfl⟩⟩

/-- What `sae_derive_commit` keeps, and what there is when it succeeds. -/
lemma deriveCommit_spec (env : SaeEnv Element) (tmp : SaeTmp Element) :
    (deriveCommit env tmp).1.group = tmp.group ∧ (deriveCommit env tmp).1.pwe = tmp.pwe ∧
      (deriveCommit env tmp).1.peerCommitElement = tmp.peerCommitElement ∧
      (tmp.HasOwn → (deriveCommit env tmp).1.HasOwn) ∧
      ((deriveCommit env tmp).2 = true → tmp.group.isSome = true → tmp.pwe.isSome = true →
        (deriveCommit env tmp).1.HasOwn ∧ (deriveCommit env tmp).1.saeRand.isSome = true) := by
  obtain ⟨h₁, h₂, h₃, h₄, h₅, h₆⟩ := deriveCommitScalar_spec env 100 tmp
  unfold deriveCommit
  generalize deriveCommitScalar env 100 tmp = derived at h₁ h₂ h₃ h₄ h₅ h₆ ⊢
  obtain ⟨tmp', mask⟩ := derived
  dsimp only at h₁ h₂ h₃ h₄ h₅ h₆
  have hown : tmp.HasOwn → tmp'.HasOwn := fun h =>
    ⟨h₁ ▸ h.group, h₅ h.scalar, h₃ ▸ h.element, h₂ ▸ h.pwe⟩
  cases mask with
  | none => exact ⟨h₁, h₂, h₄, hown, fun h => absurd h (by simp)⟩
  | some mask =>
    obtain ⟨hscalar, hrand⟩ := h₆ rfl
    dsimp only
    split_ifs with hkind hfails
    · refine ⟨h₁, h₂, h₄, hown, ?_⟩
      intro _ hgroup
      have hnone : tmp'.group = none := Option.map_eq_none_iff.mp hkind
      rw [← h₁, hnone] at hgroup
      exact absurd hgroup (by simp)
    · exact ⟨h₁, h₂, h₄, hown, fun h => absurd h (by simp)⟩
    · refine ⟨h₁, h₂, h₄, fun h => ⟨(hown h).group, hscalar, rfl, (hown h).pwe⟩, ?_⟩
      intro _ hgroup hpwe
      exact ⟨⟨h₁ ▸ hgroup, hscalar, rfl, h₂ ▸ hpwe⟩, hrand⟩

/-- What `sae_prepare_commit` keeps, and what there is when it succeeds. -/
lemma prepareCommit_spec (env : SaeEnv Element) (htmp : sae.tmp = some tmp) :
    ∃ tmp', (sae.prepareCommit env).1 = { sae with tmp := some tmp' } ∧ tmp'.group = tmp.group ∧
      tmp'.peerCommitElement = tmp.peerCommitElement ∧ (tmp.HasOwn → tmp'.HasOwn) ∧
      ((sae.prepareCommit env).2 = true → tmp.group.isSome = true →
        tmp'.HasOwn ∧ tmp'.saeRand.isSome = true) := by
  unfold prepareCommit derivePwe
  rw [htmp]
  dsimp only
  by_cases hkind : tmp.kind = none
  · rw [if_pos hkind]
    obtain ⟨h₁, -, h₃, h₄, -⟩ := deriveCommit_spec env tmp
    refine ⟨_, rfl, h₁, h₃, h₄, ?_⟩
    intro _ hgroup
    have hnone : tmp.group = none := Option.map_eq_none_iff.mp hkind
    rw [hnone] at hgroup
    exact absurd hgroup (by simp)
  · rw [if_neg hkind]
    cases env.derivePwe with
    | none => exact ⟨tmp, rfl, rfl, rfl, id, fun h => absurd h (by simp)⟩
    | some derived =>
      obtain ⟨pwe, ok⟩ := derived
      have hown : tmp.HasOwn → ({ tmp with pwe := some pwe } : SaeTmp Element).HasOwn :=
        fun h => ⟨h.group, h.scalar, h.element, rfl⟩
      cases ok with
      | false => exact ⟨_, rfl, rfl, rfl, hown, fun h => absurd h (by simp)⟩
      | true =>
        obtain ⟨h₁, -, h₃, h₄, h₅⟩ := deriveCommit_spec env { tmp with pwe := some pwe }
        exact ⟨_, rfl, h₁, h₃, fun h => h₄ (hown h), fun hok hgroup => h₅ hok hgroup rfl⟩

/-! ## Complete data -/

/-- Both commits and the password element are there. -/
structure Complete (sae : SaeData Element) (tmp : SaeTmp Element) : Prop where
  has : sae.tmp = some tmp
  own : tmp.HasOwn
  peerElement : tmp.peerCommitElement.isSome = true
  peerScalar : sae.peerCommitScalar.isSome = true

lemma sendCommit_spec (p : SaeParams) (env : SaeEnv Element) (htmp : sae.tmp = some tmp)
    (hgroup : tmp.group.isSome = true) :
    ∃ tmp' status, sae.sendCommit p env true = some ({ sae with tmp := some tmp' }, status) ∧
      tmp'.peerCommitElement = tmp.peerCommitElement ∧ (tmp.HasOwn → tmp'.HasOwn) ∧
      (status = .success → tmp'.HasOwn ∧ tmp'.saeRand.isSome = true) := by
  obtain ⟨tmp', hfst, -, helement, hown, hok⟩ := prepareCommit_spec env htmp
  unfold sendCommit
  split
  · refine ⟨tmp, .unspecifiedFailure, ?_, rfl, id, ?_⟩
    · rw [← htmp]
    · exact fun h => absurd h StatusCode.unspecifiedFailure_ne_success
  dsimp only
  rw [if_pos rfl, hfst]
  split
  · refine ⟨tmp', .unspecifiedFailure, rfl, helement, hown, ?_⟩
    exact fun h => absurd h StatusCode.unspecifiedFailure_ne_success
  rename_i hprepared
  have hprepared' : (sae.prepareCommit env).2 = true := by simpa using hprepared
  obtain ⟨hown', hrand⟩ := hok hprepared' hgroup
  split
  · refine ⟨tmp', .unspecifiedFailure, rfl, helement, hown, ?_⟩
    exact fun h => absurd h StatusCode.unspecifiedFailure_ne_success
  · dsimp only
    rw [if_pos ⟨hown'.scalar, hown'.element⟩]
    exact ⟨tmp', env.commitReply, rfl, helement, hown, fun _ => ⟨hown', hrand⟩⟩

/-- With complete data nothing is missing for `sae_process_commit`, and the data stays complete. -/
lemma processCommit_complete (env : SaeEnv Element) (h : sae.Complete tmp)
    (hrand : tmp.saeRand.isSome = true) :
    ∃ sae' tmp' ok, sae.processCommit env = some (sae', ok) ∧ sae'.Complete tmp' ∧
      tmp'.saeRand.isSome = true ∧ sae'.state = sae.state := by
  obtain ⟨c, hc⟩ := Option.isSome_iff_exists.mp (h.own.commits_isSome h.peerScalar h.peerElement)
  obtain ⟨g, hg⟩ := Option.isSome_iff_exists.mp h.own.group
  obtain ⟨rand, hrand'⟩ := Option.isSome_iff_exists.mp hrand
  unfold processCommit
  rw [h.has]
  dsimp only
  rw [hc, hg, hrand']
  simp only [Option.bind_eq_bind, Option.bind_some]
  split
  · exact ⟨sae, tmp, false, rfl, h, hrand, rfl⟩
  split
  · exact ⟨sae, tmp, false, rfl, h, hrand, rfl⟩
  · refine ⟨_, _, true, rfl, ⟨rfl, ?_, h.peerElement, h.peerScalar⟩, rfl, rfl⟩
    exact ⟨rfl, h.own.scalar, h.own.element, h.own.pwe⟩

/-- If no value is missing for a confirm message, it can be sent. -/
lemma sendConfirmFrame_spec (env : SaeEnv Element) (htmp : sae.tmp = some tmp)
    (hc : (tmp.commits sae.peerCommitScalar).isSome = true) :
    ∃ sendConfirm status, sae.sendConfirmFrame env = some ({ sae with sendConfirm }, status) := by
  obtain ⟨c, hc⟩ := Option.isSome_iff_exists.mp hc
  unfold sendConfirmFrame writeConfirm
  split
  · exact ⟨sae.sendConfirm, _, rfl⟩
  split
  · rename_i hnone
    exact absurd (htmp.symm.trans hnone) (by simp)
  · rename_i tmp' htmp'
    obtain rfl := Option.some.inj (htmp.symm.trans htmp')
    rw [hc]
    exact ⟨_, _, rfl⟩

/-- The invariant: outside `SAE_NOTHING`, there is everything but perhaps the element of the peer. -/
structure Prepared (sae : SaeData Element) : Prop where
  own : sae.state ≠ .nothing → ∀ tmp, sae.tmp = some tmp → tmp.HasOwn ∧ sae.peerCommitScalar.isSome = true
  rand : sae.state = .committed → ∀ tmp, sae.tmp = some tmp → tmp.saeRand.isSome = true

lemma Complete.of_eq (h : sae.Complete tmp) (htmp : sae'.tmp = sae.tmp)
    (hscalar : sae'.peerCommitScalar = sae.peerCommitScalar) : sae'.Complete tmp :=
  ⟨htmp.trans h.has, h.own, h.peerElement, hscalar ▸ h.peerScalar⟩

lemma Complete.sendConfirmFrame (h : sae.Complete tmp) (env : SaeEnv Element) :
    ∃ sendConfirm status, sae.sendConfirmFrame env = some ({ sae with sendConfirm }, status) :=
  sendConfirmFrame_spec env h.has (h.own.commits_isSome h.peerScalar h.peerElement)

lemma Complete.prepared (h : sae.Complete tmp) (hrand : sae.state = .committed → tmp.saeRand.isSome = true) :
    sae.Prepared := by
  constructor
  · intro _ tmp' htmp'
    obtain rfl := Option.some.inj (h.has.symm.trans htmp')
    exact ⟨h.own, h.peerScalar⟩
  · intro hstate tmp' htmp'
    obtain rfl := Option.some.inj (h.has.symm.trans htmp')
    exact hrand hstate

lemma Complete.prepared_of_eq (h : sae.Complete tmp) (hrand : tmp.saeRand.isSome = true)
    (htmp : sae'.tmp = sae.tmp) (hscalar : sae'.peerCommitScalar = sae.peerCommitScalar) :
    sae'.Prepared :=
  (h.of_eq htmp hscalar).prepared fun _ => hrand

lemma prepared_of_nothing (h : sae.state = .nothing) : sae.Prepared :=
  ⟨fun hstate => absurd h hstate, fun hstate => absurd (h.symm.trans hstate) (by simp)⟩

/-- What a commit message leaves behind when it is accepted. -/
structure Parsed (sae : SaeData Element) (tmp : SaeTmp Element) : Prop where
  has : sae.tmp = some tmp
  group : tmp.group.isSome = true
  peerElement : tmp.peerCommitElement.isSome = true
  peerScalar : sae.peerCommitScalar.isSome = true

lemma smNothing_available (hmesh : p.mesh = false) (env : SaeEnv Element) (hstate : sae.state = .nothing)
    (h : sae.Parsed tmp) : ∃ sae' status, sae.smNothing p env 1 = .done sae' status ∧ sae'.Prepared := by
  obtain ⟨tmp₁, status, hsent, helement, -, hok⟩ := sendCommit_spec p env h.has h.group
  unfold smNothing
  rw [if_pos rfl, hsent, andThen]
  split
  · exact ⟨_, _, rfl, prepared_of_nothing hstate⟩
  · rename_i hsuccess
    obtain ⟨hown, hrand⟩ := hok (not_not.mp hsuccess)
    have hcomplete : Complete { sae with tmp := some tmp₁, state := .committed } tmp₁ :=
      ⟨rfl, hown, helement ▸ h.peerElement, h.peerScalar⟩
    obtain ⟨sae', tmp', ok, hprocessed, hcomplete', hrand', -⟩ :=
      processCommit_complete env hcomplete hrand
    rw [hprocessed, andThen, hmesh]
    split
    · exact ⟨_, _, rfl, hcomplete'.prepared fun _ => hrand'⟩
    · rw [if_neg Bool.false_ne_true]
      exact ⟨_, _, rfl, hcomplete'.prepared_of_eq hrand' rfl rfl⟩

lemma smCommitted_available (env : SaeEnv Element) (h : sae.Complete tmp)
    (hrand : tmp.saeRand.isSome = true) :
    ∃ sae' status, sae.smCommitted p env 1 = .done sae' status ∧ sae'.Prepared := by
  obtain ⟨sae₁, tmp₁, ok, hprocessed, hcomplete, hrand', -⟩ := processCommit_complete env h hrand
  unfold smCommitted
  rw [if_pos rfl, hprocessed, andThen]
  split
  · exact ⟨_, _, rfl, hcomplete.prepared fun _ => hrand'⟩
  · obtain ⟨n, status, hconfirm⟩ := hcomplete.sendConfirmFrame env
    rw [hconfirm, andThen]
    split
    · exact ⟨_, _, rfl, hcomplete.prepared_of_eq hrand' rfl rfl⟩
    · exact ⟨_, _, rfl, hcomplete.prepared_of_eq hrand' rfl rfl⟩

lemma smConfirmed_available (p : SaeParams) (env : SaeEnv Element) (hstate : sae.state = .confirmed)
    (h : sae.Complete tmp) : ∃ sae' status, sae.smConfirmed p env 1 = .done sae' status ∧ sae'.Prepared := by
  unfold smConfirmed
  rw [if_pos rfl]
  split
  · rename_i hsync
    exact ⟨_, _, rfl, prepared_of_nothing (checkBigSync_fst hsync)⟩
  have hsync : Complete { sae with sync := sae.sync + 1 } tmp := h.of_eq rfl rfl
  obtain ⟨tmp₁, status, hsent, helement, hown, hok⟩ := sendCommit_spec p env hsync.has h.own.group
  have hcomplete : Complete { sae with sync := sae.sync + 1, tmp := some tmp₁ } tmp₁ :=
    ⟨rfl, hown h.own, helement ▸ h.peerElement, h.peerScalar⟩
  rw [hsent, andThen]
  split
  · refine ⟨_, _, rfl, hcomplete.prepared ?_⟩
    exact fun hcommitted => absurd (hstate.symm.trans hcommitted) (by simp)
  · rename_i hsuccess
    obtain ⟨-, hrand⟩ := hok (not_not.mp hsuccess)
    obtain ⟨sae₂, tmp₂, ok, hprocessed, hcomplete₂, hrand₂, -⟩ :=
      processCommit_complete env hcomplete hrand
    rw [hprocessed, andThen]
    split
    · exact ⟨_, _, rfl, hcomplete₂.prepared fun _ => hrand₂⟩
    · obtain ⟨n, status, hconfirm⟩ := hcomplete₂.sendConfirmFrame env
      rw [hconfirm, andThen]
      exact ⟨_, _, rfl, hcomplete₂.prepared_of_eq hrand₂ rfl rfl⟩

/-- After a commit message that was accepted, nothing is missing; only an accepted station is freed. -/
lemma smStep_commit_available (hmesh : p.mesh = false) (env : SaeEnv Element) (hprepared : sae.Prepared)
    (h : sae.Parsed tmp) :
    (sae.state = .accepted ∧ sae.smStep p env 1 = .freed) ∨
      (sae.state ≠ .accepted ∧
        ∃ sae' status, sae.smStep p env 1 = .done sae' status ∧ sae'.Prepared) := by
  have hcomplete : sae.state ≠ .nothing → sae.Complete tmp := fun hstate =>
    ⟨h.has, (hprepared.own hstate tmp h.has).1, h.peerElement, h.peerScalar⟩
  unfold smStep
  rw [if_neg (by simp)]
  cases hstate : sae.state with
  | nothing => exact Or.inr ⟨by simp, smNothing_available hmesh env hstate h⟩
  | committed =>
    refine Or.inr ⟨by simp, ?_⟩
    exact smCommitted_available env (hcomplete (by simp [hstate])) (hprepared.rand hstate tmp h.has)
  | confirmed =>
    exact Or.inr ⟨by simp, smConfirmed_available p env hstate (hcomplete (by simp [hstate]))⟩
  | accepted => exact Or.inl ⟨rfl, rfl⟩

lemma Prepared.of_eq (h : sae.Prepared) (htmp : sae'.tmp = sae.tmp)
    (hscalar : sae'.peerCommitScalar = sae.peerCommitScalar) (hsae : sae.state ≠ .nothing)
    (hstate : sae'.state = .committed → sae.state = .committed) : sae'.Prepared := by
  constructor
  · intro _ tmp htmp'
    rw [hscalar]
    exact h.own hsae tmp (htmp.symm.trans htmp')
  · intro hcommitted tmp htmp'
    exact h.rand (hstate hcommitted) tmp (htmp.symm.trans htmp')

/-- After a confirm message for which no value was missing, nothing is missing. -/
lemma smStep_confirm_available (hmesh : p.mesh = false) (env : SaeEnv Element) (hprepared : sae.Prepared)
    (htmp : sae.tmp = some tmp) (hc : (tmp.commits sae.peerCommitScalar).isSome = true) :
    ∃ sae' status, sae.smStep p env 2 = .done sae' status ∧ sae'.Prepared := by
  unfold smStep
  rw [if_neg (by simp)]
  cases hstate : sae.state with
  | nothing =>
    unfold smNothing
    rw [if_neg (by simp)]
    exact ⟨_, _, rfl, hprepared⟩
  | committed =>
    have hsae : sae.state ≠ .nothing := by simp [hstate]
    obtain ⟨n, status, hconfirm⟩ := sendConfirmFrame_spec env htmp hc
    unfold smCommitted
    dsimp only
    rw [if_neg (by simp), hmesh, if_neg Bool.false_ne_true, hconfirm, andThen]
    split
    · exact ⟨_, _, rfl, hprepared.of_eq rfl rfl hsae fun _ => hstate⟩
    · unfold smConfirmed
      rw [if_neg (by simp)]
      exact ⟨_, _, rfl, hprepared.of_eq rfl rfl hsae fun _ => hstate⟩
  | confirmed =>
    unfold smConfirmed
    dsimp only
    rw [if_neg (by simp)]
    refine ⟨_, _, rfl, hprepared.of_eq rfl rfl (by simp [hstate]) ?_⟩
    exact fun hcommitted => absurd hcommitted (by simp)
  | accepted =>
    unfold smAccepted
    dsimp only
    rw [if_neg (by simp)]
    split
    · rename_i hsync
      exact ⟨_, _, rfl, prepared_of_nothing (checkBigSync_fst hsync)⟩
    · have htmp' : ({ sae with sync := sae.sync + 1 } : SaeData Element).tmp = some tmp := htmp
      obtain ⟨n, status, hconfirm⟩ := sendConfirmFrame_spec env htmp' hc
      rw [hconfirm, andThen]
      refine ⟨_, _, rfl, ?_, ?_⟩
      · exact fun _ tmp' htmp' => absurd htmp' (by simp [clearTempData])
      · exact fun _ tmp' htmp' => absurd htmp' (by simp [clearTempData])

/-- A commit message does not need more than the invariant. -/
lemma Prepared.parseCommit [DecidableEq Element] (h : sae.Prepared) (env : SaeEnv Element)
    (allowedGroups : Option (List ℕ)) (body : List UInt8) :
    (sae.parseCommit env allowedGroups body).1.Prepared := by
  obtain ⟨base, scalar, element, hbase, hscalar, heq⟩ := parseCommit_fst env sae allowedGroups body
  rw [heq]
  rcases hbase with rfl | hnothing
  · constructor
    · intro hstate tmp htmp
      obtain ⟨tmp₀, htmp₀, rfl⟩ := Option.map_eq_some_iff.mp htmp
      obtain ⟨hown, hpeer⟩ := h.own hstate tmp₀ htmp₀
      exact ⟨⟨hown.group, hown.scalar, hown.element, hown.pwe⟩, hscalar hpeer⟩
    · intro hstate tmp htmp
      obtain ⟨tmp₀, htmp₀, rfl⟩ := Option.map_eq_some_iff.mp htmp
      exact h.rand hstate tmp₀ htmp₀
  · exact prepared_of_nothing hnothing

/-- A commit message passes the checks before `sae_sm_step`. -/
def Proceeds [DecidableEq Element] (p : SaeParams) (env : SaeEnv Element) (sae : SaeData Element)
    (body : List UInt8) : Prop :=
  let parsed := sae.parseCommit env p.saeGroups body
  parsed.2.1 = .success ∧ parsed.2.2.any (!env.tokenValid ·) = false ∧
    ¬ (parsed.2.2 = none ∧ env.useAntiClogging = true)

/-- Nothing is missing for a confirm message: in `SAE_NOTHING` both commits are there, in the other states
the element of the peer could be read. -/
def ConfirmAvailable (sae : SaeData Element) (body : List UInt8) : Prop :=
  2 + 32 ≤ body.length → ∀ tmp, sae.tmp = some tmp →
    (sae.state = .nothing → (tmp.commits sae.peerCommitScalar).isSome = true) ∧
      (sae.state ≠ .nothing → tmp.peerCommitElement.isSome = true)

lemma checkConfirm_isSome (env : SaeEnv Element) (h : sae.Prepared) (body : List UInt8) :
    (sae.checkConfirm env body).isSome = true ↔ sae.ConfirmAvailable body := by
  unfold checkConfirm ConfirmAvailable
  by_cases hlen : body.length < 2 + 32
  · rw [if_pos hlen]
    exact iff_of_true rfl fun hlen' => absurd hlen (by omega)
  rw [if_neg hlen]
  cases htmp : sae.tmp with
  | none => exact iff_of_true rfl fun _ _ h => absurd h (by simp)
  | some tmp =>
    have hiff : (tmp.commits sae.peerCommitScalar).isSome = true ↔
        (sae.state = .nothing → (tmp.commits sae.peerCommitScalar).isSome = true) ∧
          (sae.state ≠ .nothing → tmp.peerCommitElement.isSome = true) := by
      constructor
      · exact fun hc => ⟨fun _ => hc, fun _ => SaeTmp.peerCommitElement_of_commits hc⟩
      · rintro ⟨hnothing, hother⟩
        by_cases hstate : sae.state = .nothing
        · exact hnothing hstate
        · obtain ⟨hown, hscalar⟩ := h.own hstate tmp htmp
          exact hown.commits_isSome hscalar (hother hstate)
    have hcheck : (do
        let c ← tmp.commits sae.peerCommitScalar
        some (decide (Verifies env tmp.kck c body))).isSome = (tmp.commits sae.peerCommitScalar).isSome := by
      cases tmp.commits sae.peerCommitScalar <;> rfl
    dsimp only
    rw [hcheck, hiff]
    constructor
    · intro hc _ tmp' htmp'
      obtain rfl := Option.some.inj htmp'
      exact hc
    · exact fun hall => hall (by omega) tmp rfl

end SaeData

namespace SaeSta

open SaeData

variable {p : SaeParams} {env : SaeEnv Element} {sta sta' : SaeSta Element} {sae : SaeData Element}
  {f : SaeFrame}

/-- A station that was not misused has data that meets the invariant. -/
def Sound (sta : SaeSta Element) : Prop := sta.misused = false → ∀ sae, sta.sae = some sae → sae.Prepared

lemma sound_removeSta (hsae : sae.Prepared) (resp statusCode : StatusCode) :
    (sta.removeSta (some sae) resp statusCode).Sound := by
  intro _ sae' hsae'
  obtain rfl := Option.some.inj hsae'
  exact hsae

lemma sound_of_misused (h : sta.misused = true) : sta.Sound :=
  fun hnot => absurd (h.symm.trans hnot) (by simp)

/-- What a commit message does to the station. -/
lemma receiveCommit_available [DecidableEq Element] (hmesh : p.mesh = false) (env : SaeEnv Element)
    (hsta : sta.misused = false) (h : sae.Prepared) (f : SaeFrame) :
    (sta.receiveCommit p env sae f).Sound ∧
      ((sta.receiveCommit p env sae f).misused = false ↔
        ¬ (sae.Proceeds p env f.body ∧
          (sae.parseCommit env p.saeGroups f.body).1.state = .accepted)) := by
  have hprepared := h.parseCommit env p.saeGroups f.body
  have hsuccess : (sae.parseCommit env p.saeGroups f.body).2.1 = .success →
      ∃ tmp, (sae.parseCommit env p.saeGroups f.body).1.Parsed tmp := by
    intro hok
    obtain ⟨tmp, htmp, hgroup, helement, hscalar⟩ := parseCommit_success hok
    exact ⟨tmp, htmp, hgroup, helement, hscalar⟩
  unfold receiveCommit Proceeds
  dsimp only
  generalize sae.parseCommit env p.saeGroups f.body = parsed at hprepared hsuccess ⊢
  have hremoved : ∀ resp, (sta.removeSta (some parsed.1) resp f.statusCode).Sound ∧
      (sta.removeSta (some parsed.1) resp f.statusCode).misused = false :=
    fun resp => ⟨sound_removeSta hprepared resp f.statusCode, hsta⟩
  split_ifs with hdiscard htoken hok hrequest hmesh'
  · refine ⟨(hremoved _).1, iff_of_true (hremoved _).2 ?_⟩
    rintro ⟨⟨hok, -⟩, -⟩
    exact absurd (hdiscard.symm.trans hok) StatusCode.silentlyDiscard_ne_success
  · refine ⟨(hremoved _).1, iff_of_true (hremoved _).2 ?_⟩
    rintro ⟨⟨-, htoken', -⟩, -⟩
    exact absurd (htoken.symm.trans htoken') (by simp)
  · refine ⟨(hremoved _).1, iff_of_true (hremoved _).2 ?_⟩
    rintro ⟨⟨hok', -⟩, -⟩
    exact hok hok'
  · exact absurd (hmesh.symm.trans hmesh') (by simp)
  · refine ⟨(hremoved _).1, iff_of_true (hremoved _).2 ?_⟩
    rintro ⟨⟨-, -, hno⟩, -⟩
    exact hno hrequest
  · obtain ⟨tmp, hparsed⟩ := hsuccess (not_not.mp hok)
    rcases smStep_commit_available hmesh env hprepared hparsed with
      ⟨haccepted, hstep⟩ | ⟨hstate, sae', status, hstep, hprepared'⟩
    · rw [hstep]
      refine ⟨sound_of_misused rfl, iff_of_false (by simp [afterStep]) ?_⟩
      rw [not_not]
      exact ⟨⟨not_not.mp hok, by simpa using htoken, hrequest⟩, haccepted⟩
    · rw [hstep]
      refine ⟨sound_removeSta hprepared' status f.statusCode, iff_of_true hsta ?_⟩
      exact fun h => hstate h.2

/-- What a confirm message does to the station. -/
lemma receiveConfirm_available (hmesh : p.mesh = false) (env : SaeEnv Element)
    (hsta : sta.misused = false) (h : sae.Prepared) (f : SaeFrame) :
    (sta.receiveConfirm p env sae f).Sound ∧
      ((sta.receiveConfirm p env sae f).misused = false ↔ sae.ConfirmAvailable f.body) := by
  have hcheck := checkConfirm_isSome env h f.body
  unfold receiveConfirm
  rw [if_pos (Or.inr (Or.inr hmesh)), ← hcheck]
  cases hresult : sae.checkConfirm env f.body with
  | none => exact ⟨sound_of_misused rfl, iff_of_false (by simp) (by simp)⟩
  | some ok =>
    cases ok with
    | false => exact ⟨sound_removeSta h _ _, iff_of_true hsta rfl⟩
    | true =>
      obtain ⟨tmp, c, htmp, hc, -⟩ := checkConfirm_true hresult
      obtain ⟨sae', status, hstep, hprepared⟩ :=
        smStep_confirm_available hmesh env h htmp (by rw [hc]; rfl)
      dsimp only
      rw [hstep]
      exact ⟨sound_removeSta hprepared status f.statusCode, iff_of_true hsta rfl⟩

/-- Nothing is missing when a confirm message comes, and a commit message of an accepted station does not
get to `sae_sm_step` unless it is for another group. -/
def Available [DecidableEq Element] (p : SaeParams) (sta : SaeSta Element) : SaeEvent Element → Prop
  | .frame f env =>
    (f.authTransaction = 2 → f.statusCode = .success → ∀ sae, sta.sae = some sae →
      sae.ConfirmAvailable f.body) ∧
    (f.authTransaction = 1 → f.statusCode = .success → ∀ sae, sta.sae = some sae →
      sae.Proceeds p env f.body → (sae.parseCommit env p.saeGroups f.body).1.state ≠ .accepted)
  | _ => True

/-- What a frame does to the station. -/
lemma receive_available [DecidableEq Element] (hmesh : p.mesh = false) (env : SaeEnv Element)
    (hsta : sta.misused = false) (h : sae.Prepared) (f : SaeFrame) :
    (sta.receive p env sae f).Sound ∧
      ((sta.receive p env sae f).misused = false ↔
        (f.authTransaction = 2 → f.statusCode = .success → sae.ConfirmAvailable f.body) ∧
        (f.authTransaction = 1 → f.statusCode = .success → sae.Proceeds p env f.body →
          (sae.parseCommit env p.saeGroups f.body).1.state ≠ .accepted)) := by
  have hkept : ∀ resp, (sta.removeSta (some sae) resp f.statusCode).Sound :=
    fun resp => sound_removeSta h resp f.statusCode
  unfold receive
  split_ifs with hcommit htoken hgroup hstatus hconfirm hstatus hstatus
  · exact absurd (hmesh.symm.trans htoken.1) (by simp)
  · exact absurd (hmesh.symm.trans hgroup.1) (by simp)
  · refine ⟨hkept _, iff_of_true hsta ⟨?_, ?_⟩⟩
    · exact fun _ hsuccess => absurd hsuccess hstatus
    · exact fun _ hsuccess => absurd hsuccess hstatus
  · obtain ⟨hsound, hmisused⟩ := receiveCommit_available hmesh env hsta h f
    refine ⟨hsound, hmisused.trans ?_⟩
    constructor
    · intro hnot
      refine ⟨fun hconfirm => absurd (hcommit.symm.trans hconfirm) (by simp), ?_⟩
      exact fun _ _ hproceeds haccepted => hnot ⟨hproceeds, haccepted⟩
    · rintro ⟨-, hnot⟩ ⟨hproceeds, haccepted⟩
      exact hnot hcommit (not_not.mp hstatus) hproceeds haccepted
  · refine ⟨hkept _, iff_of_true hsta ⟨?_, ?_⟩⟩
    · exact fun _ hsuccess => absurd hsuccess hstatus
    · exact fun _ hsuccess => absurd hsuccess hstatus
  · obtain ⟨hsound, hmisused⟩ := receiveConfirm_available hmesh env hsta h f
    refine ⟨hsound, hmisused.trans ?_⟩
    constructor
    · exact fun hc => ⟨fun _ _ => hc, fun h => absurd h hcommit⟩
    · exact fun hc => hc.1 hconfirm (not_not.mp hstatus)
  · refine ⟨hkept _, iff_of_true hsta ⟨?_, ?_⟩⟩
    · exact fun _ hsuccess => absurd hsuccess hstatus
    · exact fun _ hsuccess => absurd hsuccess hstatus
  · refine ⟨hkept _, iff_of_true hsta ⟨?_, ?_⟩⟩
    · exact fun h => absurd h hconfirm
    · exact fun h => absurd h hcommit

/-- What `handle_auth_sae` does to the station. -/
lemma handleAuthSae_available [DecidableEq Element] (hmesh : p.mesh = false) (env : SaeEnv Element)
    (hsta : sta.misused = false) (h : sta.Sound) (f : SaeFrame) :
    (sta.handleAuthSae p env f).Sound ∧
      ((sta.handleAuthSae p env f).misused = false ↔ Available p sta (.frame f env)) := by
  unfold handleAuthSae
  cases hsae : sta.sae with
  | some sae =>
    obtain ⟨hsound, hmisused⟩ := receive_available hmesh env hsta (h hsta sae hsae) f
    refine ⟨hsound, hmisused.trans ?_⟩
    constructor
    · rintro ⟨hconfirm, hcommit⟩
      refine ⟨?_, ?_⟩
      · intro htransaction hstatus sae' hsae'
        obtain rfl := Option.some.inj (hsae.symm.trans hsae')
        exact hconfirm htransaction hstatus
      · intro htransaction hstatus sae' hsae'
        obtain rfl := Option.some.inj (hsae.symm.trans hsae')
        exact hcommit htransaction hstatus
    · rintro ⟨hconfirm, hcommit⟩
      exact ⟨fun htransaction hstatus => hconfirm htransaction hstatus sae hsae,
        fun htransaction hstatus => hcommit htransaction hstatus sae hsae⟩
  | none =>
    have hvacuous : Available p sta (.frame f env) := by
      refine ⟨?_, ?_⟩
      · exact fun _ _ sae hsome => absurd (hsae.symm.trans hsome) (by simp)
      · exact fun _ _ sae hsome => absurd (hsae.symm.trans hsome) (by simp)
    dsimp only
    split_ifs
    · refine ⟨fun _ sae hsome => absurd hsome (by simp [removeSta]), iff_of_true hsta hvacuous⟩
    · have hnew : Prepared ({} : SaeData Element) := prepared_of_nothing rfl
      obtain ⟨hsound, hmisused⟩ := receive_available hmesh env hsta hnew f
      refine ⟨hsound, iff_of_true (hmisused.mpr ⟨?_, ?_⟩) hvacuous⟩
      · exact fun _ _ _ tmp htmp => absurd htmp (by simp)
      · intro _ _ _ haccepted
        obtain ⟨base, scalar, element, hbase, -, heq⟩ :=
          parseCommit_fst env ({} : SaeData Element) p.saeGroups f.body
        rw [heq] at haccepted
        rcases hbase with rfl | hnothing
        · exact absurd haccepted (by simp [withPeer])
        · exact absurd (hnothing.symm.trans haccepted) (by simp)

/-- In an infrastructure network, no function computes with a value that is missing or uses a station after
it was freed, if and only if in every step nothing is missing for a confirm message, and no commit message
frees the station. -/
theorem run_available [DecidableEq Element] (hmesh : p.mesh = false) {events : List (SaeEvent Element)}
    (hrun : Trace.Run (next p) {} events sta) :
    sta.misused = false ↔ Trace.RunWith (next p) (Available p) {} events sta := by
  refine hrun.iff_runWith (I := fun sta => sta.misused = false) (J := Sound) rfl ?_ ?_
  · exact fun _ sae hsae => absurd hsae (by simp)
  intro sta₁ event sta₂ hsound hnext
  unfold next at hnext
  split at hnext
  · exact absurd hnext (by simp)
  rename_i hrunning
  have hsta : sta₁.misused = false := by simpa using hrunning
  cases event with
  | frame f env =>
    obtain rfl := Option.some.inj hnext
    obtain ⟨hsound', hmisused⟩ := handleAuthSae_available hmesh env hsta hsound f
    refine ⟨hsound', hmisused.trans ?_⟩
    exact ⟨fun h => ⟨hsta, h⟩, And.right⟩
  | retransmit env =>
    rw [hmesh] at hnext
    dsimp only at hnext
    split at hnext
    · exact absurd hnext (by simp)
    · exact absurd hnext (by simp)
  | addUnassoc =>
    obtain rfl := Option.some.inj hnext
    exact ⟨hsound, iff_of_true hsta ⟨hsta, trivial⟩⟩
  | freeSta =>
    obtain rfl := Option.some.inj hnext
    exact ⟨fun _ sae hsae => absurd hsae (by simp), iff_of_true rfl ⟨hsta, trivial⟩⟩

/-- A commit and a confirm message. -/
theorem run_available_plain :
    ∃ sta sae, Trace.RunWith (next {}) (Available {}) {}
        [.frame plainSaeCommit plainSaeEnv,
          .frame (plainSaeConfirm (List.replicate 31 1 ++ [8])) plainSaeEnv] sta ∧
      sta.misused = false ∧ sta.sae = some sae ∧ sae.state = .accepted := by
  have hexec : ((Trace.exec (next {}) {} [.frame plainSaeCommit plainSaeEnv,
      .frame (plainSaeConfirm (List.replicate 31 1 ++ [8])) plainSaeEnv]).bind fun sta =>
        sta.sae.map fun sae => (sta.misused, sae.state)) = some (false, .accepted) := by decide +kernel
  obtain ⟨sta, hrun, h⟩ := Option.bind_eq_some_iff.mp hexec
  obtain ⟨sae, hsae, h⟩ := Option.map_eq_some_iff.mp h
  obtain ⟨hmisused, hstate⟩ := Prod.mk.inj h
  exact ⟨sta, sae, (run_available rfl (Trace.run_iff_exec.mpr hrun)).mp hmisused, hmisused, hsae, hstate⟩

/-- A confirm message comes after a token was requested, or a commit message comes from an accepted
station. -/
theorem run_available_fails :
    (∃ sta, Trace.Run (next {}) {} [.frame plainSaeCommit { plainSaeEnv with useAntiClogging := true },
        .frame (plainSaeConfirm (List.replicate 32 0)) plainSaeEnv] sta ∧ sta.misused = true) ∧
    ∃ sta, Trace.Run (next {}) {} [.frame plainSaeCommit plainSaeEnv,
        .frame (plainSaeConfirm (List.replicate 31 1 ++ [8])) plainSaeEnv,
        .frame ⟨1, .success, [19, 0, 3, 3, 4]⟩ plainSaeEnv] sta ∧ sta.misused = true := by
  have htoken : (Trace.exec (next {}) {} [.frame plainSaeCommit { plainSaeEnv with useAntiClogging := true },
      .frame (plainSaeConfirm (List.replicate 32 0)) plainSaeEnv]).map misused = some true := by
    decide +kernel
  have hfreed : (Trace.exec (next {}) {} [.frame plainSaeCommit plainSaeEnv,
      .frame (plainSaeConfirm (List.replicate 31 1 ++ [8])) plainSaeEnv,
      .frame ⟨1, .success, [19, 0, 3, 3, 4]⟩ plainSaeEnv]).map misused = some true := by decide +kernel
  obtain ⟨sta, hrun, hmisused⟩ := Option.map_eq_some_iff.mp htoken
  obtain ⟨sta', hrun', hmisused'⟩ := Option.map_eq_some_iff.mp hfreed
  exact ⟨⟨sta, Trace.run_iff_exec.mpr hrun, hmisused⟩, sta', Trace.run_iff_exec.mpr hrun', hmisused'⟩

end SaeSta

end Ethanol
