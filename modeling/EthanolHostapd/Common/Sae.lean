import EthanolHostapd.Wire.LittleEndian

/-!
# Simultaneous authentication of equals

`common/sae.c`: the data of one SAE instance, the parsing of a commit message, and the values that are
computed from the two commits.  Numbers are natural numbers; the elements of the group are of some type
`Element`, for the points of a curve and for the residues modulo a prime alike.

The operations of the group, the hash functions and the memory are given anew for each frame, by a
`SaeEnv`: any of them may fail.  A function that would use a value that is missing has no result.
-/

namespace Ethanol

/-- The status codes that are used here, and -1. -/
abbrev StatusCode := ℤ

namespace StatusCode

def success : StatusCode := 0
def unspecifiedFailure : StatusCode := 1
def unknownAuthTransaction : StatusCode := 14
def antiCloggingTokenReq : StatusCode := 76
def finiteCyclicGroupNotSupported : StatusCode := 77
/-- `SAE_SILENTLY_DISCARD`. -/
def silentlyDiscard : StatusCode := 65535

lemma unspecifiedFailure_ne_success : unspecifiedFailure ≠ success := by decide

lemma finiteCyclicGroupNotSupported_ne_success : finiteCyclicGroupNotSupported ≠ success := by decide

lemma silentlyDiscard_ne_success : silentlyDiscard ≠ success := by decide

end StatusCode

inductive SaeState
  | nothing
  | committed
  | confirmed
  | accepted
  deriving DecidableEq

/-- Whether `ec` or `dh` is set. -/
inductive SaeGroupKind
  | ecc
  | ffc
  deriving DecidableEq

structure SaeGroup where
  kind : SaeGroupKind
  primeLen : ℕ
  order : ℕ
  deriving DecidableEq

/-- What `sae_set_group` finds. -/
inductive SaeGroupInit
  | noMemory
  | unsupported
  | group (g : SaeGroup)

/-- The commits of both sides, and the password element. -/
structure SaeCommits (Element : Type) where
  ownScalar : ℕ
  ownElement : Element
  peerScalar : ℕ
  peerElement : Element
  pwe : Element
  deriving DecidableEq

structure SaeKeys where
  kck : List UInt8
  pmk : List UInt8
  pmkid : List UInt8

/-- `struct sae_temporary_data`. -/
structure SaeTmp (Element : Type) where
  /-- `ec` or `dh`, with `prime_len`, `prime` and `order`. -/
  group : Option SaeGroup := none
  kck : List UInt8 := List.replicate 32 0
  ownCommitScalar : Option ℕ := none
  ownCommitElement : Option Element := none
  peerCommitElement : Option Element := none
  pwe : Option Element := none
  saeRand : Option ℕ := none
  antiCloggingToken : Option (List UInt8) := none
  /-- The commits from which a KCK was derived last, and this KCK.  Not in the program. -/
  derived : Option (SaeCommits Element × List UInt8) := none
  deriving DecidableEq

/-- `struct sae_data`. -/
structure SaeData (Element : Type) where
  state : SaeState := .nothing
  sendConfirm : UInt16 := 0
  pmk : List UInt8 := List.replicate 32 0
  pmkid : List UInt8 := List.replicate 16 0
  peerCommitScalar : Option ℕ := none
  group : ℕ := 0
  sync : ℕ := 0
  tmp : Option (SaeTmp Element) := none
  deriving DecidableEq

/-- The crypto functions and the surroundings while one frame is handled. -/
structure SaeEnv (Element : Type) where
  /-- `crypto_ec_init` and `dh_groups_get`. -/
  groupInit : ℕ → SaeGroupInit
  /-- There is no memory for a scalar of the peer. -/
  peerScalarFails : Bool := false
  /-- The coordinates of an element of a curve are below the prime. -/
  coordinatesValid : List UInt8 → Bool
  /-- `crypto_ec_point_from_bin` or `crypto_bignum_init_set`. -/
  elementFromBin : List UInt8 → Option Element
  /-- The element is on the curve, or it is of the order of the group. -/
  elementValid : Element → Bool
  /-- `sae_derive_pwe_ecc` or `sae_derive_pwe_ffc`: what is in the password element after it, if there is
  memory for it, and whether it is the right one. -/
  derivePwe : Option (Element × Bool)
  /-- The random numbers `rand` and `mask`; the attempts are counted down. -/
  rand : ℕ → Option ℕ
  mask : ℕ → Option ℕ
  ownScalarFails : Bool := false
  ownElementFails : Bool := false
  /-- The inverse of the password element multiplied by the mask, and whether it was computed. -/
  commitElement : Option Element → ℕ → Element × Bool
  /-- `sae_derive_k_ecc` or `sae_derive_k_ffc`: the password element, the scalar and the element of the
  peer, and `rand`. -/
  deriveK : Element → ℕ → Element → ℕ → Option (List UInt8)
  /-- `hmac_sha256` and `sha256_prf` in `sae_derive_keys`, for `k` and the sum of the scalars. -/
  deriveKeys : List UInt8 → ℕ → Option SaeKeys
  /-- `hmac_sha256_vector` in `sae_cn_confirm`. -/
  cnConfirm : List UInt8 → List UInt8 → ℕ → Element → ℕ → Element → List UInt8
  /-- There is no memory for a frame. -/
  commitBufFails : Bool := false
  confirmBufFails : Bool := false
  /-- The results of `send_auth_reply`. -/
  commitReply : StatusCode := .success
  confirmReply : StatusCode := .success
  /-- `check_sae_token`. -/
  tokenValid : List UInt8 → Bool := fun _ => true
  /-- `use_sae_anti_clogging`. -/
  useAntiClogging : Bool := false
  /-- There is no memory for the station's SAE data or for a token. -/
  saeFails : Bool := false
  tokenFails : Bool := false

variable {Element : Type}

namespace SaeTmp

variable (tmp : SaeTmp Element)

def primeLen : ℕ := (tmp.group.map SaeGroup.primeLen).getD 0

def order : ℕ := (tmp.group.map SaeGroup.order).getD 0

def kind : Option SaeGroupKind := tmp.group.map SaeGroup.kind

/-- The commits of both sides and the password element, if none is missing. -/
def commits (peerCommitScalar : Option ℕ) : Option (SaeCommits Element) := do
  let ownScalar ← tmp.ownCommitScalar
  let ownElement ← tmp.ownCommitElement
  let peerScalar ← peerCommitScalar
  let peerElement ← tmp.peerCommitElement
  let pwe ← tmp.pwe
  some ⟨ownScalar, ownElement, peerScalar, peerElement, pwe⟩

end SaeTmp

namespace SaeData

variable (env : SaeEnv Element) (sae : SaeData Element)

/-! ## The group -/

/-- `sae_set_group`, and whether it succeeds.  The old data is cleared in any case. -/
def setGroup (group : ℕ) : SaeData Element × Bool :=
  match env.groupInit group with
  | .noMemory => ({}, false)
  | .unsupported => ({ tmp := some {} }, false)
  | .group g => ({ group, tmp := some { group := some g } }, true)

/-- `sae_clear_temp_data`. -/
def clearTempData : SaeData Element := { sae with tmp := none }

/-- `sae_group_allowed`. -/
def groupAllowed (allowedGroups : Option (List ℕ)) (group : ℕ) : SaeData Element × StatusCode :=
  if allowedGroups.any (group ∉ ·) then (sae, .finiteCyclicGroupNotSupported)
  else if sae.state = .committed ∧ group ≠ sae.group then (sae, .finiteCyclicGroupNotSupported)
  else
    let set := if group ≠ sae.group then setGroup env group else (sae, true)
    if set.2 = false then (set.1, .finiteCyclicGroupNotSupported)
    else
      match set.1.tmp with
      | none => (set.1, .unspecifiedFailure)
      | some tmp =>
        if tmp.kind = some .ffc ∧ allowedGroups.isNone then (set.1, .finiteCyclicGroupNotSupported)
        else (set.1, .success)

/-! ## The commit of the peer -/

/-- `sae_parse_commit_token`: the token, and what follows it. -/
def parseCommitToken (tmp : SaeTmp Element) (data : List UInt8) : Option (List UInt8) × List UInt8 :=
  let len := (if tmp.kind = some .ecc then 3 else 2) * tmp.primeLen
  if len < data.length then (some (data.take (data.length - len)), data.drop (data.length - len))
  else (none, data)

/-- `sae_parse_commit_scalar`. -/
def parseCommitScalar (tmp : SaeTmp Element) (data : List UInt8) : SaeData Element × StatusCode :=
  if data.length < tmp.primeLen then (sae, .unspecifiedFailure)
  else if env.peerScalarFails then (sae, .unspecifiedFailure)
  else
    let peerScalar := Wire.leNat (data.take tmp.primeLen).reverse
    if sae.state = .accepted ∧ sae.peerCommitScalar = some peerScalar then (sae, .unspecifiedFailure)
    else if peerScalar = 0 ∨ peerScalar = 1 ∨ tmp.order ≤ peerScalar then (sae, .unspecifiedFailure)
    else ({ sae with peerCommitScalar := some peerScalar }, .success)

/-- The end of `sae_parse_commit_element_ecc` and `sae_parse_commit_element_ffc`: the element is stored
before it is known to be a good one. -/
def storeElement (tmp : SaeTmp Element) (data : List UInt8) : SaeTmp Element × StatusCode :=
  let peerCommitElement := env.elementFromBin data
  ({ tmp with peerCommitElement },
    if peerCommitElement.any env.elementValid then .success else .unspecifiedFailure)

/-- `sae_parse_commit_element_ecc`. -/
def parseCommitElementEcc (tmp : SaeTmp Element) (data : List UInt8) : SaeTmp Element × StatusCode :=
  if data.length < 2 * tmp.primeLen then (tmp, .unspecifiedFailure)
  else if env.coordinatesValid (data.take (2 * tmp.primeLen)) = false then (tmp, .unspecifiedFailure)
  else storeElement env tmp (data.take (2 * tmp.primeLen))

/-- `sae_parse_commit_element_ffc`. -/
def parseCommitElementFfc (tmp : SaeTmp Element) (data : List UInt8) : SaeTmp Element × StatusCode :=
  if data.length < tmp.primeLen then (tmp, .unspecifiedFailure)
  else storeElement env tmp (data.take tmp.primeLen)

/-- `sae_parse_commit_element`. -/
def parseCommitElement (tmp : SaeTmp Element) (data : List UInt8) : SaeTmp Element × StatusCode :=
  if tmp.kind = some .ffc then parseCommitElementFfc env tmp data else parseCommitElementEcc env tmp data

/-- The values of the peer are those that were sent to it. -/
def reflected [DecidableEq Element] (tmp : SaeTmp Element) (peerCommitScalar : Option ℕ) : Bool :=
  tmp.ownCommitScalar.isSome ∧ tmp.ownCommitScalar = peerCommitScalar ∧
    (tmp.kind.isSome → tmp.ownCommitElement.isSome ∧ tmp.ownCommitElement = tmp.peerCommitElement)

/-- `sae_parse_commit`: the data, the status and the token. -/
def parseCommit [DecidableEq Element] (allowedGroups : Option (List ℕ)) (data : List UInt8) :
    SaeData Element × StatusCode × Option (List UInt8) :=
  if data.length < 2 then (sae, .unspecifiedFailure, none)
  else
    let allowed := sae.groupAllowed env allowedGroups (Wire.leNat (data.take 2))
    match allowed.1.tmp with
    | none => (allowed.1, allowed.2, none)
    | some tmp =>
      if allowed.2 ≠ .success then (allowed.1, allowed.2, none)
      else
        let token := parseCommitToken tmp (data.drop 2)
        let scalar := allowed.1.parseCommitScalar env tmp token.2
        if scalar.2 ≠ .success then (scalar.1, scalar.2, token.1)
        else
          let element := parseCommitElement env tmp (token.2.drop tmp.primeLen)
          let sae := { scalar.1 with tmp := some element.1 }
          if element.2 ≠ .success then (sae, element.2, token.1)
          else if reflected element.1 sae.peerCommitScalar then (sae, .silentlyDiscard, token.1)
          else (sae, .success, token.1)

/-! ## The own commit -/

/-- The loop of `sae_derive_commit`; the mask, if there is one. -/
def deriveCommitScalar : ℕ → SaeTmp Element → SaeTmp Element × Option ℕ
  | 0, tmp => (tmp, none)
  | n + 1, tmp =>
    match env.rand n with
    | none => ({ tmp with saeRand := none }, none)
    | some rand =>
      match env.mask n with
      | none => ({ tmp with saeRand := some rand }, none)
      | some mask =>
        if tmp.ownCommitScalar = none ∧ env.ownScalarFails = true then
          ({ tmp with saeRand := some rand }, none)
        else
          let scalar := (rand + mask) % tmp.order
          let tmp := { tmp with saeRand := some rand, ownCommitScalar := some scalar }
          if scalar = 0 ∨ scalar = 1 then deriveCommitScalar n tmp else (tmp, some mask)

/-- `sae_derive_commit`, and whether it succeeds. -/
def deriveCommit (tmp : SaeTmp Element) : SaeTmp Element × Bool :=
  match deriveCommitScalar env 100 tmp with
  | (tmp, none) => (tmp, false)
  | (tmp, some mask) =>
    if tmp.kind = none then (tmp, true)
    else if tmp.ownCommitElement.isNone ∧ env.ownElementFails = true then (tmp, false)
    else
      let element := env.commitElement tmp.pwe mask
      ({ tmp with ownCommitElement := some element.1 }, element.2)

/-- `sae_derive_pwe_ecc` or `sae_derive_pwe_ffc`, and whether it succeeds. -/
def derivePwe (tmp : SaeTmp Element) : SaeTmp Element × Bool :=
  if tmp.kind = none then (tmp, true)
  else
    match env.derivePwe with
    | none => (tmp, false)
    | some (pwe, ok) => ({ tmp with pwe := some pwe }, ok)

/-- `sae_prepare_commit`, and whether it succeeds. -/
def prepareCommit : SaeData Element × Bool :=
  match sae.tmp with
  | none => (sae, false)
  | some tmp =>
    match derivePwe env tmp with
    | (tmp, false) => ({ sae with tmp := some tmp }, false)
    | (tmp, true) => ({ sae with tmp := some (deriveCommit env tmp).1 }, (deriveCommit env tmp).2)

/-! ## Keys and confirms -/

/-- `sae_process_commit`, and whether it succeeds; nothing if a value is missing. -/
def processCommit : Option (SaeData Element × Bool) :=
  match sae.tmp with
  | none => some (sae, false)
  | some tmp => do
    let c ← tmp.commits sae.peerCommitScalar
    let g ← tmp.group
    let rand ← tmp.saeRand
    match env.deriveK c.pwe c.peerScalar c.peerElement rand with
    | none => some (sae, false)
    | some k =>
      match env.deriveKeys k ((c.ownScalar + c.peerScalar) % g.order) with
      | none => some (sae, false)
      | some keys =>
        some ({ sae with
          pmk := keys.pmk
          pmkid := keys.pmkid
          tmp := some { tmp with kck := keys.kck, derived := some (c, keys.kck) } }, true)

/-- `sae_write_confirm`; nothing if a value is missing. -/
def writeConfirm : Option (SaeData Element × List UInt8) :=
  match sae.tmp with
  | none => some (sae, [])
  | some tmp => do
    let c ← tmp.commits sae.peerCommitScalar
    let sc := Wire.leBytes 2 sae.sendConfirm.toNat
    some ({ sae with sendConfirm := sae.sendConfirm + 1 },
      sc ++ env.cnConfirm tmp.kck sc c.ownScalar c.ownElement c.peerScalar c.peerElement)

/-- A confirm message has the right value under a KCK. -/
def Verifies (kck : List UInt8) (c : SaeCommits Element) (data : List UInt8) : Prop :=
  env.cnConfirm kck (data.take 2) c.peerScalar c.peerElement c.ownScalar c.ownElement =
    (data.drop 2).take 32

instance (kck : List UInt8) (c : SaeCommits Element) (data : List UInt8) :
    Decidable (Verifies env kck c data) :=
  inferInstanceAs (Decidable (_ = _))

/-- `sae_check_confirm`; nothing if a value is missing. -/
def checkConfirm (data : List UInt8) : Option Bool :=
  if data.length < 2 + 32 then some false
  else
    match sae.tmp with
    | none => some false
    | some tmp => do
      let c ← tmp.commits sae.peerCommitScalar
      some (decide (Verifies env tmp.kck c data))

/-! ## What the functions keep -/

variable {env : SaeEnv Element} {sae sae' : SaeData Element}

/-- The data with other values of the peer. -/
def withPeer (sae : SaeData Element) (scalar : Option ℕ) (element : Option Element) : SaeData Element :=
  { sae with
    peerCommitScalar := scalar
    tmp := sae.tmp.map fun tmp => { tmp with peerCommitElement := element } }

/-- The element of the peer. -/
def peerCommitElement (sae : SaeData Element) : Option Element := sae.tmp.bind SaeTmp.peerCommitElement

lemma withPeer_element (sae : SaeData Element) (scalar : Option ℕ) :
    sae.withPeer scalar sae.peerCommitElement = { sae with peerCommitScalar := scalar } := by
  obtain ⟨state, sendConfirm, pmk, pmkid, peerCommitScalar, group, sync, tmp⟩ := sae
  cases tmp with
  | none => rfl
  | some tmp => rfl

lemma withPeer_self (sae : SaeData Element) :
    sae.withPeer sae.peerCommitScalar sae.peerCommitElement = sae :=
  sae.withPeer_element sae.peerCommitScalar

lemma setGroup_state (env : SaeEnv Element) (group : ℕ) : (setGroup env group).1.state = .nothing := by
  unfold setGroup
  split <;> rfl

/-- The old data stays, or there is new data for a group. -/
lemma groupAllowed_fst (env : SaeEnv Element) (sae : SaeData Element) (allowedGroups : Option (List ℕ))
    (group : ℕ) :
    (sae.groupAllowed env allowedGroups group).1 = sae ∨
      (sae.groupAllowed env allowedGroups group).1 = (setGroup env group).1 := by
  unfold groupAllowed
  dsimp only
  have hset : (if group ≠ sae.group then setGroup env group else (sae, true)).1 = sae ∨
      (if group ≠ sae.group then setGroup env group else (sae, true)).1 = (setGroup env group).1 := by
    split_ifs
    · exact Or.inr rfl
    · exact Or.inl rfl
  generalize (if group ≠ sae.group then setGroup env group else (sae, true)) = set at hset ⊢
  split_ifs
  · exact Or.inl rfl
  · exact Or.inl rfl
  · exact hset
  · cases set.1.tmp with
    | none => exact hset
    | some tmp =>
      dsimp only
      split_ifs
      · exact hset
      · exact hset

lemma groupAllowed_state (env : SaeEnv Element) (sae : SaeData Element)
    (allowedGroups : Option (List ℕ)) (group : ℕ) :
    (sae.groupAllowed env allowedGroups group).1 = sae ∨
      (sae.groupAllowed env allowedGroups group).1.state = .nothing := by
  rcases groupAllowed_fst env sae allowedGroups group with h | h
  · exact Or.inl h
  · exact Or.inr (by rw [h, setGroup_state])

lemma groupAllowed_success (env : SaeEnv Element) (sae : SaeData Element)
    (allowedGroups : Option (List ℕ)) (group : ℕ)
    (h : (sae.groupAllowed env allowedGroups group).2 = .success) :
    (sae.groupAllowed env allowedGroups group).1.tmp.isSome = true := by
  unfold groupAllowed at h ⊢
  dsimp only at h ⊢
  generalize (if group ≠ sae.group then setGroup env group else (sae, true)) = set at h ⊢
  split_ifs at h ⊢
  · exact absurd h StatusCode.finiteCyclicGroupNotSupported_ne_success
  · exact absurd h StatusCode.finiteCyclicGroupNotSupported_ne_success
  · exact absurd h StatusCode.finiteCyclicGroupNotSupported_ne_success
  · cases htmp : set.1.tmp with
    | none =>
      rw [htmp] at h
      exact absurd h StatusCode.unspecifiedFailure_ne_success
    | some tmp =>
      dsimp only
      split_ifs
      · rw [htmp]
        rfl
      · rw [htmp]
        rfl

lemma parseCommitScalar_fst (env : SaeEnv Element) (sae : SaeData Element) (tmp : SaeTmp Element)
    (data : List UInt8) :
    ∃ scalar, (sae.peerCommitScalar.isSome = true → scalar.isSome = true) ∧
      (sae.parseCommitScalar env tmp data).1 = { sae with peerCommitScalar := scalar } := by
  unfold parseCommitScalar
  dsimp only
  split_ifs
  · exact ⟨sae.peerCommitScalar, id, rfl⟩
  · exact ⟨sae.peerCommitScalar, id, rfl⟩
  · exact ⟨sae.peerCommitScalar, id, rfl⟩
  · exact ⟨sae.peerCommitScalar, id, rfl⟩
  · exact ⟨_, fun _ => rfl, rfl⟩

lemma parseCommitElement_fst (env : SaeEnv Element) (tmp : SaeTmp Element) (data : List UInt8) :
    ∃ element, (parseCommitElement env tmp data).1 = { tmp with peerCommitElement := element } := by
  unfold parseCommitElement parseCommitElementFfc parseCommitElementEcc storeElement
  split_ifs
  · exact ⟨tmp.peerCommitElement, rfl⟩
  · exact ⟨_, rfl⟩
  · exact ⟨tmp.peerCommitElement, rfl⟩
  · exact ⟨tmp.peerCommitElement, rfl⟩
  · exact ⟨_, rfl⟩

/-- A commit message changes the values of the peer, in the old data or in new data. -/
lemma parseCommit_fst [DecidableEq Element] (env : SaeEnv Element) (sae : SaeData Element)
    (allowedGroups : Option (List ℕ)) (data : List UInt8) :
    ∃ base scalar element, (base = sae ∨ base.state = .nothing) ∧
      (base.peerCommitScalar.isSome = true → scalar.isSome = true) ∧
      (sae.parseCommit env allowedGroups data).1 = base.withPeer scalar element := by
  have hkept : ∀ base : SaeData Element, (base = sae ∨ base.state = .nothing) →
      ∃ base' scalar element, (base' = sae ∨ base'.state = .nothing) ∧
        (base'.peerCommitScalar.isSome = true → scalar.isSome = true) ∧
        base = base'.withPeer scalar element := fun base hbase =>
    ⟨base, base.peerCommitScalar, base.peerCommitElement, hbase, id, (withPeer_self base).symm⟩
  unfold parseCommit
  split
  · exact hkept sae (Or.inl rfl)
  dsimp only
  have hbase := groupAllowed_state env sae allowedGroups (Wire.leNat (data.take 2))
  generalize sae.groupAllowed env allowedGroups (Wire.leNat (data.take 2)) = allowed at hbase ⊢
  cases htmp : allowed.1.tmp with
  | none => exact hkept allowed.1 hbase
  | some tmp =>
    dsimp only
    obtain ⟨scalar, hsome, hscalar⟩ :=
      parseCommitScalar_fst env allowed.1 tmp (parseCommitToken tmp (data.drop 2)).2
    obtain ⟨element, helement⟩ := parseCommitElement_fst env tmp
      ((parseCommitToken tmp (data.drop 2)).2.drop tmp.primeLen)
    have hboth : { (allowed.1.parseCommitScalar env tmp (parseCommitToken tmp (data.drop 2)).2).1 with
        tmp := some (parseCommitElement env tmp
          ((parseCommitToken tmp (data.drop 2)).2.drop tmp.primeLen)).1 } =
        allowed.1.withPeer scalar element := by
      rw [hscalar, helement, withPeer, htmp]
      rfl
    split_ifs
    · exact hkept allowed.1 hbase
    · refine ⟨allowed.1, scalar, allowed.1.peerCommitElement, hbase, hsome, ?_⟩
      rw [hscalar, withPeer_element]
    · exact ⟨allowed.1, scalar, element, hbase, hsome, hboth⟩
    · exact ⟨allowed.1, scalar, element, hbase, hsome, hboth⟩
    · exact ⟨allowed.1, scalar, element, hbase, hsome, hboth⟩

lemma parseCommitScalar_success {tmp : SaeTmp Element} {data : List UInt8}
    (h : (sae.parseCommitScalar env tmp data).2 = .success) :
    (sae.parseCommitScalar env tmp data).1.peerCommitScalar.isSome = true ∧ tmp.group.isSome = true := by
  unfold parseCommitScalar at h ⊢
  dsimp only at h ⊢
  split_ifs at h ⊢ with hlen hfails hreused hbad
  · exact absurd h StatusCode.unspecifiedFailure_ne_success
  · exact absurd h StatusCode.unspecifiedFailure_ne_success
  · exact absurd h StatusCode.unspecifiedFailure_ne_success
  · exact absurd h StatusCode.unspecifiedFailure_ne_success
  · refine ⟨rfl, ?_⟩
    -- without a group the scalar has no bytes
    cases hgroup : tmp.group with
    | some g => rfl
    | none =>
      have hprime : tmp.primeLen = 0 := by
        unfold SaeTmp.primeLen
        rw [hgroup]
        rfl
      exact absurd (Or.inl (by rw [hprime]; rfl)) hbad

lemma parseCommitElement_success {tmp : SaeTmp Element} {data : List UInt8}
    (h : (parseCommitElement env tmp data).2 = .success) :
    (parseCommitElement env tmp data).1.peerCommitElement.isSome = true := by
  have hstored : ∀ data, (storeElement env tmp data).2 = .success →
      (storeElement env tmp data).1.peerCommitElement.isSome = true := by
    intro data h
    unfold storeElement at h ⊢
    dsimp only at h ⊢
    cases helement : env.elementFromBin data with
    | some element => rfl
    | none =>
      rw [helement, Option.any_none, if_neg Bool.false_ne_true] at h
      exact absurd h StatusCode.unspecifiedFailure_ne_success
  unfold parseCommitElement parseCommitElementFfc parseCommitElementEcc at h ⊢
  split_ifs at h ⊢
  · exact absurd h StatusCode.unspecifiedFailure_ne_success
  · exact hstored _ h
  · exact absurd h StatusCode.unspecifiedFailure_ne_success
  · exact absurd h StatusCode.unspecifiedFailure_ne_success
  · exact hstored _ h

/-- After a commit message that was accepted, its values are there, for a group that is known. -/
lemma parseCommit_success [DecidableEq Element] {allowedGroups : Option (List ℕ)} {data : List UInt8}
    (h : (sae.parseCommit env allowedGroups data).2.1 = .success) :
    ∃ tmp, (sae.parseCommit env allowedGroups data).1.tmp = some tmp ∧ tmp.group.isSome = true ∧
      tmp.peerCommitElement.isSome = true ∧
      (sae.parseCommit env allowedGroups data).1.peerCommitScalar.isSome = true := by
  unfold parseCommit at h ⊢
  by_cases hlen : data.length < 2
  · rw [if_pos hlen] at h
    exact absurd h StatusCode.unspecifiedFailure_ne_success
  rw [if_neg hlen] at h ⊢
  dsimp only at h ⊢
  have hallowed := groupAllowed_success env sae allowedGroups (Wire.leNat (data.take 2))
  generalize sae.groupAllowed env allowedGroups (Wire.leNat (data.take 2)) = allowed at h hallowed ⊢
  cases htmp : allowed.1.tmp with
  | none =>
    rw [htmp] at h
    exact absurd (hallowed h) (by rw [htmp]; simp)
  | some tmp =>
    rw [htmp] at h
    dsimp only at h ⊢
    split_ifs at h ⊢ with hgroup hscalar helement hreflected
    · exact absurd h hgroup
    · exact absurd h hscalar
    · exact absurd h helement
    · exact absurd h StatusCode.silentlyDiscard_ne_success
    · rw [not_not] at hscalar helement
      obtain ⟨hpeer, hknown⟩ := parseCommitScalar_success hscalar
      have hstored := parseCommitElement_success helement
      obtain ⟨element, heq⟩ := parseCommitElement_fst env tmp
        ((parseCommitToken tmp (data.drop 2)).2.drop tmp.primeLen)
      refine ⟨_, rfl, ?_, hstored, hpeer⟩
      rw [heq]
      exact hknown

/-! ## Derived keys -/

/-- The KCK was derived from the commits that are there. -/
def Derived (sae : SaeData Element) : Prop :=
  ∃ tmp c, sae.tmp = some tmp ∧ tmp.commits sae.peerCommitScalar = some c ∧
    tmp.derived = some (c, tmp.kck)

/-- Nothing is missing and nothing fails when keys are derived. -/
def KeysDerivable (env : SaeEnv Element) (sae : SaeData Element) : Prop :=
  ∃ tmp c g rand k, sae.tmp = some tmp ∧ tmp.commits sae.peerCommitScalar = some c ∧
    tmp.group = some g ∧ tmp.saeRand = some rand ∧
    env.deriveK c.pwe c.peerScalar c.peerElement rand = some k ∧
    (env.deriveKeys k ((c.ownScalar + c.peerScalar) % g.order)).isSome = true

/-- `sae_process_commit` fails and changes nothing, or the keys are derived. -/
lemma processCommit_cases {ok : Bool} (h : sae.processCommit env = some (sae', ok)) :
    (ok = false ∧ sae' = sae) ∨ (ok = true ∧ sae'.Derived ∧ sae'.state = sae.state) := by
  unfold processCommit at h
  cases htmp : sae.tmp with
  | none =>
    rw [htmp] at h
    obtain ⟨rfl, rfl⟩ := Prod.mk.inj (Option.some.inj h)
    exact Or.inl ⟨rfl, rfl⟩
  | some tmp =>
    rw [htmp] at h
    obtain ⟨c, hc, h⟩ := Option.bind_eq_some_iff.mp h
    obtain ⟨g, hg, h⟩ := Option.bind_eq_some_iff.mp h
    obtain ⟨rand, hrand, h⟩ := Option.bind_eq_some_iff.mp h
    split at h
    · obtain ⟨rfl, rfl⟩ := Prod.mk.inj (Option.some.inj h)
      exact Or.inl ⟨rfl, rfl⟩
    split at h
    · obtain ⟨rfl, rfl⟩ := Prod.mk.inj (Option.some.inj h)
      exact Or.inl ⟨rfl, rfl⟩
    · obtain ⟨rfl, rfl⟩ := Prod.mk.inj (Option.some.inj h)
      exact Or.inr ⟨rfl, ⟨_, c, rfl, hc, rfl⟩, rfl⟩

lemma processCommit_ok {ok : Bool} (h : sae.processCommit env = some (sae', ok))
    (hk : sae.KeysDerivable env) : ok = true := by
  obtain ⟨tmp, c, g, rand, k, htmp, hc, hg, hrand, hderiveK, hkeys⟩ := hk
  obtain ⟨keys, hkeys⟩ := Option.isSome_iff_exists.mp hkeys
  unfold processCommit at h
  rw [htmp] at h
  dsimp only at h
  rw [hc, hg, hrand] at h
  simp only [Option.bind_eq_bind, Option.bind_some] at h
  rw [hderiveK] at h
  dsimp only at h
  rw [hkeys] at h
  exact (Prod.mk.inj (Option.some.inj h)).2.symm

end SaeData

end Ethanol
