import EthanolHostapd.Ap.AuthSae
import EthanolHostapd.Utils.Common
import EthanolHostapd.Wire.Buffer

/-!
# Commit messages of SAE

What `sae_write_commit` writes and `sae_parse_commit` reads: the group, a token, the scalar and the element.  The token has
no length field; it is what is left of the message if the scalar and the element are taken from its end.

`auth_build_sae_commit` allocates a buffer of a fixed size.  The token is one that a peer has sent, and it may have any
length.
-/

namespace Ethanol

open Wire

variable {Element : Type}

/-- `SAE_MAX_PRIME_LEN`. -/
def saeMaxPrimeLen : ℕ := 512

/-- `SAE_COMMIT_MAX_LEN`. -/
def saeCommitMaxLen : ℕ := 2 + 3 * saeMaxPrimeLen

/-- `crypto_bignum_to_bin` into `len` zeros, padded to `len`: a number that is too large is not written. -/
def cryptoBignumToBin (len n : ℕ) : List UInt8 := if n < 256 ^ len then beBytes len n else List.replicate len 0

namespace SaeGroup

variable (g : SaeGroup)

/-- The length of an element: two coordinates or a number. -/
def elementLen : ℕ := if g.kind = .ecc then 2 * g.primeLen else g.primeLen

/-- The length of a scalar and an element. -/
def commitLen : ℕ := g.primeLen + g.elementLen

/-- The conversions of the crypto library for an element of the group: the encoding is of a fixed length, and what is
decoded is what was encoded. -/
structure Encodes (env : SaeEnv Element) (elementToBin : Element → List UInt8) (element : Element) : Prop where
  length : (elementToBin element).length = g.elementLen
  inverse : env.elementFromBin (elementToBin element) = some element
  coordinates : g.kind = .ecc → env.coordinatesValid (elementToBin element) = true
  valid : env.elementValid element = true

end SaeGroup

namespace SaeData

variable (env : SaeEnv Element) (sae : SaeData Element) (elementToBin : Element → List UInt8)

/-! ## The program -/

/-- `sae_write_commit`; nothing if a value is missing, or if the buffer is too small: then the program is aborted. -/
def writeCommit (buf : Wpabuf) (token : Option (List UInt8)) : Option Wpabuf :=
  match sae.tmp with
  | none => some buf
  | some tmp => do
    let buf ← buf.putData (leBytes 2 sae.group)
    let buf ← token.elim (some buf) buf.putData
    let scalar ← tmp.ownCommitScalar
    let buf ← buf.putData (cryptoBignumToBin tmp.primeLen scalar)
    let element ← tmp.ownCommitElement
    buf.putData (elementToBin element)

/-- The end of `auth_build_sae_commit`, if there is memory. -/
def authBuildSaeCommit : Option Wpabuf :=
  sae.writeCommit elementToBin ⟨saeCommitMaxLen, []⟩ (sae.tmp.bind SaeTmp.antiCloggingToken)

/-- `sae_parse_commit_token` at a place of the message: the token, and the place behind it. -/
def parseCommitTokenAt (tmp : SaeTmp Element) (data : List UInt8) (pos : ℕ) : Option (Option (List UInt8) × ℕ) :=
  let len := (if tmp.kind = some .ecc then 3 else 2) * tmp.primeLen
  if len < data.length - pos then
    (Buffer.read data pos (data.length - (pos + len))).map fun token =>
      (some token, pos + (data.length - (pos + len)))
  else some (none, pos)

/-- `sae_parse_commit_scalar` at a place of the message. -/
def parseCommitScalarAt (tmp : SaeTmp Element) (data : List UInt8) (pos : ℕ) :
    Option (SaeData Element × StatusCode) :=
  if data.length - pos < tmp.primeLen then some (sae, .unspecifiedFailure)
  else (Buffer.read data pos tmp.primeLen).map (sae.parseCommitScalar env tmp)

/-- `sae_parse_commit_element` at a place of the message. -/
def parseCommitElementAt (tmp : SaeTmp Element) (data : List UInt8) (pos : ℕ) :
    Option (SaeTmp Element × StatusCode) :=
  let len := if tmp.kind = some .ffc then tmp.primeLen else 2 * tmp.primeLen
  if data.length - pos < len then some (tmp, .unspecifiedFailure)
  else (Buffer.read data pos len).map (parseCommitElement env tmp)

/-- `sae_parse_commit` with its accesses to the message. -/
def parseCommitAt [DecidableEq Element] (allowedGroups : Option (List ℕ)) (data : List UInt8) :
    Option (SaeData Element × StatusCode × Option (List UInt8)) :=
  if data.length < 2 then some (sae, .unspecifiedFailure, none)
  else do
    let group ← Buffer.read data 0 2
    let allowed := sae.groupAllowed env allowedGroups (leNat group)
    match allowed.1.tmp with
    | none => some (allowed.1, allowed.2, none)
    | some tmp =>
      if allowed.2 ≠ .success then some (allowed.1, allowed.2, none)
      else do
        let token ← parseCommitTokenAt tmp data 2
        let scalar ← allowed.1.parseCommitScalarAt env tmp data token.2
        if scalar.2 ≠ .success then some (scalar.1, scalar.2, token.1)
        else do
          let element ← parseCommitElementAt env tmp data (token.2 + tmp.primeLen)
          let sae := { scalar.1 with tmp := some element.1 }
          if element.2 ≠ .success then some (sae, element.2, token.1)
          else if reflected element.1 sae.peerCommitScalar then some (sae, .silentlyDiscard, token.1)
          else some (sae, .success, token.1)

/-! ## The accesses of the parser -/

variable {env sae elementToBin} {tmp : SaeTmp Element} {data : List UInt8} {pos : ℕ}

lemma parseCommitTokenAt_eq (tmp : SaeTmp Element) (hpos : pos ≤ data.length) :
    ∃ off, off ≤ data.length ∧
      parseCommitTokenAt tmp data pos = some ((parseCommitToken tmp (data.drop pos)).1, off) ∧
      (parseCommitToken tmp (data.drop pos)).2 = data.drop off := by
  unfold parseCommitTokenAt parseCommitToken
  dsimp only
  generalize (if tmp.kind = some .ecc then 3 else 2) * tmp.primeLen = len
  rw [List.length_drop]
  split_ifs with hlen
  · have hrest : data.length - pos - len = data.length - (pos + len) := by omega
    refine ⟨pos + (data.length - (pos + len)), by omega, ?_, ?_⟩
    · rw [Buffer.read_eq_some (by omega), Option.map_some, Buffer.window, hrest]
    · rw [List.drop_drop, hrest]
  · exact ⟨pos, hpos, rfl, rfl⟩

lemma parseCommitScalar_take (hlen : tmp.primeLen ≤ data.length) :
    sae.parseCommitScalar env tmp (data.take tmp.primeLen) = sae.parseCommitScalar env tmp data := by
  have hlength : (data.take tmp.primeLen).length = tmp.primeLen := List.length_take_of_le hlen
  unfold parseCommitScalar
  rw [hlength, List.take_take, Nat.min_self, if_neg (lt_irrefl _), if_neg (Nat.not_lt.mpr hlen)]

lemma parseCommitScalarAt_eq (hpos : pos ≤ data.length) :
    sae.parseCommitScalarAt env tmp data pos = some (sae.parseCommitScalar env tmp (data.drop pos)) := by
  unfold parseCommitScalarAt
  split_ifs with hlen
  · rw [parseCommitScalar, List.length_drop, if_pos hlen]
  · rw [Buffer.read_eq_some (by omega), Option.map_some, Buffer.window, parseCommitScalar_take]
    rw [List.length_drop]
    omega

/-- A scalar that was accepted was there. -/
lemma le_length_of_parseCommitScalar (h : (sae.parseCommitScalar env tmp data).2 = .success) :
    tmp.primeLen ≤ data.length := by
  by_contra hlen
  rw [parseCommitScalar, if_pos (by omega)] at h
  exact absurd h StatusCode.unspecifiedFailure_ne_success

lemma parseCommitElement_take {len : ℕ} (hlen : len = if tmp.kind = some .ffc then tmp.primeLen else 2 * tmp.primeLen)
    (hle : len ≤ data.length) : parseCommitElement env tmp (data.take len) = parseCommitElement env tmp data := by
  have hlength : (data.take len).length = len := List.length_take_of_le hle
  unfold parseCommitElement
  split_ifs at hlen ⊢
  · unfold parseCommitElementFfc
    rw [hlength, ← hlen, List.take_take, Nat.min_self, if_neg (lt_irrefl _), if_neg (Nat.not_lt.mpr hle)]
  · unfold parseCommitElementEcc
    rw [hlength, ← hlen, List.take_take, Nat.min_self, if_neg (lt_irrefl _), if_neg (Nat.not_lt.mpr hle)]

lemma parseCommitElementAt_eq (hpos : pos ≤ data.length) :
    parseCommitElementAt env tmp data pos = some (parseCommitElement env tmp (data.drop pos)) := by
  unfold parseCommitElementAt
  dsimp only
  by_cases hlen : data.length - pos < if tmp.kind = some .ffc then tmp.primeLen else 2 * tmp.primeLen
  · rw [if_pos hlen]
    rw [← List.length_drop] at hlen
    unfold parseCommitElement
    split_ifs at hlen ⊢
    · rw [parseCommitElementFfc, if_pos hlen]
    · rw [parseCommitElementEcc, if_pos hlen]
  · rw [if_neg hlen, Buffer.read_eq_some (by omega), Option.map_some, Buffer.window, parseCommitElement_take rfl]
    rw [List.length_drop]
    omega

/-- The parser reads inside the message only. -/
lemma parseCommitAt_eq [DecidableEq Element] (allowedGroups : Option (List ℕ)) :
    sae.parseCommitAt env allowedGroups data = some (sae.parseCommit env allowedGroups data) := by
  unfold parseCommitAt parseCommit
  by_cases hlen : data.length < 2
  · rw [if_pos hlen, if_pos hlen]
  have hgroup : Buffer.read data 0 2 = some (data.take 2) := by
    rw [Buffer.read_eq_some (by omega), Buffer.window, List.drop_zero]
  simp only [Option.bind_eq_bind]
  rw [if_neg hlen, if_neg hlen, hgroup, Option.bind_some]
  generalize sae.groupAllowed env allowedGroups (leNat (data.take 2)) = allowed
  cases htmp : allowed.1.tmp with
  | none => rfl
  | some tmp =>
    dsimp only
    by_cases hallowed : allowed.2 = .success
    · obtain ⟨off, hoff, htoken, hrest⟩ := parseCommitTokenAt_eq tmp (show 2 ≤ data.length by omega)
      rw [if_neg (not_not.mpr hallowed), if_neg (not_not.mpr hallowed), htoken, Option.bind_some,
        parseCommitScalarAt_eq hoff, Option.bind_some, hrest]
      by_cases hscalar : (allowed.1.parseCommitScalar env tmp (data.drop off)).2 = .success
      · have hle := le_length_of_parseCommitScalar hscalar
        rw [List.length_drop] at hle
        rw [if_neg (not_not.mpr hscalar), if_neg (not_not.mpr hscalar), parseCommitElementAt_eq (by omega),
          Option.bind_some, List.drop_drop]
        split_ifs <;> rfl
      · rw [if_pos hscalar, if_pos hscalar]
    · rw [if_pos hallowed, if_pos hallowed]

/-! ## What was written is read -/

lemma parseCommitToken_append {g : SaeGroup} (hg : tmp.group = some g) (token : List UInt8) {rest : List UInt8}
    (hrest : rest.length = g.commitLen) :
    parseCommitToken tmp (token ++ rest) = (if token = [] then none else some token, rest) := by
  have hlen : (if tmp.kind = some .ecc then 3 else 2) * tmp.primeLen = rest.length := by
    rw [hrest, SaeGroup.commitLen, SaeGroup.elementLen, SaeTmp.kind, SaeTmp.primeLen, hg]
    simp only [Option.map_some, Option.getD_some, Option.some_inj]
    split_ifs <;> omega
  unfold parseCommitToken
  dsimp only
  rw [hlen, List.length_append, Nat.add_sub_cancel]
  cases token with
  | nil => simp
  | cons b token => simp

lemma beNat_cryptoBignumToBin {len n : ℕ} (h : n < 256 ^ len) : beNat (cryptoBignumToBin len n) = n := by
  rw [cryptoBignumToBin, if_pos h, beNat_beBytes, Nat.mod_eq_of_lt h]

lemma length_cryptoBignumToBin (len n : ℕ) : (cryptoBignumToBin len n).length = len := by
  unfold cryptoBignumToBin
  split_ifs
  · exact length_beBytes len n
  · exact List.length_replicate

/-- A scalar of the group is accepted, unless it is the one of a protocol instance that was accepted. -/
lemma parseCommitScalar_append {g : SaeGroup} (hg : tmp.group = some g) {scalar : ℕ}
    (hscalar : 1 < scalar ∧ scalar < g.order) (horder : g.order ≤ 256 ^ g.primeLen) (hmemory : env.peerScalarFails = false)
    (hfresh : ¬(sae.state = .accepted ∧ sae.peerCommitScalar = some scalar)) (rest : List UInt8) :
    sae.parseCommitScalar env tmp (cryptoBignumToBin g.primeLen scalar ++ rest) =
      ({ sae with peerCommitScalar := some scalar }, .success) := by
  have hprimeLen : tmp.primeLen = g.primeLen := by rw [SaeTmp.primeLen, hg, Option.map_some, Option.getD_some]
  have htmpOrder : tmp.order = g.order := by rw [SaeTmp.order, hg, Option.map_some, Option.getD_some]
  have hlength := length_cryptoBignumToBin g.primeLen scalar
  have hbin : leNat (cryptoBignumToBin g.primeLen scalar).reverse = scalar :=
    beNat_cryptoBignumToBin (lt_of_lt_of_le hscalar.2 horder)
  have htake : (cryptoBignumToBin g.primeLen scalar ++ rest).take g.primeLen = cryptoBignumToBin g.primeLen scalar :=
    List.take_left' hlength
  unfold parseCommitScalar
  rw [hprimeLen, htmpOrder, htake, hbin, hmemory, List.length_append, hlength, if_neg (by omega),
    if_neg Bool.false_ne_true, if_neg hfresh, if_neg (by omega)]

/-- An element of the group is accepted. -/
lemma parseCommitElement_encoded {g : SaeGroup} (hg : tmp.group = some g) {element : Element}
    (he : g.Encodes env elementToBin element) :
    parseCommitElement env tmp (elementToBin element) =
      ({ tmp with peerCommitElement := some element }, .success) := by
  have hprimeLen : tmp.primeLen = g.primeLen := by rw [SaeTmp.primeLen, hg, Option.map_some, Option.getD_some]
  have hkind : tmp.kind = some g.kind := by rw [SaeTmp.kind, hg, Option.map_some]
  have hlength := he.length
  have hstore : storeElement env tmp (elementToBin element) =
      ({ tmp with peerCommitElement := some element }, .success) := by
    rw [storeElement, he.inverse, Option.any_some, he.valid, if_pos rfl]
  unfold SaeGroup.elementLen at hlength
  unfold parseCommitElement parseCommitElementFfc parseCommitElementEcc
  rw [hkind, hprimeLen]
  cases hk : g.kind with
  | ecc =>
    rw [hk, if_pos rfl] at hlength
    have htake : (elementToBin element).take (2 * g.primeLen) = elementToBin element :=
      List.take_of_length_le hlength.le
    rw [if_neg (by simp), if_neg (by omega), htake, he.coordinates hk, if_neg (by simp), hstore]
  | ffc =>
    rw [hk, if_neg (by simp)] at hlength
    rw [if_pos rfl, if_neg (by omega), List.take_of_length_le hlength.le, hstore]

/-- The message that is written. -/
lemma writeCommit_eq (buf : Wpabuf) (htmp : sae.tmp = some tmp) {scalar : ℕ} {element : Element}
    (hscalar : tmp.ownCommitScalar = some scalar) (helement : tmp.ownCommitElement = some element)
    (token : Option (List UInt8)) :
    sae.writeCommit elementToBin buf token =
      buf.putData (leBytes 2 sae.group ++
        (token.getD [] ++ (cryptoBignumToBin tmp.primeLen scalar ++ elementToBin element))) := by
  unfold writeCommit
  rw [htmp]
  cases token with
  | none => simp [hscalar, helement, ← Wpabuf.putData_putData]
  | some token => simp [hscalar, helement, ← Wpabuf.putData_putData]

lemma reflected_iff [DecidableEq Element] {g : SaeGroup} (hg : tmp.group = some g) {scalar : ℕ} {element : Element} :
    reflected { tmp with peerCommitElement := some element } (some scalar) = true ↔
      tmp.ownCommitScalar = some scalar ∧ tmp.ownCommitElement = some element := by
  unfold reflected
  rw [decide_eq_true_iff, SaeTmp.kind, hg]
  constructor
  · rintro ⟨-, hscalar, helement⟩
    exact ⟨hscalar, (helement rfl).2⟩
  · rintro ⟨hscalar, helement⟩
    rw [hscalar, helement]
    exact ⟨rfl, rfl, fun _ => ⟨rfl, rfl⟩⟩

/-- After the check of a group that is allowed, it is the group of the data. -/
lemma groupAllowed_group {allowedGroups : Option (List ℕ)} {group : ℕ} {allowed : SaeData Element}
    (h : sae.groupAllowed env allowedGroups group = (allowed, .success)) : allowed.group = group := by
  have hset : ∀ set : SaeData Element × Bool,
      set = (if group ≠ sae.group then setGroup env group else (sae, true)) → set.2 = true → set.1.group = group := by
    rintro set rfl hok
    split_ifs at hok ⊢ with hgroup
    · unfold setGroup at hok ⊢
      split at hok
      · cases hok
      · cases hok
      · rfl
    · exact (not_not.mp hgroup).symm
  unfold groupAllowed at h
  dsimp only at h
  have hset := hset _ rfl
  generalize (if group ≠ sae.group then setGroup env group else (sae, true)) = set at h hset
  have hne := StatusCode.finiteCyclicGroupNotSupported_ne_success
  split_ifs at h with h₁ h₂ h₃
  · exact absurd (Prod.mk.inj h).2 hne
  · exact absurd (Prod.mk.inj h).2 hne
  · exact absurd (Prod.mk.inj h).2 hne
  · have hgroup := hset (by simpa using h₃)
    split at h
    · exact absurd (Prod.mk.inj h).2 StatusCode.unspecifiedFailure_ne_success
    · split_ifs at h
      · exact absurd (Prod.mk.inj h).2 hne
      · rw [← (Prod.mk.inj h).1, hgroup]

/-- A message of an allowed group is read up to its end. -/
lemma parseCommit_message [DecidableEq Element] {allowedGroups : Option (List ℕ)} {g : SaeGroup} {group scalar : ℕ}
    {element : Element} {allowed : SaeData Element} (hgroup : group < 2 ^ 16)
    (hallowed : sae.groupAllowed env allowedGroups group = (allowed, .success)) (htmp : allowed.tmp = some tmp)
    (hg : tmp.group = some g) (hscalar : 1 < scalar ∧ scalar < g.order) (horder : g.order ≤ 256 ^ g.primeLen)
    (he : g.Encodes env elementToBin element) (hmemory : env.peerScalarFails = false)
    (hfresh : ¬(allowed.state = .accepted ∧ allowed.peerCommitScalar = some scalar)) (token : List UInt8) :
    sae.parseCommit env allowedGroups
        (leBytes 2 group ++ (token ++ (cryptoBignumToBin g.primeLen scalar ++ elementToBin element))) =
      ({ allowed with
          peerCommitScalar := some scalar
          tmp := some { tmp with peerCommitElement := some element } },
        if tmp.ownCommitScalar = some scalar ∧ tmp.ownCommitElement = some element then .silentlyDiscard else .success,
        if token = [] then none else some token) := by
  have hprimeLen : tmp.primeLen = g.primeLen := by rw [SaeTmp.primeLen, hg, Option.map_some, Option.getD_some]
  have hlength := length_cryptoBignumToBin g.primeLen scalar
  have hrest : (cryptoBignumToBin g.primeLen scalar ++ elementToBin element).length = g.commitLen := by
    rw [List.length_append, hlength, he.length, SaeGroup.commitLen]
  have htwo : (leBytes 2 group).length = 2 := length_leBytes 2 group
  have hnumber : leNat (leBytes 2 group) = group := by
    rw [leNat_leBytes, Nat.mod_eq_of_lt]
    exact hgroup
  unfold parseCommit
  rw [if_neg (by rw [List.length_append, htwo]; omega), List.take_left' htwo, List.drop_left' htwo, hnumber, hallowed]
  dsimp only
  rw [htmp]
  dsimp only
  rw [if_neg (not_not.mpr rfl), parseCommitToken_append hg token hrest]
  dsimp only
  rw [parseCommitScalar_append hg hscalar horder hmemory hfresh, hprimeLen, List.drop_left' hlength,
    parseCommitElement_encoded hg he]
  dsimp only
  rw [if_neg (not_not.mpr rfl), if_neg (not_not.mpr rfl)]
  by_cases hreflected : tmp.ownCommitScalar = some scalar ∧ tmp.ownCommitElement = some element
  · rw [if_pos ((reflected_iff hg).mpr hreflected), if_pos hreflected]
  · rw [if_neg (mt (reflected_iff hg).mp hreflected), if_neg hreflected]

/-- Whatever a peer sends as a token is stored for the next commit. -/
lemma tokenRequest_stored (p : SaeParams) (sta : SaeSta Element) {f : SaeFrame} {allowed : SaeData Element}
    {sent : SaeData Element × StatusCode} (hlen : 2 ≤ f.body.length)
    (hallowed : sae.groupAllowed env p.saeGroups (leNat (f.body.take 2)) = (allowed, .success))
    (htmp : allowed.tmp = some tmp) (hmemory : env.tokenFails = false)
    (hsent : { allowed with tmp := some { tmp with antiCloggingToken := some (f.body.drop 2) } }.sendCommit p env false =
      some sent) :
    ∃ sae', (sta.tokenRequest p env sae f).sae = some sae' ∧
      sae'.tmp = some { tmp with antiCloggingToken := some (f.body.drop 2) } := by
  obtain ⟨sae', status⟩ := sent
  have hagain := sendCommit_again hsent
  unfold SaeSta.tokenRequest
  rw [if_neg (by omega), hallowed]
  dsimp only
  rw [htmp]
  dsimp only
  rw [if_neg (not_not.mpr rfl), hmemory, if_neg Bool.false_ne_true, hsent]
  dsimp only
  split_ifs
  · exact ⟨sae', rfl, by rw [hagain]⟩
  · exact ⟨_, rfl, by rw [hagain]⟩

/-- The parser never reads outside a message, and what was written is read: the group, the token, the scalar and the
element, where an empty token is none; a commit of its own is discarded.  The commit fits into its buffer exactly if the
token is not too long for the group. -/
theorem commit_spec [DecidableEq Element] (own peer : SaeData Element) (allowedGroups : Option (List ℕ)) {g : SaeGroup}
    {tmp tmp' : SaeTmp Element} {allowed : SaeData Element} {scalar : ℕ} {element : Element} (hown : own.tmp = some tmp)
    (hgroup : own.group < 2 ^ 16) (hg : tmp.group = some g) (hownScalar : tmp.ownCommitScalar = some scalar)
    (hownElement : tmp.ownCommitElement = some element) (hscalar : 1 < scalar ∧ scalar < g.order)
    (horder : g.order ≤ 256 ^ g.primeLen) (he : g.Encodes env elementToBin element)
    (hallowed : peer.groupAllowed env allowedGroups own.group = (allowed, .success)) (htmp' : allowed.tmp = some tmp')
    (hg' : tmp'.group = some g) (hmemory : env.peerScalarFails = false)
    (hfresh : ¬(allowed.state = .accepted ∧ allowed.peerCommitScalar = some scalar)) :
    (∀ (env : SaeEnv Element) (sae : SaeData Element) (allowedGroups : Option (List ℕ)) (data : List UInt8),
      sae.parseCommitAt env allowedGroups data = some (sae.parseCommit env allowedGroups data)) ∧
    (∀ size buf, own.writeCommit elementToBin ⟨size, []⟩ tmp.antiCloggingToken = some buf →
      peer.parseCommit env allowedGroups buf.buf =
        ({ allowed with
            group := own.group
            peerCommitScalar := some scalar
            tmp := some { tmp' with peerCommitElement := some element } },
          if tmp'.ownCommitScalar = some scalar ∧ tmp'.ownCommitElement = some element then .silentlyDiscard
          else .success,
          tmp.antiCloggingToken.filter (· ≠ []))) ∧
    ((own.authBuildSaeCommit elementToBin).isSome ↔
      2 + (tmp.antiCloggingToken.getD []).length + g.commitLen ≤ saeCommitMaxLen) := by
  have hprimeLen : tmp.primeLen = g.primeLen := by rw [SaeTmp.primeLen, hg, Option.map_some, Option.getD_some]
  refine ⟨fun env sae allowedGroups data => parseCommitAt_eq allowedGroups, ?_, ?_⟩
  · intro size buf hwrite
    rw [writeCommit_eq _ hown hownScalar hownElement, hprimeLen] at hwrite
    obtain ⟨-, rfl⟩ := Wpabuf.putData_eq_some_iff.mp hwrite
    have hrecovered := parseCommit_message hgroup hallowed htmp' hg' hscalar horder he hmemory hfresh
      (tmp.antiCloggingToken.getD [])
    have htoken : (if tmp.antiCloggingToken.getD [] = [] then none else some (tmp.antiCloggingToken.getD [])) =
        tmp.antiCloggingToken.filter (· ≠ []) := by
      cases tmp.antiCloggingToken with
      | none => rfl
      | some token => cases token <;> rfl
    rw [htoken] at hrecovered
    rw [List.nil_append, hrecovered, ← groupAllowed_group hallowed]
  · rw [authBuildSaeCommit, hown, Option.bind_some, writeCommit_eq _ hown hownScalar hownElement, hprimeLen,
      Option.isSome_iff_exists]
    simp only [Wpabuf.putData_eq_some_iff, exists_and_left, exists_eq, and_true, List.length_append, List.length_nil,
      length_leBytes, length_cryptoBignumToBin, he.length, SaeGroup.commitLen]
    omega

/-! ## A curve -/

/-- The curve P-256, group 19. -/
def p256 : SaeGroup := ⟨.ecc, 32, 0xffffffff00000000ffffffffffffffffbce6faada7179e84f3b9cac2fc632551⟩

def p256Prime : ℕ := 0xffffffff00000001000000000000000000000000ffffffffffffffffffffffff

def p256B : ℕ := 0x5ac635d8aa3a93e7b3ebbd55769886bc651d06b0cc53b0f63bce3c3e27d2604b

/-- The generator. -/
def p256Generator : ℕ × ℕ :=
  (0x6b17d1f2e12c4247f8bce6e563a440f277037d812deb33a0f4a13945d898c296,
    0x4fe342e2fe1a7f9b8ee7eb4a7c0f9e162bce33576b315ececbb6406837bf51f5)

/-- `crypto_ec_point_to_bin`. -/
def p256ToBin (point : ℕ × ℕ) : List UInt8 := beBytes 32 point.1 ++ beBytes 32 point.2

/-- The conversions and the equation of the curve; no commit and no key is computed. -/
def p256Env : SaeEnv (ℕ × ℕ) where
  groupInit group := if group = 19 then .group p256 else .unsupported
  coordinatesValid data := beNat (data.take 32) < p256Prime ∧ beNat (data.drop 32) < p256Prime
  elementFromBin data := some (beNat (data.take 32), beNat (data.drop 32))
  elementValid point := point.2 ^ 2 % p256Prime = (point.1 ^ 3 + (p256Prime - 3) * point.1 + p256B) % p256Prime
  derivePwe := none
  rand _ := none
  mask _ := none
  commitElement _ _ := (p256Generator, false)
  deriveK _ _ _ _ := none
  deriveKeys _ _ := none
  cnConfirm _ _ _ _ _ _ := []

lemma p256_encodes : p256.Encodes p256Env p256ToBin p256Generator where
  length := by decide +kernel
  inverse := by decide +kernel
  coordinates := by decide +kernel
  valid := by decide +kernel

/-- The data of a mesh point that has sent its commit, with a token. -/
def p256Own (antiCloggingToken : Option (List UInt8)) : SaeData (ℕ × ℕ) where
  state := .committed
  group := 19
  tmp := some {
    group := some p256
    ownCommitScalar := some 2
    ownCommitElement := some p256Generator
    antiCloggingToken }

theorem commit_spec_p256 : ((p256Own (some [1, 2, 3])).authBuildSaeCommit p256ToBin).isSome :=
  (commit_spec (p256Own (some [1, 2, 3])) {} none rfl (by decide) rfl rfl rfl (by decide) (by decide) p256_encodes rfl rfl
    rfl rfl (by decide)).2.2.mpr (by decide)

/-- A peer asks for a token of 1441 bytes. -/
theorem commit_overflow :
    p256.Encodes p256Env p256ToBin p256Generator ∧
      (((({} : SaeSta (ℕ × ℕ)).receive { mesh := true } p256Env (p256Own none)
        ⟨1, .antiCloggingTokenReq, leBytes 2 19 ++ List.replicate 1441 0⟩).sae.map fun own =>
          (own.authBuildSaeCommit p256ToBin).isSome) = some false) :=
  ⟨p256_encodes, by decide +kernel⟩

end SaeData

end Ethanol
