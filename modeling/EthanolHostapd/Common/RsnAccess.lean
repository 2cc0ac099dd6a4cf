import EthanolHostapd.Common.WpaCommon
import EthanolHostapd.Wire.Buffer

/-!
# The accesses of the RSN parser

`wpa_parse_wpa_ie_rsn` once more, with each access to the element checked: an access behind the element has no result.
There is always a result, and it is that of the parser on the bytes of the element.
-/

namespace Ethanol

open Wire

/-! ## The code -/

/-- A parser that may fail, with checked accesses. -/
abbrev Checked (α : Type) : Type := ExceptT ℤ Option α

/-- The result of a parser without checks. -/
def Checked.of {α : Type} (x : Except ℤ α) : Checked α := ExceptT.mk (some x)

/-- The `n` bytes at `pos` and the position behind them. -/
def takeFront (n : ℕ) (pos : List UInt8) : Checked (List UInt8 × List UInt8) :=
  ExceptT.mk (if n ≤ pos.length then some (.ok (pos.take n, pos.drop n)) else none)

/-- The loop over a list of suites. -/
def readSuitesChecked (toBitfield : ℕ → ℕ) : ℕ → ℕ → List UInt8 → Checked (ℕ × List UInt8)
  | 0, bits, pos => pure (bits, pos)
  | count + 1, bits, pos => do
    let (suite, pos) ← takeFront 4 pos
    readSuitesChecked toBitfield count (bits ||| toBitfield (beNat suite)) pos

/-- A count with a list of suites. -/
def parseSuiteListChecked (toBitfield : ℕ → ℕ) (default : ℕ) (botch short : ℤ) (pos : List UInt8) :
    Checked (ℕ × List UInt8) :=
  if 2 ≤ pos.length then do
    let (count, pos) ← takeFront 2 pos
    if leNat count = 0 ∨ pos.length / 4 < leNat count then throw botch
    else readSuitesChecked toBitfield (leNat count) 0 pos
  else if pos.length = 1 then throw short
  else pure (default, pos)

/-- The capabilities, if there are any. -/
def parseCapabilitiesChecked (pos : List UInt8) : Checked (ℕ × List UInt8) :=
  if 2 ≤ pos.length then do
    let (capab, pos) ← takeFront 2 pos
    pure (leNat capab, pos)
  else pure (0, pos)

/-- The number of PMKIDs and the PMKIDs, if there are any. -/
def parsePmkidsChecked (pos : List UInt8) : Checked (ℕ × List UInt8 × List UInt8) :=
  if 2 ≤ pos.length then do
    let (numPmkid, pos) ← takeFront 2 pos
    if pos.length / pmkidLen < leNat numPmkid then throw (-9)
    else do
      let (pmkid, pos) ← takeFront (leNat numPmkid * pmkidLen) pos
      pure (leNat numPmkid, pmkid, pos)
  else pure (0, [], pos)

/-- The management group cipher, if there is one. -/
def parseMgmtGroupCipherChecked (pos : List UInt8) : Checked ℕ :=
  if 4 ≤ pos.length then do
    let (suite, _) ← takeFront 4 pos
    if wpaCipherValidMgmtGroup (rsnSelectorToBitfield (beNat suite)) then pure (rsnSelectorToBitfield (beNat suite))
    else throw (-10)
  else pure wpaCipherAes128Cmac

/-- The group cipher, if there is one. -/
def parseRsnGroupChecked (pos : List UInt8) : Checked (ℕ × List UInt8) :=
  if 4 ≤ pos.length then do
    let (suite, pos) ← takeFront 4 pos
    if wpaCipherValidGroup (rsnSelectorToBitfield (beNat suite)) then pure (rsnSelectorToBitfield (beNat suite), pos)
    else throw (-1)
  else if 0 < pos.length then throw (-3)
  else pure (wpaCipherCcmp, pos)

/-- The test for an OSEN element.  The vendor type is only read if the element is long enough. -/
def isOsenChecked (rsnIe : List UInt8) (len : ℕ) : Checked Bool :=
  if 6 ≤ rsnIe.length ∧ 4 ≤ len ∧ len = rsnIe.length - 2 then do
    let (type, _) ← takeFront 4 (rsnIe.drop 2)
    pure (decide (beNat type = osenIeVendorType))
  else pure false

/-- The header. -/
def parseRsnHeaderChecked (rsnIe : List UInt8) : Checked (ℕ × List UInt8) := do
  let (hdr, pos) ← takeFront 2 rsnIe
  let len := (hdr.getD 1 0).toNat
  let osen ← isOsenChecked rsnIe len
  if osen then pure (wpaProtoOsen, rsnIe.drop 6)
  else if hdr.getD 0 0 ≠ wlanEidRsn ∨ len ≠ rsnIe.length - 2 then throw (-2)
  else do
    let (version, pos) ← takeFront 2 pos
    if leNat version ≠ 1 then throw (-2) else pure (wpaProtoRsn, pos)

/-- What stands between the header and the capabilities. -/
def parseRsnSuitesChecked (build : RsnBuild) (pos : List UInt8) : Checked (ℕ × ℕ × ℕ × List UInt8) := do
  let (groupCipher, pos) ← parseRsnGroupChecked pos
  let (pairwiseCipher, pos) ← parseSuiteListChecked rsnSelectorToBitfield wpaCipherCcmp (-4) (-5) pos
  if pairwiseCipher &&& wpaCipherAes128Cmac ≠ 0 then throw (-1)
  else do
    let (keyMgmt, pos) ← parseSuiteListChecked (rsnKeyMgmtToBitfield build) wpaKeyMgmtIeee8021x (-6) (-7) pos
    pure (groupCipher, pairwiseCipher, keyMgmt, pos)

/-- The last three blocks. -/
def parseRsnTailChecked (pos : List UInt8) : Checked RsnTail := do
  let (capabilities, pos) ← parseCapabilitiesChecked pos
  let (numPmkid, pmkid, pos) ← parsePmkidsChecked pos
  let mgmtGroupCipher ← parseMgmtGroupCipherChecked pos
  pure { capabilities, numPmkid, pmkid, mgmtGroupCipher }

/-- `wpa_parse_wpa_ie_rsn` with checked accesses. -/
def wpaParseWpaIeRsnChecked (build : RsnBuild) (rsnIe : List UInt8) : Checked WpaIeData :=
  if rsnIe.length < 4 then throw (-1)
  else do
    let (proto, pos) ← parseRsnHeaderChecked rsnIe
    let (groupCipher, pairwiseCipher, keyMgmt, pos) ← parseRsnSuitesChecked build pos
    let tail ← parseRsnTailChecked pos
    pure {
      proto, groupCipher, pairwiseCipher, keyMgmt, capabilities := tail.capabilities, numPmkid := tail.numPmkid,
      pmkid := tail.pmkid, mgmtGroupCipher := tail.mgmtGroupCipher }

/-! ## There is always a result -/

section Access

variable {α β : Type} {pos : List UInt8} {n : ℕ}

lemma checked_pure (a : α) : (pure a : Checked α) = Checked.of (.ok a) := rfl

lemma checked_throw (e : ℤ) : (throw e : Checked α) = Checked.of (.error e) := rfl

lemma checked_bind (x : Except ℤ α) (f : α → Checked β) :
    (Checked.of x >>= f) = match x with
      | .error e => Checked.of (.error e)
      | .ok a => f a := by
  cases x <;> rfl

/-- Parsers without access errors one after the other. -/
lemma checked_bind_of {x : Except ℤ α} {f : α → Checked β} {g : α → Except ℤ β}
    (h : ∀ a, f a = Checked.of (g a)) : (Checked.of x >>= f) = Checked.of (x >>= g) := by
  cases x with
  | error e => rfl
  | ok a => exact h a

lemma takeFront_of_le (h : n ≤ pos.length) : takeFront n pos = Checked.of (.ok (pos.take n, pos.drop n)) := by
  rw [takeFront, if_pos h]
  rfl

lemma readSuitesChecked_eq (toBitfield : ℕ → ℕ) (count bits : ℕ) (h : count * 4 ≤ pos.length) :
    readSuitesChecked toBitfield count bits pos = Checked.of (.ok (readSuites toBitfield count bits pos)) := by
  induction count generalizing bits pos with
  | zero => rfl
  | succ count ih =>
    have hfour : 4 ≤ pos.length := by omega
    have hrest : count * 4 ≤ (pos.drop 4).length := by
      rw [List.length_drop]
      omega
    rw [readSuitesChecked, takeFront_of_le hfour, checked_bind]
    exact ih _ hrest

lemma parseSuiteListChecked_eq (toBitfield : ℕ → ℕ) (default : ℕ) (botch short : ℤ) (pos : List UInt8) :
    parseSuiteListChecked toBitfield default botch short pos =
      Checked.of (parseSuiteList toBitfield default botch short pos) := by
  rw [parseSuiteListChecked, parseSuiteList]
  split
  · next htwo =>
    rw [takeFront_of_le htwo, checked_bind]
    dsimp only
    split
    · rfl
    · next hcount =>
      apply readSuitesChecked_eq
      have hdiv := Nat.div_mul_le_self (pos.drop 2).length 4
      have hle : leNat (pos.take 2) * 4 ≤ (pos.drop 2).length / 4 * 4 := Nat.mul_le_mul_right 4 (by omega)
      exact hle.trans hdiv
  · split <;> rfl

lemma parseCapabilitiesChecked_eq (pos : List UInt8) :
    parseCapabilitiesChecked pos = Checked.of (.ok (parseCapabilities pos)) := by
  rw [parseCapabilitiesChecked, parseCapabilities]
  split
  · next htwo =>
    rw [takeFront_of_le htwo, checked_bind]
    rfl
  · rfl

lemma parsePmkidsChecked_eq (pos : List UInt8) : parsePmkidsChecked pos = Checked.of (parsePmkids pos) := by
  rw [parsePmkidsChecked, parsePmkids]
  split
  · next htwo =>
    rw [takeFront_of_le htwo, checked_bind]
    dsimp only
    split
    · rfl
    · next hcount =>
      have hdiv := Nat.div_mul_le_self (pos.drop 2).length pmkidLen
      have hle : leNat (pos.take 2) * pmkidLen ≤ (pos.drop 2).length / pmkidLen * pmkidLen :=
        Nat.mul_le_mul_right pmkidLen (Nat.le_of_not_lt hcount)
      rw [takeFront_of_le (hle.trans hdiv), checked_bind]
      rfl
  · rfl

lemma parseMgmtGroupCipherChecked_eq (pos : List UInt8) :
    parseMgmtGroupCipherChecked pos = Checked.of (parseMgmtGroupCipher pos) := by
  rw [parseMgmtGroupCipherChecked, parseMgmtGroupCipher]
  split
  · next hfour =>
    rw [takeFront_of_le hfour, checked_bind]
    dsimp only
    split <;> rfl
  · rfl

lemma parseRsnGroupChecked_eq (pos : List UInt8) : parseRsnGroupChecked pos = Checked.of (parseRsnGroup pos) := by
  rw [parseRsnGroupChecked, parseRsnGroup]
  split
  · next hfour =>
    rw [takeFront_of_le hfour, checked_bind]
    dsimp only
    split <;> rfl
  · split <;> rfl

lemma isOsenChecked_eq (rsnIe : List UInt8) (len : ℕ) :
    isOsenChecked rsnIe len = Checked.of (.ok (decide (6 ≤ rsnIe.length ∧ 4 ≤ len ∧ len = rsnIe.length - 2 ∧
      beNat ((rsnIe.drop 2).take 4) = osenIeVendorType))) := by
  rw [isOsenChecked]
  split
  · next hlong =>
    have hfour : 4 ≤ (rsnIe.drop 2).length := by
      rw [List.length_drop]
      omega
    rw [takeFront_of_le hfour, checked_bind]
    simp only [checked_pure, hlong.1, hlong.2.1, ← hlong.2.2, true_and]
  · next hlong =>
    rw [checked_pure, decide_eq_false fun hand => hlong ⟨hand.1, hand.2.1, hand.2.2.1⟩]

lemma parseRsnHeaderChecked_eq {rsnIe : List UInt8} (h : 4 ≤ rsnIe.length) :
    parseRsnHeaderChecked rsnIe = Checked.of (parseRsnHeader rsnIe) := by
  have hget (i : ℕ) (hi : i < 2) : (rsnIe.take 2).getD i 0 = rsnIe.getD i 0 := by
    rw [List.getD_eq_getElem?_getD, List.getD_eq_getElem?_getD, List.getElem?_take_of_lt hi]
  have hversion : takeFront 2 (rsnIe.drop 2) =
      Checked.of (.ok ((rsnIe.drop 2).take 2, (rsnIe.drop 2).drop 2)) := by
    apply takeFront_of_le
    rw [List.length_drop]
    omega
  rw [parseRsnHeaderChecked, parseRsnHeader, takeFront_of_le (by omega), checked_bind]
  dsimp only
  rw [hget 0 (by omega), hget 1 (by omega), hversion, List.drop_drop, isOsenChecked_eq, checked_bind, checked_bind]
  dsimp only
  split
  · next hosen =>
    rw [if_pos (of_decide_eq_true hosen)]
    rfl
  · next hosen =>
    rw [if_neg (fun hand => hosen (decide_eq_true hand))]
    by_cases hbad : rsnIe.getD 0 0 ≠ wlanEidRsn ∨ (rsnIe.getD 1 0).toNat ≠ rsnIe.length - 2
    · rw [if_pos hbad, if_pos (hbad.imp_right Or.inl), checked_throw]
    · obtain ⟨hid, hlen⟩ := not_or.mp hbad
      rw [if_neg hbad]
      by_cases hone : leNat ((rsnIe.drop 2).take 2) = 1
      · rw [if_neg (not_not.mpr hone), if_neg (not_or.mpr ⟨hid, not_or.mpr ⟨hlen, not_not.mpr hone⟩⟩), checked_pure]
      · rw [if_pos hone, if_pos (Or.inr (Or.inr hone)), checked_throw]

lemma parseRsnSuitesChecked_eq (build : RsnBuild) (pos : List UInt8) :
    parseRsnSuitesChecked build pos = Checked.of (parseRsnSuites build pos) := by
  rw [parseRsnSuitesChecked, parseRsnSuites, parseRsnGroupChecked_eq]
  refine checked_bind_of fun group => ?_
  dsimp only
  rw [parseSuiteListChecked_eq]
  refine checked_bind_of fun pairwise => ?_
  split
  · rfl
  · rw [parseSuiteListChecked_eq]
    exact checked_bind_of fun keyMgmt => rfl

lemma parseRsnTailChecked_eq (pos : List UInt8) : parseRsnTailChecked pos = Checked.of (parseRsnTail pos) := by
  rw [parseRsnTailChecked, parseRsnTail, parseCapabilitiesChecked_eq, checked_bind]
  dsimp only
  rw [parsePmkidsChecked_eq]
  refine checked_bind_of fun pmkids => ?_
  rw [parseMgmtGroupCipherChecked_eq]
  exact checked_bind_of fun cipher => rfl

/-- The parser does not read behind the element. -/
theorem wpaParseWpaIeRsnChecked_eq (build : RsnBuild) (rsnIe : List UInt8) :
    wpaParseWpaIeRsnChecked build rsnIe = Checked.of (wpaParseWpaIeRsn build rsnIe) := by
  rw [wpaParseWpaIeRsnChecked, wpaParseWpaIeRsn]
  split
  · rfl
  · next hshort =>
    rw [parseRsnHeaderChecked_eq (Nat.le_of_not_lt hshort)]
    refine checked_bind_of fun header => ?_
    dsimp only
    rw [parseRsnSuitesChecked_eq]
    refine checked_bind_of fun suites => ?_
    rw [parseRsnTailChecked_eq]
    exact checked_bind_of fun tail => rfl

end Access

end Ethanol
