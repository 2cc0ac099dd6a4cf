import EthanolHostapd.Ap.WpaAuthIe
import EthanolHostapd.Common.Ieee80211Common
import EthanolHostapd.Wire.Buffer

/-!
# Insertion of a PMKID

`wpa_insert_pmkid` of `wpa_common.c`, which makes the PMKID list of the RSN element in a string of elements consist of
one PMKID.  It works in place, and the string may grow into the rest of its buffer.

When there are PMKIDs in the element already, only what is left of the element is moved over them, and not what follows
the element; the correction of the length is then as if all of it had been moved.
-/

namespace Ethanol

open Wire

/-! ## The code -/

/-- The search for the RSN element. -/
def findRsn (buf : List UInt8) (iesLen start : ℕ) : Option ℕ :=
  if start < iesLen then
    if buf.getD start 0 = wlanEidRsn then some start
    else findRsn buf iesLen (start + 2 + (buf.getD (start + 1) 0).toNat)
  else none
termination_by iesLen - start

/-- `WPA_GET_LE16`. -/
def getLe16 (buf : List UInt8) (pos : ℕ) : Option ℕ := (Buffer.read buf pos 2).map leNat

/-- The string after an addition to the length byte of the element. -/
def addLength (buf : List UInt8) (start : ℕ) (added : UInt8) : Option (List UInt8) :=
  Buffer.write buf (start + 1) [buf.getD (start + 1) 0 + added]

/-- No PMKID count is there: it is put at `rpos` with the PMKID.  The string ends at `stop`. -/
def putPmkid (buf : List UInt8) (start rpos stop : ℕ) (pmkid : Pmkid) : Option (List UInt8 × ℕ) := do
  let buf ← Buffer.move buf (rpos + 2 + pmkidLen) rpos (stop - rpos)
  let buf ← Buffer.write buf rpos (leBytes 2 1 ++ pmkid.bytes)
  let buf ← addLength buf start (2 + 16)
  pure (buf, stop + (2 + pmkidLen))

/-- The old PMKIDs behind the count at `rpos` are removed; the element ends at `rend`. -/
def removePmkids (buf : List UInt8) (start rpos rend numPmkid : ℕ) : Option (List UInt8) := do
  let after := rpos + 2 + numPmkid * pmkidLen
  let buf ← Buffer.move buf (rpos + 2) after (rend - after)
  addLength buf start (-(UInt8.ofNat (numPmkid * pmkidLen)))

/-- The count at `rpos` is set to one, and the PMKID is put behind it. -/
def replaceCount (buf : List UInt8) (start rpos stop : ℕ) (pmkid : Pmkid) : Option (List UInt8 × ℕ) := do
  let buf ← Buffer.write buf rpos (leBytes 2 1)
  let buf ← Buffer.move buf (rpos + 2 + pmkidLen) (rpos + 2) (stop - (rpos + 2))
  let buf ← Buffer.write buf (rpos + 2) pmkid.bytes
  let buf ← addLength buf start 16
  pure (buf, stop + pmkidLen)

/-- What `wpa_insert_pmkid` does behind the key management suites, at `rpos`; the element ends at `rend`. -/
def insertAt (buf : List UInt8) (iesLen start rpos rend : ℕ) (pmkid : Pmkid) : Option (Option (List UInt8 × ℕ)) :=
  if rpos = rend then do
    let buf ← Buffer.move buf (rpos + 2) rpos (iesLen - rpos)
    let buf ← Buffer.write buf rpos [0, 0]
    let buf ← addLength buf start 2
    some <$> putPmkid buf start (rpos + 2) (iesLen + 2) pmkid
  else if rend < rpos + 2 then some none
  else
    let rpos := rpos + 2
    if rpos = rend then some <$> putPmkid buf start rpos iesLen pmkid
    else if rend - rpos < 2 then some none
    else do
      let numPmkid ← getLe16 buf rpos
      if numPmkid = 0 then some <$> replaceCount buf start rpos iesLen pmkid
      else if rend - rpos - 2 < numPmkid * pmkidLen then some none
      else
        let buf ← removePmkids buf start rpos rend numPmkid
        some <$> replaceCount buf start rpos (iesLen - numPmkid * pmkidLen) pmkid

/-- `wpa_insert_pmkid`: the buffer and the new length, or `none` for a negative result.  The outer option is an access
outside the buffer. -/
def wpaInsertPmkid (buf : List UInt8) (iesLen : ℕ) (pmkid : Pmkid) : Option (Option (List UInt8 × ℕ)) :=
  match findRsn buf iesLen 0 with
  | none => some none
  | some start => do
    let rend := start + 2 + (buf.getD (start + 1) 0).toNat
    let rpos := start + 2 + (2 + 4)
    let rpos := rpos + 2 + (← getLe16 buf rpos) * 4
    let rpos := rpos + 2 + (← getLe16 buf rpos) * 4
    insertAt buf iesLen start rpos rend pmkid

/-! ## The buffer during the insertion -/

/-- A buffer with an RSN element behind `front`, with a length byte and everything from the body on. -/
def rsnAt (front : List UInt8) (len : UInt8) (body : List UInt8) : List UInt8 := front ++ (wlanEidRsn :: len :: body)

section Steps

variable {front body before others room : List UInt8} {len added : UInt8} {start rpos stop : ℕ} {pmkid : Pmkid}

lemma rsnAt_append (front : List UInt8) (len : UInt8) (before rest : List UInt8) :
    rsnAt front len (before ++ rest) = rsnAt front len before ++ rest := by
  simp [rsnAt]

lemma length_rsnAt (front : List UInt8) (len : UInt8) (body : List UInt8) :
    (rsnAt front len body).length = front.length + 2 + body.length := by
  rw [rsnAt, List.length_append, List.length_cons, List.length_cons]
  omega

lemma getD_rsnAt (hstart : start = front.length) :
    (rsnAt front len body).getD start 0 = wlanEidRsn ∧ (rsnAt front len body).getD (start + 1) 0 = len := by
  subst hstart
  have hid : (rsnAt front len body)[front.length]? = some wlanEidRsn := by
    rw [rsnAt, List.getElem?_append_right le_rfl, Nat.sub_self]
    rfl
  have hlen : (rsnAt front len body)[front.length + 1]? = some len := by
    rw [rsnAt, List.getElem?_append_right (Nat.le_succ _), Nat.succ_eq_add_one, Nat.add_sub_cancel_left]
    rfl
  rw [List.getD_eq_getElem?_getD, List.getD_eq_getElem?_getD, hid, hlen]
  exact ⟨rfl, rfl⟩

/-- The length byte is where it is. -/
lemma addLength_rsnAt (hstart : start = front.length) :
    addLength (rsnAt front len body) start added = some (rsnAt front (len + added) body) := by
  have hsplit (len : UInt8) : rsnAt front len body = (front ++ [wlanEidRsn]) ++ ([len] ++ body) := by simp [rsnAt]
  have hoff : start + 1 = (front ++ [wlanEidRsn]).length := by rw [List.length_append, hstart, List.length_singleton]
  have hdata : [len + added].length = [len].length := rfl
  rw [addLength, (getD_rsnAt hstart).2, hsplit, Buffer.write_block hoff hdata, hsplit]

lemma getLe16_rsnAt {n : ℕ} (hrpos : rpos = front.length + 2 + before.length) (hn : n < 2 ^ 16) :
    getLe16 (rsnAt front len (before ++ (leBytes 2 n ++ room))) rpos = some n := by
  rw [getLe16, rsnAt_append, Buffer.read_block (by rw [length_rsnAt, hrpos]) (length_leBytes 2 n).symm, Option.map_some,
    leNat_count hn]

/-- A count of one and the PMKID are put in front of what follows the element. -/
lemma putPmkid_rsnAt (hstart : start = front.length) (hrpos : rpos = front.length + 2 + before.length)
    (hstop : stop = rpos + others.length) (hroom : 18 ≤ room.length) :
    putPmkid (rsnAt front len (before ++ (others ++ room))) start rpos stop pmkid =
      some (rsnAt front (len + 18) (before ++ (leBytes 2 1 ++ pmkid.bytes ++ (others ++ room.drop 18))), stop + 18) := by
  have hlength := length_rsnAt front len before
  have hdata : (leBytes 2 1 ++ pmkid.bytes).length = 2 + pmkidLen := by
    rw [List.length_append, pmkid.length_bytes, length_leBytes]
  have hoff : rpos = (rsnAt front len before).length := by omega
  have hdst : rpos + 2 + pmkidLen = (rsnAt front len before).length + (2 + pmkidLen) := by omega
  have hn : stop - rpos = others.length := by omega
  have hinsert := Buffer.move_right_write hoff hdst hn hdata (show 2 + pmkidLen ≤ room.length from hroom)
  rw [rsnAt_append, putPmkid]
  simp only [bind] at hinsert ⊢
  rw [← Option.bind_assoc, hinsert, Option.bind_some, ← rsnAt_append, addLength_rsnAt hstart, Option.bind_some]
  rfl

/-- The count is set to one and the PMKID is put behind it. -/
lemma replaceCount_rsnAt {n : ℕ} (hstart : start = front.length) (hrpos : rpos = front.length + 2 + before.length)
    (hstop : stop = rpos + 2 + others.length) (hroom : 16 ≤ room.length) :
    replaceCount (rsnAt front len (before ++ (leBytes 2 n ++ (others ++ room)))) start rpos stop pmkid =
      some (rsnAt front (len + 16) (before ++ (leBytes 2 1 ++ (pmkid.bytes ++ (others ++ room.drop 16)))),
        stop + 16) := by
  have hlength := length_rsnAt front len before
  have hoff : rpos = (rsnAt front len before).length := by omega
  have hcount : (leBytes 2 1).length = (leBytes 2 n).length := by rw [length_leBytes, length_leBytes]
  have hbehind : rpos + 2 = (rsnAt front len (before ++ leBytes 2 1)).length := by
    rw [length_rsnAt, List.length_append, length_leBytes]
    omega
  have hdst : rpos + 2 + pmkidLen = (rsnAt front len (before ++ leBytes 2 1)).length + pmkidLen := by omega
  have hn : stop - (rpos + 2) = others.length := by omega
  have hinsert := Buffer.move_right_write hbehind hdst hn pmkid.length_bytes
    (show pmkidLen ≤ room.length from hroom)
  rw [rsnAt_append, replaceCount]
  simp only [bind] at hinsert ⊢
  rw [Buffer.write_block hoff hcount, Option.bind_some, ← rsnAt_append, ← List.append_assoc, rsnAt_append,
    ← Option.bind_assoc, hinsert, Option.bind_some, ← rsnAt_append, addLength_rsnAt hstart, Option.bind_some,
    List.append_assoc]
  rfl

/-- What is left of the element behind the old PMKIDs is moved over them; what follows the element stays where it
is. -/
lemma removePmkids_rsnAt {n rend : ℕ} {gone left : List UInt8} (hstart : start = front.length)
    (hrpos : rpos = front.length + 2 + before.length) (hgone : gone.length = n * pmkidLen)
    (hrend : rend = rpos + 2 + gone.length + left.length) :
    removePmkids (rsnAt front len (before ++ (leBytes 2 n ++ (gone ++ (left ++ room))))) start rpos rend n =
      some (rsnAt front (len + -(UInt8.ofNat (n * pmkidLen)))
        (before ++ (leBytes 2 n ++ (left ++ (gone ++ (left ++ room)).drop left.length)))) := by
  have hdst : rpos + 2 = (rsnAt front len (before ++ leBytes 2 n)).length := by
    rw [length_rsnAt, List.length_append, length_leBytes]
    omega
  have hsrc : rpos + 2 + n * pmkidLen = (rsnAt front len (before ++ leBytes 2 n)).length + gone.length := by omega
  have hn : rend - (rpos + 2 + n * pmkidLen) = left.length := by omega
  have hmove : Buffer.move (rsnAt front len (before ++ leBytes 2 n) ++ (gone ++ (left ++ room))) (rpos + 2)
      (rpos + 2 + n * pmkidLen) (rend - (rpos + 2 + n * pmkidLen)) = some (rsnAt front len (before ++ leBytes 2 n) ++
        (left ++ (gone ++ (left ++ room)).drop left.length)) := Buffer.move_left hdst hsrc hn
  rw [← List.append_assoc, rsnAt_append, removePmkids]
  simp only [bind]
  rw [hmove, Option.bind_some, ← rsnAt_append, addLength_rsnAt hstart, List.append_assoc]

end Steps

/-! ## The size of the buffer -/

section Length

variable {buf buf' : List UInt8} {start rpos rend stop iesLen iesLen' n : ℕ} {pmkid : Pmkid} {added : UInt8}

lemma length_of_addLength (h : addLength buf start added = some buf') : buf'.length = buf.length :=
  Buffer.length_of_write h

lemma length_of_putPmkid (h : putPmkid buf start rpos stop pmkid = some (buf', iesLen')) :
    buf'.length = buf.length := by
  obtain ⟨moved, hmove, h⟩ := Option.bind_eq_some_iff.mp h
  obtain ⟨written, hwrite, h⟩ := Option.bind_eq_some_iff.mp h
  obtain ⟨added, hadd, h⟩ := Option.bind_eq_some_iff.mp h
  obtain ⟨rfl, -⟩ := Prod.mk.inj (Option.some.inj h)
  rw [length_of_addLength hadd, Buffer.length_of_write hwrite, Buffer.length_of_move hmove]

lemma length_of_removePmkids (h : removePmkids buf start rpos rend n = some buf') : buf'.length = buf.length := by
  obtain ⟨moved, hmove, hadd⟩ := Option.bind_eq_some_iff.mp h
  rw [length_of_addLength hadd, Buffer.length_of_move hmove]

lemma length_of_replaceCount (h : replaceCount buf start rpos stop pmkid = some (buf', iesLen')) :
    buf'.length = buf.length := by
  obtain ⟨counted, hcount, h⟩ := Option.bind_eq_some_iff.mp h
  obtain ⟨moved, hmove, h⟩ := Option.bind_eq_some_iff.mp h
  obtain ⟨written, hwrite, h⟩ := Option.bind_eq_some_iff.mp h
  obtain ⟨added, hadd, h⟩ := Option.bind_eq_some_iff.mp h
  obtain ⟨rfl, -⟩ := Prod.mk.inj (Option.some.inj h)
  rw [length_of_addLength hadd, Buffer.length_of_write hwrite, Buffer.length_of_move hmove,
    Buffer.length_of_write hcount]

lemma length_of_insertAt (h : insertAt buf iesLen start rpos rend pmkid = some (some (buf', iesLen'))) :
    buf'.length = buf.length := by
  unfold insertAt at h
  dsimp only at h
  split_ifs at h
  · obtain ⟨moved, hmove, h⟩ := Option.bind_eq_some_iff.mp h
    obtain ⟨written, hwrite, h⟩ := Option.bind_eq_some_iff.mp h
    obtain ⟨added, hadd, h⟩ := Option.bind_eq_some_iff.mp h
    obtain ⟨result, hput, heq⟩ := Option.map_eq_some_iff.mp h
    obtain rfl := Option.some.inj heq
    rw [length_of_putPmkid hput, length_of_addLength hadd, Buffer.length_of_write hwrite, Buffer.length_of_move hmove]
  · cases h
  · obtain ⟨result, hput, heq⟩ := Option.map_eq_some_iff.mp h
    obtain rfl := Option.some.inj heq
    exact length_of_putPmkid hput
  · cases h
  · obtain ⟨numPmkid, -, h⟩ := Option.bind_eq_some_iff.mp h
    split_ifs at h
    · obtain ⟨result, hreplace, heq⟩ := Option.map_eq_some_iff.mp h
      obtain rfl := Option.some.inj heq
      exact length_of_replaceCount hreplace
    · cases h
    · obtain ⟨removed, hremove, h⟩ := Option.bind_eq_some_iff.mp h
      obtain ⟨result, hreplace, heq⟩ := Option.map_eq_some_iff.mp h
      obtain rfl := Option.some.inj heq
      rw [length_of_replaceCount hreplace, length_of_removePmkids hremove]

/-- The insertion does not change the size of the buffer. -/
lemma length_of_wpaInsertPmkid (h : wpaInsertPmkid buf iesLen pmkid = some (some (buf', iesLen'))) :
    buf'.length = buf.length := by
  unfold wpaInsertPmkid at h
  split at h
  · cases h
  · obtain ⟨pairwise, -, h⟩ := Option.bind_eq_some_iff.mp h
    obtain ⟨akm, -, h⟩ := Option.bind_eq_some_iff.mp h
    exact length_of_insertAt h

end Length

/-! ## The RSN element before the call -/

/-- The group suite and the lists of pairwise and key management suites of an element. -/
structure RsnSuites where
  group : UInt32
  pairwise : List UInt32
  akm : List UInt32

/-- The element's body up to the key management suites. -/
def RsnSuites.bytes (suites : RsnSuites) : List UInt8 :=
  leBytes 2 1 ++ (beBytes 4 suites.group.toNat ++ (leBytes 2 suites.pairwise.length ++
    (suiteBytes (suites.pairwise.map UInt32.toNat) ++
      (leBytes 2 suites.akm.length ++ suiteBytes (suites.akm.map UInt32.toNat)))))

/-- The number of PMKIDs in what follows the suites. -/
def oldPmkids (tail : List UInt8) : ℕ := if 4 ≤ tail.length then leNat ((tail.drop 2).take 2) else 0

/-- The element's body with the PMKID, if the capabilities are `capab` and `more` follows the PMKIDs. -/
def newBody (suites : RsnSuites) (capab more : List UInt8) (pmkid : Pmkid) : List UInt8 :=
  suites.bytes ++ (capab ++ (leBytes 2 1 ++ (pmkid.bytes ++ more)))

/-- The bytes that are taken for what follows the RSN element. -/
def followers (tail more others : List UInt8) : List UInt8 :=
  if oldPmkids tail = 0 then others else ((tail.drop 4 ++ others).drop more.length).take others.length

/-- The string and its length after an insertion. -/
def afterInsert (front : List UInt8) (suites : RsnSuites) (capab more : List UInt8) (pmkid : Pmkid)
    (others room : List UInt8) : List UInt8 × ℕ :=
  (rsnAt front (UInt8.ofNat (newBody suites capab more pmkid).length)
      (newBody suites capab more pmkid ++ (others ++ room)),
    front.length + 2 + (newBody suites capab more pmkid).length + others.length)

lemma length_newBody (suites : RsnSuites) (capab more : List UInt8) (pmkid : Pmkid) :
    (newBody suites capab more pmkid).length = suites.bytes.length + capab.length + 18 + more.length := by
  simp only [newBody, List.length_append, length_leBytes, pmkid.length_bytes, pmkidLen]
  omega

lemma length_suites (suites : RsnSuites) :
    suites.bytes.length = 10 + 4 * suites.pairwise.length + 4 * suites.akm.length := by
  simp only [RsnSuites.bytes, List.length_append, length_leBytes, length_beBytes, length_suiteBytes, List.length_map]
  omega

/-- What follows the suites is nothing, too short, only the capabilities, or a number of PMKIDs and what follows it. -/
lemma tail_cases (tail : List UInt8) :
    tail = [] ∨ tail.length = 1 ∨ tail.length = 2 ∨ tail.length = 3 ∨
      ∃ capab n rest, capab.length = 2 ∧ n < 2 ^ 16 ∧ tail = capab ++ (leBytes 2 n ++ rest) := by
  match tail with
  | [] => exact Or.inl rfl
  | [_] => exact Or.inr (Or.inl rfl)
  | [_, _] => exact Or.inr (Or.inr (Or.inl rfl))
  | [_, _, _] => exact Or.inr (Or.inr (Or.inr (Or.inl rfl)))
  | a :: b :: c :: d :: rest =>
    have hlt := leNat_lt [c, d]
    have hcount := leBytes_leNat [c, d]
    rw [List.length_cons, List.length_singleton] at hlt hcount
    refine Or.inr (Or.inr (Or.inr (Or.inr ⟨[a, b], leNat [c, d], rest, rfl, hlt.trans_eq (by norm_num), ?_⟩)))
    rw [hcount]
    rfl

/-- The capabilities and what follows the PMKIDs, where there may be no capabilities or no number of PMKIDs. -/
inductive Splits : List UInt8 → List UInt8 → List UInt8 → Prop
  | nothing : Splits [] (leBytes 2 0) []
  | capabilities {capab} (hcapab : capab.length = 2) : Splits capab capab []
  | counted {capab gone more n} (hcapab : capab.length = 2) (hn : n < 2 ^ 16) (hgone : gone.length = n * pmkidLen) :
    Splits (capab ++ (leBytes 2 n ++ (gone ++ more))) capab more

lemma oldPmkids_count {capab rest : List UInt8} {n : ℕ} (hcapab : capab.length = 2) (hn : n < 2 ^ 16) :
    oldPmkids (capab ++ (leBytes 2 n ++ rest)) = n := by
  rw [oldPmkids, if_pos, List.drop_left' hcapab, List.take_left' (length_leBytes 2 n), leNat_count hn]
  rw [List.length_append, List.length_append, length_leBytes]
  omega

lemma length_followers {tail capab more : List UInt8} (hsplits : Splits tail capab more) (others : List UInt8) :
    (followers tail more others).length = others.length := by
  rw [followers]
  split
  · rfl
  · next hold =>
    rw [List.length_take, List.length_drop, List.length_append, List.length_drop]
    cases hsplits with
    | nothing => exact absurd rfl hold
    | capabilities hcapab => exact absurd (by rw [oldPmkids, if_neg (by omega)]) hold
    | counted hcapab hn hgone =>
      simp only [List.length_append, length_leBytes, hcapab]
      omega

section Parse

variable {build : RsnBuild} {suites : RsnSuites} {tail : List UInt8}

lemma mem_toNat_lt {l : List UInt32} : ∀ s ∈ l.map UInt32.toNat, s < 2 ^ 32 := by
  intro s hs
  obtain ⟨t, -, rfl⟩ := List.mem_map.mp hs
  exact t.toNat_lt

/-- A list of suites is read in the same way whatever follows it. -/
lemma parseSuiteList_suites {l : List UInt32} (hl : l.length < 2 ^ 16) (toBitfield : ℕ → ℕ) (default : ℕ)
    (botch short : ℤ) :
    ∃ r : Except ℤ ℕ, ∀ rest, parseSuiteList toBitfield default botch short
      (leBytes 2 l.length ++ (suiteBytes (l.map UInt32.toNat) ++ rest)) = r.map fun bits => (bits, rest) := by
  have hread (rest : List UInt8) : readSuites toBitfield (l.map UInt32.toNat).length 0
      (suiteBytes (l.map UInt32.toNat) ++ rest) =
        ((l.map UInt32.toNat).foldl (fun bits s => bits ||| toBitfield s) 0, rest) :=
    readSuites_suiteBytes mem_toNat_lt 0 rest
  rcases Nat.eq_zero_or_pos l.length with hzero | hpos
  · refine ⟨.error botch, fun rest => ?_⟩
    rw [parseSuiteList, if_pos (by simp)]
    dsimp only
    rw [List.take_left' (length_leBytes 2 _), leNat_count hl, if_pos (Or.inl hzero)]
    rfl
  · refine ⟨.ok ((l.map UInt32.toNat).foldl (fun bits s => bits ||| toBitfield s) 0), fun rest => ?_⟩
    rw [List.length_map] at hread
    rw [parseSuiteList, if_pos (by simp)]
    dsimp only
    rw [List.take_left' (length_leBytes 2 _), List.drop_left' (length_leBytes 2 _), leNat_count hl, if_neg, hread]
    · rfl
    · rw [List.length_append, length_suiteBytes, List.length_map]
      omega

/-- The suites are read in the same way whatever follows them. -/
lemma parseRsnSuites_suites (build : RsnBuild) (hpairwise : suites.pairwise.length < 2 ^ 16)
    (hakm : suites.akm.length < 2 ^ 16) :
    ∃ r : Except ℤ (ℕ × ℕ × ℕ), ∀ rest, parseRsnSuites build (suites.bytes.drop 2 ++ rest) =
      r.map fun c => (c.1, c.2.1, c.2.2, rest) := by
  obtain ⟨pairwise, hparsePairwise⟩ := parseSuiteList_suites hpairwise rsnSelectorToBitfield wpaCipherCcmp (-4) (-5)
  obtain ⟨akm, hparseAkm⟩ :=
    parseSuiteList_suites hakm (rsnKeyMgmtToBitfield build) wpaKeyMgmtIeee8021x (-6) (-7)
  have hbytes (rest : List UInt8) : suites.bytes.drop 2 ++ rest =
      beBytes 4 suites.group.toNat ++ (leBytes 2 suites.pairwise.length ++
        (suiteBytes (suites.pairwise.map UInt32.toNat) ++ (leBytes 2 suites.akm.length ++
          (suiteBytes (suites.akm.map UInt32.toNat) ++ rest)))) := by
    rw [RsnSuites.bytes, List.drop_left' (length_leBytes 2 1)]
    simp only [List.append_assoc]
  have hgroup (rest : List UInt8) : parseRsnGroup (beBytes 4 suites.group.toNat ++ rest) =
      if wpaCipherValidGroup (rsnSelectorToBitfield suites.group.toNat) then
        .ok (rsnSelectorToBitfield suites.group.toNat, rest) else .error (-1) := by
    rw [parseRsnGroup, if_pos (by simp), List.take_left' (length_beBytes 4 _), List.drop_left' (length_beBytes 4 _),
      beNat_selector suites.group.toNat_lt]
  refine ⟨do
    let group ← if wpaCipherValidGroup (rsnSelectorToBitfield suites.group.toNat) then
        .ok (rsnSelectorToBitfield suites.group.toNat) else .error (-1)
    let pairwise ← pairwise
    if pairwise &&& wpaCipherAes128Cmac ≠ 0 then .error (-1)
    else do
      let akm ← akm
      pure (group, pairwise, akm), fun rest => ?_⟩
  rw [hbytes, parseRsnSuites, hgroup]
  split
  · cases pairwise with
    | error e => simp only [bind, Except.bind, hparsePairwise, Except.map]
    | ok p =>
      simp only [bind, Except.bind, hparsePairwise, Except.map]
      split
      · rfl
      · cases akm with
        | error e => simp only [hparseAkm, Except.map]
        | ok a => simp only [hparseAkm, Except.map, pure, Except.pure]
  · rfl

end Parse

section Insert

variable {front fixed others room capab gone more : List UInt8} {len : UInt8} {start rpos rend iesLen n : ℕ}
  {pmkid : Pmkid}

lemma insertAt_nothing (hstart : start = front.length) (hrpos : rpos = front.length + 2 + fixed.length)
    (hies : iesLen = rpos + others.length) (hroom : 20 ≤ room.length) :
    insertAt (rsnAt front len (fixed ++ (others ++ room))) iesLen start rpos rpos pmkid =
      some (some (rsnAt front (len + 2 + 18)
        (fixed ++ (leBytes 2 0 ++ (leBytes 2 1 ++ (pmkid.bytes ++ (others ++ room.drop 20))))), iesLen + 20)) := by
  have hoff : rpos = (rsnAt front len fixed).length := by
    rw [length_rsnAt]
    exact hrpos
  have hdst : rpos + 2 = (rsnAt front len fixed).length + 2 := by omega
  have hn : iesLen - rpos = others.length := by omega
  have hinsert := Buffer.move_right_write hoff hdst hn (length_leBytes 2 0) (show 2 ≤ room.length by omega)
  have hput : putPmkid (rsnAt front (len + 2) (fixed ++ leBytes 2 0 ++ (others ++ room.drop 2))) start (rpos + 2)
      (iesLen + 2) pmkid = some (rsnAt front (len + 2 + 18) (fixed ++ leBytes 2 0 ++
        (leBytes 2 1 ++ pmkid.bytes ++ (others ++ (room.drop 2).drop 18))), iesLen + 2 + 18) := by
    apply putPmkid_rsnAt hstart
    · rw [List.length_append, length_leBytes]
      omega
    · omega
    · rw [List.length_drop]
      omega
  rw [insertAt, if_pos rfl, rsnAt_append]
  simp only [bind] at hinsert ⊢
  rw [← Option.bind_assoc, show ([0, 0] : List UInt8) = leBytes 2 0 from rfl, hinsert, Option.bind_some,
    ← rsnAt_append, addLength_rsnAt hstart, Option.bind_some, ← List.append_assoc, hput]
  simp [List.drop_drop]

lemma insertAt_capabilities (hcapab : capab.length = 2) (hstart : start = front.length)
    (hrpos : rpos = front.length + 2 + fixed.length) (hrend : rend = rpos + 2) (hies : iesLen = rend + others.length)
    (hroom : 20 ≤ room.length) :
    insertAt (rsnAt front len (fixed ++ (capab ++ (others ++ room)))) iesLen start rpos rend pmkid =
      some (some (rsnAt front (len + 18)
        (fixed ++ (capab ++ (leBytes 2 1 ++ (pmkid.bytes ++ (others ++ room.drop 18))))), iesLen + 18)) := by
  have hput : putPmkid (rsnAt front len (fixed ++ capab ++ (others ++ room))) start (rpos + 2) iesLen pmkid =
      some (rsnAt front (len + 18) (fixed ++ capab ++ (leBytes 2 1 ++ pmkid.bytes ++ (others ++ room.drop 18))),
        iesLen + 18) := by
    apply putPmkid_rsnAt hstart
    · rw [List.length_append]
      omega
    · omega
    · omega
  rw [insertAt, if_neg (by omega), if_neg (by omega), if_pos hrend.symm, ← List.append_assoc, hput]
  simp

/-- The PMKIDs that were there are removed if there are any; what follows the element is then taken from a wrong
place. -/
lemma insertAt_counted (len : UInt8) (pmkid : Pmkid) (hcapab : capab.length = 2) (hcount : n < 2 ^ 16) (hgone : gone.length = n * pmkidLen)
    (hstart : start = front.length) (hrpos : rpos = front.length + 2 + fixed.length)
    (hrend : rend = rpos + (capab ++ (leBytes 2 n ++ (gone ++ more))).length)
    (hies : iesLen = rend + others.length) (hroom : 20 ≤ room.length) :
    ∃ room', insertAt (rsnAt front len (fixed ++ (capab ++ (leBytes 2 n ++ (gone ++ more)) ++ (others ++ room))))
        iesLen start rpos rend pmkid =
      some (some (rsnAt front (len + -(UInt8.ofNat (n * pmkidLen)) + 16)
        (fixed ++ (capab ++ (leBytes 2 1 ++ (pmkid.bytes ++ (more ++
          (if n = 0 then others else ((gone ++ (more ++ others)).drop more.length).take others.length) ++ room'))))),
        iesLen - n * pmkidLen + 16)) := by
  have hlength : (capab ++ (leBytes 2 n ++ (gone ++ more))).length = 4 + n * pmkidLen + more.length := by
    simp only [List.length_append, length_leBytes, hcapab, hgone]
    omega
  have hbuf : fixed ++ (capab ++ (leBytes 2 n ++ (gone ++ more)) ++ (others ++ room)) =
      fixed ++ capab ++ (leBytes 2 n ++ (gone ++ (more ++ (others ++ room)))) := by simp only [List.append_assoc]
  have hbehind : rpos + 2 = front.length + 2 + (fixed ++ capab).length := by
    rw [List.length_append]
    omega
  rw [hbuf, insertAt, if_neg (by omega), if_neg (by omega)]
  dsimp only
  rw [if_neg (by omega), if_neg (by omega)]
  simp only [bind]
  rw [getLe16_rsnAt hbehind hcount, Option.bind_some]
  by_cases hzero : n = 0
  · subst hzero
    have hnil : gone = [] := List.eq_nil_of_length_eq_zero (by rw [hgone, Nat.zero_mul])
    subst hnil
    have hreplace : replaceCount (rsnAt front len (fixed ++ capab ++ (leBytes 2 0 ++ (more ++ others ++ room)))) start
        (rpos + 2) iesLen pmkid = some (rsnAt front (len + 16) (fixed ++ capab ++
          (leBytes 2 1 ++ (pmkid.bytes ++ (more ++ others ++ room.drop 16)))), iesLen + 16) := by
      apply replaceCount_rsnAt hstart hbehind
      · rw [List.length_append]
        omega
      · omega
    refine ⟨room.drop 16, ?_⟩
    rw [if_pos rfl, List.nil_append, ← List.append_assoc more, hreplace]
    simp
  · have hremove : removePmkids (rsnAt front len (fixed ++ capab ++
        (leBytes 2 n ++ (gone ++ (more ++ (others ++ room)))))) start (rpos + 2) rend n =
          some (rsnAt front (len + -(UInt8.ofNat (n * pmkidLen))) (fixed ++ capab ++
            (leBytes 2 n ++ (more ++ (gone ++ (more ++ (others ++ room))).drop more.length)))) := by
      apply removePmkids_rsnAt hstart hbehind hgone
      omega
    have hgonePos : 16 ≤ gone.length := by
      rw [hgone, pmkidLen]
      omega
    obtain ⟨moved, hmoved⟩ : ∃ moved, moved = (gone ++ (more ++ others)).drop more.length := ⟨_, rfl⟩
    have hdrop : (gone ++ (more ++ (others ++ room))).drop more.length = moved ++ room := by
      have hsplit : gone ++ (more ++ (others ++ room)) = gone ++ (more ++ others) ++ room := by
        simp only [List.append_assoc]
      rw [hmoved, hsplit, List.drop_append_of_le_length]
      simp only [List.length_append]
      omega
    have hlengthMoved : moved.length = gone.length + others.length := by
      rw [hmoved, List.length_drop]
      simp only [List.length_append]
      omega
    have hreplace : replaceCount (rsnAt front (len + -(UInt8.ofNat (n * pmkidLen)))
        (fixed ++ capab ++ (leBytes 2 n ++ (more ++ moved.take others.length ++ (moved.drop others.length ++ room)))))
        start (rpos + 2) (iesLen - n * pmkidLen) pmkid =
          some (rsnAt front (len + -(UInt8.ofNat (n * pmkidLen)) + 16) (fixed ++ capab ++ (leBytes 2 1 ++
            (pmkid.bytes ++ (more ++ moved.take others.length ++ (moved.drop others.length ++ room).drop 16)))),
            iesLen - n * pmkidLen + 16) := by
      apply replaceCount_rsnAt hstart hbehind
      · rw [List.length_append, List.length_take]
        omega
      · rw [List.length_append, List.length_drop]
        omega
    have hmovedSplit : more ++ (moved ++ room) =
        more ++ moved.take others.length ++ (moved.drop others.length ++ room) := by
      rw [List.append_assoc, ← List.append_assoc (moved.take _), List.take_append_drop]
    refine ⟨(moved.drop others.length ++ room).drop 16, ?_⟩
    rw [if_neg hzero, if_neg (by omega), hremove, Option.bind_some, hdrop, hmovedSplit, hreplace, if_neg hzero, ← hmoved]
    simp only [List.append_assoc]
    rfl

end Insert

/-! ## The whole function -/

section Whole

variable {front others room tail capab more : List UInt8} {suites : RsnSuites} {pmkid : Pmkid}

/-- The search ends at the first RSN element. -/
lemma findRsn_elements {pre : List Element} {rest : List UInt8} {iesLen : ℕ} (hpre : ∀ e ∈ pre, e.id ≠ wlanEidRsn)
    (hlen : (front ++ elementBytes pre).length < iesLen) :
    findRsn (front ++ (elementBytes pre ++ wlanEidRsn :: rest)) iesLen front.length =
      some (front ++ elementBytes pre).length := by
  induction pre generalizing front with
  | nil =>
    rw [elementBytes_nil, List.append_nil] at hlen ⊢
    rw [findRsn, if_pos hlen, List.nil_append, if_pos]
    rw [List.getD_eq_getElem?_getD, List.getElem?_append_right le_rfl, Nat.sub_self]
    rfl
  | cons e pre ih =>
    obtain ⟨he, hpre⟩ := List.forall_mem_cons.mp hpre
    have hsplit : front ++ (elementBytes (e :: pre) ++ wlanEidRsn :: rest) =
        front ++ (e.bytes ++ (elementBytes pre ++ wlanEidRsn :: rest)) := by
      rw [elementBytes_cons, List.append_assoc]
    have hdrop : (front ++ (e.bytes ++ (elementBytes pre ++ wlanEidRsn :: rest))).drop front.length =
        e.bytes ++ (elementBytes pre ++ wlanEidRsn :: rest) := List.drop_left
    obtain ⟨hid, hbyte⟩ := getD_of_drop hdrop
    rw [elementBytes_cons, ← List.append_assoc] at hlen
    have hstep : front.length + 2 + e.body.length = (front ++ e.bytes).length := by
      rw [List.length_append, Element.length_bytes]
      omega
    have hlt : front.length < iesLen := by
      rw [List.length_append, List.length_append] at hlen
      omega
    have hnext := ih hpre hlen
    rw [hsplit, findRsn, if_pos hlt, hid, if_neg he, hbyte, Element.toNat_len, hstep, ← List.append_assoc front, hnext,
      elementBytes_cons, List.append_assoc]

/-- The suites are skipped. -/
lemma wpaInsertPmkid_insertAt {pre : List Element} {len : UInt8} {rest : List UInt8} {iesLen : ℕ}
    (hpre : ∀ e ∈ pre, e.id ≠ wlanEidRsn) (hlen : (elementBytes pre).length < iesLen)
    (hpairwise : suites.pairwise.length < 2 ^ 16) (hakm : suites.akm.length < 2 ^ 16) :
    wpaInsertPmkid (rsnAt (elementBytes pre) len (suites.bytes ++ rest)) iesLen pmkid =
      insertAt (rsnAt (elementBytes pre) len (suites.bytes ++ rest)) iesLen (elementBytes pre).length
        ((elementBytes pre).length + 2 + suites.bytes.length) ((elementBytes pre).length + 2 + len.toNat) pmkid := by
  have hfind : findRsn (rsnAt (elementBytes pre) len (suites.bytes ++ rest)) iesLen 0 =
      some (elementBytes pre).length := by
    have helements : findRsn ([] ++ (elementBytes pre ++ wlanEidRsn :: len :: (suites.bytes ++ rest))) iesLen
        ([] : List UInt8).length = some ([] ++ elementBytes pre).length := findRsn_elements hpre hlen
    exact helements
  have hlength := length_suites suites
  -- the two counts with what is in front of them
  have hsplit : suites.bytes ++ rest = leBytes 2 1 ++ beBytes 4 suites.group.toNat ++
      (leBytes 2 suites.pairwise.length ++ (suiteBytes (suites.pairwise.map UInt32.toNat) ++
        (leBytes 2 suites.akm.length ++ (suiteBytes (suites.akm.map UInt32.toNat) ++ rest)))) := by
    simp only [RsnSuites.bytes, List.append_assoc]
  have hsplit' : suites.bytes ++ rest = leBytes 2 1 ++ (beBytes 4 suites.group.toNat ++
      (leBytes 2 suites.pairwise.length ++ suiteBytes (suites.pairwise.map UInt32.toNat))) ++
        (leBytes 2 suites.akm.length ++ (suiteBytes (suites.akm.map UInt32.toNat) ++ rest)) := by
    simp only [RsnSuites.bytes, List.append_assoc]
  have hfirst : getLe16 (rsnAt (elementBytes pre) len (suites.bytes ++ rest)) ((elementBytes pre).length + 2 + (2 + 4)) =
      some suites.pairwise.length := by
    rw [hsplit]
    apply getLe16_rsnAt _ hpairwise
    rw [List.length_append, length_leBytes, length_beBytes]
  have hsecond : getLe16 (rsnAt (elementBytes pre) len (suites.bytes ++ rest))
      ((elementBytes pre).length + 2 + (2 + 4) + 2 + suites.pairwise.length * 4) = some suites.akm.length := by
    rw [hsplit']
    apply getLe16_rsnAt _ hakm
    simp only [List.length_append, length_leBytes, length_beBytes, length_suiteBytes, List.length_map]
    omega
  have hend : (elementBytes pre).length + 2 + (2 + 4) + 2 + suites.pairwise.length * 4 + 2 + suites.akm.length * 4 =
      (elementBytes pre).length + 2 + suites.bytes.length := by omega
  simp only [wpaInsertPmkid, hfind, hfirst, bind, Option.bind_some, hsecond, hend, (getD_rsnAt rfl).2]

/-- What happens if there is a number of PMKIDs. -/
lemma insertAt_number {rest : List UInt8} {n iesLen : ℕ} (pmkid : Pmkid) (hcapab : capab.length = 2) (hn : n < 2 ^ 16)
    (hies : iesLen = front.length + 2 + suites.bytes.length + (capab ++ (leBytes 2 n ++ rest)).length + others.length)
    (hroom : 20 ≤ room.length) :
    (insertAt (rsnAt front (UInt8.ofNat (suites.bytes.length + (capab ++ (leBytes 2 n ++ rest)).length))
        (suites.bytes ++ (capab ++ (leBytes 2 n ++ rest) ++ (others ++ room)))) iesLen front.length
        (front.length + 2 + suites.bytes.length)
        (front.length + 2 + suites.bytes.length + (capab ++ (leBytes 2 n ++ rest)).length) pmkid = some none) ∨
      ∃ capab' more room', Splits (capab ++ (leBytes 2 n ++ rest)) capab' more ∧
        insertAt (rsnAt front (UInt8.ofNat (suites.bytes.length + (capab ++ (leBytes 2 n ++ rest)).length))
            (suites.bytes ++ (capab ++ (leBytes 2 n ++ rest) ++ (others ++ room)))) iesLen front.length
            (front.length + 2 + suites.bytes.length)
            (front.length + 2 + suites.bytes.length + (capab ++ (leBytes 2 n ++ rest)).length) pmkid =
          some (some (afterInsert front suites capab' more pmkid
            (followers (capab ++ (leBytes 2 n ++ rest)) more others) room')) := by
  have htail : (capab ++ (leBytes 2 n ++ rest)).length = 4 + rest.length := by
    rw [List.length_append, List.length_append, length_leBytes]
    omega
  by_cases hshort : rest.length < n * pmkidLen
  · left
    have hbuf : suites.bytes ++ (capab ++ (leBytes 2 n ++ rest) ++ (others ++ room)) =
        suites.bytes ++ capab ++ (leBytes 2 n ++ (rest ++ (others ++ room))) := by simp only [List.append_assoc]
    have hbehind : front.length + 2 + suites.bytes.length + 2 = front.length + 2 + (suites.bytes ++ capab).length := by
      rw [List.length_append]
      omega
    have hpos : n ≠ 0 := by
      rintro rfl
      omega
    rw [insertAt, if_neg (by omega), if_neg (by omega)]
    dsimp only
    rw [if_neg (by omega), if_neg (by omega), hbuf, getLe16_rsnAt hbehind hn]
    simp only [bind, Option.bind_some]
    rw [if_neg hpos, if_pos (by omega)]
  · right
    obtain ⟨gone, more, rfl, hgone⟩ : ∃ gone more, rest = gone ++ more ∧ gone.length = n * pmkidLen :=
      ⟨rest.take (n * pmkidLen), rest.drop (n * pmkidLen), (List.take_append_drop _ _).symm, by
        rw [List.length_take]
        omega⟩
    have hold : oldPmkids (capab ++ (leBytes 2 n ++ (gone ++ more))) = n := oldPmkids_count hcapab hn
    have hsplits : Splits (capab ++ (leBytes 2 n ++ (gone ++ more))) capab more := .counted hcapab hn hgone
    have hdropFour : (capab ++ (leBytes 2 n ++ (gone ++ more))).drop 4 = gone ++ more := by
      rw [← List.append_assoc]
      apply List.drop_left'
      rw [List.length_append, length_leBytes, hcapab]
    have hnew := length_newBody suites capab more pmkid
    have hfollowers := length_followers hsplits others
    obtain ⟨len, hlen⟩ : ∃ len, len = suites.bytes.length + (capab ++ (leBytes 2 n ++ (gone ++ more))).length := ⟨_, rfl⟩
    have hsum : len - n * pmkidLen + 16 = (newBody suites capab more pmkid).length ∧ n * pmkidLen ≤ len := by
      have hparts : (gone ++ more).length = gone.length + more.length := List.length_append
      omega
    have hbyte : UInt8.ofNat len + -(UInt8.ofNat (n * pmkidLen)) + 16 =
        UInt8.ofNat (newBody suites capab more pmkid).length := by
      rw [← hsum.1, UInt8.ofNat_add _ 16, UInt8.ofNat_sub hsum.2, UInt8.sub_eq_add_neg]
      rfl
    rw [← hlen]
    obtain ⟨room', hroom'⟩ := insertAt_counted (UInt8.ofNat len) pmkid hcapab hn hgone rfl rfl rfl hies hroom
    refine ⟨capab, more, room', hsplits, ?_⟩
    rw [hroom', hbyte, afterInsert, hfollowers, followers, hold, hdropFour, newBody]
    refine congrArg (fun r => some (some r)) (Prod.ext ?_ ?_)
    · simp only [List.append_assoc]
    · dsimp only
      rw [← newBody]
      omega

/-- What the call leaves, if it succeeds. -/
lemma wpaInsertPmkid_result {pre : List Element} {rsn : Element} (post : List Element) (pmkid : Pmkid)
    (hpre : ∀ e ∈ pre, e.id ≠ wlanEidRsn) (hid : rsn.id = wlanEidRsn) (hbody : rsn.body = suites.bytes ++ tail)
    (hroom : 20 ≤ room.length) :
    wpaInsertPmkid (elementBytes (pre ++ rsn :: post) ++ room) (elementBytes (pre ++ rsn :: post)).length pmkid =
        some none ∨
      ∃ capab more room', Splits tail capab more ∧
        wpaInsertPmkid (elementBytes (pre ++ rsn :: post) ++ room) (elementBytes (pre ++ rsn :: post)).length pmkid =
          some (some (afterInsert (elementBytes pre) suites capab more pmkid
            (followers tail more (elementBytes post)) room')) := by
  have hsuites := length_suites suites
  have hlt := rsn.length_body
  have hlengthBody := congrArg List.length hbody
  rw [List.length_append] at hlengthBody
  have hbuf : elementBytes (pre ++ rsn :: post) ++ room =
      rsnAt (elementBytes pre) rsn.len (suites.bytes ++ (tail ++ (elementBytes post ++ room))) := by
    simp only [elementBytes_append, elementBytes_cons, Element.bytes, hid, hbody, rsnAt, List.append_assoc,
      List.cons_append]
  have hies : (elementBytes (pre ++ rsn :: post)).length =
      (elementBytes pre).length + 2 + suites.bytes.length + tail.length + (elementBytes post).length := by
    rw [elementBytes_append, elementBytes_cons, List.length_append, List.length_append, Element.length_bytes]
    omega
  have hbodyLen : rsn.len = UInt8.ofNat (suites.bytes.length + tail.length) := by
    rw [Element.len, hlengthBody]
  rw [hbuf, wpaInsertPmkid_insertAt hpre (by omega) (by omega) (by omega), Element.toNat_len, hlengthBody,
    ← Nat.add_assoc, hbodyLen]
  rcases tail_cases tail with rfl | hone | htwo | hthree | ⟨capab, n, rest, hcapab, hn, rfl⟩
  · refine Or.inr ⟨leBytes 2 0, [], room.drop 20, .nothing, ?_⟩
    have hold : oldPmkids [] = 0 := rfl
    have hnew := length_newBody suites (leBytes 2 0) [] pmkid
    rw [length_leBytes, List.length_nil, Nat.add_zero] at hnew
    have hrend : (elementBytes pre).length + 2 + suites.bytes.length + ([] : List UInt8).length =
        (elementBytes pre).length + 2 + suites.bytes.length := Nat.add_zero _
    rw [hrend, List.nil_append, insertAt_nothing rfl rfl (by rw [hies, hrend]) hroom, afterInsert, hnew, followers, hold,
      if_pos rfl, hies, newBody]
    refine congrArg (fun r => some (some r)) (Prod.ext ?_ ?_)
    · simp [UInt8.add_assoc]
    · dsimp only [List.length_nil]
      omega
  · left
    rw [insertAt, if_neg (by omega), if_pos (by omega)]
  · refine Or.inr ⟨tail, [], room.drop 18, .capabilities htwo, ?_⟩
    have hold : oldPmkids tail = 0 := by rw [oldPmkids, if_neg (by omega)]
    have hnew := length_newBody suites tail [] pmkid
    rw [htwo, List.length_nil, Nat.add_zero] at hnew
    rw [insertAt_capabilities htwo rfl rfl (by omega) (by omega) hroom, afterInsert, hnew, followers, hold, if_pos rfl,
      hies, newBody, htwo]
    refine congrArg (fun r => some (some r)) (Prod.ext ?_ ?_)
    · simp [UInt8.add_assoc]
    · dsimp only
      omega
  · left
    rw [insertAt, if_neg (by omega), if_neg (by omega)]
    dsimp only
    rw [if_neg (by omega), if_pos (by omega)]
  · exact insertAt_number pmkid hcapab hn hies hroom

end Whole

/-! ## What the parser reads afterwards -/

section Read

variable {build : RsnBuild} {suites : RsnSuites} {tail capab more : List UInt8} {pmkid : Pmkid} {data : WpaIeData}

lemma parsePmkids_counted {n : ℕ} {gone more : List UInt8} (hn : n < 2 ^ 16) (hgone : gone.length = n * pmkidLen) :
    parsePmkids (leBytes 2 n ++ (gone ++ more)) = .ok (n, gone, more) := by
  rw [parsePmkids, if_pos (by simp)]
  dsimp only
  rw [List.take_left' (length_leBytes 2 n), List.drop_left' (length_leBytes 2 n), leNat_count hn, if_neg,
    List.take_left' hgone, List.drop_left' hgone]
  rw [List.length_append, hgone, pmkidLen]
  omega

lemma parseRsnTail_capab (hcapab : capab.length = 2) (rest : List UInt8) :
    parseRsnTail (capab ++ rest) = (do
      let (numPmkid, pmkid, pos) ← parsePmkids rest
      let mgmtGroupCipher ← parseMgmtGroupCipher pos
      pure { capabilities := leNat capab, numPmkid, pmkid, mgmtGroupCipher }) := by
  rw [parseRsnTail, parseCapabilities, if_pos, List.take_left' hcapab, List.drop_left' hcapab]
  rw [List.length_append]
  omega

/-- The fields behind the suites are as before, but for the PMKIDs. -/
lemma parseRsnTail_splits {t : RsnTail} (hsplits : Splits tail capab more) (ht : parseRsnTail tail = .ok t) :
    parseRsnTail (capab ++ (leBytes 2 1 ++ (pmkid.bytes ++ more))) =
      .ok { t with numPmkid := 1, pmkid := pmkid.bytes } := by
  have hone (more : List UInt8) : parsePmkids (leBytes 2 1 ++ (pmkid.bytes ++ more)) = .ok (1, pmkid.bytes, more) :=
    parsePmkids_counted (by decide) (by rw [pmkid.length_bytes, Nat.one_mul])
  have hnil : parseMgmtGroupCipher [] = .ok wpaCipherAes128Cmac := rfl
  have hnone : parsePmkids [] = .ok (0, [], []) := rfl
  cases hsplits with
  | nothing =>
    obtain rfl := Except.ok.inj ht
    rw [parseRsnTail_capab (length_leBytes 2 0), hone]
    rfl
  | capabilities hcapab =>
    rw [← List.append_nil tail, parseRsnTail_capab hcapab, hnone] at ht
    obtain rfl := Except.ok.inj ht
    rw [parseRsnTail_capab hcapab, hone]
    rfl
  | counted hcapab hn hgone =>
    rw [parseRsnTail_capab hcapab, parsePmkids_counted hn hgone] at ht
    rw [parseRsnTail_capab hcapab, hone]
    simp only [bind, Except.bind, pure, Except.pure] at ht ⊢
    cases hcipher : parseMgmtGroupCipher more with
    | error e =>
      rw [hcipher] at ht
      cases ht
    | ok cipher =>
      rw [hcipher] at ht
      obtain rfl := Except.ok.inj ht
      rfl

/-- The parser reads the suites of an element in the same way whatever follows them. -/
lemma wpaParseWpaIeRsn_suites (build : RsnBuild) (hpairwise : suites.pairwise.length < 2 ^ 16)
    (hakm : suites.akm.length < 2 ^ 16) :
    ∃ r : Except ℤ (ℕ × ℕ × ℕ), ∀ (e : Element) tail, e.id = wlanEidRsn → e.body = suites.bytes ++ tail →
      wpaParseWpaIeRsn build e.bytes = (do
        let c ← r
        let t ← parseRsnTail tail
        pure {
          proto := wpaProtoRsn, groupCipher := c.1, pairwiseCipher := c.2.1, keyMgmt := c.2.2,
          capabilities := t.capabilities, numPmkid := t.numPmkid, pmkid := t.pmkid,
          mgmtGroupCipher := t.mgmtGroupCipher }) := by
  obtain ⟨r, hr⟩ := parseRsnSuites_suites build hpairwise hakm
  refine ⟨r, fun e tail hid hbody => ?_⟩
  have hlt := e.length_body
  have hbody' : e.body = leBytes 2 1 ++ (suites.bytes.drop 2 ++ tail) := by
    rw [hbody, RsnSuites.bytes, List.drop_left' (length_leBytes 2 1), List.append_assoc]
  have hheader := parseRsnHeader_version (hbody' ▸ hlt)
  rw [← hbody'] at hheader
  have hbytes : e.bytes = wlanEidRsn :: UInt8.ofNat e.body.length :: e.body := by rw [Element.bytes, hid, Element.len]
  have hlong : ¬e.bytes.length < 4 := by
    rw [Element.length_bytes, hbody', List.length_append, length_leBytes]
    omega
  rw [wpaParseWpaIeRsn, if_neg hlong, hbytes, hheader]
  simp only [bind, Except.bind, hr]
  cases r with
  | error e => rfl
  | ok c => rfl

/-- The RSN element of the string is read as before, but for its PMKID. -/
def InsertedPmkid (build : RsnBuild) (pre post : List Element) (data : WpaIeData) (pmkid : Pmkid) (s : List UInt8) :
    Prop :=
  ∃ rsn : Element, rsn.id = wlanEidRsn ∧ s = elementBytes (pre ++ rsn :: post) ∧
    wpaParseWpaIeRsn build rsn.bytes = .ok { data with numPmkid := 1, pmkid := pmkid.bytes }

/-- A string with an RSN element whose length byte does not count its body is no sequence of elements. -/
lemma insertedPmkid_iff {pre post : List Element} {others rest : List UInt8} (hsplits : Splits tail capab more)
    {rsn : Element} (hid : rsn.id = wlanEidRsn) (hbody : rsn.body = suites.bytes ++ tail)
    (hparse : wpaParseWpaIeRsn build rsn.bytes = .ok data)
    (hothers : others.length = (elementBytes post).length) :
    InsertedPmkid build pre post data pmkid ((afterInsert (elementBytes pre) suites capab more pmkid others rest).1.take
        (afterInsert (elementBytes pre) suites capab more pmkid others rest).2) ↔
      (newBody suites capab more pmkid).length < 256 ∧ others = elementBytes post := by
  obtain ⟨body, hbodyEq⟩ : ∃ body, body = newBody suites capab more pmkid := ⟨_, rfl⟩
  have htake : (rsnAt (elementBytes pre) (UInt8.ofNat body.length) (body ++ (others ++ rest))).take
      ((elementBytes pre).length + 2 + body.length + others.length) =
        elementBytes pre ++ (wlanEidRsn :: UInt8.ofNat body.length :: (body ++ others)) := by
    rw [← List.append_assoc, rsnAt_append]
    apply List.take_left'
    rw [length_rsnAt, List.length_append]
    omega
  rw [afterInsert, ← hbodyEq, htake]
  constructor
  · rintro ⟨rsn', hid', hstring, -⟩
    rw [elementBytes_append, elementBytes_cons] at hstring
    have hrest := List.append_cancel_left hstring
    have hlength := congrArg List.length hrest
    simp only [List.length_cons, List.length_append, Element.length_bytes, hothers] at hlength
    have hlt := rsn'.length_body
    refine ⟨by omega, ?_⟩
    have hsplit : wlanEidRsn :: UInt8.ofNat body.length :: (body ++ others) =
        (wlanEidRsn :: UInt8.ofNat body.length :: body) ++ others := rfl
    rw [hsplit] at hrest
    exact (List.append_inj' hrest hothers).2
  · rintro ⟨hlt, rfl⟩
    refine ⟨⟨wlanEidRsn, body, hlt⟩, rfl, ?_, ?_⟩
    · rw [elementBytes_append, elementBytes_cons]
      rfl
    · have hlength := rsn.length_body
      rw [hbody, List.length_append, length_suites] at hlength
      have hpairwise : suites.pairwise.length < 2 ^ 16 := by omega
      have hakm : suites.akm.length < 2 ^ 16 := by omega
      obtain ⟨r, hr⟩ := wpaParseWpaIeRsn_suites build hpairwise hakm
      rw [hr rsn tail hid hbody] at hparse
      rw [hr ⟨wlanEidRsn, body, hlt⟩ _ rfl hbodyEq]
      cases r with
      | error e => cases hparse
      | ok c =>
        cases ht : parseRsnTail tail with
        | error e =>
          rw [ht] at hparse
          cases hparse
        | ok t =>
          rw [ht] at hparse
          obtain rfl := Except.ok.inj hparse
          rw [parseRsnTail_splits hsplits ht]
          rfl

end Read

/-- The PMKID has room in the RSN element if it brings no old one with it.  Otherwise what follows the element is also
found in the old PMKIDs and what comes after them, as far behind their start as the rest of the element is long. -/
def RoomForPmkid (rsn : Element) (tail others : List UInt8) : Prop :=
  if oldPmkids tail = 0 then rsn.body.length + (if tail = [] then 20 else if tail.length = 2 then 18 else 16) < 256
  else others <+: (tail.drop 4 ++ others).drop (tail.length - 4 - oldPmkids tail * pmkidLen)

lemma roomForPmkid_iff {rsn : Element} {suites : RsnSuites} {tail capab more others : List UInt8} (pmkid : Pmkid)
    (hsplits : Splits tail capab more) (hbody : rsn.body = suites.bytes ++ tail) :
    (newBody suites capab more pmkid).length < 256 ∧ followers tail more others = others ↔
      RoomForPmkid rsn tail others := by
  have hlt := rsn.length_body
  have hlength := length_newBody suites capab more pmkid
  have hbodyLength := congrArg List.length hbody
  rw [List.length_append] at hbodyLength
  cases hsplits with
  | nothing =>
    have hold : oldPmkids [] = 0 := rfl
    rw [RoomForPmkid, followers, hold, if_pos rfl, if_pos rfl, if_pos rfl, hlength, length_leBytes]
    simp at hbodyLength ⊢
    omega
  | capabilities hcapab =>
    have hold : oldPmkids tail = 0 := by rw [oldPmkids, if_neg (by omega)]
    have hsome : tail ≠ [] := List.ne_nil_of_length_pos (by omega)
    rw [RoomForPmkid, followers, hold, if_pos rfl, if_pos rfl, if_neg hsome, if_pos hcapab, hlength, hcapab]
    simp
    omega
  | @counted capab gone more n hcapab hn hgone =>
    have hold : oldPmkids (capab ++ (leBytes 2 n ++ (gone ++ more))) = n := oldPmkids_count hcapab hn
    have htail : (capab ++ (leBytes 2 n ++ (gone ++ more))).length = 4 + n * pmkidLen + more.length := by
      simp only [List.length_append, length_leBytes, hcapab, hgone]
      omega
    rw [htail] at hbodyLength
    rw [RoomForPmkid, followers, hold]
    by_cases hzero : n = 0
    · subst hzero
      have hsome : capab ++ (leBytes 2 0 ++ (gone ++ more)) ≠ [] := List.ne_nil_of_length_pos (by omega)
      rw [if_pos rfl, if_pos rfl, if_neg hsome, if_neg (by omega), hlength, hcapab]
      simp only [and_true]
      omega
    · have hmore : (capab ++ (leBytes 2 n ++ (gone ++ more))).length - 4 - n * pmkidLen = more.length := by omega
      have hpmkid : 16 ≤ n * pmkidLen := by
        rw [pmkidLen]
        omega
      rw [if_neg hzero, if_neg hzero, hmore, List.prefix_iff_eq_take, @eq_comm _ others]
      refine and_iff_right ?_
      omega

/-- The insertion of a PMKID keeps to the buffer.  Where it succeeds, the string of elements is as it should be if there
is room for the PMKID. -/
theorem wpaInsertPmkid_iff (build : RsnBuild) {pre post : List Element} {rsn : Element} {suites : RsnSuites}
    {tail room : List UInt8} {data : WpaIeData} (pmkid : Pmkid) (hpre : ∀ e ∈ pre, e.id ≠ wlanEidRsn)
    (hid : rsn.id = wlanEidRsn) (hbody : rsn.body = suites.bytes ++ tail)
    (hparse : wpaParseWpaIeRsn build rsn.bytes = .ok data) (hroom : 20 ≤ room.length) :
    ∃ result,
      wpaInsertPmkid (elementBytes (pre ++ rsn :: post) ++ room) (elementBytes (pre ++ rsn :: post)).length pmkid =
        some result ∧
      ∀ buf iesLen, result = some (buf, iesLen) →
        (InsertedPmkid build pre post data pmkid (buf.take iesLen) ↔ RoomForPmkid rsn tail (elementBytes post)) := by
  obtain hfail | ⟨capab, more, room', hsplits, hresult⟩ :=
    wpaInsertPmkid_result post pmkid hpre hid hbody hroom
  · refine ⟨none, hfail, ?_⟩
    rintro buf iesLen heq
    cases heq
  · refine ⟨_, hresult, ?_⟩
    rintro buf iesLen heq
    obtain ⟨rfl, rfl⟩ := Prod.mk.inj (Option.some.inj heq)
    apply Iff.trans _ (roomForPmkid_iff pmkid hsplits hbody)
    exact insertedPmkid_iff hsplits hid hbody hparse (length_followers hsplits (elementBytes post))

/-- A network with CCMP and FT that sends one PMKID. -/
def ftSuites : RsnSuites := ⟨0x000fac04, [0x000fac04], [0x000fac03]⟩

/-- The element of a network with one PMKID already. -/
def ftElement : Element := ⟨wlanEidRsn, ftSuites.bytes ++ ([0, 0, 1, 0] ++ List.replicate 16 7), by decide⟩

/-- The PMKID that is inserted. -/
def newPmkid : Pmkid := Vector.replicate 16 9

/-- What the parser reads of the element. -/
def ftData : WpaIeData :=
  ⟨wpaProtoRsn, wpaCipherCcmp, wpaCipherCcmp, wpaKeyMgmtFtIeee8021x, 0, 1, List.replicate 16 7, wpaCipherAes128Cmac⟩

/-- A mobility domain element follows. -/
def mobilityDomain : Element := ⟨54, [1, 2, 0], by decide⟩

/-- If nothing follows the element, the old PMKID is replaced. -/
theorem wpaInsertPmkid_iff_last :
    ∃ result,
      wpaInsertPmkid (elementBytes ([] ++ ftElement :: []) ++ List.replicate 20 0)
          (elementBytes ([] ++ ftElement :: [])).length newPmkid = some result ∧
      ∀ buf iesLen, result = some (buf, iesLen) →
        (InsertedPmkid ⟨true, false⟩ [] [] ftData newPmkid (buf.take iesLen) ↔
          RoomForPmkid ftElement ([0, 0, 1, 0] ++ List.replicate 16 7) (elementBytes [])) :=
  wpaInsertPmkid_iff ⟨true, false⟩ newPmkid (fun _ h => absurd h List.not_mem_nil) rfl
    (show ftElement.body = ftSuites.bytes ++ ([0, 0, 1, 0] ++ List.replicate 16 7) from rfl) (by decide) (by decide)

/-- An element that follows is overwritten with the old PMKID. -/
theorem follower_overwritten :
    ∃ buf iesLen,
      wpaInsertPmkid (elementBytes [ftElement, mobilityDomain] ++ List.replicate 20 0)
          (elementBytes [ftElement, mobilityDomain]).length newPmkid = some (some (buf, iesLen)) ∧
      wpaParseWpaIeRsn ⟨true, false⟩ ftElement.bytes = .ok ftData ∧
      ¬InsertedPmkid ⟨true, false⟩ [] [mobilityDomain] ftData newPmkid (buf.take iesLen) := by
  refine ⟨rsnAt [] 38 (ftSuites.bytes ++ [0, 0, 1, 0] ++ List.replicate 16 9 ++ List.replicate 5 7 ++
    List.replicate 20 0), 45, ?_, by decide, ?_⟩
  · have hfind : findRsn (elementBytes [ftElement, mobilityDomain] ++ List.replicate 20 0)
        (elementBytes [ftElement, mobilityDomain]).length 0 = some 0 := by
      rw [findRsn]
      rfl
    rw [wpaInsertPmkid, hfind]
    decide
  · rintro ⟨rsn, -, hstring, -⟩
    have hsuffix : elementBytes [mobilityDomain] <:+ elementBytes ([] ++ rsn :: [mobilityDomain]) :=
      ⟨rsn.bytes, rfl⟩
    rw [← hstring] at hsuffix
    exact absurd hsuffix (by decide)

end Ethanol
