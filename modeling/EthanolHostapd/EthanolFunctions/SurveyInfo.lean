import EthanolHostapd.Utils.Lines
import EthanolHostapd.Wire.Buffer

/-!
# The channel survey

`get_survey_info` in `global_typedef.c` reads the output of a survey command line by line into a linked
list, copies the list into an array, and frees the list.  A pointer to a node is the number of the node.
The variable that `sscanf` writes is not initialised: what it holds before each line is a parameter.
-/

namespace Ethanol

namespace Survey

/-- `survey_info`. -/
structure SurveyInfo where
  freq : Int64
  inUse : Int64
  noise : Int64
  chanActiveT : Int64
  chanBusyT : Int64
  chanExtBusyT : Int64
  chanTRx : Int64
  chanTTx : Int64

/-- The arguments of `sscanf`, in their order. -/
def SurveyInfo.values (s : SurveyInfo) : List Int64 :=
  [s.freq, s.inUse, s.noise, s.chanActiveT, s.chanBusyT, s.chanExtBusyT, s.chanTRx, s.chanTTx]

/-- The conversion `%lld`, and the text behind it.  There is none without a digit. -/
def scanLld (txt : List UInt8) : Option (Int64 × List UInt8) :=
  let isdigit (c : UInt8) : Bool := 48 ≤ c && c ≤ 57
  let txt := txt.dropWhile isspace
  let unsigned :=
    match txt with
    | 45 :: txt => txt
    | 43 :: txt => txt
    | txt => txt
  if (unsigned.takeWhile isdigit).isEmpty then none
  else some (Int64.ofInt (strtol txt), unsigned.dropWhile isdigit)

/-- The values of `n` conversions `%lld`, up to the first one that fails. -/
def parsed : ℕ → List UInt8 → List Int64
  | 0, _ => []
  | n + 1, txt =>
    match scanLld txt with
    | none => []
    | some (v, txt) => v :: parsed n txt

/-- The `sscanf` of the loop. -/
def sscanf (survey : SurveyInfo) (line : List UInt8) : SurveyInfo :=
  let vs := parsed 8 line
  { freq := vs.getD 0 survey.freq
    inUse := vs.getD 1 survey.inUse
    noise := vs.getD 2 survey.noise
    chanActiveT := vs.getD 3 survey.chanActiveT
    chanBusyT := vs.getD 4 survey.chanBusyT
    chanExtBusyT := vs.getD 5 survey.chanExtBusyT
    chanTRx := vs.getD 6 survey.chanTRx
    chanTTx := vs.getD 7 survey.chanTTx }

/-- `list_survey`. -/
structure ListSurvey where
  i : SurveyInfo
  next : Option ℕ

/-- The variables of the loop that reads, and the nodes that were allocated. -/
structure Reading where
  nodes : List ListSurvey := []
  newSurvey : Option ℕ := none
  ultimo : Option ℕ := none
  numChannels : ℕ := 0

/-- The body of the loop that reads, for the values in `survey`. -/
def Reading.insert (s : Reading) (survey : SurveyInfo) : Reading :=
  let p := s.nodes.length
  let s : Reading := if s.newSurvey = none then { s with newSurvey := some p, ultimo := some p } else s
  let s : Reading := { s with nodes := s.nodes ++ [⟨survey, none⟩] }
  let s : Reading :=
    match s.ultimo with
    | some u => { s with nodes := s.nodes.modify u fun q => { q with next := some p }, ultimo := some p }
    | none => s
  { s with numChannels := s.numChannels + 1 }

/-- The loop that reads, with a buffer of 1000 bytes. -/
def readLoop (stack : ℕ → SurveyInfo) : ℕ → List UInt8 → Reading → Option Reading
  | 0, _, _ => none
  | fuel + 1, output, s =>
    if output = [] then some s
    else
      let (line, output) := fgets 999 output
      readLoop stack fuel output (s.insert (sscanf (stack s.numChannels) line))

/-- The loop that copies the list into the array.  A copy to a place outside of the array has no result. -/
def copyLoop (nodes : List ListSurvey) :
    ℕ → Option ℕ → ℕ → List (Option SurveyInfo) → Option (List (Option SurveyInfo))
  | 0, _, _, _ => none
  | _ + 1, none, _, info => some info
  | fuel + 1, some p, i, info => do
    let q ← nodes[p]?
    let info ← Buffer.write info i [some q.i]
    copyLoop nodes fuel q.next (i + 1) info

/-- The loop that frees the list, with the nodes freed before.  Reading a freed node has no result. -/
def freeLoop (nodes : List ListSurvey) : ℕ → Option ℕ → List ℕ → Option (List ℕ)
  | 0, _, _ => none
  | _ + 1, none, freed => some freed
  | fuel + 1, some p, freed =>
    if p ∈ freed then none
    else do
      let q ← nodes[p]?
      freeLoop nodes fuel q.next (p :: freed)

/-- `survey_info_dump`.  The places of the array are not initialised by `malloc`. -/
structure SurveyInfoDump where
  numChan : ℕ
  info : List (Option SurveyInfo)

/-- The part of `get_survey_info` that makes the array, `NULL` for no records. -/
def copySurvey (fuel : ℕ) (s : Reading) : Option (Option SurveyInfoDump) :=
  if 0 < s.numChannels then
    (copyLoop s.nodes fuel s.newSurvey 0 (List.replicate s.numChannels none)).map fun info =>
      some ⟨s.numChannels, info⟩
  else some none

/-- `get_survey_info`, for at most `fuel` rounds of each loop.  The result of the function may be `NULL`. -/
def getSurveyInfo (stack : ℕ → SurveyInfo) (fuel : ℕ) (output : List UInt8) :
    Option (Option SurveyInfoDump) := do
  let s ← readLoop stack fuel output {}
  let result ← copySurvey fuel s
  let _ ← freeLoop s.nodes fuel s.newSurvey []
  pure result

/-! ## The list -/

/-- Where the node number `i` of `n` leads: the only node of a list leads to itself. -/
def link (n i : ℕ) : Option ℕ := if i + 1 < n then some (i + 1) else if n = 1 then some 0 else none

/-- The loop has inserted the records. -/
structure Reading.Holds (s : Reading) (recs : List SurveyInfo) : Prop where
  newSurvey : s.newSurvey = if recs = [] then none else some 0
  ultimo : s.ultimo = if recs = [] then none else some (recs.length - 1)
  numChannels : s.numChannels = recs.length
  length : s.nodes.length = recs.length
  nodes : ∀ i, s.nodes[i]? = recs[i]?.map fun r => ListSurvey.mk r (link recs.length i)

lemma holds_start : Reading.Holds {} [] := ⟨rfl, rfl, rfl, rfl, fun _ => rfl⟩

lemma Reading.Holds.insert {s : Reading} {recs : List SurveyInfo} (h : s.Holds recs) (r : SurveyInfo) :
    (s.insert r).Holds (recs ++ [r]) := by
  have hne : recs ++ [r] ≠ [] := by simp
  have hlength : (recs ++ [r]).length = recs.length + 1 := by simp
  by_cases hrecs : recs = []
  · subst hrecs
    have hinsert : s.insert r = ⟨[⟨r, some 0⟩], some 0, some 0, 1⟩ := by
      have hnodes : s.nodes = [] := List.eq_nil_of_length_eq_zero h.length
      have hnew : s.newSurvey = none := h.newSurvey
      have hnum : s.numChannels = 0 := h.numChannels
      unfold Reading.insert
      simp [hnew, hnodes, hnum]
    rw [hinsert]
    refine ⟨rfl, rfl, rfl, rfl, fun i => ?_⟩
    rcases i with _ | i
    · rfl
    · rfl
  · have hpos : 0 < recs.length := List.length_pos_iff.mpr hrecs
    have hnew : s.newSurvey = some 0 := by rw [h.newSurvey, if_neg hrecs]
    have hultimo : s.ultimo = some (recs.length - 1) := by rw [h.ultimo, if_neg hrecs]
    have hinsert : s.insert r = ⟨(s.nodes ++ [ListSurvey.mk r none]).modify (recs.length - 1) fun q =>
        { q with next := some recs.length }, some 0, some recs.length, recs.length + 1⟩ := by
      unfold Reading.insert
      simp [hnew, hultimo, h.length, h.numChannels]
    rw [hinsert]
    refine ⟨(if_neg hne).symm, by rw [if_neg hne, hlength]; rfl, hlength.symm, by simp [h.length], fun i => ?_⟩
    dsimp only
    rw [List.getElem?_modify, hlength]
    rcases lt_trichotomy i recs.length with hlt | rfl | hgt
    · have hlt' : i < s.nodes.length := h.length ▸ hlt
      rw [List.getElem?_append_left hlt', List.getElem?_append_left hlt, h.nodes, List.getElem?_eq_getElem hlt]
      by_cases hlast : recs.length - 1 = i
      · have hlink : link (recs.length + 1) i = some recs.length := by
          rw [link, if_pos (by omega)]
          congr 1
          omega
        simp [hlast, hlink]
      · have hlink : link recs.length i = link (recs.length + 1) i := by
          rw [link, link, if_pos (by omega), if_pos (by omega)]
        simp [hlast, hlink]
    · have hlink : link (recs.length + 1) recs.length = none := by
        rw [link, if_neg (by omega), if_neg (by omega)]
      have hlast : recs.length - 1 ≠ recs.length := by omega
      have hnode : (s.nodes ++ [ListSurvey.mk r none])[recs.length]? = some (ListSurvey.mk r none) := by
        rw [← h.length, List.getElem?_concat_length]
      rw [hnode, List.getElem?_concat_length]
      simp [hlast, hlink]
    · rw [List.getElem?_eq_none (by simp [h.length]; omega), List.getElem?_eq_none (by simp; omega)]
      simp

/-- The records that the pieces of the output lead to, if `k` records were read before. -/
def records (stack : ℕ → SurveyInfo) : ℕ → List (List UInt8) → List SurveyInfo
  | _, [] => []
  | k, line :: ls => sscanf (stack k) line :: records stack (k + 1) ls

lemma length_records (stack : ℕ → SurveyInfo) (k : ℕ) (ls : List (List UInt8)) :
    (records stack k ls).length = ls.length := by
  induction ls generalizing k with
  | nil => rfl
  | cons line ls ih => rw [records, List.length_cons, ih, List.length_cons]

/-- What the loop that reads ends with, and that it ends. -/
lemma readLoop_holds (stack : ℕ → SurveyInfo) (fuel : ℕ) {output : List UInt8} {s : Reading}
    {recs : List SurveyInfo} (hs : s.Holds recs) :
    (∀ s', readLoop stack fuel output s = some s' →
      s'.Holds (recs ++ records stack recs.length (pieces 999 output))) ∧
      (output.length < fuel → (readLoop stack fuel output s).isSome) := by
  induction fuel generalizing output s recs with
  | zero =>
    refine ⟨fun s' h => ?_, fun h => absurd h (Nat.not_lt_zero _)⟩
    simp [readLoop] at h
  | succ fuel ih =>
    by_cases houtput : output = []
    · subst houtput
      rw [readLoop, if_pos rfl, pieces_nil]
      refine ⟨fun s' h => ?_, fun _ => rfl⟩
      obtain rfl := Option.some.inj h
      simpa [records] using hs
    · have hlt := length_fgets_lt (n := 999) (by decide) houtput
      rw [readLoop, if_neg houtput, pieces_cons (n := 999) (by decide) houtput, hs.numChannels]
      dsimp only
      have hs' := hs.insert (sscanf (stack recs.length) (fgets 999 output).1)
      obtain ⟨hresult, hend⟩ := @ih (fgets 999 output).2 _ _ hs'
      refine ⟨fun s' h => ?_, fun h => hend (by omega)⟩
      have hholds := hresult s' h
      rwa [List.append_assoc, List.length_append, List.singleton_append] at hholds

/-! ## Copying and freeing -/

/-- A list of one record is never copied: after its only record it leads to that record again. -/
lemma copyLoop_single {s : Reading} {r : SurveyInfo} (hs : s.Holds [r]) (fuel : ℕ) :
    copyLoop s.nodes fuel (some 0) 0 [none] = none := by
  have hnode : s.nodes[0]? = some ⟨r, some 0⟩ := hs.nodes 0
  rcases fuel with _ | _ | fuel
  · rfl
  · simp [copyLoop, hnode, Buffer.write]
  · simp [copyLoop, hnode, Buffer.write, Buffer.splice]

variable {s : Reading} {recs : List SurveyInfo}

lemma node_eq (hs : s.Holds recs) (hlength : recs.length ≠ 1) {k : ℕ} (hk : k < recs.length) :
    s.nodes[k]? = some ⟨recs[k], if k + 1 < recs.length then some (k + 1) else none⟩ := by
  rw [hs.nodes, List.getElem?_eq_getElem hk, Option.map_some, link, if_neg hlength]

/-- The loop copies the records from the place that it has reached. -/
lemma copyLoop_eq (hs : s.Holds recs) (hlength : recs.length ≠ 1) (fuel k : ℕ)
    {info : List (Option SurveyInfo)} (hinfo : info.length = recs.length) (hk : k ≤ recs.length)
    (hfuel : recs.length - k < fuel) :
    copyLoop s.nodes fuel (if k < recs.length then some k else none) k info =
      some (info.take k ++ (recs.drop k).map some) := by
  induction fuel generalizing k info with
  | zero => exact absurd hfuel (Nat.not_lt_zero _)
  | succ fuel ih =>
    by_cases hlt : k < recs.length
    · have hwrite : Buffer.write info k [some recs[k]] = some (info.take k ++ [some recs[k]] ++ info.drop (k + 1)) :=
        Buffer.write_eq_some (by simp; omega)
      have hcopied : (info.take k ++ [some recs[k]] ++ info.drop (k + 1)).length = recs.length := by
        simp
        omega
      rw [if_pos hlt, copyLoop, node_eq hs hlength hlt]
      simp only [Option.bind_eq_bind, Option.bind_some, hwrite]
      rw [ih (k + 1) hcopied (by omega) (by omega), List.drop_eq_getElem_cons hlt]
      have htake : (info.take k ++ [some recs[k]]).length = k + 1 := by
        simp
        omega
      rw [← htake, List.take_left]
      simp
    · obtain rfl : k = recs.length := by omega
      rw [if_neg hlt, copyLoop, List.drop_length, ← hinfo, List.take_length]
      simp

/-- The loop frees each node once. -/
lemma freeLoop_eq (hs : s.Holds recs) (hlength : recs.length ≠ 1) (fuel k : ℕ) {freed : List ℕ}
    (hfreed : ∀ p ∈ freed, p < k) (hk : k ≤ recs.length) (hfuel : recs.length - k < fuel) :
    freeLoop s.nodes fuel (if k < recs.length then some k else none) freed =
      some ((List.range' k (recs.length - k)).reverse ++ freed) := by
  induction fuel generalizing k freed with
  | zero => exact absurd hfuel (Nat.not_lt_zero _)
  | succ fuel ih =>
    by_cases hlt : k < recs.length
    · rw [if_pos hlt, freeLoop, if_neg fun hmem => lt_irrefl k (hfreed k hmem), node_eq hs hlength hlt]
      simp only [Option.bind_eq_bind, Option.bind_some]
      rw [ih (k + 1) ?_ (by omega) (by omega)]
      · obtain ⟨n, hn⟩ : ∃ n, recs.length - k = n + 1 := ⟨recs.length - k - 1, by omega⟩
        have hn' : recs.length - (k + 1) = n := by omega
        rw [hn, hn', List.range'_succ, List.reverse_cons, List.append_assoc, List.singleton_append]
      · intro p hp
        rcases List.mem_cons.mp hp with rfl | hp
        · exact Nat.lt_succ_self _
        · exact (hfreed p hp).trans (Nat.lt_succ_self _)
    · obtain rfl : k = recs.length := by omega
      rw [if_neg hlt, freeLoop]
      simp

/-! ## The survey -/

lemma length_parsed_le (n : ℕ) (txt : List UInt8) : (parsed n txt).length ≤ n := by
  fun_induction parsed n txt with
  | case1 => exact le_rfl
  | case2 => exact Nat.zero_le _
  | case3 n txt v rest hscan ih => exact Nat.succ_le_succ ih

/-- The values of a line are in the arguments of `sscanf` that come first. -/
lemma parsed_prefix_sscanf (survey : SurveyInfo) (line : List UInt8) :
    parsed 8 line <+: (sscanf survey line).values := by
  have hle := length_parsed_le 8 line
  unfold sscanf SurveyInfo.values
  generalize parsed 8 line = vs at hle
  rw [List.prefix_iff_eq_take]
  refine List.ext_getElem? fun i => ?_
  by_cases hi : i < vs.length
  · rw [List.getElem?_take_of_lt hi]
    have hlt : i < 8 := hi.trans_le hle
    interval_cases i <;> simp [hi]
  · rw [List.getElem?_eq_none (not_lt.mp hi), List.getElem?_take_eq_none (not_lt.mp hi)]

/-- The place of the array holds what was parsed from the line. -/
def HoldsLine (line : List UInt8) (cell : Option SurveyInfo) : Prop :=
  ∃ survey, cell = some survey ∧ parsed 8 line <+: survey.values

/-- The function returns: `NULL` for no lines, and else a record for each line. -/
def Surveyed (stack : ℕ → SurveyInfo) (output : List UInt8) : Prop :=
  ∃ fuel result, getSurveyInfo stack fuel output = some result ∧
    (lines output = [] → result = none) ∧
    (lines output ≠ [] → ∃ dump, result = some dump ∧ dump.numChan = (lines output).length ∧
      List.Forall₂ HoldsLine (lines output) dump.info)

lemma forall₂_records (stack : ℕ → SurveyInfo) (k : ℕ) (ls : List (List UInt8)) :
    List.Forall₂ HoldsLine ls ((records stack k ls).map some) := by
  induction ls generalizing k with
  | nil => exact List.Forall₂.nil
  | cons line ls ih => exact List.Forall₂.cons ⟨_, rfl, parsed_prefix_sscanf _ _⟩ (ih (k + 1))

/-- The function returns a record for each piece of a line that was read, unless there is only one. -/
lemma getSurveyInfo_eq_some {stack : ℕ → SurveyInfo} {output : List UInt8} (hone : (pieces 999 output).length ≠ 1) :
    ∃ fuel, getSurveyInfo stack fuel output = some (if pieces 999 output = [] then none
      else some ⟨(pieces 999 output).length, (records stack 0 (pieces 999 output)).map some⟩) := by
  set fuel := output.length + (pieces 999 output).length + 1 with hfuel
  obtain ⟨hresult, hend⟩ := @readLoop_holds stack fuel output _ _ holds_start
  obtain ⟨s, hs⟩ := Option.isSome_iff_exists.mp (hend (by omega))
  have hholds := hresult s hs
  rw [List.nil_append, List.length_nil] at hholds
  have hlength := length_records stack 0 (pieces 999 output)
  set recs := records stack 0 (pieces 999 output) with hrecs
  have hnil : recs = [] ↔ pieces 999 output = [] := by
    rw [← List.length_eq_zero_iff, hlength, List.length_eq_zero_iff]
  have hnew : s.newSurvey = if 0 < recs.length then some 0 else none := by
    rw [hholds.newSurvey, ← ite_not]
    exact if_congr List.length_pos_iff.symm rfl rfl
  have hfreed : ∀ p ∈ ([] : List ℕ), p < 0 := fun p hp => absurd hp (List.not_mem_nil)
  have hfree := freeLoop_eq hholds (by omega) fuel 0 hfreed (Nat.zero_le _) (by omega)
  refine ⟨fuel, ?_⟩
  unfold getSurveyInfo copySurvey
  rw [hs, Option.bind_eq_bind, Option.bind_some, hholds.numChannels, hnew]
  by_cases hempty : pieces 999 output = []
  · have hzero : recs.length = 0 := by rw [hnil.mpr hempty, List.length_nil]
    rw [if_neg (by omega)] at hfree
    rw [if_pos hempty, if_neg (by omega), if_neg (by omega)]
    simp [hfree]
  · have hpos : 0 < recs.length := List.length_pos_iff.mpr (mt hnil.mp hempty)
    have hcopy := copyLoop_eq hholds (by omega) fuel 0 (List.length_replicate (a := none)) (Nat.zero_le _) (by omega)
    rw [if_pos hpos] at hfree hcopy
    rw [if_neg hempty, if_pos hpos, if_pos hpos, ← hlength]
    simp [hfree, hcopy]

/-- What is returned has as many records as pieces were read, and never one. -/
lemma numChan_of_getSurveyInfo {stack : ℕ → SurveyInfo} {fuel : ℕ} {output : List UInt8}
    {result : Option SurveyInfoDump} (h : getSurveyInfo stack fuel output = some result) :
    (pieces 999 output).length ≠ 1 ∧ ∀ dump, result = some dump → dump.numChan = (pieces 999 output).length := by
  unfold getSurveyInfo at h
  rw [Option.bind_eq_bind, Option.bind_eq_some_iff] at h
  obtain ⟨s, hs, h⟩ := h
  have hholds := (readLoop_holds stack fuel holds_start).1 s hs
  rw [List.nil_append, List.length_nil] at hholds
  have hlength := length_records stack 0 (pieces 999 output)
  rw [copySurvey, hholds.numChannels, hlength, Option.bind_eq_bind, Option.bind_eq_some_iff] at h
  obtain ⟨r, hr, h⟩ := h
  rw [Option.bind_eq_bind, Option.bind_eq_some_iff] at h
  obtain ⟨freed, -, h⟩ := h
  obtain rfl : r = result := Option.some.inj h
  constructor
  · intro hone
    obtain ⟨r', hrec⟩ := List.length_eq_one_iff.mp (hlength.trans hone)
    rw [hrec] at hholds
    rw [if_pos (by omega), hone, hholds.newSurvey, if_neg (by simp)] at hr
    have hnone := copyLoop_single hholds fuel
    rw [List.replicate_one, hnone] at hr
    simp at hr
  · rintro dump rfl
    split_ifs at hr with hpos
    · obtain ⟨info, -, hr⟩ := Option.map_eq_some_iff.mp hr
      obtain rfl := Option.some.inj hr
      rfl
    · exact absurd (Option.some.inj hr) (by simp)

/-- The function does what it is for exactly if the output has no line or at least two, none of which is
too long for the buffer. -/
theorem surveyed_iff (stack : ℕ → SurveyInfo) (output : List UInt8) :
    Surveyed stack output ↔ (lines output).length ≠ 1 ∧ ∀ l ∈ lines output, l.length < 1000 := by
  rcases pieces_lines (n := 999) (by decide) output with ⟨hshort, hpieces⟩ | ⟨⟨l, hl, hlong⟩, hmore⟩
  · rw [and_iff_left fun l hl => Nat.lt_succ_of_le (hshort l hl)]
    constructor
    · rintro ⟨fuel, result, hrun, -⟩
      rw [← hpieces]
      exact (numChan_of_getSurveyInfo hrun).1
    · intro hone
      rw [← hpieces] at hone
      obtain ⟨fuel, hrun⟩ := @getSurveyInfo_eq_some stack output hone
      refine ⟨fuel, _, hrun, fun hempty => ?_, fun hne => ?_⟩
      · rw [hpieces, if_pos hempty]
      · rw [hpieces, if_neg hne]
        exact ⟨_, rfl, rfl, forall₂_records stack 0 _⟩
  · refine iff_of_false ?_ fun h => absurd (h.2 l hl) (by omega)
    rintro ⟨fuel, result, hrun, -, hdump⟩
    have hne : lines output ≠ [] := List.ne_nil_of_mem hl
    obtain ⟨dump, hresult, hnum, -⟩ := hdump hne
    have hpieces := (numChan_of_getSurveyInfo hrun).2 dump hresult
    omega

/-- One line, a newline: the list of one record has no end. -/
theorem surveyed_single : ¬∀ (stack : ℕ → SurveyInfo) (output : List UInt8), Surveyed stack output := by
  intro h
  obtain ⟨fuel, result, hrun, -⟩ := h (fun _ => ⟨0, 0, 0, 0, 0, 0, 0, 0⟩) [10]
  exact (numChan_of_getSurveyInfo hrun).1 rfl

end Survey

end Ethanol
