import EthanolHostapd.Messaging.Fields
import EthanolHostapd.Utils.Common

/-!
# Type-of-service rules

`msg_tos.c`.  A request to add or to replace a rule names an interface, a protocol, a class of traffic and up to four
things to match; for each of two chains the handler composes a command line for `iptables` and runs it.

The matches are written one behind the other into `match`, with nothing between them.
-/

namespace Ethanol

open Wire

/-! ## The code -/

/-- The characters of a literal. -/
def ascii (s : String) : List UInt8 := s.toList.map fun c => UInt8.ofNat c.toNat

/-- `struct msg_tos`. -/
structure MsgTos where
  mType : Int32
  mId : Int32
  pVersion : Option CString
  mSize : Int32
  ruleId : Int32
  intfName : Option CString
  proto : Option CString
  sip : Option CString
  sport : Option CString
  dip : Option CString
  dport : Option CString
  wmmClass : Int32
  deriving DecidableEq

/-- `size_msg_send_tos`. -/
def sizeMsgSendTos (h : MsgTos) : Int32 :=
  Int32.ofInt (4 + 4 + (strlenEthanol h.pVersion).toInt + 4 + 4 + (strlenEthanol h.intfName).toInt +
    (strlenEthanol h.proto).toInt + (strlenEthanol h.sip).toInt + (strlenEthanol h.sport).toInt +
    (strlenEthanol h.dip).toInt + (strlenEthanol h.dport).toInt + 4)

/-- `encode_msg_send_tos`. -/
def encodeMsgSendTos (h : MsgTos) : Encoded :=
  let bufLen := sizeMsgSendTos h
  let aux := Out.ofBytes []
  let aux := encodeHeader aux h.mType h.mId bufLen -- h->m_size = *buf_len
  let aux := encodeInt aux h.ruleId
  let aux := encodeChar aux h.intfName
  let aux := encodeChar aux h.proto
  let aux := encodeChar aux h.sip
  let aux := encodeChar aux h.sport
  let aux := encodeChar aux h.dip
  let aux := encodeChar aux h.dport
  ⟨bufLen, encodeInt aux h.wmmClass⟩

/-- `decode_msg_send_tos`. -/
def decodeMsgSendTos : Decoder MsgTos := do
  let header ← decodeHeader
  let ruleId ← decodeInt
  let intfName ← decodeChar
  let proto ← decodeChar
  let sip ← decodeChar
  let sport ← decodeChar
  let dip ← decodeChar
  let dport ← decodeChar
  let wmmClass ← decodeInt
  pure {
    mType := header.mType, mId := header.mId, pVersion := header.mVersion, mSize := header.mSize, ruleId, intfName,
    proto, sip, sport, dip, dport, wmmClass }

/-- `AC_BK`. -/
def acBk : ℤ := 32

/-- `AC_BE`. -/
def acBe : ℤ := 96

/-- `AC_VI`. -/
def acVi : ℤ := 128

/-- `AC_VO`. -/
def acVo : ℤ := 224

/-- The `switch` at the start of `issue_command_tos`. -/
def tosOfClass (wmmClass : Int32) : ℤ :=
  match wmmClass.toInt with
  | 0 | 3 => acBe
  | 1 | 2 => acBk
  | 4 | 5 => acVi
  | 6 | 7 => acVo
  | _ => acBe

/-- The two buffers of `issue_command_tos` while `match` is composed: the text in `match`, and where each write to a
buffer ended. -/
structure TosMatch where
  text : List UInt8
  matchEnds : List ℕ
  bufferEnds : List ℕ

/-- `MATCH_SIZE`. -/
def matchSize : ℕ := 512

/-- One of the four pieces of `match`, with `sprintf (buffer, "OPTION %s", value)` and `strcat (match, buffer)`. -/
def TosMatch.add (option : List UInt8) (value : Option CString) (m : TosMatch) : TosMatch :=
  match value with
  | none => m
  | some value =>
    let buffer := option ++ 32 :: value.chars
    { text := m.text ++ buffer
      matchEnds := m.matchEnds ++ [(m.text ++ buffer).length + 1]
      bufferEnds := m.bufferEnds ++ [buffer.length + 1] }

/-- A command that is run: its text, and where the writes to the two buffers ended. -/
structure TosCommand where
  text : List UInt8
  matchEnds : List ℕ
  bufferEnds : List ℕ

/-- `issue_command_tos`, with the format `FMT_CMD_TOS`. -/
def issueCommandTos (action iptables : List UInt8) (intfName proto : CString) (h : MsgTos) : TosCommand :=
  let m : TosMatch := ⟨[], [matchSize], []⟩ -- memset
  let m := m.add (ascii "-d") h.dip
  let m := m.add (ascii "--dport") h.dport
  let m := m.add (ascii "-s") h.sip
  let m := m.add (ascii "--sport") h.sport
  let buffer := ascii "sudo " ++ iptables ++ ascii " -t mangle " ++ action ++ ascii " " ++ intfName.chars ++
    ascii " -p " ++ proto.chars ++ ascii " " ++ m.text ++ ascii " -j TOS --set-tos " ++ decimal (tosOfClass h.wmmClass)
  ⟨buffer, m.matchEnds, m.bufferEnds ++ [buffer.length + 1]⟩

/-- The commands of a decoded message for the given actions. -/
def tosCommands (iptables : List UInt8) (actions : List (List UInt8)) (h : MsgTos) : List TosCommand :=
  match h.intfName, h.proto with
  | some intfName, some proto => actions.map fun action => issueCommandTos action iptables intfName proto h
  | _, _ => []

/-- The two handlers. -/
inductive TosRule
  | add | replace

/-- The `action` arguments of a handler. -/
def TosRule.actions (ruleId : Int32) : TosRule → List (List UInt8)
  | add => [ascii "-A OUTPUT -o", ascii "-A PREROUTING -i"]
  | replace =>
    [ascii "-R OUTPUT " ++ decimal ruleId.toInt ++ ascii " -o",
      ascii "-R PREROUTING " ++ decimal ruleId.toInt ++ ascii " -i"]

/-- `process_msg_tos_add`: the commands that it runs. -/
def processMsgTosAdd (iptables : List UInt8) (input : Memory) : List TosCommand :=
  let h := (decodeMsgSendTos input Cursor.start).1
  tosCommands iptables (TosRule.add.actions h.ruleId) h

/-- `process_msg_tos_replace`: the commands that it runs. -/
def processMsgTosReplace (iptables : List UInt8) (input : Memory) : List TosCommand :=
  let h := (decodeMsgSendTos input Cursor.start).1
  tosCommands iptables (TosRule.replace.actions h.ruleId) h

/-- What the handler of a rule runs. -/
def TosRule.process (iptables : List UInt8) (input : Memory) : TosRule → List TosCommand
  | add => processMsgTosAdd iptables input
  | replace => processMsgTosReplace iptables input

/-- The message that the two handlers decode. -/
def receivedTos (input : Memory) : MsgTos := (decodeMsgSendTos input Cursor.start).1

/-! ## What the command says -/

/-- The options of the command that take a value. -/
def valueOptions : List (List UInt8) :=
  [ascii "-t", ascii "-A", ascii "-R", ascii "-o", ascii "-i", ascii "-p", ascii "-j", ascii "--set-tos", ascii "-d",
    ascii "--dport", ascii "-s", ascii "--sport"]

/-- The options that match an address or a port. -/
def matchOptions : List (List UInt8) := [ascii "-d", ascii "--dport", ascii "-s", ascii "--sport"]

local instance lawfulBEq_word : LawfulBEq (List UInt8) := List.instLawfulBEq

/-- The options among the words of a command line, with their values. -/
def optionValues : List (List UInt8) → List (List UInt8 × List UInt8)
  | [] => []
  | [_] => []
  | w :: v :: ws => if w ∈ valueOptions then (w, v) :: optionValues ws else optionValues (v :: ws)

namespace TosCommand

/-- The option pairs of the command that match an address or a port.  The first two words are `sudo` and the
program. -/
def matchPairs (c : TosCommand) : List (List UInt8 × List UInt8) :=
  (optionValues ((c.text.splitOn 32).drop 2)).filter fun p => p.1 ∈ matchOptions

/-- No write exceeds its buffer. -/
def InBuffers (c : TosCommand) : Prop := (∀ e ∈ c.matchEnds, e ≤ matchSize) ∧ ∀ e ∈ c.bufferEnds, e ≤ 2 * matchSize

end TosCommand

namespace MsgTos

/-- The option pairs for the fields that are present. -/
def present (h : MsgTos) : List (List UInt8 × List UInt8) :=
  (h.dip.map fun v => (ascii "-d", v.chars)).toList ++ (h.dport.map fun v => (ascii "--dport", v.chars)).toList ++
    (h.sip.map fun v => (ascii "-s", v.chars)).toList ++ (h.sport.map fun v => (ascii "--sport", v.chars)).toList

/-- The length of the match. -/
def matchLength (h : MsgTos) : ℕ := (h.present.map fun p => p.1.length + 1 + p.2.length).sum

/-- The length of a command. -/
def commandLength (h : MsgTos) (action iptables : List UInt8) (intfName proto : CString) : ℕ :=
  40 + iptables.length + action.length + intfName.chars.length + proto.chars.length + h.matchLength +
    (decimal (tosOfClass h.wmmClass)).length

/-- No string of the message has white space in it. -/
def NoWhiteSpace (h : MsgTos) : Prop :=
  ∀ s ∈ [h.intfName, h.proto, h.sip, h.sport, h.dip, h.dport], ∀ t ∈ s, ∀ c ∈ t.chars, isspace c = false

end MsgTos

/-- The program, as `which_path` finds it: a path with no blank in it. -/
structure IptablesPath where
  text : List UInt8
  blank_free : (32 : UInt8) ∉ text

/-! ## The text -/

lemma optionValues_option {w v : List UInt8} {ws : List (List UInt8)} (h : w ∈ valueOptions) :
    optionValues (w :: v :: ws) = (w, v) :: optionValues ws := by
  rw [optionValues, if_pos h]

lemma optionValues_word {w : List UInt8} {ws : List (List UInt8)} (h : w ∉ valueOptions) :
    optionValues (w :: ws) = optionValues ws := by
  cases ws with
  | nil => rfl
  | cons v ws => rw [optionValues, if_neg h]

/-- The pieces of `match`, one behind the other. -/
def matchText (h : MsgTos) : List UInt8 := h.present.flatMap fun p => p.1 ++ 32 :: p.2

lemma text_add (option : List UInt8) (value : Option CString) (m : TosMatch) :
    (m.add option value).text =
      m.text ++ ((value.map fun v => (option, v.chars)).toList.flatMap fun p => p.1 ++ 32 :: p.2) := by
  cases value with
  | none => simp [TosMatch.add]
  | some v => simp [TosMatch.add]

/-- The command is made of words, with one blank between two of them. -/
lemma text_issueCommandTos (action iptables : List UInt8) (intfName proto : CString) (h : MsgTos) :
    (issueCommandTos action iptables intfName proto h).text =
      ascii "sudo" ++ 32 :: (iptables ++ 32 :: (ascii "-t" ++ 32 :: (ascii "mangle" ++ 32 :: (action ++ 32 ::
        (intfName.chars ++ 32 :: (ascii "-p" ++ 32 :: (proto.chars ++ 32 :: (matchText h ++ 32 :: (ascii "-j" ++ 32 ::
          (ascii "TOS" ++ 32 :: (ascii "--set-tos" ++ 32 :: decimal (tosOfClass h.wmmClass)))))))))))) := by
  simp only [issueCommandTos, text_add, matchText, MsgTos.present, List.flatMap_append]
  simp [ascii]

lemma blank_notMem_decimal (i : ℤ) : (32 : UInt8) ∉ decimal i := by
  intro h
  have hblank : (32 : UInt8).toNat = 32 := by decide
  have hrange := toNat_of_mem_decimal h
  omega

/-- A number is not taken for an option: each option has a letter in it. -/
lemma decimal_notMem_valueOptions (i : ℤ) : decimal i ∉ valueOptions := by
  intro h
  have hletter : ∀ w ∈ valueOptions, ∃ c ∈ w, 57 < c.toNat := by decide
  obtain ⟨c, hc, hlt⟩ := hletter _ h
  have hrange := toNat_of_mem_decimal hc
  omega

lemma blank_notMem_chars {h : MsgTos} (hplain : h.NoWhiteSpace) {s : Option CString} {t : CString}
    (hs : s ∈ [h.intfName, h.proto, h.sip, h.sport, h.dip, h.dport]) (ht : t ∈ s) : (32 : UInt8) ∉ t.chars := by
  intro hmem
  have hspace := hplain s hs t ht 32 hmem
  exact absurd hspace (by decide)

/-- The values that are matched have no blank in them either. -/
lemma blank_notMem_present {h : MsgTos} (hplain : h.NoWhiteSpace) {p : List UInt8 × List UInt8} (hp : p ∈ h.present) :
    p.1 ∈ matchOptions ∧ (32 : UInt8) ∉ p.2 := by
  have hvalue := fun {s : Option CString} {t : CString} => blank_notMem_chars hplain (s := s) (t := t)
  simp only [MsgTos.present, List.mem_append, Option.mem_toList, Option.map_eq_some_iff] at hp
  rcases hp with ((⟨t, ht, rfl⟩ | ⟨t, ht, rfl⟩) | ⟨t, ht, rfl⟩) | ⟨t, ht, rfl⟩
  · exact ⟨by simp [matchOptions], hvalue (s := h.dip) (by simp) ht⟩
  · exact ⟨by simp [matchOptions], hvalue (s := h.dport) (by simp) ht⟩
  · exact ⟨by simp [matchOptions], hvalue (s := h.sip) (by simp) ht⟩
  · exact ⟨by simp [matchOptions], hvalue (s := h.sport) (by simp) ht⟩

/-! ## The words of a command -/

lemma splitOn_word {w rest : List UInt8} (h : (32 : UInt8) ∉ w) :
    (w ++ 32 :: rest).splitOn 32 = w :: rest.splitOn 32 :=
  List.splitOn_append_cons_self_of_not_mem h rest

/-- The words of a command of a rule whose strings are plain. -/
lemma words_issueCommandTos (action : List UInt8) (iptables : IptablesPath) {intfName proto : CString} {h : MsgTos}
    (hintf : (32 : UInt8) ∉ intfName.chars) (hproto : (32 : UInt8) ∉ proto.chars) :
    ((issueCommandTos action iptables.text intfName proto h).text.splitOn 32).drop 2 =
      ascii "-t" :: ascii "mangle" :: (action.splitOn 32 ++ intfName.chars :: ascii "-p" :: proto.chars ::
        ((matchText h).splitOn 32 ++ [ascii "-j", ascii "TOS", ascii "--set-tos", decimal (tosOfClass h.wmmClass)])) := by
  rw [text_issueCommandTos, splitOn_word (by decide), splitOn_word iptables.blank_free, splitOn_word (by decide),
    splitOn_word (by decide), List.splitOn_append_cons_self, splitOn_word hintf, splitOn_word (by decide),
    splitOn_word hproto, List.splitOn_append_cons_self, splitOn_word (by decide), splitOn_word (by decide),
    splitOn_word (by decide), List.splitOn_eq_singleton (blank_notMem_decimal _)]
  rfl

/-- The action asks for no address and no port, and its last option takes the interface. -/
lemma optionValues_action {rule : TosRule} {ruleId : Int32} {action : List UInt8} (h : action ∈ rule.actions ruleId)
    (intfName : List UInt8) (ws : List (List UInt8)) :
    ∃ pairs, optionValues (action.splitOn 32 ++ intfName :: ws) = pairs ++ optionValues ws ∧
      ∀ p ∈ pairs, p.1 ∉ matchOptions := by
  have hreplace (chain last : List UInt8) (hchain : (32 : UInt8) ∉ chain) (hblank : (32 : UInt8) ∉ last)
      (hlast : last ∈ valueOptions) (hmatch : last ∉ matchOptions) :
      ∃ pairs, optionValues ((ascii "-R" ++ 32 :: (chain ++ 32 :: (decimal ruleId.toInt ++ 32 :: last))).splitOn 32 ++
        intfName :: ws) = pairs ++ optionValues ws ∧ ∀ p ∈ pairs, p.1 ∉ matchOptions := by
    refine ⟨[(ascii "-R", chain), (last, intfName)], ?_, ?_⟩
    · rw [splitOn_word (by decide), splitOn_word hchain, splitOn_word (blank_notMem_decimal _),
        List.splitOn_eq_singleton hblank]
      simp only [List.cons_append, List.nil_append]
      rw [optionValues_option (by decide), optionValues_word (decimal_notMem_valueOptions _),
        optionValues_option hlast]
    · simp [hmatch]
      decide
  have hadd (chain last : List UInt8) (hchain : (32 : UInt8) ∉ chain) (hblank : (32 : UInt8) ∉ last)
      (hlast : last ∈ valueOptions) (hmatch : last ∉ matchOptions) :
      ∃ pairs, optionValues ((ascii "-A" ++ 32 :: (chain ++ 32 :: last)).splitOn 32 ++ intfName :: ws) =
        pairs ++ optionValues ws ∧ ∀ p ∈ pairs, p.1 ∉ matchOptions := by
    refine ⟨[(ascii "-A", chain), (last, intfName)], ?_, ?_⟩
    · rw [splitOn_word (by decide), splitOn_word hchain, List.splitOn_eq_singleton hblank]
      simp only [List.cons_append, List.nil_append]
      rw [optionValues_option (by decide), optionValues_option hlast]
    · simp [hmatch]
      decide
  cases rule with
  | add =>
    rcases List.mem_pair.mp h with rfl | rfl
    · exact hadd (ascii "OUTPUT") (ascii "-o") (by decide) (by decide) (by decide) (by decide)
    · exact hadd (ascii "PREROUTING") (ascii "-i") (by decide) (by decide) (by decide) (by decide)
  | replace =>
    rcases List.mem_pair.mp h with rfl | rfl
    · have := hreplace (ascii "OUTPUT") (ascii "-o") (by decide) (by decide) (by decide) (by decide)
      simpa [ascii] using this
    · have := hreplace (ascii "PREROUTING") (ascii "-i") (by decide) (by decide) (by decide) (by decide)
      simpa [ascii] using this

/-- What matches an address or a port comes from the text of the match. -/
lemma matchPairs_issueCommandTos {rule : TosRule} {ruleId : Int32} {action : List UInt8}
    (haction : action ∈ rule.actions ruleId) (iptables : IptablesPath) {intfName proto : CString} {h : MsgTos}
    (hintf : (32 : UInt8) ∉ intfName.chars) (hproto : (32 : UInt8) ∉ proto.chars) :
    (issueCommandTos action iptables.text intfName proto h).matchPairs =
      (optionValues ((matchText h).splitOn 32 ++
        [ascii "-j", ascii "TOS", ascii "--set-tos", decimal (tosOfClass h.wmmClass)])).filter
          fun p => p.1 ∈ matchOptions := by
  obtain ⟨pairs, hpairs, hnone⟩ := optionValues_action haction intfName.chars (ascii "-p" :: proto.chars ::
    ((matchText h).splitOn 32 ++ [ascii "-j", ascii "TOS", ascii "--set-tos", decimal (tosOfClass h.wmmClass)]))
  have hfilter : (pairs.filter fun p => p.1 ∈ matchOptions) = [] := by
    apply List.filter_eq_nil_iff.mpr
    intro p hp
    simpa using hnone p hp
  have hp : ascii "-p" ∉ matchOptions := by decide
  rw [TosCommand.matchPairs, words_issueCommandTos action iptables hintf hproto, optionValues_option (by decide),
    hpairs, optionValues_option (by decide), List.filter_cons_of_neg (by decide), List.filter_append, hfilter,
    List.nil_append, List.filter_cons_of_neg (by simpa using hp)]

/-- What follows the match holds no address and no port. -/
lemma filter_optionValues_jump (wmmClass : Int32) :
    ((optionValues [ascii "-j", ascii "TOS", ascii "--set-tos", decimal (tosOfClass wmmClass)]).filter
      fun p => p.1 ∈ matchOptions) = [] := by
  have hset : ascii "--set-tos" ∉ matchOptions := by decide
  rw [optionValues_option (by decide), optionValues_option (by decide), List.filter_cons_of_neg (by decide),
    List.filter_cons_of_neg (by simpa using hset)]
  rfl

lemma matchOptions_subset {o : List UInt8} (h : o ∈ matchOptions) : o ∈ valueOptions ∧ (32 : UInt8) ∉ o := by
  have hall : ∀ o ∈ matchOptions, o ∈ valueOptions ∧ (32 : UInt8) ∉ o := by decide
  exact hall o h

/-- A command matches what the message asks for as long as that is one thing.  From the second piece on, its option is
glued to the value before it. -/
lemma matchPairs_eq_present_iff {rule : TosRule} {ruleId : Int32} {action : List UInt8}
    (haction : action ∈ rule.actions ruleId) (iptables : IptablesPath) {intfName proto : CString} {h : MsgTos}
    (hplain : h.NoWhiteSpace) (hintf : h.intfName = some intfName) (hproto : h.proto = some proto) :
    (issueCommandTos action iptables.text intfName proto h).matchPairs = h.present ↔ h.present.length ≤ 1 := by
  rw [matchPairs_issueCommandTos haction iptables (blank_notMem_chars hplain (by simp) hintf)
    (blank_notMem_chars hplain (s := h.proto) (by simp) hproto), matchText]
  have hpresent := fun p => blank_notMem_present hplain (p := p)
  rcases hlist : h.present with _ | ⟨⟨o, v⟩, _ | ⟨⟨o', v'⟩, rest⟩⟩
  · have hnone : ([] : List UInt8) ∉ valueOptions := by decide
    simp only [List.flatMap_nil, List.splitOn_nil, List.cons_append, List.nil_append, List.length_nil]
    rw [optionValues_word hnone, filter_optionValues_jump]
    simp
  · obtain ⟨ho, hv⟩ := hpresent (o, v) (by simp [hlist])
    obtain ⟨hoption, hblank⟩ := matchOptions_subset ho
    simp only [List.flatMap_cons, List.flatMap_nil, List.append_nil]
    rw [splitOn_word hblank, List.splitOn_eq_singleton hv, List.cons_append, List.cons_append, List.nil_append,
      optionValues_option hoption, List.filter_cons_of_pos (by simpa using ho), filter_optionValues_jump]
    simp
  · obtain ⟨ho, hv⟩ := hpresent (o, v) (by simp [hlist])
    obtain ⟨ho', -⟩ := hpresent (o', v') (by simp [hlist])
    obtain ⟨hoption, hblank⟩ := matchOptions_subset ho
    obtain ⟨-, hblank'⟩ := matchOptions_subset ho'
    have hglued : (32 : UInt8) ∉ v ++ o' := by
      intro hmem
      rcases List.mem_append.mp hmem with hmem | hmem
      · exact hv hmem
      · exact hblank' hmem
    have htext : (((o, v) :: (o', v') :: rest).flatMap fun p => p.1 ++ 32 :: p.2) =
        o ++ 32 :: ((v ++ o') ++ 32 :: (v' ++ rest.flatMap fun p => p.1 ++ 32 :: p.2)) := by simp
    rw [htext, splitOn_word hblank, splitOn_word hglued, List.cons_append, List.cons_append,
      optionValues_option hoption, List.filter_cons_of_pos (by simpa using ho)]
    -- the first value has swallowed the second option
    have hne : v ++ o' ≠ v := by
      intro heq
      have hnil : o' = [] := List.append_right_eq_self.mp heq
      have hnonempty : ([] : List UInt8) ∉ matchOptions := by decide
      exact hnonempty (hnil ▸ ho')
    simp [hne]

/-! ## The two buffers -/

/-- The writes to the two buffers have stayed inside. -/
def TosMatch.Fits (m : TosMatch) : Prop :=
  (∀ e ∈ m.matchEnds, e ≤ matchSize) ∧ ∀ e ∈ m.bufferEnds, e ≤ 2 * matchSize

/-- The text only grows, so that its last end decides. -/
lemma fits_add {m : TosMatch} (hm : m.Fits ↔ m.text.length < matchSize) (option : List UInt8) (value : Option CString) :
    (m.add option value).Fits ↔ (m.add option value).text.length < matchSize := by
  cases value with
  | none => exact hm
  | some value =>
    have hends : (m.add option (some value)).Fits ↔ m.Fits ∧
        (m.text ++ (option ++ 32 :: value.chars)).length + 1 ≤ matchSize ∧
        (option ++ 32 :: value.chars).length + 1 ≤ 2 * matchSize := by
      simp only [TosMatch.Fits, TosMatch.add, List.forall_mem_append, List.forall_mem_singleton]
      tauto
    rw [hends, hm]
    simp only [TosMatch.add, matchSize, List.length_append]
    omega

lemma length_matchText (h : MsgTos) : (matchText h).length = h.matchLength := by
  rw [matchText, MsgTos.matchLength, List.length_flatMap]
  apply congrArg List.sum
  apply List.map_congr_left
  intro p _
  simp only [List.length_append, List.length_cons]
  omega

lemma length_issueCommandTos (action iptables : List UInt8) (intfName proto : CString) (h : MsgTos) :
    (issueCommandTos action iptables intfName proto h).text.length = h.commandLength action iptables intfName proto := by
  have hascii (s : String) : (ascii s).length = s.length := by
    rw [ascii, List.length_map, String.length_toList]
  rw [text_issueCommandTos, MsgTos.commandLength, ← length_matchText]
  simp only [List.length_append, List.length_cons, hascii]
  have : "sudo".length = 4 ∧ "-t".length = 2 ∧ "mangle".length = 6 ∧ "-p".length = 2 ∧ "-j".length = 2 ∧
      "TOS".length = 3 ∧ "--set-tos".length = 9 := by decide
  omega

lemma inBuffers_issueCommandTos (action iptables : List UInt8) (intfName proto : CString) (h : MsgTos) :
    (issueCommandTos action iptables intfName proto h).InBuffers ↔
      h.matchLength < matchSize ∧ h.commandLength action iptables intfName proto < 2 * matchSize := by
  let m : TosMatch :=
    ((((⟨[], [matchSize], []⟩ : TosMatch).add (ascii "-d") h.dip).add (ascii "--dport") h.dport).add (ascii "-s")
      h.sip).add (ascii "--sport") h.sport
  have hstart : (⟨[], [matchSize], []⟩ : TosMatch).Fits ↔ ([] : List UInt8).length < matchSize := by
    simp [TosMatch.Fits, matchSize]
  have hfits : m.Fits ↔ m.text.length < matchSize := fits_add (fits_add (fits_add (fits_add hstart _ _) _ _) _ _) _ _
  have htext : m.text = matchText h := by
    simp only [m, text_add, matchText, MsgTos.present, List.flatMap_append, List.nil_append]
  have hends : (issueCommandTos action iptables intfName proto h).InBuffers ↔
      m.Fits ∧ (issueCommandTos action iptables intfName proto h).text.length + 1 ≤ 2 * matchSize := by
    have hmatch : (issueCommandTos action iptables intfName proto h).matchEnds = m.matchEnds := rfl
    have hbuffer : (issueCommandTos action iptables intfName proto h).bufferEnds =
      m.bufferEnds ++ [(issueCommandTos action iptables intfName proto h).text.length + 1] := rfl
    rw [TosCommand.InBuffers, TosMatch.Fits, hmatch, hbuffer, List.forall_mem_append, List.forall_mem_singleton]
    exact and_assoc.symm
  rw [hends, hfits, htext, length_matchText, length_issueCommandTos]
  exact Iff.rfl

/-! ## Which requests are carried out -/

/-- A request is carried out as it says if and only if it asks for at most one match, and the strings are short
enough. -/
theorem tos_iff (iptables : IptablesPath) (rule : TosRule) (input : Memory)
    (hplain : (receivedTos input).NoWhiteSpace) :
    (∀ c ∈ rule.process iptables.text input, c.matchPairs = (receivedTos input).present ∧ c.InBuffers) ↔
      ∀ intfName ∈ (receivedTos input).intfName, ∀ proto ∈ (receivedTos input).proto,
        (receivedTos input).present.length ≤ 1 ∧ (receivedTos input).matchLength < matchSize ∧
        ∀ action ∈ rule.actions (receivedTos input).ruleId,
          (receivedTos input).commandLength action iptables.text intfName proto < 2 * matchSize := by
  have hprocess : rule.process iptables.text input =
      tosCommands iptables.text (rule.actions (receivedTos input).ruleId) (receivedTos input) := by
    cases rule <;> rfl
  rw [hprocess]
  generalize receivedTos input = h at hplain ⊢
  rcases hintf : h.intfName with _ | intfName
  · simp [tosCommands, hintf]
  rcases hproto : h.proto with _ | proto
  · simp [tosCommands, hintf, hproto]
  have hcommand : ∀ action ∈ rule.actions h.ruleId,
      ((issueCommandTos action iptables.text intfName proto h).matchPairs = h.present ∧
        (issueCommandTos action iptables.text intfName proto h).InBuffers ↔
      h.present.length ≤ 1 ∧ h.matchLength < matchSize ∧
        h.commandLength action iptables.text intfName proto < 2 * matchSize) := by
    intro action haction
    rw [matchPairs_eq_present_iff haction iptables hplain hintf hproto, inBuffers_issueCommandTos]
  obtain ⟨first, hfirst⟩ : ∃ action, action ∈ rule.actions h.ruleId := by
    cases rule with
    | add => exact ⟨_, List.mem_cons_self⟩
    | replace => exact ⟨_, List.mem_cons_self⟩
  simp only [tosCommands, hintf, hproto, List.forall_mem_map, Option.mem_def, Option.some.injEq, forall_eq']
  constructor
  · intro hall
    have hiff := fun action haction => (hcommand action haction).mp (hall action haction)
    exact ⟨(hiff first hfirst).1, (hiff first hfirst).2.1, fun action haction => (hiff action haction).2.2⟩
  · rintro ⟨hone, hmatch, hlength⟩ action haction
    exact (hcommand action haction).mpr ⟨hone, hmatch, hlength action haction⟩

/-- A request to add a rule for interface `v`, protocol `tcp`, address `9` and, unless absent, the given port, as it
arrives. -/
def tosInput (dport : Option CString) : Memory :=
  Memory.ofBytes
    (headerBytes EnumMsgType.msgTosAdd.code 1 0 ++ Scalar.toBytes (0 : Int32) ++ charBytes (some ⟨[118], by decide⟩) ++
      charBytes (some ⟨[116, 99, 112], by decide⟩) ++ charBytes none ++ charBytes none ++
      charBytes (some ⟨[57], by decide⟩) ++ charBytes dport ++ Scalar.toBytes (0 : Int32)) (fun _ => 0) fun _ => []

/-- A request with one match is carried out. -/
theorem tos_iff_one :
    (receivedTos (tosInput none)).NoWhiteSpace ∧
      ∀ c ∈ TosRule.add.process [105] (tosInput none),
        c.matchPairs = (receivedTos (tosInput none)).present ∧ c.InBuffers := by
  have hplain : (receivedTos (tosInput none)).NoWhiteSpace := by
    rw [MsgTos.NoWhiteSpace]
    decide +kernel
  refine ⟨hplain, (tos_iff ⟨[105], by decide⟩ .add (tosInput none) hplain).mpr ?_⟩
  decide +kernel

/-- A request for port 8 at that address is not: there the address is `9--dport`. -/
theorem glued_options :
    (receivedTos (tosInput (some ⟨[56], by decide⟩))).NoWhiteSpace ∧
      ¬∀ c ∈ TosRule.add.process [105] (tosInput (some ⟨[56], by decide⟩)),
        c.matchPairs = (receivedTos (tosInput (some ⟨[56], by decide⟩))).present ∧ c.InBuffers := by
  constructor
  · rw [MsgTos.NoWhiteSpace]
    decide +kernel
  · intro h
    have hpairs := fun c hc => (h c hc).1
    revert hpairs
    decide +kernel

end Ethanol
