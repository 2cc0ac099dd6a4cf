import EthanolHostapd.Ap.WpaAuth.Groups
import EthanolHostapd.Ap.WpaAuth.Receive

/-!
# The group key machines and the machines of their stations

`ap/wpa_auth.c`: the loop of a station (`wpa_sm_step`) also runs the machine of its group.  When that
machine starts a rekey (`wpa_group_setkeys`) it marks the stations of the group one after the other and runs the
loop of each of them, inside the first loop.  What is still to be done is a stack of frames.  A step of
the system is a call from the event loop, which waits until the stack is empty, or the next
part of the frame on top of the stack.

Which group a station belongs to, and which groups there are, is kept by `WpaGroups`.  A `GtkRecord`, which
the program does not keep, tells the GTKs that a station was sent and the one that it confirmed last.
What `wpa_gmk_to_gtk` writes is given with the step.  `wpa_reconfig` and `wpa_gtk_rekey` (TKIP
countermeasures, after which there is no station left) are left out.
-/

namespace Ethanol

/-! ## Calls without the loop -/

/-- How a call goes on after it has changed the machine of its station. -/
inductive CallRest
  | done
  /-- The loop of the station is run. -/
  | smStep
  /-- The GTK is rekeyed before the frame is taken. -/
  | rekeyGtk
  deriving DecidableEq

namespace WpaStateMachine

variable {Nonce Pmk Ptk : Type}

/-- The end of `wpa_receive`, up to the call of `wpa_sm_step`. -/
def finishCall (sm : WpaStateMachine Nonce Pmk Ptk) (env : RxEnv Pmk) (key : EapolKey Nonce) :
    WpaStateMachine Nonce Pmk Ptk × CallRest :=
  if env.noMemory then ({ sm with lastRxEapolKey := none }, .done)
  else
    ({ sm with
      lastRxEapolKey := some key
      eapolKeyReceived := true
      eapolKeyPairwise := key.keyType
      eapolKeyRequest := key.request
      sNonce := key.keyNonce }, .smStep)

/-- The branch of `wpa_receive` for a request, as far as it does not run a loop. -/
def requestCall (p : WpaParams Nonce Pmk Ptk) (sm : WpaStateMachine Nonce Pmk Ptk) (env : RxEnv Pmk)
    (key : EapolKey Nonce) : WpaStateMachine Nonce Pmk Ptk × CallRest :=
  if sm.micVerified = false then (sm, .done)
  else
    let sm := sm.acceptRequest key
    if key.msg = .smkError then (sm.sendSmk env, .done)
    else if key.error then
      if sm.errorReportRemoves p env key then (sm, .done) else sm.requestNewPtk.finishCall env key
    else if key.keyType then sm.requestNewPtk.finishCall env key
    else if key.msg = .smkM1 then (sm.sendSmk env).finishCall env key
    else if key.keyData ≠ [] ∧ (p.parseKdeIes key.keyData).any EapolIeParse.macAddr = true then
      sm.finishCall env key
    else (sm, .rekeyGtk)

/-- The branch of `wpa_receive` for a frame that is not a request, up to the call of `wpa_sm_step`. -/
def replyCall (sm : WpaStateMachine Nonce Pmk Ptk) (env : RxEnv Pmk) (key : EapolKey Nonce) :
    WpaStateMachine Nonce Pmk Ptk × CallRest :=
  let sm := sm.consumeReplay key
  if key.msg = .smkM3 then (sm.sendSmk env, .done) else sm.finishCall env key

variable [DecidableEq Nonce] [Inhabited Ptk]

/-- `wpa_receive`, as far as it does not run a loop. -/
def receiveCall (p : WpaParams Nonce Pmk Ptk) (sm : WpaStateMachine Nonce Pmk Ptk) (env : RxEnv Pmk)
    (key : EapolKey Nonce) : WpaStateMachine Nonce Pmk Ptk × CallRest :=
  if sm.security.accepts key = false then (sm, .done)
  else
    match sm.checkReplay key with
    | none => (sm, .done)
    | some sm =>
      match sm.checkMsg p env key with
      | .dropped => (sm, .done)
      | .disconnect => ((sm.eventFlags .deauth).eventPtk .deauth, .smStep)
      | .passed =>
        if key.ack = true ∨ key.mic = false then (sm, .done)
        else
          let checked := sm.checkMic p env key
          if checked.2 = false then (checked.1, .done)
          else if key.request then checked.1.requestCall p env key
          else checked.1.replyCall env key

end WpaStateMachine

/-- The station's machine after the rest of a call, when the other machines are given by their effects. -/
def CallRest.complete {Nonce Pmk Ptk : Type} [Inhabited Ptk] (p : WpaParams Nonce Pmk Ptk)
    (env : RxEnv Pmk) (key : EapolKey Nonce) (sm : WpaStateMachine Nonce Pmk Ptk) :
    CallRest → Option (WpaStateMachine Nonce Pmk Ptk)
  | .done => some sm
  | .smStep => WpaStateMachine.smStep p env.rounds sm
  | .rekeyGtk => do
    let sm ← env.rekeyGtk.foldlM (fun sm g => WpaStateMachine.groupCall p sm g.1 g.2) sm
    sm.finishReceive p env key

namespace WpaStateMachine

section Complete

variable {Nonce Pmk Ptk : Type} [Inhabited Ptk] {p : WpaParams Nonce Pmk Ptk}
  {sm : WpaStateMachine Nonce Pmk Ptk} {env : RxEnv Pmk} {key : EapolKey Nonce}

/-- A call is completed by its rest. -/
lemma finishReceive_eq_complete :
    sm.finishReceive p env key =
      (sm.finishCall env key).2.complete p env key (sm.finishCall env key).1 := by
  unfold finishReceive finishCall
  split <;> rfl

lemma receiveRequest_eq_complete :
    sm.receiveRequest p env key =
      (sm.requestCall p env key).2.complete p env key (sm.requestCall p env key).1 := by
  unfold receiveRequest requestCall
  split
  · rfl
  · dsimp only
    split_ifs
    · rfl
    · rfl
    · exact finishReceive_eq_complete
    · exact finishReceive_eq_complete
    · exact finishReceive_eq_complete
    · exact finishReceive_eq_complete
    · rfl

lemma receiveReply_eq_complete :
    sm.receiveReply p env key =
      (sm.replyCall env key).2.complete p env key (sm.replyCall env key).1 := by
  unfold receiveReply replyCall
  dsimp only
  split
  · rfl
  · exact finishReceive_eq_complete

/-- `wpa_receive` is its part before the loop with what follows. -/
theorem receive_eq_complete [DecidableEq Nonce] :
    sm.receive p env key =
      (sm.receiveCall p env key).2.complete p env key (sm.receiveCall p env key).1 := by
  unfold receive receiveCall
  split
  · rfl
  cases sm.checkReplay key with
  | none => rfl
  | some sm =>
    dsimp only
    cases sm.checkMsg p env key with
    | dropped => rfl
    | disconnect => rfl
    | passed =>
      dsimp only
      split_ifs
      · rfl
      · rfl
      · exact receiveRequest_eq_complete
      · exact receiveReply_eq_complete

end Complete

end WpaStateMachine

/-! ## The keys of a group -/

/-- `wpa_group_state`; that a machine has failed for good is kept by `WpaGroup`. -/
inductive GroupState
  | gtkInit
  | setKeys
  | setKeysDone
  deriving DecidableEq

/-- `struct wpa_group`, as far as its keys are concerned. -/
structure GroupKeys (Gtk : Type) where
  wpaGroupState : GroupState := .gtkInit
  gInit : Bool := false
  gtkReKey : Bool := false
  gtkAuthenticator : Bool := false
  changed : Bool := false
  gKeyDoneStations : ℤ := 0
  gn : ℕ := 0
  gm : ℕ := 0
  /-- `GTK`, by the index of a key. -/
  gtk : ℕ → Gtk

namespace GroupKeys

variable {Gtk : Type} (k : GroupKeys Gtk) (gtk : Gtk)

/-- `wpa_gtk_update`. -/
def gtkUpdate : GroupKeys Gtk := { k with gtk := Function.update k.gtk k.gn gtk }

/-- `wpa_group_gtk_init`. -/
def groupGtkInit [Inhabited Gtk] : GroupKeys Gtk :=
  gtkUpdate { k with
    changed := false
    wpaGroupState := .gtkInit
    gtk := fun _ => default
    gn := 1
    gm := 2 } gtk

/-- `wpa_group_setkeys`, up to the loop over the stations. -/
def groupSetkeys : GroupKeys Gtk :=
  let k := gtkUpdate { k with
    changed := true
    wpaGroupState := .setKeys
    gtkReKey := false
    gn := k.gm
    gm := k.gn } gtk
  if k.gKeyDoneStations ≠ 0 then { k with gKeyDoneStations := 0 } else k

/-- `wpa_group_setkeysdone`, without what the driver says. -/
def groupSetkeysdone : GroupKeys Gtk := { k with changed := true, wpaGroupState := .setKeysDone }

/-- A station is counted no longer. -/
def stationDone : GroupKeys Gtk := { k with gKeyDoneStations := k.gKeyDoneStations - 1 }

/-- `wpa_group_init`: the machine is stepped with and without `GInit`. -/
def groupInit [Inhabited Gtk] : GroupKeys Gtk :=
  let k := groupGtkInit { gInit := true, gtkAuthenticator := true, gtk := fun _ => default } gtk
  groupSetkeysdone { k with gInit := false }

/-- The GTK that is in use, with its index. -/
def current : Gtk × ℕ := (k.gtk k.gn, k.gn)

end GroupKeys

/-! ## What a station was sent -/

/-- The frames that carried a GTK, the last one first, with their replay counters, and the GTK of the frame that
was confirmed last. -/
structure GtkRecord (Gtk : Type) where
  offered : List (BitVec 64 × Gtk × ℕ) := []
  confirmed : Option (Gtk × ℕ) := none

namespace GtkRecord

variable {Nonce Pmk Ptk Gtk : Type}

/-- The GTK in the frame with a replay counter. -/
def lookup (rec : GtkRecord Gtk) (counter : BitVec 64) : Option (Gtk × ℕ) :=
  (rec.offered.find? fun frame => frame.1 == counter).map Prod.snd

/-- If a step has sent a frame, it carried the GTK. -/
def offer (rec : GtkRecord Gtk) (sm sm' : WpaStateMachine Nonce Pmk Ptk) (gtk : Gtk × ℕ) :
    GtkRecord Gtk :=
  if sm'.keyReplay = sm.keyReplay then rec
  else { rec with offered := (firstCounter sm'.keyReplay, gtk) :: rec.offered }

/-- A frame is confirmed by the last frame that was received. -/
def confirm (rec : GtkRecord Gtk) (sm : WpaStateMachine Nonce Pmk Ptk) : GtkRecord Gtk :=
  match sm.lastRxEapolKey.bind fun key => rec.lookup key.replayCounter with
  | none => rec
  | some gtk => { rec with confirmed := some gtk }

/-- What a step of `WPA_PTK` adds: a 3/4 that was sent, or its confirmation. -/
def ptkStep (rec : GtkRecord Gtk) (sm sm' : WpaStateMachine Nonce Pmk Ptk) (gtk : Gtk × ℕ) :
    GtkRecord Gtk :=
  if sm'.wpaPtkState = .ptkInitNegotiating ∧ sm.security.wpa = .wpa2 then rec.offer sm sm' gtk
  else if sm'.wpaPtkState = .ptkInitDone ∧ sm.wpaPtkState ≠ .ptkInitDone then rec.confirm sm
  else rec

/-- What a step of `WPA_PTK_GROUP` adds: a 1/2 that was sent, or its confirmation. -/
def groupStep (rec : GtkRecord Gtk) (sm sm' : WpaStateMachine Nonce Pmk Ptk) (gtk : Gtk × ℕ) :
    GtkRecord Gtk :=
  if sm'.wpaPtkGroupState = .rekeyNegotiating then rec.offer sm sm' gtk
  else if sm'.wpaPtkGroupState = .rekeyEstablished then rec.confirm sm
  else rec

end GtkRecord

/-! ## The system -/

/-- A place in the loop of `wpa_sm_step`. -/
inductive LoopPoint
  /-- Before `SM_STEP_RUN(WPA_PTK)`. -/
  | ptk
  /-- Before `SM_STEP_RUN(WPA_PTK_GROUP)`. -/
  | ptkGroup
  /-- Before `wpa_group_sm_step`. -/
  | group
  /-- Before the condition of the loop. -/
  | condition
  deriving DecidableEq

/-- Something that is still to be done. -/
inductive CallFrame (Nonce Pmk : Type)
  /-- `wpa_sm_step` is called. -/
  | smStep (sta : ℕ)
  /-- `wpa_sm_step` is running. -/
  | loop (sta : ℕ) (point : LoopPoint)
  /-- The loop over the stations in `wpa_group_setkeys`, with those that are left. -/
  | updateStas (g : GroupId) (stas : List ℕ)
  /-- The loop over the groups in `wpa_rekey_gtk`. -/
  | rekeyGroups (g : Option GroupId)
  /-- The loop in `wpa_rekey_gtk` for a group, and its condition. -/
  | rekeyLoop (g : GroupId)
  | rekeyCondition (g : GroupId)
  /-- The end of `wpa_receive` after a rekey. -/
  | finishReceive (sta : ℕ) (env : RxEnv Pmk) (key : EapolKey Nonce)
  /-- `Init` is taken back. -/
  | started (sta : ℕ)
  /-- The second half of `wpa_auth_sm_event`. -/
  | eventPtk (sta : ℕ) (event : WpaEvent)

/-- An authenticator with its groups and the machines of its stations. -/
structure GroupSystem (Nonce Pmk Ptk Gtk : Type) where
  table : WpaGroups
  keys : GroupId → GroupKeys Gtk
  machine : ℕ → WpaStateMachine Nonce Pmk Ptk
  record : ℕ → GtkRecord Gtk
  /-- The stations with `pending_deinit`. -/
  pendingDeinit : List ℕ
  stack : List (CallFrame Nonce Pmk)

/-- The functions and settings outside the machines. -/
structure GroupParams (Nonce Pmk Ptk : Type) extends WpaParams Nonce Pmk Ptk where
  /-- `conf.disable_gtk`. -/
  disableGtk : Bool

/-- The surroundings of a step. -/
structure StepEnv (Pmk Gtk : Type) where
  round : Round Pmk := {}
  /-- What `wpa_gmk_to_gtk` writes. -/
  gtk : Gtk
  /-- The random GTK of a station if the GTK is disabled. -/
  dummyGtk : Gtk
  /-- `sta_list`. -/
  staList : List ℕ := []
  /-- `wpa_group_config_group_keys` fails. -/
  configFails : Bool := false

namespace WpaStateMachine

variable {Nonce Pmk Ptk : Type}

/-- A step of `WPA_PTK` has entered `INITIALIZE`. -/
def EntersInitialize (sm sm' : WpaStateMachine Nonce Pmk Ptk) : Prop :=
  sm'.wpaPtkState = .initializing ∧ (sm.init = true ∨ sm.wpaPtkState ≠ .initializing)

instance (sm sm' : WpaStateMachine Nonce Pmk Ptk) : Decidable (EntersInitialize sm sm') :=
  inferInstanceAs (Decidable (_ ∧ _))

/-- A step of `WPA_PTK_GROUP` has entered `REKEYESTABLISHED` or `KEYERROR`. -/
def EndsRekey (sm' : WpaStateMachine Nonce Pmk Ptk) : Prop :=
  sm'.wpaPtkGroupState = .rekeyEstablished ∨ sm'.wpaPtkGroupState = .keyError

instance (sm' : WpaStateMachine Nonce Pmk Ptk) : Decidable (EndsRekey sm') :=
  inferInstanceAs (Decidable (_ ∨ _))

end WpaStateMachine

namespace GroupSystem

variable {Nonce Pmk Ptk Gtk : Type}

section Steps

variable (s : GroupSystem Nonce Pmk Ptk Gtk)

/-- A station's machine is written. -/
def setMachine (sta : ℕ) (sm : WpaStateMachine Nonce Pmk Ptk) : GroupSystem Nonce Pmk Ptk Gtk :=
  { s with machine := Function.update s.machine sta sm }

/-- A group is written. -/
def setKeys (g : GroupId) (k : GroupKeys Gtk) : GroupSystem Nonce Pmk Ptk Gtk :=
  { s with keys := Function.update s.keys g k }

/-- A frame is put on the stack. -/
def push (f : CallFrame Nonce Pmk) : GroupSystem Nonce Pmk Ptk Gtk := { s with stack := f :: s.stack }

/-- `in_step_loop`. -/
def inStepLoop (sta : ℕ) : Bool :=
  s.stack.any fun
    | .loop sta' _ => sta' == sta
    | _ => false

/-- A station that is counted gives its place back if a condition holds. -/
def countDone (g : GroupId) (sm : WpaStateMachine Nonce Pmk Ptk) (c : Bool) :
    GroupSystem Nonce Pmk Ptk Gtk :=
  if c && sm.gUpdateStationKeys then s.setKeys g (s.keys g).stationDone else s

/-- `wpa_free_sta_sm`. -/
def freeStaSm (sta : ℕ) : Option (GroupSystem Nonce Pmk Ptk Gtk) := do
  let g ← s.table.groupOf sta
  let table ← s.table.freeStaSm sta
  some { s.countDone g (s.machine sta) true with table }

/-! ### The group key machine -/

/-- `wpa_group_fatal_failure`. -/
def groupFatalFailure (g : GroupId) : Option (GroupSystem Nonce Pmk Ptk Gtk) := do
  let table ← s.table.groupFails g
  let s := s.setKeys g { s.keys g with changed := true }
  some { s with
    table
    machine := fun sta =>
      if s.table.groupOf sta = some g then { s.machine sta with disconnect := true } else s.machine sta }

/-- `wpa_group_setkeysdone`. -/
def groupSetkeysdone (g : GroupId) (e : StepEnv Pmk Gtk) : Option (GroupSystem Nonce Pmk Ptk Gtk) :=
  let s := s.setKeys g (s.keys g).groupSetkeysdone
  if e.configFails then s.groupFatalFailure g else some s

/-- `wpa_group_setkeys`; the loop over the stations is put on the stack. -/
def groupSetkeys (g : GroupId) (e : StepEnv Pmk Gtk) : Option (GroupSystem Nonce Pmk Ptk Gtk) :=
  if e.staList.Perm (s.table.stations.map Prod.fst) then
    some ((s.setKeys g ((s.keys g).groupSetkeys e.gtk)).push (.updateStas g e.staList))
  else none

/-- `wpa_group_sm_step`. -/
def groupSmStep [Inhabited Gtk] (g : GroupId) (e : StepEnv Pmk Gtk) :
    Option (GroupSystem Nonce Pmk Ptk Gtk) := do
  let grp ← s.table.deref g
  let k := s.keys g
  if k.gInit then some (s.setKeys g (k.groupGtkInit e.gtk))
  else if grp.fatalFailure then some s
  else
    match k.wpaGroupState with
    | .gtkInit => if k.gtkAuthenticator then s.groupSetkeysdone g e else some s
    | .setKeysDone => if k.gtkReKey then s.groupSetkeys g e else some s
    | .setKeys =>
      if k.gKeyDoneStations = 0 then s.groupSetkeysdone g e
      else if k.gtkReKey then s.groupSetkeys g e
      else some s

/-- `wpa_group_update_sta`, for a station of the group. -/
def groupUpdateSta (sta : ℕ) (g : GroupId) : GroupSystem Nonce Pmk Ptk Gtk :=
  let sm := s.machine sta
  let s := s.setMachine sta sm.groupUpdateSta
  if sm.wpaPtkState ≠ .ptkInitDone ∨ sm.isWnmsleep = true then s
  else
    let k := s.keys g
    (s.setKeys g { k with gKeyDoneStations := k.gKeyDoneStations + 1 }).push (.smStep sta)

/-! ### The loop of a station -/

/-- The GTK in a frame for a station of the group. -/
def gtkFor (p : GroupParams Nonce Pmk Ptk) (e : StepEnv Pmk Gtk) (k : GroupKeys Gtk) : Gtk × ℕ :=
  (if p.disableGtk then e.dummyGtk else k.gtk k.gn, k.gn)

/-- The loop up to and with `SM_STEP_RUN(WPA_PTK)`. -/
def ptkPart [Inhabited Ptk] (p : GroupParams Nonce Pmk Ptk) (e : StepEnv Pmk Gtk) (sta : ℕ)
    (g : GroupId) : Option (GroupSystem Nonce Pmk Ptk Gtk) := do
  let s := s.setKeys s.table.group { s.keys s.table.group with changed := false }
  let sm := { s.machine sta with changed := false }
  let sm' ← sm.ptkStep p.toWpaParams e.round
  let gtk := gtkFor p e (s.keys g)
  let s := (s.countDone g sm (WpaStateMachine.EntersInitialize sm sm')).setMachine sta sm'
  some { s with record := Function.update s.record sta ((s.record sta).ptkStep sm sm' gtk) }

/-- `SM_STEP_RUN(WPA_PTK_GROUP)`. -/
def ptkGroupPart (p : GroupParams Nonce Pmk Ptk) (e : StepEnv Pmk Gtk) (sta : ℕ) (g : GroupId) :
    GroupSystem Nonce Pmk Ptk Gtk :=
  let sm := s.machine sta
  let sm' := sm.groupStep e.round
  let gtk := gtkFor p e (s.keys g)
  let s := (s.countDone g sm sm'.EndsRekey).setMachine sta sm'
  { s with record := Function.update s.record sta ((s.record sta).groupStep sm sm' gtk) }

/-- A part of the loop for a station of the group; the frame is no longer on the stack. -/
def loopPart [Inhabited Ptk] [Inhabited Gtk] (p : GroupParams Nonce Pmk Ptk) (e : StepEnv Pmk Gtk)
    (sta : ℕ) (g : GroupId) : LoopPoint → Option (GroupSystem Nonce Pmk Ptk Gtk)
  | .ptk =>
    if sta ∈ s.pendingDeinit then s.freeStaSm sta
    else (s.push (.loop sta .ptkGroup)).ptkPart p e sta g
  | .ptkGroup =>
    if sta ∈ s.pendingDeinit then s.freeStaSm sta
    else some ((s.push (.loop sta .group)).ptkGroupPart p e sta g)
  | .group =>
    if sta ∈ s.pendingDeinit then s.freeStaSm sta
    else (s.push (.loop sta .condition)).groupSmStep g e
  | .condition =>
    if (s.machine sta).changed || (s.keys s.table.group).changed then some (s.push (.loop sta .ptk))
    else if sta ∈ s.pendingDeinit then s.freeStaSm sta
    else some s

/-! ### Frames -/

/-- The group after another one in the list. -/
def nextGroup (g : GroupId) : List GroupId → Option GroupId
  | g₁ :: g₂ :: rest => if g₁ = g then some g₂ else nextGroup g (g₂ :: rest)
  | _ => none

/-- The rest of a call is put on the stack. -/
def callRest (sta : ℕ) (env : RxEnv Pmk) (key : EapolKey Nonce) :
    CallRest → GroupSystem Nonce Pmk Ptk Gtk
  | .done => s
  | .smStep => s.push (.smStep sta)
  | .rekeyGtk => (s.push (.finishReceive sta env key)).push (.rekeyGroups (some s.table.group))

/-- The next part of the frame that was on top of the stack.  Nothing is left to be done for a station
that has been removed. -/
def runFrame [Inhabited Ptk] [Inhabited Gtk] (p : GroupParams Nonce Pmk Ptk) (e : StepEnv Pmk Gtk) :
    CallFrame Nonce Pmk → Option (GroupSystem Nonce Pmk Ptk Gtk)
  | .smStep sta =>
    if (s.table.groupOf sta).isNone || s.inStepLoop sta then some s else some (s.push (.loop sta .ptk))
  | .loop sta point => do
    let g ← s.table.groupOf sta
    s.loopPart p e sta g point
  | .updateStas _ [] => some s
  | .updateStas g (sta :: stas) =>
    let s := s.push (.updateStas g stas)
    if s.table.groupOf sta = some g then some (s.groupUpdateSta sta g) else some s
  | .rekeyGroups none => some s
  | .rekeyGroups (some g) => do
    let table ← s.table.groupGet g
    let s := { s with table }.push (.rekeyLoop g)
    some (s.setKeys g { s.keys g with gtkReKey := true })
  | .rekeyLoop g =>
    let s := s.push (.rekeyCondition g)
    (s.setKeys g { s.keys g with changed := false }).groupSmStep g e
  | .rekeyCondition g =>
    if (s.keys g).changed then some (s.push (.rekeyLoop g))
    else do
      let next := nextGroup g (s.table.group :: s.table.next)
      let table ← s.table.groupPut g
      some ({ s with table }.push (.rekeyGroups next))
  | .finishReceive sta env key =>
    if (s.table.groupOf sta).isNone then some s
    else
      let (sm, rest) := (s.machine sta).finishCall env key
      some ((s.setMachine sta sm).callRest sta env key rest)
  | .started sta =>
    if (s.table.groupOf sta).isNone then some s
    else some (s.setMachine sta { s.machine sta with init := false, authenticationRequest := true })
  | .eventPtk sta event =>
    if (s.table.groupOf sta).isNone then some s
    else some ((s.setMachine sta ((s.machine sta).eventPtk event)).push (.smStep sta))

end Steps

end GroupSystem

/-- A call from the event loop. -/
inductive SystemCall (Nonce Pmk Gtk : Type)
  | staInit (security : StaSecurity) (mgmtFrameProt outOfMemory : Bool)
  | staDeinit (sta : ℕ)
  | staAssociated (sta : ℕ)
  | smEvent (sta : ℕ) (event : WpaEvent)
  | receive (sta : ℕ) (env : RxEnv Pmk) (key : EapolKey Nonce)
  | sendEapolTimeout (sta : ℕ)
  | rekeyPtk (sta : ℕ)
  /-- `wpa_sm_call_step`. -/
  | smCallStep (sta : ℕ)
  /-- A frame that is sent to the station because of an SMK message of another one. -/
  | smkSend (sta : ℕ) (e : SendEnv)
  /-- `wpa_validate_wpa_ie`, as far as the machine is concerned. -/
  | validateWpaIe (sta : ℕ) (security : StaSecurity) (mgmtFrameProt : Bool)
  | setWnmsleep (sta : ℕ) (flag : Bool)
  | wnmsleepRekeyGtk (sta : ℕ)
  /-- A group that is made draws the GTK. -/
  | staSetVlan (sta : ℕ) (vlanId : ℤ) (groupInit : Option Bool) (gtk : Gtk)
  | ensureGroup (vlanId : ℤ) (groupInit : Option Bool) (gtk : Gtk)
  | releaseGroup (vlanId : ℤ)
  | rekeyGtk

/-- A step of the system. -/
inductive SystemEvent (Nonce Pmk Gtk : Type)
  | call (c : SystemCall Nonce Pmk Gtk)
  /-- The next part of the frame on top of the stack. -/
  | run (e : StepEnv Pmk Gtk)
  /-- `wpa_auth_sta_deinit` for a station whose loop is running. -/
  | pendingDeinit (sta : ℕ)

namespace GroupSystem

variable {Nonce Pmk Ptk Gtk : Type}

section Calls

variable (s : GroupSystem Nonce Pmk Ptk Gtk)

/-- The machine of a station, if it is there. -/
def machineOf (sta : ℕ) : Option (WpaStateMachine Nonce Pmk Ptk) :=
  (s.table.groupOf sta).map fun _ => s.machine sta

/-- A machine that has not been started is initialized. -/
def startMachine (sta : ℕ) : GroupSystem Nonce Pmk Ptk Gtk :=
  let sm := s.machine sta
  ((s.setMachine sta { sm with started := true, init := true }).push (.started sta)).push (.smStep sta)

/-- `wpa_auth_sta_associated`. -/
def staAssociated (sta : ℕ) : GroupSystem Nonce Pmk Ptk Gtk :=
  if (s.machine sta).started then (s.setMachine sta (s.machine sta).reassociated).push (.smStep sta)
  else (s.push (.smStep sta)).startMachine sta

/-- `wpa_auth_sm_event` for a station of the group. -/
def smEvent (sta : ℕ) (g : GroupId) (event : WpaEvent) : GroupSystem Nonce Pmk Ptk Gtk :=
  let sm := s.machine sta
  if event = .reauth ∨ event = .reauthEapol then
    if sm.started then
      -- reauthentication cancels the pending group key update
      ((s.countDone g sm true).setMachine sta (sm.eventFlags event)).push (.eventPtk sta event)
    else (s.push (.eventPtk sta event)).startMachine sta
  else (s.setMachine sta (sm.eventFlags event)).push (.eventPtk sta event)

/-- The groups after an operation; a group that it has made is initialized. -/
def withTable [Inhabited Gtk] (table : WpaGroups) (gtk : Gtk) : GroupSystem Nonce Pmk Ptk Gtk :=
  if table.allocated = s.table.allocated then { s with table }
  else { s.setKeys s.table.allocated (GroupKeys.groupInit gtk) with table }

/-- `wpa_auth_sta_init`. -/
def staInit [Inhabited Nonce] [Inhabited Pmk] [Inhabited Ptk] (security : StaSecurity)
    (mgmtFrameProt outOfMemory : Bool) : Option (GroupSystem Nonce Pmk Ptk Gtk) := do
  let table ← s.table.staInit outOfMemory
  if table.created = s.table.created then some { s with table }
  else
    some { s with
      table
      machine := Function.update s.machine s.table.created
        (WpaStateMachine.staInit security mgmtFrameProt)
      record := Function.update s.record s.table.created {} }

/-- The system after a call. -/
def call [DecidableEq Nonce] [Inhabited Nonce] [Inhabited Pmk] [Inhabited Ptk] [Inhabited Gtk]
    (p : GroupParams Nonce Pmk Ptk) :
    SystemCall Nonce Pmk Gtk → Option (GroupSystem Nonce Pmk Ptk Gtk)
  | .staInit security mgmtFrameProt outOfMemory => s.staInit security mgmtFrameProt outOfMemory
  | .staDeinit sta => s.freeStaSm sta
  | .staAssociated sta => (s.machineOf sta).map fun _ => s.staAssociated sta
  | .smEvent sta event => (s.table.groupOf sta).map fun g => s.smEvent sta g event
  | .receive sta env key => (s.machineOf sta).map fun sm =>
    let (sm, rest) := sm.receiveCall p.toWpaParams env key
    (s.setMachine sta sm).callRest sta env key rest
  | .sendEapolTimeout sta => do
    let sm ← s.machineOf sta
    if sm.sendEapolTimeouts = 0 then none
    else
      let sm := { sm with sendEapolTimeouts := sm.sendEapolTimeouts - 1, timeoutEvt := true }
      some ((s.setMachine sta sm).push (.smStep sta))
  | .rekeyPtk sta => do
    let sm ← s.machineOf sta
    if sm.rekeyPtkTimeouts = 0 then none
    else
      let sm := { sm with rekeyPtkTimeouts := sm.rekeyPtkTimeouts - 1 }.requestNewPtk
      some ((s.setMachine sta sm).push (.smStep sta))
  | .smCallStep sta => some (s.push (.smStep sta))
  | .smkSend sta e => (s.machineOf sta).map fun sm => s.setMachine sta (sm.sendEapolFrame e)
  | .validateWpaIe sta security mgmtFrameProt =>
    (s.machineOf sta).map fun sm => s.setMachine sta { sm with security, mgmtFrameProt }
  | .setWnmsleep sta flag =>
    (s.machineOf sta).map fun sm => s.setMachine sta { sm with isWnmsleep := flag }
  | .wnmsleepRekeyGtk sta => (s.table.groupOf sta).map fun g =>
    if (s.machine sta).isWnmsleep then s else s.groupUpdateSta sta g
  | .staSetVlan sta vlanId groupInit gtk => do
    let (table, _) ← s.table.staSetVlan sta vlanId groupInit
    some (s.withTable table gtk)
  | .ensureGroup vlanId groupInit gtk => do
    let (table, _) ← s.table.ensureGroup vlanId groupInit
    some (s.withTable table gtk)
  | .releaseGroup vlanId => do
    let (table, _) ← s.table.releaseGroup vlanId
    some { s with table }
  | .rekeyGtk => some (s.push (.rekeyGroups (some s.table.group)))

/-- The system after a step. -/
def next [DecidableEq Nonce] [Inhabited Nonce] [Inhabited Pmk] [Inhabited Ptk] [Inhabited Gtk]
    (p : GroupParams Nonce Pmk Ptk) :
    SystemEvent Nonce Pmk Gtk → Option (GroupSystem Nonce Pmk Ptk Gtk)
  | .call c => if s.stack.isEmpty then s.call p c else none
  | .run e =>
    match s.stack with
    | [] => none
    | f :: rest => { s with stack := rest }.runFrame p e f
  | .pendingDeinit sta =>
    if s.inStepLoop sta then some { s with pendingDeinit := sta :: s.pendingDeinit } else none

end Calls

/-- The authenticator after `wpa_init` and `wpa_init_keys`. -/
def init [Inhabited Nonce] [Inhabited Pmk] [Inhabited Ptk] [Inhabited Gtk] (gtk : Gtk) :
    GroupSystem Nonce Pmk Ptk Gtk where
  table := WpaGroups.init
  keys g := if g = 0 then GroupKeys.groupInit gtk else { gtk := fun _ => default }
  -- there is no station yet
  machine _ := WpaStateMachine.staInit ⟨.wpa2, .other, false, false, false, false, false⟩ false
  record _ := {}
  pendingDeinit := []
  stack := []

end GroupSystem

end Ethanol
