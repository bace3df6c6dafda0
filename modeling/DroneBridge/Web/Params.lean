import DroneBridge.Lib.Clock
import DroneBridge.Link.Latch
import DroneBridge.Config.Edits
import Mathlib.Data.List.AList
import Mathlib.Data.List.DropRight
import Mathlib.Data.Finset.Card
import Mathlib.Data.Finset.Range

/-!
# Parameters of the flight controller

The parameter editor of the web server never meets the answer to its own request. `PARAM_VALUE`
messages go through a channel to one goroutine, which keeps a cache by name, the count of the latest
message and the time of the latest update of anything. A call of `SetParameter` polls the cache, and
whether a parameter list is complete is read off the size of the cache.

The model has any number of calls next to the goroutine of the cache, with a clock that never runs
backwards. What is inside the `PARAM_SET` message is left open: no answer depends on it.
-/

namespace DroneBridge

/-! ## Names -/

/-- The name up to the first NUL, without the space around it. -/
def trimParamID (id : String) : String :=
  trimSpace (String.ofList (id.toList.takeWhile (· ≠ '\x00')))

theorem dropWhile_rdropWhile_dropWhile {α : Type*} (p : α → Bool) (l : List α) :
    ((l.dropWhile p).rdropWhile p).dropWhile p = (l.dropWhile p).rdropWhile p := by
  rw [List.dropWhile_eq_self_iff]
  intro hpos
  obtain ⟨rest, hrest⟩ := List.rdropWhile_prefix p (l.dropWhile p)
  have hhead : 0 < (l.dropWhile p).length := by
    rw [← hrest, List.length_append]
    omega
  have hnot := List.dropWhile_get_zero_not p l hhead
  have hget : (l.dropWhile p).get ⟨0, hhead⟩ = ((l.dropWhile p).rdropWhile p)[0] := by
    simp only [List.get_eq_getElem]
    conv_lhs => rw [List.getElem_of_eq hrest.symm]
    exact List.getElem_append_left hpos
  rwa [hget] at hnot

theorem trimSpace_toList (s : String) :
    (trimSpace s).toList = (s.toList.dropWhile isUnicodeSpace).rdropWhile isUnicodeSpace :=
  String.toList_ofList

theorem trimSpace_idem (s : String) : trimSpace (trimSpace s) = trimSpace s := by
  apply String.toList_injective
  rw [trimSpace_toList, trimSpace_toList, dropWhile_rdropWhile_dropWhile,
    List.rdropWhile_idempotent]

@[simp] theorem trimParamID_idem (id : String) : trimParamID (trimParamID id) = trimParamID id := by
  have hnul : ∀ c ∈ (trimParamID id).toList, c ≠ '\x00' := by
    intro c hc
    rw [trimParamID, trimSpace_toList, String.toList_ofList] at hc
    have hmem := (List.dropWhile_suffix _).subset ((List.rdropWhile_prefix _ _).subset hc)
    simpa using List.mem_takeWhile_imp hmem
  have hself : (trimParamID id).toList.takeWhile (· ≠ '\x00') = (trimParamID id).toList :=
    List.takeWhile_eq_self_iff.mpr (by simpa using hnul)
  rw [trimParamID, hself, String.ofList_toList]
  exact trimSpace_idem _

/-! ## Messages and the cache -/

structure MessageParamValue where
  paramId : String
  /-- The bits of the 32-bit float. -/
  paramValue : UInt32
  paramType : UInt8
  paramCount : UInt16
  paramIndex : UInt16
  deriving DecidableEq, Repr

/-- The types INT32, UINT32, INT16, UINT16, INT8 and UINT8 of `MAV_PARAM_TYPE`. -/
def isIntParamType (t : UInt8) : Bool :=
  t = 6 || t = 5 || t = 4 || t = 3 || t = 2 || t = 1

/-- A 64-bit float that a 32-bit integer or float is converted to; both conversions are exact. -/
inductive ParamNumber
  | int (v : Int32)
  | float (bits : UInt32)
  deriving DecidableEq, Repr

namespace MessageParamValue

variable (msg : MessageParamValue)

/-- The name the message is cached under. -/
def name : String := trimParamID msg.paramId

def decodedValue : ParamNumber :=
  if isIntParamType msg.paramType then .int msg.paramValue.toInt32 else .float msg.paramValue

end MessageParamValue

structure CachedParameter where
  paramId : String
  paramValue : ParamNumber
  paramType : UInt8
  paramIndex : UInt16
  deriving DecidableEq, Repr

def MessageParamValue.cached (msg : MessageParamValue) : CachedParameter :=
  ⟨msg.name, msg.decodedValue, msg.paramType, msg.paramIndex⟩

/-- The map of the cache. Only trimmed names are ever put in. -/
structure ParamCache where
  map : AList fun _ : String ↦ CachedParameter
  trimmed : ∀ k ∈ map, trimParamID k = k

namespace ParamCache

def empty : ParamCache := ⟨∅, fun _ hk ↦ absurd hk (AList.notMem_empty _)⟩

variable (c : ParamCache)

def put (msg : MessageParamValue) : ParamCache where
  map := c.map.insert msg.name msg.cached
  trimmed k hk := by
    rcases (AList.mem_insert _).mp hk with rfl | hk
    · exact trimParamID_idem _
    · exact c.trimmed k hk

def len : ℕ := c.map.keys.length

/-- By the name as given, or else by the first name that is the same after trimming. `order` is the
order in which the range visits the names. -/
def lookupCachedParamLocked (order : List String) (paramName : String) : Option CachedParameter :=
  match c.map.lookup paramName with
  | some param => some param
  | none =>
    (order.find? fun k ↦ trimParamID k = trimParamID paramName).bind fun k ↦ c.map.lookup k

/-- In whatever order the map is visited, the lookup finds the entry of the trimmed name. -/
theorem lookupCachedParamLocked_eq {order : List String} (horder : order.Perm c.map.keys)
    (paramName : String) :
    c.lookupCachedParamLocked order paramName = c.map.lookup (trimParamID paramName) := by
  rw [lookupCachedParamLocked]
  split
  case h_1 param hparam =>
    have hmem : paramName ∈ c.map := AList.lookup_isSome.mp (by rw [hparam]; rfl)
    rw [c.trimmed paramName hmem, hparam]
  case h_2 hnone =>
    cases hfind : order.find? fun k ↦ trimParamID k = trimParamID paramName with
    | none =>
      rw [Option.bind_none, eq_comm, AList.lookup_eq_none]
      intro hmem
      have hin : trimParamID paramName ∈ order := horder.mem_iff.mpr (AList.mem_keys.mp hmem)
      have hnot := List.find?_eq_none.mp hfind _ hin
      exact hnot (by simp)
    | some k =>
      have hin : k ∈ order := List.mem_of_find?_eq_some hfind
      have hk : k ∈ c.map := AList.mem_keys.mpr (horder.mem_iff.mp hin)
      have heq : trimParamID k = trimParamID paramName := by simpa using List.find?_some hfind
      rw [Option.bind_some, ← heq, c.trimmed k hk]

theorem lookup_put_self (msg : MessageParamValue) :
    (c.put msg).map.lookup msg.name = some msg.cached :=
  AList.lookup_insert _

theorem lookup_put_of_ne {msg : MessageParamValue} {k : String} (h : k ≠ msg.name) :
    (c.put msg).map.lookup k = c.map.lookup k :=
  AList.lookup_insert_ne h

end ParamCache

/-! ## The bridge -/

/-- The web bridge with its cache. -/
structure ParamBridge extends MAVLinkBridge where
  /-- Whether there is a node to send with. -/
  node : Bool
  paramCache : ParamCache
  paramTotal : ℕ
  paramReceived : ℕ
  paramLoading : Bool
  /-- The zero instant before the first update. -/
  paramLastUpdate : ℕ
  paramValueCh : List MessageParamValue

namespace ParamBridge

def init (node : Bool) : ParamBridge := ⟨.new, node, .empty, 0, 0, false, 0, []⟩

variable (b : ParamBridge)

/-- A full channel drops the message. -/
def handleParamValue (msg : MessageParamValue) : ParamBridge :=
  if b.paramValueCh.length < 100 then { b with paramValueCh := b.paramValueCh ++ [msg] } else b

def handleHeartbeat (sysID : UInt8) : ParamBridge :=
  { b with toMAVLinkBridge := b.toMAVLinkBridge.handleHeartbeat sysID }

/-- The critical section in the loop of `processParamValues`. -/
def processParamValue (msg : MessageParamValue) (now : ℕ) : ParamBridge :=
  let paramCache := b.paramCache.put msg
  let paramTotal := msg.paramCount.toNat
  let paramReceived := paramCache.len
  { b with
    paramCache, paramTotal, paramReceived
    paramLastUpdate := now
    paramLoading := if paramTotal ≤ paramReceived ∧ b.paramLoading then false else b.paramLoading }

/-- The first critical section of `RequestParameterList`. -/
def clearParams : ParamBridge :=
  { b with paramCache := .empty, paramReceived := 0, paramTotal := 0, paramLoading := true }

end ParamBridge

/-! ## Calls -/

structure ParamSetResponse where
  success : Bool
  message : String
  paramName : String
  newValue : ParamNumber
  deriving DecidableEq, Repr

/-- A response without success, whose value is the zero of its type. -/
def ParamSetResponse.failure (paramName message : String) : ParamSetResponse :=
  ⟨false, message, paramName, .float 0⟩

inductive SetCall
  | idle
  /-- The checks are passed; `PARAM_SET` is not sent yet. -/
  | sending (paramName : String)
  | sent (paramName : String)
  /-- The timeout and the ticker run since `timers`. -/
  | timed (paramName : String) (timers : ℕ)
  | waiting (paramName : String) (timers startTime ticks : ℕ)
  | done (response : ParamSetResponse)
  deriving DecidableEq, Repr

def responseTimeout : ℤ := 5 * Clock.second

def pollInterval : ℤ := 100 * Clock.millisecond

/-- `SetParameter` up to the sending. -/
def ParamBridge.setParameter (b : ParamBridge) (paramName : String) : SetCall :=
  if b.node = false then .done (.failure paramName "MAVLink bridge not initialized")
  else if b.connected = false then .done (.failure paramName "Not connected to Pixhawk")
  else .sending paramName

/-- What `waitForParamResponse` does at a tick. -/
def ParamBridge.poll (b : ParamBridge) (order : List String) (paramName : String)
    (startTime : ℕ) : Option ParamSetResponse :=
  match b.paramCache.lookupCachedParamLocked order paramName with
  | some param =>
    if startTime < b.paramLastUpdate then
      some ⟨true, "Parameter " ++ paramName ++ " successfully set", paramName, param.paramValue⟩
    else none
  | none => none

structure BridgeRun where
  bridge : ParamBridge
  clock : ℕ
  /-- The message that `processParamValues` has taken off the channel. -/
  hand : Option MessageParamValue
  /-- The calls of `RequestParameterList` that have cleared the cache and not sent yet. -/
  requesting : ℕ
  call : ℕ → SetCall
  /-- The messages in the cache's critical section so far. -/
  processed : List MessageParamValue
  /-- Those since the last `RequestParameterList`. -/
  received : List MessageParamValue

inductive BridgeEvent
  | clock (now : ℕ)
  | heartbeat (sysID : UInt8)
  | arrive (msg : MessageParamValue)
  /-- `processParamValues` takes a message off the channel. -/
  | take
  | process
  | requestList
  | requestSent
  | requestFailed
  | setParameter (i : ℕ) (paramName : String)
  | sent (i : ℕ)
  | sendFailed (i : ℕ) (err : String)
  | timers (i : ℕ)
  | start (i : ℕ)
  | tick (i : ℕ) (order : List String)
  | timeout (i : ℕ)
  deriving DecidableEq, Repr

namespace BridgeRun

variable (s : BridgeRun)

def setCall (i : ℕ) (call : SetCall) : BridgeRun := { s with call := Function.update s.call i call }

/-- The message that is cached next. -/
def next : Option MessageParamValue := s.hand <|> s.bridge.paramValueCh.head?

/-- The goroutine of the cache has put the message in. -/
def process (msg : MessageParamValue) : BridgeRun :=
  { s with
    hand := none
    bridge := s.bridge.processParamValue msg s.clock
    processed := s.processed ++ [msg]
    received := s.received ++ [msg] }

/-- A call of `RequestParameterList` has cleared the cache. -/
def clear : BridgeRun :=
  { s with bridge := s.bridge.clearParams, requesting := s.requesting + 1, received := [] }

def init (node : Bool) : BridgeRun := ⟨.init node, 0, none, 0, fun _ ↦ .idle, [], []⟩

end BridgeRun

def bridgeMachine : Machine BridgeRun BridgeEvent where
  step s
    | .clock now => if s.clock ≤ now then some { s with clock := now } else none
    | .heartbeat sysID => some { s with bridge := s.bridge.handleHeartbeat sysID }
    | .arrive msg => some { s with bridge := s.bridge.handleParamValue msg }
    | .take =>
      match s.hand, s.bridge.paramValueCh with
      | none, msg :: rest =>
        some { s with hand := some msg, bridge := { s.bridge with paramValueCh := rest } }
      | _, _ => none
    | .process => s.hand.map s.process
    | .requestList =>
      -- Once connected the bridge stays so, and the check may be read together with the clearing.
      some (if s.bridge.node ∧ s.bridge.connected then s.clear else s)
    | .requestSent =>
      if 0 < s.requesting then some { s with requesting := s.requesting - 1 } else none
    | .requestFailed =>
      if 0 < s.requesting then
        some { s with
          requesting := s.requesting - 1, bridge := { s.bridge with paramLoading := false } }
      else none
    | .setParameter i paramName =>
      match s.call i with
      | .idle => some (s.setCall i (s.bridge.setParameter paramName))
      | _ => none
    | .sent i =>
      match s.call i with
      | .sending paramName => some (s.setCall i (.sent paramName))
      | _ => none
    | .sendFailed i err =>
      match s.call i with
      | .sending paramName =>
        some (s.setCall i (.done (.failure paramName ("Failed to send PARAM_SET: " ++ err))))
      | _ => none
    | .timers i =>
      match s.call i with
      | .sent paramName => some (s.setCall i (.timed paramName s.clock))
      | _ => none
    | .start i =>
      match s.call i with
      | .timed paramName timers => some (s.setCall i (.waiting paramName timers s.clock 0))
      | _ => none
    | .tick i order =>
      match s.call i with
      | .waiting paramName timers startTime ticks =>
        if order.Perm s.bridge.paramCache.map.keys ∧
            Clock.add timers (pollInterval * (ticks + 1)) ≤ s.clock then
          match s.bridge.poll order paramName startTime with
          | some response => some (s.setCall i (.done response))
          | none => some (s.setCall i (.waiting paramName timers startTime (ticks + 1)))
        else none
      | _ => none
    | .timeout i =>
      match s.call i with
      | .waiting paramName timers _ _ =>
        if Clock.add timers responseTimeout ≤ s.clock then
          some (s.setCall i
            (.done (.failure paramName "Timeout waiting for parameter confirmation")))
        else none
      | _ => none

/-! ## What a step does -/

inductive CallStep (s : BridgeRun) : SetCall → SetCall → Prop
  | enter (name : String) : CallStep s .idle (s.bridge.setParameter name)
  | sent (name : String) : CallStep s (.sending name) (.sent name)
  | sendFailed (name text : String) : CallStep s (.sending name) (.done (.failure name text))
  | timers (name : String) : CallStep s (.sent name) (.timed name s.clock)
  | start (name : String) (timers : ℕ) :
      CallStep s (.timed name timers) (.waiting name timers s.clock 0)
  | again (name : String) (timers startTime ticks : ℕ) :
      CallStep s (.waiting name timers startTime ticks) (.waiting name timers startTime (ticks + 1))
  | success (name text : String) (timers startTime ticks : ℕ) (param : CachedParameter)
      (hparam : s.bridge.paramCache.map.lookup (trimParamID name) = some param)
      (hupdate : startTime < s.bridge.paramLastUpdate) :
      CallStep s (.waiting name timers startTime ticks) (.done ⟨true, text, name, param.paramValue⟩)
  | timeout (name text : String) (timers startTime ticks : ℕ) :
      CallStep s (.waiting name timers startTime ticks) (.done (.failure name text))

namespace BridgeRun

variable {s s' : BridgeRun} {e : BridgeEvent} {msg : MessageParamValue}

/-- What a step keeps that is neither a caching nor a clearing. -/
structure Frame (s s' : BridgeRun) : Prop where
  paramCache : s'.bridge.paramCache = s.bridge.paramCache
  paramLastUpdate : s'.bridge.paramLastUpdate = s.bridge.paramLastUpdate
  processed : s'.processed = s.processed
  received : s'.received = s.received
  clock : s.clock ≤ s'.clock
  next : ∀ msg, s.next = some msg → s'.next = some msg

theorem Frame.refl (s : BridgeRun) : s.Frame s := ⟨rfl, rfl, rfl, rfl, le_rfl, fun _ ↦ id⟩

/-- A message at the end of the channel is not the next one while there is another. -/
theorem frame_arrive (msg : MessageParamValue) :
    s.Frame { s with bridge := s.bridge.handleParamValue msg } := by
  rw [ParamBridge.handleParamValue]
  split
  · refine ⟨rfl, rfl, rfl, rfl, le_rfl, fun m hm ↦ ?_⟩
    rw [next, Option.orElse_eq_some] at hm ⊢
    rcases hm with hm | ⟨hhand, hm⟩
    · exact .inl hm
    · exact .inr ⟨hhand, by simp [List.head?_append, hm]⟩
  · exact .refl s

/-- A poll that ends the wait has found the parameter, and an update after the start. -/
theorem callStep_tick {order : List String} {name : String} {timers startTime ticks : ℕ}
    {response : ParamSetResponse} (horder : order.Perm s.bridge.paramCache.map.keys)
    (hpoll : s.bridge.poll order name startTime = some response) :
    CallStep s (.waiting name timers startTime ticks) (.done response) := by
  rw [ParamBridge.poll, s.bridge.paramCache.lookupCachedParamLocked_eq horder] at hpoll
  split at hpoll
  case h_1 param hparam =>
    obtain ⟨hupdate, h⟩ := Option.ite_none_right_eq_some.mp hpoll
    exact Option.some.inj h ▸ .success name _ timers startTime ticks param hparam hupdate
  case h_2 => cases hpoll

/-- Every step caches a message, clears the cache, or keeps it while at most one call moves. -/
theorem step_cases (h : bridgeMachine.step s e = some s') :
    (∃ msg, e = .process ∧ s.hand = some msg ∧ s' = s.process msg) ∨
    (e = .requestList ∧ s' = s.clear) ∨
    (s.Frame s' ∧ (s'.call = s.call ∨
      ∃ i c, CallStep s (s.call i) c ∧ s'.call = Function.update s.call i c)) := by
  have hcall : ∀ i c, CallStep s (s.call i) c → s.Frame (s.setCall i c) ∧
      ((s.setCall i c).call = s.call ∨
        ∃ j d, CallStep s (s.call j) d ∧ (s.setCall i c).call = Function.update s.call j d) :=
    fun i c hc ↦ ⟨⟨rfl, rfl, rfl, rfl, le_rfl, fun _ ↦ id⟩, .inr ⟨i, c, hc, rfl⟩⟩
  cases e with
  | clock now =>
    obtain ⟨hle, h⟩ := Option.ite_none_right_eq_some.mp h
    cases h
    exact .inr (.inr ⟨⟨rfl, rfl, rfl, rfl, hle, fun _ ↦ id⟩, .inl rfl⟩)
  | heartbeat sysID =>
    cases h
    exact .inr (.inr ⟨⟨rfl, rfl, rfl, rfl, le_rfl, fun _ ↦ id⟩, .inl rfl⟩)
  | arrive msg =>
    cases h
    exact .inr (.inr ⟨frame_arrive msg, .inl rfl⟩)
  | take =>
    dsimp only [bridgeMachine] at h
    split at h
    case h_1 msg rest hhand hch =>
      cases h
      refine .inr (.inr ⟨⟨rfl, rfl, rfl, rfl, le_rfl, fun m hm ↦ ?_⟩, .inl rfl⟩)
      rw [next, hhand, hch] at hm
      exact hm
    case h_2 => cases h
  | process =>
    obtain ⟨msg, hhand, rfl⟩ := Option.map_eq_some_iff.mp h
    exact .inl ⟨msg, rfl, hhand, rfl⟩
  | requestList =>
    have h := Option.some.inj h
    split at h
    · exact .inr (.inl ⟨rfl, h.symm⟩)
    · exact .inr (.inr (h ▸ ⟨.refl s, .inl rfl⟩))
  | requestSent =>
    obtain ⟨-, h⟩ := Option.ite_none_right_eq_some.mp h
    cases h
    exact .inr (.inr ⟨⟨rfl, rfl, rfl, rfl, le_rfl, fun _ ↦ id⟩, .inl rfl⟩)
  | requestFailed =>
    obtain ⟨-, h⟩ := Option.ite_none_right_eq_some.mp h
    cases h
    exact .inr (.inr ⟨⟨rfl, rfl, rfl, rfl, le_rfl, fun _ ↦ id⟩, .inl rfl⟩)
  | setParameter i | sent i | sendFailed i | timers i | start i =>
    -- each of them fits one point of a call and moves it on
    dsimp only [bridgeMachine] at h
    split at h
    case h_1 hi =>
      cases h
      refine .inr (.inr (hcall i _ ?_))
      rw [hi]
      constructor
    case h_2 => cases h
  | tick i order =>
    dsimp only [bridgeMachine] at h
    split at h
    case h_1 name timers startTime ticks hi =>
      obtain ⟨⟨horder, -⟩, h⟩ := Option.ite_none_right_eq_some.mp h
      split at h
      case h_1 response hpoll =>
        cases h
        exact .inr (.inr (hcall i _ (hi ▸ callStep_tick horder hpoll)))
      case h_2 =>
        cases h
        exact .inr (.inr (hcall i _ (hi ▸ .again name timers startTime ticks)))
    case h_2 => cases h
  | timeout i =>
    dsimp only [bridgeMachine] at h
    split at h
    case h_1 name timers startTime ticks hi =>
      obtain ⟨-, h⟩ := Option.ite_none_right_eq_some.mp h
      cases h
      exact .inr (.inr (hcall i _ (hi ▸ .timeout name _ timers startTime ticks)))
    case h_2 => cases h

/-- The latest update is not in the future, and the names in the cache are those of the messages
received since it was cleared. -/
structure Inv (s : BridgeRun) : Prop where
  update : s.bridge.paramLastUpdate ≤ s.clock
  names : ∀ k, k ∈ s.bridge.paramCache.map ↔ ∃ msg ∈ s.received, msg.name = k

theorem mem_empty_iff (k : String) :
    k ∈ ParamCache.empty.map ↔ ∃ msg ∈ ([] : List MessageParamValue), msg.name = k := by
  simp [ParamCache.empty]

theorem inv_init (node : Bool) : (init node).Inv := ⟨le_rfl, mem_empty_iff⟩

theorem Inv.step (hs : s.Inv) (h : bridgeMachine.step s e = some s') : s'.Inv := by
  obtain ⟨msg, -, -, rfl⟩ | ⟨-, rfl⟩ | ⟨hframe, -⟩ := step_cases h
  · refine ⟨le_rfl, fun k ↦ ?_⟩
    have hmem : k ∈ (s.bridge.paramCache.put msg).map ↔
        k = msg.name ∨ k ∈ s.bridge.paramCache.map :=
      AList.mem_insert _
    change k ∈ (s.bridge.paramCache.put msg).map ↔ ∃ m ∈ s.received ++ [msg], m.name = k
    rw [hmem, hs.names]
    constructor
    · rintro (rfl | ⟨m, hm, rfl⟩)
      · exact ⟨msg, by simp, rfl⟩
      · exact ⟨m, List.mem_append_left _ hm, rfl⟩
    · rintro ⟨m, hm, rfl⟩
      rcases List.mem_append.mp hm with hm | hm
      · exact .inr ⟨m, hm, rfl⟩
      · exact .inl (List.mem_singleton.mp hm ▸ rfl)
  · exact ⟨hs.update, mem_empty_iff⟩
  · refine ⟨hframe.paramLastUpdate ▸ hs.update.trans hframe.clock, fun k ↦ ?_⟩
    rw [hframe.paramCache, hframe.received]
    exact hs.names k

theorem inv_of_run {node : Bool} {es : List BridgeEvent}
    (h : bridgeMachine.run (init node) es = some s) : s.Inv :=
  Machine.invariant (fun _ _ _ hs h ↦ hs.step h) (inv_init node) h

/-! ## Confirmation of a new value -/

variable {n : ℕ} {k name : String} {i : ℕ}

/-- Among the messages from the `n`-th on there is one with this name and value. -/
def Reported (s : BridgeRun) (n : ℕ) (k : String) (v : ParamNumber) : Prop :=
  ∃ msg ∈ s.processed.drop n, msg.name = k ∧ v = msg.decodedValue

/-- What is cached under the name was reported from the `n`-th message on. -/
def Fresh (s : BridgeRun) (n : ℕ) (k : String) : Prop :=
  ∀ param, s.bridge.paramCache.map.lookup k = some param → s.Reported n k param.paramValue

theorem Reported.mono {v : ParamNumber} (h : s.Reported n k v) (hp : s.processed <+: s'.processed) :
    s'.Reported n k v := by
  obtain ⟨msg, hmsg, hv⟩ := h
  exact ⟨msg, (hp.drop n).subset hmsg, hv⟩

theorem reported_process (hn : n ≤ s.processed.length) (msg : MessageParamValue) :
    (s.process msg).Reported n msg.name msg.decodedValue := by
  refine ⟨msg, ?_, rfl, rfl⟩
  change msg ∈ (s.processed ++ [msg]).drop n
  rw [List.drop_append_of_le_length hn]
  simp

theorem step_processed (h : bridgeMachine.step s e = some s') : s.processed <+: s'.processed := by
  obtain ⟨msg, -, -, rfl⟩ | ⟨-, rfl⟩ | ⟨hframe, -⟩ := step_cases h
  · exact List.prefix_append ..
  · exact List.prefix_refl _
  · rw [hframe.processed]

theorem fresh_process (hn : n ≤ s.processed.length) (hfresh : msg.name = k ∨ s.Fresh n k) :
    (s.process msg).Fresh n k := by
  intro param hparam
  change (s.bridge.paramCache.put msg).map.lookup k = some param at hparam
  by_cases hk : k = msg.name
  · rw [hk, ParamCache.lookup_put_self] at hparam
    rw [← Option.some.inj hparam, hk]
    exact reported_process hn msg
  · rw [ParamCache.lookup_put_of_ne _ hk] at hparam
    have hold := hfresh.resolve_left (Ne.symm hk)
    exact (hold param hparam).mono (List.prefix_append ..)

theorem Fresh.step (hfresh : s.Fresh n k) (hn : n ≤ s.processed.length)
    (h : bridgeMachine.step s e = some s') : s'.Fresh n k := by
  obtain ⟨msg, -, -, rfl⟩ | ⟨-, rfl⟩ | ⟨hframe, -⟩ := step_cases h
  · exact fresh_process hn (.inr hfresh)
  · intro param hparam
    cases (AList.lookup_empty k).symm.trans hparam
  · intro param hparam
    rw [hframe.paramCache] at hparam
    exact (hfresh param hparam).mono (by rw [hframe.processed])

/-- Nothing old is cached under the name, or nothing is cached since the instant `t` and the next
message to be cached is one for the name. -/
def Safe (s : BridgeRun) (n : ℕ) (k : String) (t : ℕ) : Prop :=
  s.Fresh n k ∨ s.bridge.paramLastUpdate ≤ t ∧ ∃ msg, s.next = some msg ∧ msg.name = k

theorem Safe.step {t : ℕ} (hsafe : s.Safe n k t) (hn : n ≤ s.processed.length)
    (h : bridgeMachine.step s e = some s') : s'.Safe n k t := by
  rcases hsafe with hfresh | ⟨hle, m, hm, hk⟩
  · exact .inl (hfresh.step hn h)
  obtain ⟨msg, -, hhand, rfl⟩ | ⟨-, rfl⟩ | ⟨hframe, -⟩ := step_cases h
  · rw [next, hhand] at hm
    exact .inl (fresh_process hn (.inl (Option.some.inj hm ▸ hk)))
  · exact .inr ⟨hle, m, hm, hk⟩
  · exact .inr ⟨hframe.paramLastUpdate ▸ hle, m, hframe.next m hm, hk⟩

/-- A call after it has sent at the instant `t`: it waits from then or later on, and its success was
reported. -/
def CallOk (s : BridgeRun) (n t : ℕ) (name : String) : SetCall → Prop
  | .idle | .sending _ => False
  | .sent m | .timed m _ => m = name
  | .waiting m _ startTime _ => m = name ∧ t ≤ startTime
  | .done r => r.success = true → s.Reported n (trimParamID name) r.newValue

theorem CallOk.mono {t : ℕ} {c : SetCall} (h : s.CallOk n t name c)
    (hp : s.processed <+: s'.processed) : s'.CallOk n t name c := by
  cases c with
  | done r => exact fun hr ↦ (h hr).mono hp
  | _ => exact h

theorem CallOk.callStep {t : ℕ} {c d : SetCall} (h : s.CallOk n t name c)
    (ht : t ≤ s.clock) (hsafe : s.Safe n (trimParamID name) t) (hstep : CallStep s c d) :
    s.CallOk n t name d := by
  cases hstep with
  | enter | sent | sendFailed => exact h.elim
  | timers => exact h
  | start => exact ⟨h, ht⟩
  | again => exact h
  | success _ text timers startTime ticks param hparam hupdate =>
    obtain ⟨rfl, hstart⟩ := h
    rcases hsafe with hfresh | ⟨hle, -⟩
    · exact fun _ ↦ hfresh param hparam
    · omega
  | timeout => exact nofun

/-- What every run keeps after a call has sent. -/
structure Sent (s : BridgeRun) (i n t : ℕ) (name : String) : Prop where
  length : n ≤ s.processed.length
  clock : t ≤ s.clock
  safe : s.Safe n (trimParamID name) t
  call : s.CallOk n t name (s.call i)

theorem Sent.step {t : ℕ} (hs : s.Sent i n t name) (h : bridgeMachine.step s e = some s') :
    s'.Sent i n t name := by
  have hp := step_processed h
  have hmono := hs.call.mono hp
  refine ⟨hs.length.trans hp.length_le, ?_, hs.safe.step hs.length h, ?_⟩
  · obtain ⟨msg, -, -, rfl⟩ | ⟨-, rfl⟩ | ⟨hframe, -⟩ := step_cases h
    · exact hs.clock
    · exact hs.clock
    · exact hs.clock.trans hframe.clock
  · obtain ⟨msg, -, -, rfl⟩ | ⟨-, rfl⟩ | ⟨-, hcall | ⟨j, c, hc, hcall⟩⟩ := step_cases h
    · exact hmono
    · exact hmono
    · rw [hcall]
      exact hmono
    · rw [hcall]
      by_cases hj : i = j
      · subst hj
        rw [Function.update_self]
        exact (hs.call.callStep hs.clock hs.safe hc).mono hp
      · rw [Function.update_of_ne hj]
        exact hmono

/-! ## Success without an answer -/

theorem exists_trimParamID_ne (k : String) : ∃ id, trimParamID id ≠ k := by
  by_cases hk : trimParamID "" = k
  · exact ⟨"A", hk ▸ by decide⟩
  · exact ⟨"", hk⟩

theorem step_take {rest : List MessageParamValue} (hhand : s.hand = none)
    (hch : s.bridge.paramValueCh = msg :: rest) :
    bridgeMachine.step s .take =
      some { s with hand := some msg, bridge := { s.bridge with paramValueCh := rest } } := by
  simp only [bridgeMachine, hhand, hch]

theorem handleParamValue_of_nil {b : ParamBridge} (hch : b.paramValueCh = [])
    (msg : MessageParamValue) : b.handleParamValue msg = { b with paramValueCh := [msg] } := by
  simp [ParamBridge.handleParamValue, hch]

/-- Unless the next message is one for the name, the cache may get one that is not. -/
theorem exists_hand_ne (hother : ¬ ∃ msg, s.next = some msg ∧ msg.name = k) :
    ∃ es s' msg, bridgeMachine.run s es = some s' ∧ s'.hand = some msg ∧ msg.name ≠ k ∧
      s'.bridge.paramCache = s.bridge.paramCache ∧ s'.processed = s.processed ∧
      s'.call = s.call ∧ s'.clock = s.clock := by
  cases hhand : s.hand with
  | some msg =>
    have hne : msg.name ≠ k := fun hk ↦ hother ⟨msg, by rw [next, hhand]; rfl, hk⟩
    exact ⟨[], s, msg, rfl, hhand, hne, rfl, rfl, rfl, rfl⟩
  | none =>
    cases hch : s.bridge.paramValueCh with
    | cons msg rest =>
      have hne : msg.name ≠ k := fun hk ↦ hother ⟨msg, by rw [next, hhand, hch]; rfl, hk⟩
      exact ⟨[.take], _, msg, Machine.run_cons_eq_some.mpr ⟨_, step_take hhand hch, rfl⟩, rfl, hne,
        rfl, rfl, rfl, rfl⟩
    | nil =>
      obtain ⟨id, hid⟩ := exists_trimParamID_ne k
      have harrive : bridgeMachine.step s (.arrive ⟨id, 0, 0, 0, 0⟩) =
          some { s with bridge := { s.bridge with paramValueCh := [⟨id, 0, 0, 0, 0⟩] } } := by
        simp only [bridgeMachine, handleParamValue_of_nil hch]
      exact ⟨[.arrive ⟨id, 0, 0, 0, 0⟩, .take], _, ⟨id, 0, 0, 0, 0⟩,
        Machine.run_cons_eq_some.mpr ⟨_, harrive,
          Machine.run_cons_eq_some.mpr ⟨_, step_take hhand rfl, rfl⟩⟩,
        rfl, hid, rfl, rfl, rfl, rfl⟩

/-- A poll ends the wait when the parameter is cached and something was updated since the start. -/
theorem step_tick {timers startTime : ℕ} {param : CachedParameter}
    (hcall : s.call i = .waiting name timers startTime 0)
    (hparam : s.bridge.paramCache.map.lookup (trimParamID name) = some param)
    (hupdate : startTime < s.bridge.paramLastUpdate)
    (hclock : Clock.add timers pollInterval ≤ s.clock) :
    ∃ text, bridgeMachine.step s (.tick i s.bridge.paramCache.map.keys) =
      some (s.setCall i (.done ⟨true, text, name, param.paramValue⟩)) := by
  refine ⟨"Parameter " ++ name ++ " successfully set", ?_⟩
  have hlookup := s.bridge.paramCache.lookupCachedParamLocked_eq (List.Perm.refl _) name
  have hfirst : pollInterval * (((0 : ℕ) : ℤ) + 1) = pollInterval := by decide
  simp only [bridgeMachine, hcall, List.Perm.refl, hfirst, hclock, and_self, if_true,
    ParamBridge.poll, hlookup, hparam, hupdate]

theorem exists_waiting (hcall : s.call i = .sent name) :
    ∃ es s', bridgeMachine.run s es = some s' ∧ s'.call i = .waiting name s.clock s.clock 0 ∧
      s'.clock = s.clock + 100000000 ∧ s'.bridge = s.bridge ∧ s'.hand = s.hand ∧
      s'.processed = s.processed := by
  have htimers : bridgeMachine.step s (.timers i) = some (s.setCall i (.timed name s.clock)) := by
    simp only [bridgeMachine, hcall]
  have hstart : bridgeMachine.step (s.setCall i (.timed name s.clock)) (.start i) =
      some ((s.setCall i (.timed name s.clock)).setCall i (.waiting name s.clock s.clock 0)) := by
    simp only [bridgeMachine, setCall, Function.update_self]
  have hclock (u : BridgeRun) : bridgeMachine.step u (.clock (u.clock + 100000000)) =
      some { u with clock := u.clock + 100000000 } :=
    if_pos (Nat.le_add_right ..)
  exact ⟨[.timers i, .start i, .clock (s.clock + 100000000)], _,
    Machine.run_cons_eq_some.mpr ⟨_, htimers, Machine.run_cons_eq_some.mpr ⟨_, hstart,
      Machine.run_cons_eq_some.mpr ⟨_, hclock _, rfl⟩⟩⟩,
    Function.update_self .., rfl, rfl, rfl, rfl⟩

/-- A parameter that is cached when the message is sent, and is not the next to be cached, may be
reported as set although no message for it came. -/
theorem exists_unconfirmed {param : CachedParameter} (hcall : s.call i = .sent name)
    (hparam : s.bridge.paramCache.map.lookup (trimParamID name) = some param)
    (hother : ¬ ∃ msg, s.next = some msg ∧ msg.name = trimParamID name) :
    ∃ es t r msg, bridgeMachine.run s es = some t ∧ t.call i = .done r ∧ r.success = true ∧
      t.processed = s.processed ++ [msg] ∧ msg.name ≠ trimParamID name := by
  have hlater : Clock.add s.clock pollInterval = s.clock + 100000000 := by
    have hadd := Clock.coe_add (t := s.clock) (d := pollInterval) (by decide)
    have hpoll : pollInterval = 100000000 := by decide
    omega
  obtain ⟨es, s₁, h₁, hwait, hclock, hbridge, hhand₁, hprocessed₁⟩ := exists_waiting hcall
  have hother₁ : ¬ ∃ msg, s₁.next = some msg ∧ msg.name = trimParamID name := by
    rwa [next, hbridge, hhand₁]
  obtain ⟨fs, s₂, msg, h₂, hhand, hne, hcache, hprocessed, hcall₂, hclock₂⟩ :=
    exists_hand_ne hother₁
  have h₃ : bridgeMachine.step s₂ .process = some (s₂.process msg) := by
    change s₂.hand.map s₂.process = _
    rw [hhand, Option.map_some]
  -- The old entry is still there, and the update of the other one is after the start.
  have hlookup : (s₂.process msg).bridge.paramCache.map.lookup (trimParamID name) = some param := by
    change (s₂.bridge.paramCache.put msg).map.lookup (trimParamID name) = some param
    rw [ParamCache.lookup_put_of_ne _ (Ne.symm hne), hcache, hbridge]
    exact hparam
  have hwait₂ : (s₂.process msg).call i = .waiting name s.clock s.clock 0 :=
    (congrFun hcall₂ i).trans hwait
  have hnow : s₂.clock = s.clock + 100000000 := hclock₂.trans hclock
  obtain ⟨text, h₄⟩ := step_tick hwait₂ hlookup (show s.clock < s₂.clock by omega)
    (show Clock.add s.clock pollInterval ≤ s₂.clock by omega)
  have hend := Machine.run_cons_eq_some.mpr
    ⟨_, h₃, Machine.run_cons_eq_some.mpr ⟨_, h₄, Machine.run_nil _ _⟩⟩
  have hrun := Machine.run_append_eq_some.mpr
    ⟨s₁, h₁, Machine.run_append_eq_some.mpr ⟨s₂, h₂, hend⟩⟩
  refine ⟨_, _, _, msg, hrun, Function.update_self .., rfl, ?_, hne⟩
  change s₂.processed ++ [msg] = s.processed ++ [msg]
  rw [hprocessed, hprocessed₁]

end BridgeRun

/-- **Confirmation of a new value.** A call that has just sent `PARAM_SET` is bound to report only a
value cached after the sending, exactly when its parameter was not cached at the sending or the next
message to be cached is one for it. -/
theorem set_parameter_confirmed_iff {node : Bool} {es₀ : List BridgeEvent} {s s₁ : BridgeRun}
    {i : ℕ} {name : String} (hrun : bridgeMachine.run (.init node) es₀ = some s)
    (hcall : s.call i = .sending name) (hsent : bridgeMachine.step s (.sent i) = some s₁) :
    (∀ es t r, bridgeMachine.run s₁ es = some t → t.call i = .done r → r.success = true →
      ∃ msg ∈ t.processed.drop s.processed.length,
        msg.name = trimParamID name ∧ r.newValue = msg.decodedValue) ↔
    (s.bridge.paramCache.map.lookup (trimParamID name) = none ∨
      ∃ msg, s.next = some msg ∧ msg.name = trimParamID name) := by
  obtain rfl : s.setCall i (.sent name) = s₁ := by
    simpa only [bridgeMachine, hcall, Option.some.injEq] using hsent
  have hnow : (s.setCall i (.sent name)).call i = .sent name := Function.update_self ..
  constructor
  · intro hall
    by_contra hno
    obtain ⟨hcached, hother⟩ := not_or.mp hno
    obtain ⟨param, hparam⟩ := Option.ne_none_iff_exists'.mp hcached
    obtain ⟨es, t, r, msg, ht, hdone, hr, hprocessed, hne⟩ :=
      BridgeRun.exists_unconfirmed hnow hparam hother
    obtain ⟨m, hm, hname, -⟩ := hall es t r ht hdone hr
    have hdrop : t.processed.drop s.processed.length = [msg] := by
      rw [hprocessed]
      exact List.drop_left
    rw [hdrop, List.mem_singleton] at hm
    exact hne (hm ▸ hname)
  · intro hsafe es t r ht hdone hr
    have hstart : (s.setCall i (.sent name)).Sent i s.processed.length s.clock name := by
      refine ⟨le_rfl, le_rfl, ?_, ?_⟩
      case refine_2 =>
        rw [hnow]
        rfl
      rcases hsafe with hnone | hnext
      · exact .inl fun param hparam ↦ absurd (hnone.symm.trans hparam) nofun
      · exact .inr ⟨(BridgeRun.inv_of_run hrun).update, hnext⟩
    have hend := Machine.invariant (fun _ _ _ hs h ↦ BridgeRun.Sent.step hs h) hstart ht
    have hok := hend.call
    rw [hdone] at hok
    exact hok hr

/-- The first value of a parameter that has never been seen is an answer to the call. -/
theorem set_parameter_confirmed_unseen :
    ∃ s s₁, bridgeMachine.run (.init true) [.heartbeat 1, .setParameter 0 "A"] = some s ∧
      s.call 0 = .sending "A" ∧ bridgeMachine.step s (.sent 0) = some s₁ ∧
      ∀ es t r, bridgeMachine.run s₁ es = some t → t.call 0 = .done r → r.success = true →
        ∃ msg ∈ t.processed.drop s.processed.length,
          msg.name = trimParamID "A" ∧ r.newValue = msg.decodedValue := by
  obtain ⟨s, s₁, hrun, hcall, hsent, hnone⟩ :
      ∃ s s₁, bridgeMachine.run (.init true) [.heartbeat 1, .setParameter 0 "A"] = some s ∧
        s.call 0 = .sending "A" ∧ bridgeMachine.step s (.sent 0) = some s₁ ∧
        s.bridge.paramCache.map.lookup (trimParamID "A") = none :=
    ⟨_, _, rfl, rfl, rfl, rfl⟩
  exact ⟨s, s₁, hrun, hcall, hsent, (set_parameter_confirmed_iff hrun hcall hsent).mpr (.inl hnone)⟩

/-- A value of another parameter passes for the answer: the call returns the old value. -/
theorem set_parameter_unconfirmed :
    ∃ s s₁ t r, bridgeMachine.run (.init true)
        [.heartbeat 1, .arrive ⟨"A", 0, 9, 2, 0⟩, .take, .process, .setParameter 0 "A"] = some s ∧
      s.call 0 = .sending "A" ∧ bridgeMachine.step s (.sent 0) = some s₁ ∧
      bridgeMachine.run s₁
        [.timers 0, .start 0, .clock 100000000, .arrive ⟨"B", 1, 9, 2, 1⟩, .take, .process,
          .tick 0 ["B", "A"]] = some t ∧
      t.call 0 = .done r ∧ r.success = true ∧ r.newValue = .float 0 ∧
      ∀ msg ∈ t.processed.drop s.processed.length, msg.name ≠ trimParamID "A" := by
  refine ⟨_, _, _, _, rfl, rfl, rfl, rfl, rfl, rfl, rfl, ?_⟩
  intro msg hmsg
  obtain rfl := List.mem_singleton.mp hmsg
  decide

/-! ## Completion of a parameter list -/

def namesOf (msgs : List MessageParamValue) : Finset String := (msgs.map (·.name)).toFinset

def indicesOf (msgs : List MessageParamValue) : Finset ℕ := (msgs.map (·.paramIndex.toNat)).toFinset

/-- Its count is not below an earlier one, and a name that is new comes with an index that is new
too and below the count. -/
def MessageParamValue.Extends (msg : MessageParamValue) (msgs : List MessageParamValue) : Prop :=
  (∀ m ∈ msgs, m.paramCount.toNat ≤ msg.paramCount.toNat) ∧
    (msg.name ∈ namesOf msgs ∨
      msg.paramIndex.toNat < msg.paramCount.toNat ∧ msg.paramIndex.toNat ∉ indicesOf msgs)

instance (msg : MessageParamValue) (msgs : List MessageParamValue) : Decidable (msg.Extends msgs) :=
  inferInstanceAs (Decidable (_ ∧ _))

/-- There are no more names than indices below any count. -/
def Numbered (msgs : List MessageParamValue) : Prop :=
  ∀ n, (∀ m ∈ msgs, m.paramCount.toNat ≤ n) →
    (namesOf msgs).card ≤ ((indicesOf msgs).filter (· < n)).card

theorem namesOf_concat (msgs : List MessageParamValue) (msg : MessageParamValue) :
    namesOf (msgs ++ [msg]) = insert msg.name (namesOf msgs) := by
  ext k
  simp [namesOf, eq_comm]

theorem indicesOf_concat (msgs : List MessageParamValue) (msg : MessageParamValue) :
    indicesOf (msgs ++ [msg]) = insert msg.paramIndex.toNat (indicesOf msgs) := by
  ext k
  simp [indicesOf, eq_comm]

theorem Numbered.concat {msgs : List MessageParamValue} {msg : MessageParamValue}
    (h : Numbered msgs) (hmsg : msg.Extends msgs) : Numbered (msgs ++ [msg]) := by
  intro n hn
  have hold := h n fun m hm ↦ hn m (List.mem_append_left _ hm)
  have hcount : msg.paramCount.toNat ≤ n := hn msg (by simp)
  rw [namesOf_concat, indicesOf_concat, Finset.filter_insert]
  rcases hmsg.2 with hname | ⟨hindex, hnew⟩
  · rw [Finset.insert_eq_of_mem hname]
    refine hold.trans (Finset.card_le_card ?_)
    split
    · exact Finset.subset_insert ..
    · exact subset_rfl
  · have hfilter : msg.paramIndex.toNat ∉ (indicesOf msgs).filter (· < n) :=
      fun hmem ↦ hnew (Finset.mem_filter.mp hmem).1
    rw [if_pos (hindex.trans_le hcount), Finset.card_insert_of_notMem hfilter]
    exact (Finset.card_insert_le ..).trans (Nat.succ_le_succ hold)

/-- A numbered list with as many names as its count has every index. -/
theorem Numbered.complete {msgs : List MessageParamValue} {n : ℕ} (h : Numbered msgs)
    (hcount : ∀ m ∈ msgs, m.paramCount.toNat ≤ n) (hn : n ≤ (namesOf msgs).card) :
    ∀ k < n, ∃ m ∈ msgs, m.paramIndex.toNat = k := by
  have hsub : (indicesOf msgs).filter (· < n) ⊆ Finset.range n :=
    fun k hk ↦ Finset.mem_range.mpr (Finset.mem_filter.mp hk).2
  have hcard : (Finset.range n).card ≤ ((indicesOf msgs).filter (· < n)).card := by
    rw [Finset.card_range]
    exact hn.trans (h n hcount)
  have hall := Finset.eq_of_subset_of_card_le hsub hcard
  intro k hk
  have hmem : k ∈ (indicesOf msgs).filter (· < n) := hall ▸ Finset.mem_range.mpr hk
  simpa [indicesOf] using (Finset.mem_filter.mp hmem).1

namespace BridgeRun

variable {s s' : BridgeRun} {e : BridgeEvent} {msg : MessageParamValue}

theorem Inv.len_eq (h : s.Inv) : s.bridge.paramCache.len = (namesOf s.received).card := by
  have hkeys : s.bridge.paramCache.map.keys.toFinset = namesOf s.received := by
    ext k
    rw [List.mem_toFinset, ← AList.mem_keys, h.names]
    simp [namesOf]
  rw [← hkeys, List.toFinset_card_of_nodup (AList.keys_nodup _)]
  rfl

/-- The message that is cached in a step goes on with the list. -/
def ListsOn (s : BridgeRun) (e : BridgeEvent) : Prop :=
  e = .process → ∀ msg ∈ s.hand, msg.Extends s.received

instance (s : BridgeRun) (e : BridgeEvent) : Decidable (s.ListsOn e) :=
  inferInstanceAs (Decidable (_ → _))

theorem numbered_step (hs : Numbered s.received) (hon : s.ListsOn e)
    (h : bridgeMachine.step s e = some s') : Numbered s'.received := by
  obtain ⟨msg, rfl, hhand, rfl⟩ | ⟨-, rfl⟩ | ⟨hframe, -⟩ := step_cases h
  · exact hs.concat (hon rfl msg hhand)
  · exact fun n _ ↦ Nat.zero_le _
  · rw [hframe.received]
    exact hs

/-- Loading ends in a step that caches as many names as the message counts. -/
theorem paramLoading_process (hload : s.bridge.paramLoading = true)
    (hdone : (s.process msg).bridge.paramLoading = false) :
    msg.paramCount.toNat ≤ (s.process msg).bridge.paramCache.len := by
  change (if msg.paramCount.toNat ≤ (s.bridge.paramCache.put msg).len ∧
    s.bridge.paramLoading = true then false else s.bridge.paramLoading) = false at hdone
  split at hdone
  case isTrue h => exact h.1
  case isFalse => cases hload.symm.trans hdone

end BridgeRun

/-- **Completion of a list.** If every message that is cached goes on with the list,
`processParamValues` ends the loading only when every index below the count has been received since
the last request. -/
theorem param_list_complete {node : Bool} {es : List BridgeEvent} {s s' : BridgeRun}
    {msg : MessageParamValue} (hrun : bridgeMachine.run (.init node) es = some s)
    (hhand : s.hand = some msg) (hstep : bridgeMachine.step s .process = some s')
    (halong : bridgeMachine.Along BridgeRun.ListsOn (.init node) (es ++ [.process]))
    (hload : s.bridge.paramLoading = true) (hdone : s'.bridge.paramLoading = false) :
    ∀ k < msg.paramCount.toNat, ∃ m ∈ s'.received, m.paramIndex.toNat = k := by
  obtain ⟨hbefore, hlast⟩ := (Machine.along_append hrun).mp halong
  have hnumbered : Numbered s.received :=
    Machine.invariant_along (fun _ _ _ hs hon h ↦ BridgeRun.numbered_step hs hon h)
      (show Numbered [] from fun _ _ ↦ le_rfl) hbefore hrun
  have hext := Machine.along_singleton.mp hlast rfl msg hhand
  have hinv := (BridgeRun.inv_of_run hrun).step hstep
  obtain rfl : s.process msg = s' := by
    simpa only [bridgeMachine, hhand, Option.map_some, Option.some.injEq] using hstep
  have hlen := BridgeRun.paramLoading_process hload hdone
  rw [hinv.len_eq] at hlen
  refine (hnumbered.concat hext).complete (fun m hm ↦ ?_) hlen
  rcases List.mem_append.mp hm with hm | hm
  · exact hext.1 m hm
  · rw [List.mem_singleton.mp hm]

/-- A list of two parameters. -/
theorem param_list_complete_two :
    ∃ s s' msg, bridgeMachine.run (.init true)
        [.heartbeat 1, .requestList, .requestSent, .arrive ⟨"A", 0, 9, 2, 0⟩, .take, .process,
          .arrive ⟨"B", 0, 9, 2, 1⟩, .take] = some s ∧
      s.hand = some msg ∧ bridgeMachine.step s .process = some s' ∧
      s.bridge.paramLoading = true ∧ s'.bridge.paramLoading = false ∧
      ∀ k < msg.paramCount.toNat, ∃ m ∈ s'.received, m.paramIndex.toNat = k := by
  have halong : bridgeMachine.Along BridgeRun.ListsOn (.init true)
      [.heartbeat 1, .requestList, .requestSent, .arrive ⟨"A", 0, 9, 2, 0⟩, .take, .process,
        .arrive ⟨"B", 0, 9, 2, 1⟩, .take, .process] := by
    decide
  obtain ⟨s, s', msg, hrun, hhand, hstep, hload, hdone⟩ :
      ∃ s s' msg, bridgeMachine.run (.init true)
        [.heartbeat 1, .requestList, .requestSent, .arrive ⟨"A", 0, 9, 2, 0⟩, .take, .process,
          .arrive ⟨"B", 0, 9, 2, 1⟩, .take] = some s ∧
      s.hand = some msg ∧ bridgeMachine.step s .process = some s' ∧
      s.bridge.paramLoading = true ∧ s'.bridge.paramLoading = false :=
    ⟨_, _, _, rfl, rfl, rfl, rfl, rfl⟩
  exact ⟨s, s', msg, hrun, hhand, hstep, hload, hdone,
    param_list_complete hrun hhand hstep halong hload hdone⟩

/-- One message with an index outside of the list ends the loading of a list of one. -/
theorem param_list_incomplete :
    ∃ s s' msg, bridgeMachine.run (.init true)
        [.heartbeat 1, .requestList, .requestSent, .arrive ⟨"A", 0, 9, 1, 65535⟩, .take] = some s ∧
      s.hand = some msg ∧ bridgeMachine.step s .process = some s' ∧
      s.bridge.paramLoading = true ∧ s'.bridge.paramLoading = false ∧
      0 < msg.paramCount.toNat ∧ ¬ ∃ m ∈ s'.received, m.paramIndex.toNat = 0 := by
  refine ⟨_, _, _, rfl, rfl, rfl, rfl, rfl, by decide, ?_⟩
  rintro ⟨m, hm, hindex⟩
  obtain rfl := List.mem_singleton.mp hm
  cases hindex

end DroneBridge
