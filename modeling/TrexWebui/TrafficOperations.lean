import TrexWebui.PortOperations

/-!
# Traffic operations

`traffic_operations.py`: the sequences of SDK calls that start, update,
stop, pause and resume traffic, each inside one connected client.
-/

namespace TrexWebui

open OracleProgram

section

variable (env : TrafficEnvironment)

/-- The client callable that the authority is given: connect, run the operation, and
turn whatever it raises into a failed result. -/
def withClient {m : Type → Type} [Monad m] [MonadExceptOf TrafficError m]
    [MonadLiftT TrafficQuery m] {α : Type} (operation : m α) : m (CallResult α) := do
  match ← (liftM (ask env .connect) : m (Option Failure)) with
  | some f => pure (.failed f)
  | none =>
    guarded TrafficError.isException operation
      (fun exc => pure (failure "trex_command_failed" exc.text)) fun data => pure (.ok data)

/-! ## Actions and updates -/

/-- What `traffic_action` reports, with what the authority adds to it. -/
structure ActionData where
  result : Option String
  action : TrafficOperation
  ports : List Port
  statePersisted : Bool := false
  session : Option TrafficSessionState := none

def actionRpc (action : TrafficOperation) (ports : Option (List Port)) : Rpc :=
  match action with
  | .pause => .pause ports
  | .resume => .resume ports
  | .stop | .start | .update => .stop ports

/-- `{"stop", "pause", "resume"}`. -/
def TrafficOperation.isAction : TrafficOperation → Bool
  | .stop | .pause | .resume => true
  | .start | .update => false

def trafficAction (action : TrafficOperation) (ports : Option (List Port)) :
    TrafficM (CallResult ActionData) := do
  if action.isAction = false then
    pure (failure "unsupported_traffic_action" s!"unsupported action: {action.text}")
  else match normalizePortList ports with
  | .failed f => pure (.failed f)
  | .ok normalizedPorts =>
    withClient env do
      let operationPorts ← operationPorts env normalizedPorts
      let acquiredPorts ← acquirePortsForOperation env operationPorts
      ensuring TrafficError.isCrash
        (do
          let command ← issue env (actionRpc action normalizedPorts)
          pure { result := command.text, action := action, ports := operationPorts })
        (liftM (releasePortsForOperationStrict env acquiredPorts))

/-- What `update_traffic` reports, with what the authority adds to it. -/
structure UpdateData where
  ports : List Port
  multiplier : String
  force : Bool
  total : Bool
  updateResult : Option String
  statePersisted : Bool := false
  session : Option TrafficSessionState := none

def updateTraffic (ports : Option (List Port)) (multiplier : String) (force total : Bool) :
    TrafficM (CallResult UpdateData) :=
  match normalizePortList ports with
  | .failed f => pure (.failed f)
  | .ok normalizedPorts =>
    withClient env do
      let operationPorts ← operationPorts env normalizedPorts
      let acquiredPorts ← acquirePortsForOperation env operationPorts
      ensuring TrafficError.isCrash
        (do
          let updateResult ← issue env (.update normalizedPorts multiplier force total)
          pure {
            ports := operationPorts
            multiplier := multiplier
            force := force
            total := total
            updateResult := updateResult.text })
        (liftM (releasePortsForOperationStrict env acquiredPorts))

/-! ## Starts -/

/-- `needle in text`. -/
def occursIn (needle text : String) : Bool :=
  text.toList.tails.any (needle.toList.isPrefixOf ·)

def PROFILE_NO_STREAMS_ERROR : String :=
  "profile did not return any streams; Python profile may require tunables or "
    ++ "may have received unsupported tunables"

def PROFILE_NOT_TRAFFIC_PROFILE_ERROR : String :=
  "profile is not a runnable STL traffic profile; selected file does not expose "
    ++ "stream packet data"

def profileNoStreamsError (tunables : Dict String JsonText) : String :=
  if tunables = ∅ then s!"{PROFILE_NO_STREAMS_ERROR}; no tunables were provided"
  else s!"{PROFILE_NO_STREAMS_ERROR}; provided tunables: "
    ++ ", ".intercalate (sortedMembers tunables.keys)

/-- The exceptions of `add_profile` that are about the profile. -/
def translateProfileError (tunables : Dict String JsonText) (exc : TrafficError) :
    TrafficError :=
  if occursIn "'NoneType' object has no attribute 'get_streams'" exc.text then
    .value (profileNoStreamsError tunables)
  else if occursIn "object has no attribute 'get_streams'" exc.text
      || occursIn "from_json: missing field 'packet'" exc.text then
    .value PROFILE_NOT_TRAFFIC_PROFILE_ERROR
  else exc

/-- What `start_profile` reports, with what the authority adds to it. -/
structure StartData where
  profilePath : String
  ports : List Port
  multiplier : String
  duration : Decimal
  force : Bool
  total : Bool
  synchronized : Bool
  clearExisting : Bool
  tunables : Dict String JsonText
  streamIds : Option String
  startResult : Option String
  statePersisted : Bool := false
  session : Option TrafficSessionState := none

/-- The parameters that a start hands to the client. -/
structure StartCommand where
  multiplier : String
  duration : Decimal
  force : Bool
  total : Bool
  synchronized : Bool
  clearExisting : Bool
  tunables : Dict String JsonText

/-- The removal of the streams on the ports, if the start clears them. -/
def clearStreams (clearExisting : Bool) (ports : Option (List Port))
    (stageHook : HardwareStage → TrafficM Unit) : TrafficM Unit := do
  if clearExisting then
    stageHook .streamsRemoveIntent
    let _ ← issue env (.removeAllStreams ports)
    stageHook .streamsRemoved
  else pure ()

/-- The body of the `try` of `start`: every live step is announced by its stage. -/
def startSequence (path : String) (ports : Option (List Port)) (operationPorts : List Port)
    (command : StartCommand) (preflight : List Port → TrafficQuery Unit)
    (stageHook : HardwareStage → TrafficM Unit) : TrafficM (SdkValue × SdkValue) := do
  stageHook .acquired
  preflight operationPorts
  clearStreams env command.clearExisting ports stageHook
  guarded TrafficError.isException
    (do
      stageHook .profileAddIntent
      let streamIds ← issue env (.addProfile path ports command.tunables)
      stageHook .profileAdded
      pure streamIds)
    (fun exc => throw (translateProfileError command.tunables exc))
    fun streamIds => do
      raiseIf (streamIds.text.isNone = true)
        (TrafficError.value (profileNoStreamsError command.tunables))
      stageHook .startIntent
      let startResult ← issue env (.start ports command.multiplier command.duration
        command.force command.total command.synchronized)
      stageHook .startReturned
      pure (streamIds, startResult)

def startProfile (profilePath : String) (ports : Option (List Port)) (command : StartCommand)
    (preflight : List Port → TrafficQuery Unit) (stageHook : HardwareStage → TrafficM Unit) :
    TrafficM (CallResult StartData) := do
  match ← ask env (.resolveProfile profilePath) with
  | .error f => pure (.failed f)
  | .ok resolved =>
    match normalizePortList ports with
    | .failed f => pure (.failed f)
    | .ok normalizedPorts =>
      withClient env do
        let operationPorts ← operationPorts env normalizedPorts
        stageHook .acquireIntent
        let acquiredPorts ← acquirePortsForOperation env operationPorts
        ensuring TrafficError.isCrash
          (do
            let (streamIds, startResult) ←
              startSequence env resolved normalizedPorts operationPorts command preflight
                stageHook
            pure {
              profilePath := resolved
              ports := operationPorts
              multiplier := command.multiplier
              duration := command.duration
              force := command.force
              total := command.total
              synchronized := command.synchronized
              clearExisting := command.clearExisting
              tunables := command.tunables
              streamIds := streamIds.text
              startResult := startResult.text })
          (liftM (releasePortsForOperationStrict env acquiredPorts))

end

end TrexWebui
