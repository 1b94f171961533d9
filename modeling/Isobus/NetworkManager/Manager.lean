import Isobus.NetworkManager.AddressClaim

/-!
# The network manager

`CANNetworkManager`: what a received frame does at once, what its message does when the queue is
worked off, and the other parts of `update`.
-/

namespace Isobus.NetworkManager

open Isobus.Can Isobus.Lib

def MAX_ADDRESS_CLAIM_RESOLUTION_TIME : UInt32 := 755

namespace CANNetworkManager

variable (config : CANNetworkConfiguration) (env : Environment)

def createExternalControlFunction (desiredName : NAME) (address port : UInt8)
    (nm : CANNetworkManager) : CFRef × CANNetworkManager :=
  let created := nm.create ⟨.external, desiredName, address, port⟩
  (created.1,
    if port < CAN_PORT_MAXIMUM ∧ address < NULL_CAN_ADDRESS then
      created.2.setSlot port address created.1
    else created.2)

/-- A NAME that is known on the channel, in the table or among the inactive ones. -/
def findKnown (channel : UInt8) (claimedName : NAME) (nm : CANNetworkManager) : Option CFRef :=
  match nm.findActive channel fun c => nm.name c = claimedName with
  | some c => some c
  | none => nm.inactiveControlFunctions.find? fun c => nm.name c = claimedName ∧ nm.port c = channel

def findPartner (channel : UInt8) (claimedName : NAME) (nm : CANNetworkManager) : Option CFRef :=
  nm.partneredControlFunctions.find? fun c =>
    nm.port c = channel ∧ checkMatchesName (nm.partnered c).nameFilterList claimedName ∧
      nm.name c = 0

/-- Who a claim comes from; a partner that is matched by it takes the table entry. -/
def findClaimant (channel claimedAddress : UInt8) (claimedName : NAME) (nm : CANNetworkManager) :
    Option CFRef × CANNetworkManager :=
  match nm.findKnown channel claimedName with
  | some c => (some c, nm)
  | none =>
    match nm.findPartner channel claimedName with
    | some c => (some c, (nm.setName c claimedName).setSlot channel claimedAddress (some c))
    | none => (none, nm)

/-- Whose address is claimed by another one loses it, unless it is one of ours that can defend it.
-/
def contend (found : Option CFRef) (claimedAddress : UInt8) (claimedName : NAME)
    (nm : CANNetworkManager) (c : CFRef) : CANNetworkManager :=
  if found ≠ some c ∧ nm.address c = claimedAddress then
    if nm.type c = .internal ∧ claimedName ≠ nm.name c ∧
        nm.currentState c = .addressClaimingComplete then
      if claimedName > nm.name c then nm.setCurrentState env c .sendReclaimAddressOnRequest
      else (nm.setCurrentState env c .waitForRequestContentionPeriod).setAddress c NULL_CAN_ADDRESS
    else nm.setAddress c NULL_CAN_ADDRESS
  else nm

/-- The same walk for the inactive ones, which have nothing to defend. -/
def contendInactive (found : Option CFRef) (channel claimedAddress : UInt8)
    (nm : CANNetworkManager) (c : CFRef) : CANNetworkManager :=
  if found ≠ some c ∧ nm.address c = claimedAddress ∧ nm.port c = channel then
    nm.setAddress c NULL_CAN_ADDRESS
  else nm

/-- Remove the address from everybody in the table but the claimant. -/
def contendTable (found : Option CFRef) (channel claimedAddress : UInt8) (claimedName : NAME)
    (nm : CANNetworkManager) : CANNetworkManager :=
  slots.foldl (fun nm address =>
    match nm.controlFunctionTable channel address with
    | some c => nm.contend env found claimedAddress claimedName c
    | none => nm) nm

def contendAll (found : Option CFRef) (channel claimedAddress : UInt8) (claimedName : NAME)
    (nm : CANNetworkManager) : CANNetworkManager :=
  let nm := nm.contendTable env found channel claimedAddress claimedName
  nm.inactiveControlFunctions.foldl (contendInactive found channel claimedAddress) nm

/-- Give the claimant its address; one that moves takes its table entry along. -/
def acceptClaim (found : Option CFRef) (channel claimedAddress : UInt8) (claimedName : NAME)
    (nm : CANNetworkManager) : CANNetworkManager :=
  match found with
  | none =>
    let created := nm.createExternalControlFunction claimedName claimedAddress channel
    created.2.emit (.stateChanged created.1 .online)
  | some c =>
    if nm.address c ≠ claimedAddress ∧ claimedAddress < NULL_CAN_ADDRESS then
      if (nm.controlFunctions c).getAddressValid then
        (((nm.setSlot channel claimedAddress (some c)).setSlot channel (nm.address c)
          none).setAddress c claimedAddress).emit (.stateChanged c .online)
      else (nm.setAddress c claimedAddress).emit (.stateChanged c .online)
    else nm

def updateControlFunctions (rxFrame : CANMessageFrame) (nm : CANNetworkManager) :
    CANNetworkManager :=
  let identifier : CANIdentifier := ⟨rxFrame.identifier⟩
  if identifier.getParameterGroupNumber = addressClaim ∧ CAN_DATA_LENGTH = rxFrame.data.length ∧
      rxFrame.channel < CAN_PORT_MAXIMUM then
    let claimedName := decodeName rxFrame.data
    let claimedAddress := identifier.getSourceAddress
    let claimant := nm.findClaimant rxFrame.channel claimedAddress claimedName
    (claimant.2.contendAll env claimant.1 rxFrame.channel claimedAddress claimedName).acceptClaim
      claimant.1 rxFrame.channel claimedAddress claimedName
  else nm

def messageOf (frame : CANMessageFrame) (nm : CANNetworkManager) : CANMessage :=
  let identifier : CANIdentifier := ⟨frame.identifier⟩
  { identifier := identifier
    data := frame.data
    source := nm.getControlFunction frame.channel identifier.getSourceAddress
    destination := nm.getControlFunction frame.channel identifier.getDestinationAddress
    canPortIndex := frame.channel
    timestampUs := frame.timestampUs }

def enqueue (message : CANMessage) (nm : CANNetworkManager) : CANNetworkManager :=
  if nm.initialized then { nm with receivedMessageQueue := nm.receivedMessageQueue ++ [message] }
  else nm

def processReceiveCanMessageFrame (rxFrame : CANMessageFrame) (nm : CANNetworkManager) :
    CANNetworkManager :=
  let nm := nm.updateControlFunctions env rxFrame
  nm.enqueue (nm.messageOf rxFrame)

/-- Of the frames we sent, our own requests for the address claim are received as well. -/
def processTransmittedCanMessageFrame (txFrame : CANMessageFrame) (nm : CANNetworkManager) :
    CANNetworkManager :=
  let message := nm.messageOf txFrame
  if message.identifier.getIdentifierType = .extended ∧
      message.identifier.getParameterGroupNumber = parameterGroupNumberRequest ∧
      message.data = addressClaimRequestBytes then
    nm.enqueue message
  else nm

def evictStolen (channelIndex claimedAddress : UInt8) (nm : CANNetworkManager) :
    CANNetworkManager :=
  match nm.controlFunctionTable channelIndex claimedAddress with
  | some target =>
    if nm.address target = NULL_CAN_ADDRESS then
      ((nm.setAddress target NULL_CAN_ADDRESS).pushInactive target).setSlot channelIndex
        claimedAddress none
    else nm
  | none => nm

/-- A claim gives a free entry of its address to an inactive control function that has the address
by now. -/
def refreshSlot (channelIndex claimedAddress : UInt8) (nm : CANNetworkManager) :
    CANNetworkManager :=
  let nm := nm.evictStolen channelIndex claimedAddress
  match nm.controlFunctionTable channelIndex claimedAddress with
  | some target => nm.setClaimed target true
  | none =>
    match nm.inactiveControlFunctions.find? fun c =>
        nm.address c = claimedAddress ∧ nm.port c = channelIndex with
    | some c =>
      (nm.setSlot channelIndex claimedAddress (some c)).emit (.stateChanged c .online)
    | none => nm

def noteAddressClaimRequest (channelIndex : UInt8) (nm : CANNetworkManager) : CANNetworkManager :=
  let nm :=
    { nm with
      lastAddressClaimRequestTimestamp :=
        Function.update nm.lastAddressClaimRequestTimestamp channelIndex env.now }
  let nm := match nm.inactiveControlFunctions.find? fun c => nm.port c = channelIndex with
    | some c => nm.setClaimed c true
    | none => nm
  slots.foldl (fun nm address =>
    match nm.controlFunctionTable channelIndex address with
    | some c => nm.setClaimed c false
    | none => nm) nm

def updateAddressTable (message : CANMessage) (nm : CANNetworkManager) : CANNetworkManager :=
  if message.identifier.getParameterGroupNumber = addressClaim ∧
      message.canPortIndex < CAN_PORT_MAXIMUM then
    if message.identifier.getSourceAddress < NULL_CAN_ADDRESS then
      nm.refreshSlot message.canPortIndex message.identifier.getSourceAddress
    else nm.emit .outOfBounds
  else if message.identifier.getParameterGroupNumber = parameterGroupNumberRequest ∧
      message.canPortIndex < CAN_PORT_MAXIMUM then
    if message.getUint24At 0 = addressClaim ∧
        BROADCAST_CAN_ADDRESS = message.identifier.getDestinationAddress then
      nm.noteAddressClaimRequest env message.canPortIndex
    else nm
  else nm

def processCanMessageForAddressViolations (message : CANMessage) (nm : CANNetworkManager) :
    CANNetworkManager :=
  nm.internalControlFunctions.foldl
    (fun nm c => nm.processRxMessageForAddressViolation env message c) nm

def processMessageForAddressClaiming (message : CANMessage) (nm : CANNetworkManager) :
    CANNetworkManager :=
  nm.internalControlFunctions.foldl
    (fun nm c => nm.processRxMessageForAddressClaiming env message c) nm

def callCallbacks (message : CANMessage) (callbacks : List ParameterGroupNumberCallbackData)
    (takes : ParameterGroupNumberCallbackData → Bool) (nm : CANNetworkManager) :
    CANNetworkManager :=
  { nm with
    log := nm.log ++ (callbacks.filter fun data =>
      data.parameterGroupNumber = message.identifier.getParameterGroupNumber && takes data).map
        fun data => .callback data message }

def processProtocolPgnCallbacks (message : CANMessage) (nm : CANNetworkManager) :
    CANNetworkManager :=
  nm.callCallbacks message nm.protocolPGNCallbacks fun _ => true

def processAnyControlFunctionPgnCallbacks (message : CANMessage) (nm : CANNetworkManager) :
    CANNetworkManager :=
  nm.callCallbacks message nm.anyControlFunctionParameterGroupNumberCallbacks fun _ =>
    message.destination.all fun d => nm.type d = .internal

def dispatchParameterGroupNumberCallback (message : CANMessage) (partner : CFRef)
    (nm : CANNetworkManager) : CANNetworkManager :=
  nm.callCallbacks message (nm.partnered partner).parameterGroupNumberCallbacks fun data =>
    data.callback.isSome && data.internalControlFunction.all fun c =>
      nm.address c = message.identifier.getDestinationAddress

def processCanMessageForGlobalAndPartnerCallbacks (message : CANMessage)
    (nm : CANNetworkManager) : CANNetworkManager :=
  match message.destination with
  | none =>
    if message.source ≠ none ∨
        message.identifier.getParameterGroupNumber = parameterGroupNumberRequest ∧
          message.identifier.getSourceAddress = NULL_CAN_ADDRESS then
      nm.callCallbacks message nm.globalParameterGroupNumberCallbacks (·.callback.isSome)
    else nm
  | some destination =>
    if nm.type destination = .internal then
      nm.partneredControlFunctions.foldl (fun nm partner =>
        if nm.port partner = message.canPortIndex ∧ message.source = some partner then
          nm.dispatchParameterGroupNumberCallback message partner
        else nm) nm
    else nm

def protocolMessageCallback (message : CANMessage) (nm : CANNetworkManager) : CANNetworkManager :=
  ((nm.processCanMessageForGlobalAndPartnerCallbacks message).processAnyControlFunctionPgnCallbacks
    message).processMessageForAddressClaiming env message

/-- The frame callback of the protocols: a short frame of one of our control functions. -/
def sendFrame (frame : TransmitFrame) (nm : CANNetworkManager) : Bool :=
  match frame.source with
  | none => false
  | some source =>
    if frame.parameterGroupNumber = addressClaim ∨
        (nm.controlFunctions source).getAddressValid then
      match frame.destination with
      | none =>
        (nm.sendCanMessageRaw env (nm.port source) (nm.address source) BROADCAST_CAN_ADDRESS
          frame.parameterGroupNumber frame.priority.toUInt8 frame.data).1
      | some destination =>
        if (nm.controlFunctions destination).getAddressValid then
          (nm.sendCanMessageRaw env (nm.port source) (nm.address source)
            (nm.address destination) frame.parameterGroupNumber frame.priority.toUInt8
            frame.data).1
        else false
    else false

def protocolEnvironment (nm : CANNetworkManager) : Can.Environment where
  now := env.now
  world := nm.controlFunctions
  send frame := nm.sendFrame env frame

def protocolEvents (canPortIndex : UInt8) (events : List Can.Event) (nm : CANNetworkManager) :
    CANNetworkManager :=
  events.foldl (fun nm event =>
    match event with
    | .messageReceived message =>
      (nm.emit (.protocol canPortIndex event)).protocolMessageCallback env message
    | _ => nm.emit (.protocol canPortIndex event)) nm

def callTransportProtocol (canPortIndex : UInt8) (call : Call) (nm : CANNetworkManager) :
    CANNetworkManager :=
  let reply := (TransportProtocol.transportProtocolManager config).step
    (nm.transportProtocols canPortIndex) ⟨nm.protocolEnvironment env, call⟩
  protocolEvents env canPortIndex reply.2
    { nm with
      transportProtocols := Function.update nm.transportProtocols canPortIndex reply.1 }

def callExtendedTransportProtocol (canPortIndex : UInt8) (call : Call) (nm : CANNetworkManager) :
    CANNetworkManager :=
  let reply := (ExtendedTransportProtocol.extendedTransportProtocolManager config).step
    (nm.extendedTransportProtocols canPortIndex) ⟨nm.protocolEnvironment env, call⟩
  protocolEvents env canPortIndex reply.2
    { nm with
      extendedTransportProtocols :=
        Function.update nm.extendedTransportProtocols canPortIndex reply.1 }

def processRxMessage (nm : CANNetworkManager) (message : CANMessage) : CANNetworkManager :=
  let nm := nm.updateAddressTable env message
  let nm := nm.processCanMessageForAddressViolations env message
  let nm := nm.processMessageForAddressClaiming env message
  let nm := nm.callTransportProtocol config env message.canPortIndex
    (.processMessage message)
  let nm := nm.callExtendedTransportProtocol config env message.canPortIndex
    (.processMessage message)
  let nm := nm.processProtocolPgnCallbacks message
  let nm := nm.processAnyControlFunctionPgnCallbacks message
  nm.processCanMessageForGlobalAndPartnerCallbacks message

def processRxMessages (nm : CANNetworkManager) : CANNetworkManager :=
  nm.receivedMessageQueue.foldl (processRxMessage config env)
    { nm with receivedMessageQueue := [] }

/-- A partner that was just created looks for itself among the known control functions. -/
def updateNewPartner (nm : CANNetworkManager) (partner : CFRef) : CANNetworkManager :=
  if (nm.partnered partner).initialized then nm
  else
    let filters := (nm.partnered partner).nameFilterList
    let nm :=
      { nm with
        inactiveControlFunctions := nm.inactiveControlFunctions.eraseP fun c =>
          checkMatchesName filters (nm.name c) ∧ nm.port partner = nm.port c ∧
            nm.type c = ControlFunctionType.external }
    let nm := match nm.findActive (nm.port partner) fun c =>
        checkMatchesName filters (nm.name c) ∧ nm.type c = ControlFunctionType.external with
      | some c =>
        (((nm.setAddress partner (nm.address c)).setName partner (nm.name c)).setSlot
          (nm.port partner) (nm.address c) (some partner)).emit (.stateChanged partner .online)
      | none => nm
    nm.setInitialized partner

def updateNewPartners (nm : CANNetworkManager) : CANNetworkManager :=
  nm.partneredControlFunctions.foldl updateNewPartner nm

def leaveSlot (c : CFRef) (nm : CANNetworkManager) : CANNetworkManager :=
  match slots.find? fun address => nm.controlFunctionTable (nm.port c) address = some c with
  | some address => nm.setSlot (nm.port c) address none
  | none => nm

/-- Whoever has the entry of an address that one of ours claims loses the address. -/
def unseat (channelIndex claimedAddress : UInt8) (nm : CANNetworkManager) : CANNetworkManager :=
  match nm.getControlFunction channelIndex claimedAddress with
  | some target => nm.setAddress target NULL_CAN_ADDRESS
  | none => nm

def takeSlot (c : CFRef) (nm : CANNetworkManager) : CANNetworkManager :=
  ((nm.leaveSlot c).unseat (nm.port c) (nm.address c)).setSlot (nm.port c) (nm.address c) (some c)

def updateInternalCf (nm : CANNetworkManager) (c : CFRef) : CANNetworkManager :=
  let updated := nm.updateAddressClaiming env c
  if updated.1 then
    (updated.2.emit (.addressClaimed c (updated.2.address c))).takeSlot c
  else updated.2

def updateInternalCfs (nm : CANNetworkManager) : CANNetworkManager :=
  nm.internalControlFunctions.foldl (updateInternalCf env) nm

/-- An entry that did not claim since the request goes offline; one of ours stays. -/
def pruneSlot (channelIndex : UInt8) (nm : CANNetworkManager) (address : UInt8) :
    CANNetworkManager :=
  match nm.controlFunctionTable channelIndex address with
  | none => nm
  | some c =>
    if nm.claimedAddressSinceLastAddressClaimRequest c then nm
    else
      let nm :=
        if nm.type c ≠ .internal then
          ((nm.pushInactive c).setSlot channelIndex address none).setAddress c NULL_CAN_ADDRESS
        else nm
      nm.emit (.stateChanged c .offline)

def pruneChannel (nm : CANNetworkManager) (channelIndex : UInt8) : CANNetworkManager :=
  let lastAddressClaimRequestTime := nm.lastAddressClaimRequestTimestamp channelIndex
  if lastAddressClaimRequestTime ≠ 0 ∧
      env.timeExpired lastAddressClaimRequestTime MAX_ADDRESS_CLAIM_RESOLUTION_TIME then
    let nm := slots.foldl (pruneSlot channelIndex) nm
    { nm with
      lastAddressClaimRequestTimestamp :=
        Function.update nm.lastAddressClaimRequestTimestamp channelIndex 0 }
  else nm

def pruneInactiveControlFunctions (nm : CANNetworkManager) : CANNetworkManager :=
  ports.foldl (pruneChannel env) nm

def updateProtocols (nm : CANNetworkManager) : CANNetworkManager :=
  ports.foldl (fun nm port =>
    (nm.callTransportProtocol config env port .update).callExtendedTransportProtocol
      config env port .update) nm

def initializeManager (nm : CANNetworkManager) : CANNetworkManager :=
  if nm.initialized then nm else { nm with receivedMessageQueue := [], initialized := true }

/-- Everything of an update that comes before the claims of our control functions. -/
def beforeInternalCfs (nm : CANNetworkManager) : CANNetworkManager :=
  nm.initializeManager.updateNewPartners.processRxMessages config env

def update (nm : CANNetworkManager) : CANNetworkManager :=
  (((nm.beforeInternalCfs config env).updateInternalCfs env).pruneInactiveControlFunctions
    env).updateProtocols config env

/-- The arguments that the constructor of an internal control function asserts. -/
structure NewInternalControlFunction where
  desiredName : NAME
  preferredAddress : UInt8
  canPort : UInt8
  randomClaimDelay : UInt8
  preferred_ne : preferredAddress ≠ BROADCAST_CAN_ADDRESS
  port_lt : canPort < CAN_PORT_MAXIMUM
  capable : preferredAddress = NULL_CAN_ADDRESS → desiredName.getArbitraryAddressCapable = true

structure NewPartneredControlFunction where
  canPort : UInt8
  nameFilters : List NAMEFilter
  port_lt : canPort < CAN_PORT_MAXIMUM

def createInternalControlFunction (new : NewInternalControlFunction) (nm : CANNetworkManager) :
    CANNetworkManager :=
  let created := nm.create ⟨.internal, new.desiredName, NULL_CAN_ADDRESS, new.canPort⟩
  { created.2 with
    internal := Function.update created.2.internal created.1
      { preferredAddress := new.preferredAddress, randomClaimDelay := new.randomClaimDelay }
    internalControlFunctions := created.2.internalControlFunctions ++ [created.1] }

def addPartner (new : NewPartneredControlFunction) (nm : CANNetworkManager) : CANNetworkManager :=
  let created := nm.create ⟨.partnered, 0, NULL_CAN_ADDRESS, new.canPort⟩
  { created.2 with
    partnered := Function.update created.2.partnered created.1 { nameFilterList := new.nameFilters }
    partneredControlFunctions := created.2.partneredControlFunctions ++ [created.1] }

def createPartneredControlFunction (new : NewPartneredControlFunction)
    (nm : CANNetworkManager) : CANNetworkManager :=
  (nm.addPartner new).updateNewPartners

/-- An entry of a deactivated control function; an active partner leaves an external
control function behind. -/
def vacateSlot (c : CFRef) (nm : CANNetworkManager) (address : UInt8) : CANNetworkManager :=
  if nm.controlFunctionTable (nm.port c) address = some c then
    let nm := nm.setSlot (nm.port c) address none
    if (nm.controlFunctions c).getAddressValid ∧ nm.type c = .partnered then
      (nm.createExternalControlFunction (nm.name c) (nm.address c) (nm.port c)).2
    else nm
  else nm

def deactivateControlFunction (c : CFRef) (nm : CANNetworkManager) : CANNetworkManager :=
  if nm.type c = .external then nm
  else
    slots.foldl (vacateSlot c)
      { nm with
        internalControlFunctions := nm.internalControlFunctions.filter (· ≠ c)
        partneredControlFunctions := nm.partneredControlFunctions.filter (· ≠ c)
        inactiveControlFunctions := nm.inactiveControlFunctions.filter (· ≠ c) }

end CANNetworkManager

inductive NetworkCall
  | processReceiveCanMessageFrame (rxFrame : CANMessageFrame)
  | processTransmittedCanMessageFrame (txFrame : CANMessageFrame)
  | update
  | createInternalControlFunction (new : CANNetworkManager.NewInternalControlFunction)
  | createPartneredControlFunction (new : CANNetworkManager.NewPartneredControlFunction)
  | deactivateControlFunction (c : CFRef)

structure NetworkInput where
  env : Environment
  call : NetworkCall

namespace CANNetworkManager

def serve (config : CANNetworkConfiguration) (nm : CANNetworkManager)
    (input : NetworkInput) : CANNetworkManager :=
  match input.call with
  | .processReceiveCanMessageFrame rxFrame => nm.processReceiveCanMessageFrame input.env rxFrame
  | .processTransmittedCanMessageFrame txFrame => nm.processTransmittedCanMessageFrame txFrame
  | .update => nm.update config input.env
  | .createInternalControlFunction new => nm.createInternalControlFunction new
  | .createPartneredControlFunction new => nm.createPartneredControlFunction new
  | .deactivateControlFunction c => nm.deactivateControlFunction c

def idle (globalCallbacks anyControlFunctionCallbacks protocolCallbacks :
    List ParameterGroupNumberCallbackData) : CANNetworkManager where
  controlFunctions _ := ⟨.external, 0, NULL_CAN_ADDRESS, 0⟩
  claimedAddressSinceLastAddressClaimRequest _ := false
  internal _ := { preferredAddress := NULL_CAN_ADDRESS, randomClaimDelay := 0 }
  partnered _ := { nameFilterList := [] }
  nextControlFunction := 0
  controlFunctionTable _ _ := none
  inactiveControlFunctions := []
  internalControlFunctions := []
  partneredControlFunctions := []
  lastAddressClaimRequestTimestamp _ := 0
  receivedMessageQueue := []
  globalParameterGroupNumberCallbacks := globalCallbacks
  anyControlFunctionParameterGroupNumberCallbacks := anyControlFunctionCallbacks
  protocolPGNCallbacks := protocolCallbacks
  transportProtocols _ := .empty
  extendedTransportProtocols _ := .empty
  initialized := false
  log := []

end CANNetworkManager

def callAt (now : UInt32) (call : NetworkCall) : NetworkInput := ⟨⟨now, fun _ => true⟩, call⟩

end Isobus.NetworkManager
