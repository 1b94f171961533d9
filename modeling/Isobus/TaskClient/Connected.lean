import Isobus.TaskClient.Effects

namespace Isobus.TaskClient

open Isobus.Can Isobus.Lib Isobus.DeviceDescriptor Isobus.NetworkManager

/-- What waits to be sent, and to whom, did not change. -/
structure SameWaiting (client client' : TaskControllerClient) : Prop where
  currentState : client'.currentState = client.currentState
  myControlFunction : client'.myControlFunction = client.myControlFunction
  partnerControlFunction : client'.partnerControlFunction = client.partnerControlFunction
  queuedValueRequests : client'.queues.queuedValueRequests = client.queues.queuedValueRequests
  queuedValueCommands : client'.queues.queuedValueCommands = client.queues.queuedValueCommands

theorem SameWaiting.trans {client client' client'' : TaskControllerClient}
    (h : SameWaiting client client') (h' : SameWaiting client' client'') :
    SameWaiting client client'' :=
  ⟨h'.currentState.trans h.currentState, h'.myControlFunction.trans h.myControlFunction,
    h'.partnerControlFunction.trans h.partnerControlFunction,
    h'.queuedValueRequests.trans h.queuedValueRequests,
    h'.queuedValueCommands.trans h.queuedValueCommands⟩

def Queues.waiting (queues : Queues) :
    List ProcessDataCallbackInfo × List ProcessDataCallbackInfo :=
  (queues.queuedValueRequests, queues.queuedValueCommands)

theorem waiting_populateAnyTriggersFromSettings (processData : DeviceProcessDataObject)
    (elementNumber : UInt16) (settings : DefaultProcessDataSettings) (queues : Queues) :
    (populateAnyTriggersFromSettings processData elementNumber settings queues).waiting =
      queues.waiting := by
  have hadd (condition : Bool) {change : Queues → Queues} (queues : Queues)
      (hchange : (change queues).waiting = queues.waiting) :
      (if condition then change queues else queues).waiting = queues.waiting := by
    cases condition
    · rfl
    · exact hchange
  simp only [populateAnyTriggersFromSettings]
  repeat rw [hadd _ _ rfl]

theorem waiting_processDefaultOfChild (application : Application) (element : DeviceElementObject)
    (queues : Queues) (child : Object) :
    (processDefaultOfChild application element queues child).waiting = queues.waiting := by
  cases child with
  | deviceProcessData processData =>
    simp only [processDefaultOfChild]
    split
    · exact waiting_populateAnyTriggersFromSettings ..
    · rfl
  | _ => rfl

theorem waiting_processDefaultsOfPool (application : Application)
    (pool : DeviceDescriptorObjectPool) (queues : Queues) :
    (processDefaultsOfPool application pool queues).waiting = queues.waiting := by
  rw [processDefaultsOfPool]
  refine foldl_rel (R := fun before after : Queues => after.waiting = before.waiting)
    (fun _ => rfl) (fun _ _ _ h h' => h'.trans h) fun queues object _ => ?_
  cases object with
  | deviceElement element =>
    refine foldl_rel (R := fun before after : Queues => after.waiting = before.waiting)
      (fun _ => rfl) (fun _ _ _ h h' => h'.trans h) fun queues childID _ => ?_
    cases pool.getObjectById childID with
    | none => rfl
    | some child => exact waiting_processDefaultOfChild application element queues child
  | _ => rfl

namespace Turn

variable {env : Environment} {turn turn' : Turn}

theorem sameWaiting_processAllDefaultProcessDataRequests
    (h : turn.processAllDefaultProcessDataRequests env = some turn') :
    SameWaiting turn.client turn'.client ∧ turn'.events = turn.events := by
  rw [processAllDefaultProcessDataRequests] at h
  split at h
  · obtain ⟨found, -, rfl⟩ := Option.map_eq_some_iff.mp h
    cases found with
    | none => exact ⟨⟨rfl, rfl, rfl, rfl, rfl⟩, rfl⟩
    | some pool =>
      have hwaiting := waiting_processDefaultsOfPool env.application pool turn.client.queues
      exact ⟨⟨rfl, rfl, rfl, congrArg Prod.fst hwaiting, congrArg Prod.snd hwaiting⟩, rfl⟩
  · cases h
    exact ⟨⟨rfl, rfl, rfl, rfl, rfl⟩, rfl⟩

theorem client_lookAt {look : ProcessDataCallbackInfo → Turn → ProcessDataCallbackInfo × Turn}
    (hlook : ∀ info turn, (look info turn).2.client = turn.client)
    (infos : List ProcessDataCallbackInfo) (turn : Turn) :
    (turn.lookAt look infos).2.client = turn.client := by
  induction infos generalizing turn with
  | nil => rfl
  | cons info infos ih => rw [lookAt, ih, hlook]

theorem client_lookAtTimeInterval (info : ProcessDataCallbackInfo) (turn : Turn) :
    (lookAtTimeInterval env info turn).2.client = turn.client := by
  rw [lookAtTimeInterval]
  split
  · split <;> rfl
  · rfl

theorem client_lookAtThreshold (passed back : Int32 → Int32 → Bool)
    (info : ProcessDataCallbackInfo) (turn : Turn) :
    (lookAtThreshold env passed back info turn).2.client = turn.client := by
  rw [lookAtThreshold]
  split
  · rfl
  · split <;> rfl

theorem client_lookAtChange (info : ProcessDataCallbackInfo) (turn : Turn) :
    (lookAtChange env info turn).2.client = turn.client := by
  rw [lookAtChange]
  split <;> rfl

theorem sameWaiting_processQueuedThresholdCommands (env : Environment) (turn : Turn) :
    SameWaiting turn.client (turn.processQueuedThresholdCommands env).client := by
  have hclient : ∀ infos infos' infos'' infos''' : List ProcessDataCallbackInfo,
      ((((turn.lookAt (lookAtTimeInterval env) infos).2.lookAt
        (lookAtThreshold env (· > ·) (· < ·)) infos').2.lookAt
        (lookAtThreshold env (· < ·) (· > ·)) infos'').2.lookAt (lookAtChange env)
        infos''').2.client = turn.client := by
    intro infos infos' infos'' infos'''
    rw [client_lookAt client_lookAtChange, client_lookAt (client_lookAtThreshold _ _),
      client_lookAt (client_lookAtThreshold _ _), client_lookAt client_lookAtTimeInterval]
  constructor <;> simp only [processQueuedThresholdCommands, map, hclient]

theorem sameWaiting_sendStatusIfDue (env : Environment) (turn : Turn) :
    SameWaiting turn.client (turn.sendStatusIfDue env).client := by
  rw [sendStatusIfDue]
  split
  · split <;> exact ⟨rfl, rfl, rfl, rfl, rfl⟩
  · exact ⟨rfl, rfl, rfl, rfl, rfl⟩

theorem update_connected (hstate : turn.client.currentState = .connected)
    (h : turn.update env = some turn') (hstays : turn'.client.currentState = .connected) :
    ∃ prepared, turn.processAllDefaultProcessDataRequests env = some prepared ∧
      turn' =
        ((prepared.processQueuedCommands env).processQueuedThresholdCommands env).sendStatusIfDue
          env := by
  obtain ⟨prepared, hprepared, h⟩ := Option.bind_eq_some_iff.mp h
  refine ⟨prepared, hprepared, ?_⟩
  have hsame := (sameWaiting_processAllDefaultProcessDataRequests hprepared).1
  obtain ⟨processed, hprocessed, h⟩ := Option.bind_eq_some_iff.mp h
  cases h
  rw [processState, hsame.currentState.trans hstate] at hprocessed
  cases hprocessed
  rw [(sameWaiting_sendStatusIfDue env _).currentState, updateConnected] at hstays
  rw [updateConnected]
  split
  · rename_i hexpired
    rw [if_pos hexpired, currentState_setState] at hstays
    cases hstays
  · rfl

end Turn

end Isobus.TaskClient
