import HomeRules.Proofs.Host.Cycling

/-!
# Runs of a host

Everything that can be done to a host from outside, in any order and any number of
times: events and lines arrive, listeners that someone kept are called, scripts and
tasks come and go, time passes, the world and the files change, and load cycles are
asked for or run. What every change keeps is kept by every run.
-/

set_option autoImplicit false

namespace HomeRules

/-- Something that is done to a host. A budget bounds what goes on beside it. -/
inductive Operation where
  | changeWorld (change : World → World)
  | changeTree (change : FileTree → FileTree)
  | publish (event : Event)
  | receive (line : String)
  /-- Calls a listener, whether or not the platform still has it. -/
  | deliver (delivery : Delivery) (payload : Payload)
  | dispatch (generation : Generation) (schema : EventSchema) (kind : EventKind)
      (payload : Payload)
  | evaluate (generation : Generation) (body : ConditionSchema) (payload : Payload)
  | spawn (name : String) (generation : Generation) (owner : Option String) (work : Work)
  | cancelTask (id : TaskId)
  | cancelOwner (owner : String)
  | cancelAll (grace : Duration)
  | askManager (kind : ManagerKind) (generation : Generation)
  | register (script : String) (generation : Generation) (schema : EventSchema)
  | unregister (script : String) (handles : List Handle)
  | resumeManagers (generation : Generation)
  | stopManagers
  /-- Forgets the managers, which may only be done once they are stopped. -/
  | clearManagers
  | subscribe (manager : ManagerKind) (kind : EventKind) (schema : EventSchema)
  | unsubscribe (manager : ManagerKind) (id : Nat)
  | resumeManager (manager : ManagerKind)
  | stopManager (manager : ManagerKind)
  | requestReload
  | reload (budget : Nat)
  | shutDown (budget : Nat)
  | startLoop
  | startRunner
  | requestStop
  | settle (budget : Nat)
  | advance (budget milliseconds : Nat)
  | awaitRunner (budget : Nat)
  | takeJournal

namespace Host

/-- Does something to a host, and drops the answer. -/
def operate : Operation → Step Unit
  | .changeWorld change => changeWorld change
  | .changeTree change => modify fun host => { host with tree := change host.tree }
  | .publish event => (fun _ => ()) <$> (publish event).run
  | .receive line => (fun _ => ()) <$> (receive line).run
  | .deliver delivery payload => (fun _ => ()) <$> (dispatchInside publish delivery payload).run
  | .dispatch generation schema kind payload =>
    (fun _ => ()) <$> (dispatch publish generation schema kind payload).run
  | .evaluate generation body payload =>
    (fun _ => ()) <$> (evaluate publish generation body payload).run
  | .spawn name generation owner work => (fun _ => ()) <$> spawn name generation owner work
  | .cancelTask id => (fun _ => ()) <$> cancelTask id
  | .cancelOwner owner => (fun _ => ()) <$> cancelOwner owner
  | .cancelAll grace => (fun _ => ()) <$> cancelAll grace
  | .askManager kind generation => (fun _ => ()) <$> manager kind generation
  | .register script generation schema => (fun _ => ()) <$> register script generation schema
  | .unregister script handles => (fun _ => ()) <$> unregister script handles
  | .resumeManagers generation => resumeRegistry generation
  | .stopManagers => (fun _ => ()) <$> stopRegistry
  | .clearManagers => do
    let _ ← stopRegistry
    clearRegistry
  | .subscribe manager kind schema => (fun _ => ()) <$> subscribe manager kind schema
  | .unsubscribe manager id => (fun _ => ()) <$> unsubscribe manager id
  | .resumeManager manager => resumeManager manager
  | .stopManager manager => (fun _ => ()) <$> stopManager manager
  | .requestReload => requestReload
  | .reload budget => (fun _ => ()) <$> reload budget
  | .shutDown budget => shutDown budget
  | .startLoop => (fun _ => ()) <$> startLoop
  | .startRunner => startRunner
  | .requestStop => requestStop
  | .settle budget => settle budget
  | .advance budget milliseconds => advance budget milliseconds
  | .awaitRunner budget => awaitRunner budget
  | .takeJournal => (fun _ => ()) <$> takeJournal

def run (operations : List Operation) : Step Unit :=
  operations.forM operate

/-- Whatever is done to a host, apart from writing files, takes it along a path of
changes. -/
theorem operate_reaches {start host : Host} (path : Reaches true start host)
    (operation : Operation) :
    Reaches true start (after (operate operation) host) ∨
      ∃ tree, after (operate operation) host = { host with tree } := by
  cases operation with
  | changeTree change => exact .inr ⟨_, rfl⟩
  | changeWorld change => exact .inl (changeWorld_reaches change host path)
  | publish event => exact .inl (Keeps.cycling (fun _ => publish_reaches event) host path)
  | receive line => exact .inl (Keeps.cycling (fun _ => receive_reaches line) host path)
  | deliver delivery payload =>
      exact .inl (Keeps.cycling
        (fun _ => dispatchInside_reaches publish_reaches delivery payload) host path)
  | dispatch generation schema kind payload =>
      exact .inl (Keeps.cycling
        (fun _ => dispatch_reaches publish_reaches generation schema kind payload) host path)
  | evaluate generation body payload =>
      exact .inl (Keeps.cycling
        (fun _ => evaluate_reaches publish_reaches generation body payload) host path)
  | spawn name generation owner work => exact .inl (spawn_reaches _ _ _ _ host path)
  | cancelTask id => exact .inl (cancelTask_reaches id host path)
  | cancelOwner owner => exact .inl (cancelOwner_reaches owner host path)
  | cancelAll grace => exact .inl (cancelAll_reaches grace host path)
  | askManager kind generation => exact .inl (manager_reaches kind generation host path)
  | register script generation schema => exact .inl (register_reaches _ _ _ host path)
  | unregister script handles => exact .inl (reaches_striking.unregister _ _ host path)
  | resumeManagers generation => exact .inl (resumeRegistry_reaches generation host path)
  | stopManagers => exact .inl (stopRegistry_reaches host path)
  | clearManagers =>
      exact .inl ((stopRegistry_reaches host path).tail
        (.clear rfl (stopRegistry_unsubscribed host)))
  | subscribe manager kind schema => exact .inl (path.tail (.subscribe rfl manager kind schema))
  | unsubscribe manager id => exact .inl (path.tail (.unsubscribe manager id))
  | resumeManager manager => exact .inl (path.tail (.resumeManager manager))
  | stopManager manager => exact .inl (path.tail (.stopManager manager))
  | requestReload => exact .inl (requestReload_reaches host path)
  | reload budget => exact .inl (reaches_recurring.reload budget host path)
  | shutDown budget => exact .inl (shutDown_reaches budget host path)
  | startLoop => exact .inl (reaches_looping.startLoop host path)
  | startRunner => exact .inl (reaches_looping.startRunner host path)
  | requestStop => exact .inl (reaches_looping.requestStop host path)
  | settle budget => exact .inl (reaches_scheduling.settle budget host path)
  | advance budget milliseconds =>
      exact .inl (reaches_scheduling.advanceTo (host.clock + milliseconds) budget host path)
  | awaitRunner budget => exact .inl (reaches_scheduling.awaitRunner budget host path)
  | takeJournal => exact .inl (path.tail (.quiet rfl))

/-- What neither a change nor other files can break holds after every run. -/
theorem run_keeps (fact : Host → Prop)
    (changed : ∀ host next, Reaches true host next → fact host → fact next)
    (rewritten : ∀ host tree, fact host → fact { host with tree })
    (operations : List Operation) : Keeps fact (run operations) := by
  refine .forM (fun operation host holds => ?_) operations
  have start : Reaches true host host := .refl
  rcases operate_reaches start operation with path | ⟨tree, written⟩
  · exact changed host _ path holds
  · rw [written]
    exact rewritten host tree holds

end Host

end HomeRules
