import DeviceRegistry.Lifecycle.Attributes
import DeviceRegistry.Lifecycle.ChangeState
import DeviceRegistry.Lifecycle.Create
import DeviceRegistry.Lifecycle.Delete
import DeviceRegistry.Lifecycle.Update

/-!
# Commands

The writing side of the registry as one type of commands with their answers. A run carries out
commands one after the other, each in the environment of its time.
-/

namespace DeviceRegistry

/-- What can be done to the registry. -/
inductive Command where
  | create (actor : Option String) (records : List DeviceData)
  | changeState (request : StateChange)
  | update (request : UpdateRequest)
  | delete (imei serialNumber : Option String)
  | attributes (request : AttributeUpdate)
  | associate (device : Option Int) (headUnit : Option String)

/-- What a command answers. -/
inductive Answer where
  | created (result : CreateResult)
  | record (record : DeviceRecord)
  | rows (count : Nat)
  | id (id : Int)
  deriving DecidableEq, Repr, Inhabited

/-- Associates a head unit with a device. -/
def associate (device : Option Int) (headUnit : Option String) (s : Store) :
    Except Failure (Int × Store) := do
  match device with
  | some id => Store.bindable id
  | none => pure ()
  stored (s.associate device headUnit)

namespace Command

/-- Carries out a command. -/
def run (env : Environment) : Command → Operation Answer
  | create actor records => return .created (← createDevices env actor records)
  | changeState r => return .record (← Operation.transact (DeviceRegistry.changeState env.now r))
  | update r => return .record (← updateDevice env r)
  | delete imei serialNumber => return .record (← deleteDevice env imei serialNumber)
  | attributes r => return .rows (← Operation.transact (updateAttributes r))
  | associate device headUnit =>
    return .id (← Operation.transact (DeviceRegistry.associate device headUnit))

end Command

namespace Registry

/-- The outcome of a command, and the registry afterwards. -/
def step (env : Environment) (c : Command) (r : Registry) : Except Failure Answer × Registry :=
  ((c.run env).run r).run

/-- The outcome of a batch whose records come each in the environment of its turn, and the registry
afterwards. -/
def batch (actor : Option String) (turns : List (Environment × DeviceData)) (r : Registry) :
    Except Failure CreateResult × Registry :=
  ((createDevicesInTurn actor turns).run r).run

/-- The registry after some commands. -/
def after (r : Registry) (commands : List (Environment × Command)) : Registry :=
  commands.foldl (fun r c => (r.step c.1 c.2).2) r

end Registry

end DeviceRegistry
