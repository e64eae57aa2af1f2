/-
  RevyCraft/PluginFailures.lean
  =============================
  **The failure policy of the plugin host** (`host/failure.rs`): what becomes
  of a plugin whose call failed at run time.

  The kind of the plugin selects the action.  A quarantined plugin is not
  called again; a fail-fast leaves an error that shuts the server down.
-/
import RevyCraft.OrderedMap

namespace RevyCraft

inductive PluginKind where
  | protocol
  | gameplay
  | storage
  | auth
  | adminSurface
  deriving DecidableEq

inductive PluginFailureAction where
  | quarantine
  | skip
  | failFast
  deriving DecidableEq

structure PluginFailureMatrix where
  protocol : PluginFailureAction
  gameplay : PluginFailureAction
  storage : PluginFailureAction
  auth : PluginFailureAction
  adminSurface : PluginFailureAction

/-- `PluginFailureMatrix::default`. -/
def PluginFailureMatrix.default : PluginFailureMatrix where
  protocol := .quarantine
  gameplay := .quarantine
  storage := .failFast
  auth := .skip
  adminSurface := .skip

def actionForKind (matrix : PluginFailureMatrix) : PluginKind → PluginFailureAction
  | .protocol => matrix.protocol
  | .gameplay => matrix.gameplay
  | .storage => matrix.storage
  | .auth => matrix.auth
  | .adminSurface => matrix.adminSurface

def PluginKind.kindLabel : PluginKind → String
  | .protocol => "protocol"
  | .gameplay => "gameplay"
  | .storage => "storage"
  | .auth => "auth"
  | .adminSurface => "admin-surface"

/-- `PluginFailureDispatch`, of which `activeQuarantine` holds the reasons. -/
structure PluginFailureDispatch where
  matrix : PluginFailureMatrix
  activeQuarantine : BTreeMap String String
  pendingFatal : Option String

namespace PluginFailureDispatch

def new (matrix : PluginFailureMatrix) : PluginFailureDispatch := ⟨matrix, ∅, none⟩

def activeReason (failures : PluginFailureDispatch) (pluginId : String) : Option String :=
  failures.activeQuarantine[pluginId]?

def isActiveQuarantined (failures : PluginFailureDispatch) (pluginId : String) : Bool :=
  (failures.activeReason pluginId).isSome

def recordFatalMessage (failures : PluginFailureDispatch) (message : String) :
    PluginFailureDispatch :=
  { failures with pendingFatal := some (failures.pendingFatal.getD message) }

def failFastMessage (kind : PluginKind) (pluginId reason : String) : String :=
  s!"{kind.kindLabel} plugin `{pluginId}` failed during runtime: {reason}"

def handleRuntimeFailure (failures : PluginFailureDispatch) (kind : PluginKind)
    (pluginId reason : String) : PluginFailureAction × PluginFailureDispatch :=
  let action := actionForKind failures.matrix kind
  (action, match action with
    | .quarantine =>
      { failures with activeQuarantine := failures.activeQuarantine.insert pluginId reason }
    | .failFast => failures.recordFatalMessage (failFastMessage kind pluginId reason)
    | .skip => failures)

end PluginFailureDispatch

end RevyCraft
