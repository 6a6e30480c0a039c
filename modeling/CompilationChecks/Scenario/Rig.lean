import CompilationChecks.LoggingMode
import CompilationChecks.Scenario.Desk

/-!
The rig of a scenario: the layers of delegates around the file manager, and what the process finds
around it. Layers are laid one after another, innermost first; some of them can be looked into
later, and the last of those can be taken off again.
-/

namespace CompilationChecks.Scenario

/-- A layer of delegation. -/
structure Layer where
  /-- The delegate. -/
  delegate : Delegate
  /-- Whether the layer can be looked into. -/
  visible : Bool
  deriving DecidableEq, Repr

/-- What happens when a layer is laid. -/
inductive LayerPlan where
  /-- A delegate logs to the sink of the scenario. -/
  | log (stackTraces : Bool)
  /-- A delegate logs to the subscriber of the trace. -/
  | trace (stackTraces : Bool)
  /-- A mode decides whether a delegate logs to the subscriber of the trace. -/
  | mode (mode : LoggingMode)
  /-- Nothing changes. -/
  | transparent
  /-- The last visible layer is taken off again, and everything around it; without a visible layer
  nothing changes. -/
  | takeOff
  deriving DecidableEq, Repr

/-- What surrounds the manager of a scenario. -/
structure Rig where
  /-- The layers, outermost first. -/
  layers : List Layer
  /-- What the process finds around it. -/
  surroundings : Log.Surroundings
  /-- Whether a probe stands before the manager in memory. -/
  probed : Bool
  deriving DecidableEq, Repr

namespace Rig

/-- The layers after one more was laid as the plan with the given number. -/
def lay (sink : Log.Sink) (number : Nat) (layers : List Layer) : LayerPlan → List Layer
  | .log stackTraces => ⟨⟨number, stackTraces, sink⟩, true⟩ :: layers
  | .trace stackTraces => ⟨⟨number, stackTraces, .subscriber⟩, true⟩ :: layers
  | .mode mode =>
    (mode.delegates number .subscriber).map (fun delegate => ⟨delegate, false⟩) ++ layers
  | .transparent => layers
  | .takeOff =>
    match layers.dropWhile fun layer => !layer.visible with
    | [] => layers
    | _ :: inner => inner

/-- The layers after several more were laid; the first of their plans has the given number. -/
def layAll (sink : Log.Sink) : Nat → List Layer → List LayerPlan → List Layer
  | _, layers, [] => layers
  | number, layers, plan :: others =>
    layAll sink (number + 1) (lay sink number layers plan) others

/-- The delegates, outermost first. -/
def delegates (rig : Rig) : List Delegate :=
  rig.layers.map Layer.delegate

/-- The identity of what stands inside all layers. -/
def innerDisplay (rig : Rig) (desk : Desk) : String :=
  if rig.probed then "Probe" else desk.store.display

/-- The state of what stands inside all layers. -/
def innerInspect (rig : Rig) (desk : Desk) : String :=
  if rig.probed then Inspection.tagged "Probe" desk.store.inspect else desk.store.inspect

/-- The identity of the manager. -/
def display (rig : Rig) (desk : Desk) : String :=
  Delegate.displayAll rig.delegates (rig.innerDisplay desk)

/-- The state of the manager. -/
def inspect (rig : Rig) (desk : Desk) : String :=
  Delegate.inspectAll rig.delegates (rig.innerInspect desk)

/-- The visible ones of some layers with the identities inside them, outermost first. -/
def looks (innermost : String) : List Layer → List (Delegate × String)
  | [] => []
  | layer :: inner =>
    if layer.visible then
      (layer.delegate, Delegate.displayAll (inner.map Layer.delegate) innermost) ::
        looks innermost inner
    else looks innermost inner

/-- The visible layers, innermost first. -/
def snapshots (rig : Rig) (world : World Desk) : List LayerSnapshot :=
  ((looks (rig.innerDisplay world.inner) rig.layers).map fun look =>
    ⟨world.journal.depth look.1.number, look.1.stackTraces, look.2⟩).reverse

/-- The outermost visible delegate. -/
def outermost? (rig : Rig) : Option Delegate :=
  (rig.layers.find? Layer.visible).map Layer.delegate

/-- A manager behind all layers. -/
def around (rig : Rig) (inner : Manager Desk) : Manager Desk :=
  Delegate.aroundAll rig.delegates rig.surroundings Desk.shelf inner

end Rig

end CompilationChecks.Scenario
