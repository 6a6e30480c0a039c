import CompilationChecks.Check.Chain
import CompilationChecks.Scenario.Rig

/-!
Playing scenarios. Steps act on the desk or call the outermost manager. A probe takes a reaction
for each call that one waits for; the steps of the reaction call the outermost manager again, so
calls nest. No reaction is taken twice, hence the number of reactions bounds how deep they nest.
-/

namespace CompilationChecks.Scenario

/-! ## Steps -/

/-- A step that gives a value and changes nothing. -/
def tell (value : Value) : Activity Desk Value :=
  .done value

/-- Looks something up on the desk, which may end in a panic and spoil a register. -/
def find {α : Type} (search : Desk → Except String α × Desk) : Activity Desk α := fun world =>
  match search world.inner with
  | (.ok found, after) => (.returned found, { world with inner := after })
  | (.error text, after) => (.panicked text, { world with inner := after })

/-- Puts something on the desk, which may end in a panic. -/
def put (change : Desk → Except String Desk) : Activity Desk Unit := fun world =>
  match change world.inner with
  | .ok after => (.returned (), { world with inner := after })
  | .error text => (.panicked text, world)

/-- A step that makes a container and names it. -/
def makeContainer (name : String) (container : Container) : Activity Desk Value :=
  (put fun desk => desk.place name container).map fun () => .container container

/-- A step that gives something about the container with a name. -/
def withContainer (name : String) (look : Container → Value) : Activity Desk Value :=
  (find fun desk => desk.container name).andThen fun id world =>
    (.returned (look (world.inner.shelf.get id)), world)

/-- A step that writes into the container with a name. -/
def writeInto (name path : String) (content : Bytes) : Activity Desk Value :=
  (find fun desk => desk.container name).andThen fun id world =>
    (.returned .nothing,
      { world with
        inner := { world.inner with store := world.inner.store.writeInto id path content } })

/-- Keeps something under a name, if there is both, and gives a value. -/
def keepAnd (name : Option String) (keepsake : Option Keepsake) (value : Value) :
    Activity Desk Value :=
  (put fun desk => desk.keep name keepsake).map fun () => value

/-- A step that calls a manager and may keep the answer. -/
def makeCall (manager : Manager Desk) (request : Request) (keepAs : Option String) :
    Activity Desk Value :=
  (find fun desk => desk.callOf request).andThen fun call =>
    (manager call).andThen fun answer world =>
      keepAnd keepAs (Keepsake.ofAnswer call answer)
        (Value.ofAnswer world.inner.shelf call answer) world

/-- The text with which a query panics that the group cannot answer. -/
def unfitQuery : String :=
  "bad input: query"

/-- A step that asks a group. -/
def askGroup (name : String) (query : GroupQuery) : Activity Desk Value :=
  (find fun desk => desk.group name).andThen fun group world =>
    match world.inner.ask query group with
    | some (value, keepsake) => keepAnd (Desk.keepName query) keepsake value world
    | none => (.panicked unfitQuery, world)

/-- The body of an intercepted operation. -/
def body : BodyEnding → Activity Desk Value
  | .text value => .done (.text value)
  | .integer value => .done (.integer value)
  | .nothing => .done .nothing
  | .failed failure => fun world => (.failed failure, world)

/-- A step that lets the outermost delegate intercept an operation. -/
def interceptBody (rig : Rig) (operation : Operation) (arguments : List String)
    (ending : BodyEnding) : Activity Desk Value :=
  match rig.outermost? with
  | some delegate =>
    delegate.intercept rig.surroundings operation (fun _ => arguments.map Text.quoted)
      (fun _ value => value.logged) (body ending)
  | none => fun world => (.panicked "there is no layer", world)

/-- Begins a thread with a number of its own. -/
def beginThread (world : World Desk) : World Desk :=
  { journal := { world.journal with thread := world.inner.nextThread }
    inner := { world.inner with nextThread := world.inner.nextThread + 1 } }

/-- Goes back to the thread with a number. -/
def resumeThread (thread : UInt64) (world : World Desk) : World Desk :=
  { world with journal := { world.journal with thread := thread } }

mutual

/-- Takes a step. -/
def perform (rig : Rig) (manager : Manager Desk) : Step → Activity Desk Value
  | .makeContainer container name files, world =>
    makeContainer container ((Container.new name).writeAll files) world
  | .describeContainer container, world =>
    withContainer container (fun found => .container found) world
  | .writeInto container path content, world => writeInto container path content world
  | .readFrom container path, world =>
    withContainer container (fun found => Value.optional .content (found.read path)) world
  | .containerHolds container path, world =>
    withContainer container (fun found => .flag (found.contains path)) world
  | .listContainer container directory recurse, world =>
    withContainer container (fun found => .texts (found.list directory recurse)) world
  | .call request keepAs, world => makeCall manager request keepAs world
  | .display, world => tell (.text (rig.display world.inner)) world
  | .inspect, world => tell (.text (rig.inspect world.inner)) world
  | .layers, world => tell (.layers (rig.snapshots world)) world
  | .group name query, world => askGroup name query world
  | .intercept operation arguments ending, world =>
    interceptBody rig operation arguments ending world
  | .thread steps, world =>
    match performAll rig manager steps (beginThread world) with
    | (.ok results, after) =>
      (.returned (.thread results), resumeThread world.journal.thread after)
    | (.error text, after) =>
      (.returned (.abandoned text), resumeThread world.journal.thread after)

/-- Takes several steps, up to the first that panics. -/
def performAll (rig : Rig) (manager : Manager Desk) :
    List Step → World Desk → Except String (List (Ending Value)) × World Desk
  | [], world => (.ok [], world)
  | step :: others, world =>
    match perform rig manager step world with
    | (.panicked text, after) => (.error text, after)
    | (ending, after) =>
      match performAll rig manager others after with
      | (.ok results, last) => (.ok (ending :: results), last)
      | (.error text, last) => (.error text, last)

end

/-! ## The probe -/

/-- Takes the steps of a reaction and writes down how each ends, up to the first that panics. -/
def react (rig : Rig) (manager : Manager Desk) : List Step → Activity Desk Unit
  | [], world => (.returned (), world)
  | step :: others, world =>
    match perform rig manager step world with
    | (.panicked text, after) => (.panicked text, after)
    | (ending, after) =>
      react rig manager others
        { after with
          inner := { after.inner with completed := after.inner.completed ++ [ending] } }

/-- The manager in memory, as part of the desk. -/
def plain : Manager Desk := fun call world =>
  (.ofExcept (world.inner.store.perform call).1,
    { world with
      inner := { world.inner with store := (world.inner.store.perform call).2 } })

/-- The end of a call after the steps of a reaction. -/
def conclude (call : Call) : ReactionEnding → Activity Desk call.Answer
  | .forward => plain call
  | .fail failure => fun world => (.failed failure, world)
  | .panic text => fun world => (.panicked text, world)

/-- The probe. It reacts as long as reactions do not nest deeper than the given number. -/
def probe (rig : Rig) : Nat → Manager Desk
  | 0 => plain
  | depth + 1 => fun call world =>
    match Desk.takeReaction call.operation.name world.inner.reactions with
    | none => plain call world
    | some (reaction, left) =>
      ((react rig (rig.around (probe rig depth)) reaction.steps).andThen fun () =>
        conclude call reaction.ending)
        { world with inner := { world.inner with reactions := left } }

/-! ## Scenarios -/

/-- A file manager with everything around it. -/
structure Setting where
  /-- The release that the manager reports. -/
  release : String
  /-- Whether a probe stands before the manager. -/
  probed : Bool
  /-- What the probe does, by the name of the operation. -/
  reactions : List (String × List Reaction)
  /-- The layers around it, innermost first. -/
  layers : List LayerPlan
  /-- Where layers log that have no place of their own. -/
  sink : Log.Sink
  /-- What the process finds around it. -/
  surroundings : Log.Surroundings
  deriving Repr

namespace Setting

/-- The rig of a setting. -/
def rig (setting : Setting) : Rig :=
  ⟨Rig.layAll setting.sink 0 [] setting.layers, setting.surroundings, setting.probed⟩

/-- The beginning of a scenario. -/
def start (setting : Setting) : World Desk :=
  ⟨.start, Desk.new setting.release (if setting.probed then setting.reactions else [])⟩

/-- The outermost manager. -/
def manager (setting : Setting) : Manager Desk :=
  setting.rig.around (probe setting.rig setting.start.inner.reactionCount)

end Setting

/-- What something at the top of a scenario gave, and what it left to be shown. -/
structure Account (α : Type) where
  /-- What it gave. -/
  outcome : α
  /-- How the steps of reactions ended meanwhile. -/
  nested : List (Ending Value)
  /-- What the sinks kept meanwhile. -/
  records : List Log.Record
  /-- What the subscriber saw meanwhile. -/
  notices : List Log.Notice
  /-- How many calls are open in each visible layer, innermost first. -/
  depths : List Nat
  deriving Repr

/-- Takes everything away that is to be shown. -/
def settle {α : Type} (rig : Rig) (outcome : α) (world : World Desk) : Account α × World Desk :=
  (⟨outcome, world.inner.completed, world.journal.records, world.journal.notices,
      (rig.snapshots world).map LayerSnapshot.depth⟩,
    { journal := { world.journal with records := [], notices := [] }
      inner := { world.inner with completed := [] } })

namespace Setting

/-- Takes steps one after another, whatever becomes of them. -/
def play (setting : Setting) :
    List Step → World Desk → List (Account (Ending Value)) × World Desk
  | [], world => ([], world)
  | step :: others, world =>
    let performed := perform setting.rig setting.manager step world
    let settled := settle setting.rig performed.1 performed.2
    let rest := setting.play others settled.2
    (settled.1 :: rest.1, rest.2)

/-- Makes assertions one after another, up to the first complaint. -/
def assertAll (setting : Setting) (compilation : Compilation) :
    List Assertion → Subject → World Desk →
      List (Account (Verdict SubjectSnapshot)) × World Desk
  | [], _, world => ([], world)
  | assertion :: others, subject, world =>
    match assertion.apply setting.manager Desk.shelf compilation subject world with
    | (.error complaint, after) =>
      let settled := settle setting.rig (.error complaint) after
      ([settled.1], settled.2)
    | (.ok next, after) =>
      let settled := settle setting.rig (.ok (next.snapshot after.inner.shelf)) after
      let rest := setting.assertAll compilation others next settled.2
      (settled.1 :: rest.1, rest.2)

/-- Follows chains of assertions one after another, each from the compilation. -/
def assertChains (setting : Setting) (compilation : Compilation) :
    List (List Assertion) → World Desk →
      List (List (Account (Verdict SubjectSnapshot))) × World Desk
  | [], world => ([], world)
  | chain :: others, world =>
    let followed := setting.assertAll compilation chain .compilation world
    let rest := setting.assertChains compilation others followed.2
    (followed.1 :: rest.1, rest.2)

end Setting

end CompilationChecks.Scenario
