import CompilationChecks.Proofs.Delegate.Discretion
import CompilationChecks.Proofs.Delegate.Transparency
import CompilationChecks.Proofs.Store.Renaming

/-!
# Corresponding stores

Stores that differ in the places of their containers answer every call alike, but for the places in
groups, and are left such stores again. So whoever asks through a manager cannot tell them apart,
now or later, as long as groups are compared by what they hold.
-/

namespace CompilationChecks

namespace Store

/-! ## Calls on both stores -/

/-- The second operation is answered as the first one with another answer, and leaves the
corresponding store. -/
def StepsCorrespond {α β : Type} (rename : Renaming) (change : α → β)
    (left : Step α) (right : Step β) : Prop :=
  right.1 = left.1.map change ∧ Corresponds rename left.2 right.2

namespace Corresponds

variable {rename : Renaming} {left right : Store}
  (corresponds : Corresponds rename left right)

include corresponds

theorem refuse {α β : Type} (change : α → β) (fault : Fault) :
    StepsCorrespond rename change (left.refuse fault) (right.refuse fault) :=
  ⟨rfl, corresponds⟩

theorem answer {α β : Type} {change : α → β} {value : α} {other : β} (same : other = change value) :
    StepsCorrespond rename change (left.answer value) (right.answer other) :=
  ⟨congrArg Except.ok same, corresponds⟩

theorem unlessClosed
    {α β : Type} {change : α → β} {leftStep : Step α} {rightStep : Step β}
    (ifOpen : StepsCorrespond rename change leftStep rightStep) :
    StepsCorrespond rename change (if left.closed then left.refuse .closed else leftStep)
      (if right.closed then right.refuse .closed else rightStep) := by
  rw [corresponds.closed]
  split
  · exact corresponds.refuse _ _
  · exact ifOpen

theorem addContainer (location : Location) (id : ContainerId) :
    StepsCorrespond rename (fun answer => answer) (left.addContainer location id)
      (right.addContainer location (rename id)) := by
  unfold Store.addContainer
  refine corresponds.unlessClosed ?_
  split
  · exact corresponds.refuse _ _
  · exact ⟨rfl, corresponds.register location id⟩

theorem addModuleContainer (location : Location) (moduleName : String) (id : ContainerId) :
    StepsCorrespond rename (fun answer => answer) (left.addModuleContainer location moduleName id)
      (right.addModuleContainer location moduleName (rename id)) := by
  unfold Store.addModuleContainer
  refine corresponds.unlessClosed ?_
  cases location with
  | module parent name => exact corresponds.refuse _ _
  | standard parent =>
      dsimp only
      split
      · exact ⟨rfl, corresponds.register (.module parent moduleName) id⟩
      · exact corresponds.refuse _ _

theorem createEmptyLocation (location : Location) :
    StepsCorrespond rename (fun answer => answer) (left.createEmptyLocation location)
      (right.createEmptyLocation location) := by
  unfold Store.createEmptyLocation
  refine corresponds.unlessClosed ?_
  cases location with
  | module parent name => exact ⟨rfl, corresponds.ensureRoots _⟩
  | standard root =>
      dsimp only
      split
      · exact ⟨rfl, corresponds.ensureModules root⟩
      · exact ⟨rfl, corresponds.ensureRoots _⟩

theorem hasLocation_eq (location : Location) :
    right.hasLocation location = left.hasLocation location := by
  simp only [hasLocation, corresponds.roots?_eq, corresponds.moduleTable?_eq, Option.isSome_map]

theorem contains (location : Location) (path : String) :
    StepsCorrespond rename (fun held => held) (left.contains location path)
      (right.contains location path) := by
  unfold Store.contains
  refine corresponds.unlessClosed (corresponds.answer ?_)
  simp only [corresponds.packageGroup?_eq, corresponds.moduleTable?_eq, Option.any_map,
    Function.comp_def, corresponds.contains_group_eq, values_renameModules, List.any_map]

theorem getPackageGroup (location : Location) :
    StepsCorrespond rename (Option.map (PackageGroup.renamed rename))
      (left.getPackageGroup location) (right.getPackageGroup location) := by
  unfold Store.getPackageGroup
  refine corresponds.unlessClosed ?_
  split
  · exact corresponds.refuse _ _
  · exact corresponds.answer (corresponds.packageGroup?_eq location)

theorem getModuleGroup (location : Location) :
    StepsCorrespond rename (Option.map (ModuleGroup.renamed rename))
      (left.getModuleGroup location) (right.getModuleGroup location) := by
  unfold Store.getModuleGroup
  refine corresponds.unlessClosed ?_
  split
  · refine corresponds.answer ?_
    rw [corresponds.moduleTable?_eq, Option.map_map, Option.map_map]
    rfl
  · exact corresponds.refuse _ _

theorem getOutputGroup (location : Location) :
    StepsCorrespond rename (Option.map (OutputGroup.renamed rename))
      (left.getOutputGroup location) (right.getOutputGroup location) := by
  unfold Store.getOutputGroup
  rw [corresponds.packageGroup?_eq, corresponds.moduleTable?_eq]
  refine corresponds.unlessClosed ?_
  split
  · cases left.packageGroup? location with
    | none =>
        cases left.moduleTable? location with
        | none => exact corresponds.answer rfl
        | some modules => exact corresponds.answer rfl
    | some package =>
        cases left.moduleTable? location with
        | none => exact corresponds.answer rfl
        | some modules => exact corresponds.answer rfl
  · exact corresponds.refuse _ _

theorem getPackageGroups :
    StepsCorrespond rename (List.map (PackageGroup.renamed rename))
      left.getPackageGroups right.getPackageGroups := by
  unfold Store.getPackageGroups
  refine corresponds.unlessClosed (corresponds.answer ?_)
  rw [corresponds.packages, SortedTable.mapWithKey, List.map_map, List.map_map]
  rfl

theorem list
    (location : Location) (packageName : String) (kinds : List FileKind) (recurse : Bool) :
    StepsCorrespond rename (fun files => files) (left.list location packageName kinds recurse)
      (right.list location packageName kinds recurse) := by
  unfold Store.list
  refine corresponds.unlessClosed ?_
  split
  · exact corresponds.refuse _ _
  · refine corresponds.answer ?_
    simp only [corresponds.packageGroup?_eq, Option.map_map, Function.comp_def,
      corresponds.list_group_eq]

theorem getFileForInput (location : Location) (packageName relativeName : String) :
    StepsCorrespond rename (fun file => file)
      (left.getFileForInput location packageName relativeName)
      (right.getFileForInput location packageName relativeName) := by
  unfold Store.getFileForInput
  refine corresponds.unlessClosed ?_
  split
  · exact corresponds.refuse _ _
  · refine corresponds.answer ?_
    simp only [corresponds.packageGroup?_eq, Option.bind_map, Function.comp_def,
      corresponds.file?_group_eq]

theorem writeFile
    (location : Location) (packageName relativeName : String) (content : Bytes) :
    StepsCorrespond rename (fun file => file)
      (left.writeFile location packageName relativeName content)
      (right.writeFile location packageName relativeName content) := by
  have ready := corresponds.ensureRoots location
  unfold Store.writeFile
  dsimp only
  rw [ready.roots?_eq]
  refine corresponds.unlessClosed ?_
  split
  · cases (left.ensureRoots location).roots? location with
    | none => exact ready.refuse _ _
    | some roots =>
        cases roots with
        | nil => exact ready.refuse _ _
        | cons id others =>
            refine ⟨?_, ready.writeInto id _ content⟩
            simp only [Option.map_some, List.map_cons, ready.get]
            rfl
  · exact corresponds.refuse _ _

theorem read (file : FileRef) :
    StepsCorrespond rename (fun content => content) (left.read file) (right.read file) := by
  unfold Store.read
  rw [corresponds.packageGroup?_eq]
  refine corresponds.unlessClosed ?_
  cases left.packageGroup? file.location with
  | none => exact corresponds.refuse _ _
  | some group =>
      simp only [Option.map_some, corresponds.containers_eq]
      split
      · exact corresponds.answer rfl
      · exact corresponds.refuse _ _

theorem inferBinaryName (location : Location) (file : FileRef) :
    StepsCorrespond rename (fun name => name) (left.inferBinaryName location file)
      (right.inferBinaryName location file) := by
  unfold Store.inferBinaryName
  exact corresponds.unlessClosed (corresponds.answer rfl)

theorem flush : StepsCorrespond rename (fun answer => answer) left.flush right.flush := by
  unfold Store.flush
  exact corresponds.unlessClosed (corresponds.answer rfl)

theorem close : StepsCorrespond rename (fun answer => answer) left.close right.close := by
  refine ⟨rfl, corresponds.release, rfl, corresponds.size, corresponds.unused, corresponds.get,
    corresponds.packages, corresponds.modules⟩

/-- Corresponding stores answer corresponding calls alike, and stay corresponding. -/
theorem perform (call : Call) :
    StepsCorrespond rename (call.renameAnswer rename) (left.perform call)
      (right.perform (call.renamed rename)) := by
  cases call with
  | addContainer location id => exact corresponds.addContainer location id
  | addModuleContainer location moduleName id =>
      exact corresponds.addModuleContainer location moduleName id
  | createEmptyLocation location => exact corresponds.createEmptyLocation location
  | hasLocation location => exact corresponds.answer (corresponds.hasLocation_eq location)
  | contains location path => exact corresponds.contains location path
  | getPackageGroup location => exact corresponds.getPackageGroup location
  | getModuleGroup location => exact corresponds.getModuleGroup location
  | getOutputGroup location => exact corresponds.getOutputGroup location
  | getPackageGroups => exact corresponds.getPackageGroups
  | list location packageName kinds recurse =>
      exact corresponds.list location packageName kinds recurse
  | getFileForInput location packageName relativeName =>
      exact corresponds.getFileForInput location packageName relativeName
  | writeFile location packageName relativeName content =>
      exact corresponds.writeFile location packageName relativeName content
  | read file => exact corresponds.read file
  | inferBinaryName location file => exact corresponds.inferBinaryName location file
  | effectiveRelease => exact corresponds.answer corresponds.release
  | flush => exact corresponds.flush
  | close => exact corresponds.close

end Corresponds

end Store

/-! ## What callers see -/

/-- The location of a group with the containers that its roots stand for. -/
def PackageGroup.held (group : PackageGroup) (shelf : Shelf) : Location × List Container :=
  (group.location, group.containers shelf)

/-- Several modules, each with its location and containers. -/
def heldModules (modules : SortedTable String PackageGroup) (shelf : Shelf) :
    SortedTable String (Location × List Container) :=
  modules.mapWithKey fun _ group => group.held shelf

def ModuleGroup.held (group : ModuleGroup) (shelf : Shelf) :
    Location × SortedTable String (Location × List Container) :=
  (group.location, heldModules group.modules shelf)

def OutputGroup.held (group : OutputGroup) (shelf : Shelf) :
    (Location × List Container) × SortedTable String (Location × List Container) :=
  (group.package.held shelf, heldModules group.modules shelf)

namespace Store

namespace Corresponds

variable {rename : Renaming} {left right : Store}
  (corresponds : Corresponds rename left right)

include corresponds

theorem held_group_eq (group : PackageGroup) :
    (group.renamed rename).held right.shelf = group.held left.shelf := by
  rw [PackageGroup.held, corresponds.containers_eq]
  rfl

theorem heldModules_eq (modules : SortedTable String PackageGroup) :
    heldModules (renameModules rename modules) right.shelf = heldModules modules left.shelf := by
  simp only [heldModules, renameModules, SortedTable.mapWithKey_mapWithKey,
    corresponds.held_group_eq]

end Corresponds

/-- Both stores answer every query alike. Groups are alike if they have the same containers under
the same locations. -/
structure QueriedAlike (left right : Store) : Prop where
  hasLocation : ∀ location, right.hasLocation location = left.hasLocation location
  contains : ∀ location path, (right.contains location path).1 = (left.contains location path).1
  list : ∀ location packageName kinds recurse,
    (right.list location packageName kinds recurse).1 =
      (left.list location packageName kinds recurse).1
  getFileForInput : ∀ location packageName relativeName,
    (right.getFileForInput location packageName relativeName).1 =
      (left.getFileForInput location packageName relativeName).1
  read : ∀ file, (right.read file).1 = (left.read file).1
  packageGroup : ∀ location,
    (right.getPackageGroup location).1.map (Option.map fun group => group.held right.shelf) =
      (left.getPackageGroup location).1.map (Option.map fun group => group.held left.shelf)
  moduleGroup : ∀ location,
    (right.getModuleGroup location).1.map (Option.map fun group => group.held right.shelf) =
      (left.getModuleGroup location).1.map (Option.map fun group => group.held left.shelf)
  outputGroup : ∀ location,
    (right.getOutputGroup location).1.map (Option.map fun group => group.held right.shelf) =
      (left.getOutputGroup location).1.map (Option.map fun group => group.held left.shelf)
  packageGroups :
    right.getPackageGroups.1.map (List.map fun group => group.held right.shelf) =
      left.getPackageGroups.1.map (List.map fun group => group.held left.shelf)

theorem map_answer_of_corresponds
    {α γ : Type} {rename : Renaming} {change : α → α} {left right : Step α}
    (alike : StepsCorrespond rename change left right) {leftView rightView : α → γ}
    (sameView : ∀ value, rightView (change value) = leftView value) :
    right.1.map rightView = left.1.map leftView := by
  rw [alike.1]
  cases left.1 with
  | error failure => rfl
  | ok value => exact congrArg Except.ok (sameView value)

theorem Corresponds.queriedAlike
    {rename : Renaming} {left right : Store} (corresponds : Corresponds rename left right) :
    left.QueriedAlike right where
  hasLocation := corresponds.hasLocation_eq
  contains location path := (corresponds.contains location path).1.trans (congrFun Except.map_id _)
  list location packageName kinds recurse :=
    (corresponds.list location packageName kinds recurse).1.trans (congrFun Except.map_id _)
  getFileForInput location packageName relativeName :=
    (corresponds.getFileForInput location packageName relativeName).1.trans (congrFun Except.map_id _)
  read file := (corresponds.read file).1.trans (congrFun Except.map_id _)
  packageGroup location := by
    refine map_answer_of_corresponds (corresponds.getPackageGroup location) fun group => ?_
    simp only [Option.map_map, Function.comp_def, corresponds.held_group_eq]
  moduleGroup location := by
    refine map_answer_of_corresponds (corresponds.getModuleGroup location) fun group => ?_
    simp only [Option.map_map, Function.comp_def, ModuleGroup.held, ModuleGroup.renamed,
      corresponds.heldModules_eq]
  outputGroup location := by
    refine map_answer_of_corresponds (corresponds.getOutputGroup location) fun group => ?_
    simp only [Option.map_map, Function.comp_def, OutputGroup.held, OutputGroup.renamed,
      corresponds.held_group_eq, corresponds.heldModules_eq]
  packageGroups := by
    refine map_answer_of_corresponds corresponds.getPackageGroups fun groups => ?_
    simp only [List.map_map, Function.comp_def, corresponds.held_group_eq]

end Store

/-! ## Runs on both stores -/

def Answered.renamed (rename : Renaming) (answered : Answered) : Answered :=
  ⟨answered.1.renamed rename, answered.2.map (answered.1.renameAnswer rename)⟩

/-- The deed with the places that it names renamed. -/
def Deed.renamed (rename : Renaming) : Deed → Deed
  | .ask frames call => .ask frames (call.renamed rename)
  | .make name => .make name
  | .fill id path content => .fill (rename id) path content

theorem Ending.ofExcept_map {α β : Type} (change : α → β) (answer : Except Failure α) :
    Ending.ofExcept (answer.map change) = (Ending.ofExcept answer).map change := by
  cases answer <;> rfl

namespace Store.Corresponds

variable {rename : Renaming} (delegates : List Delegate) (subscriber : Option Log.Level)

theorem deed
    {world otherWorld : World Store} (corresponds : Corresponds rename world.inner otherWorld.inner)
    (deed : Deed) :
    let done := deed.perform delegates subscriber world
    let otherDone := (deed.renamed rename).perform delegates subscriber otherWorld
    otherDone.1 = done.1.map (Answered.renamed rename) ∧
      Corresponds rename done.2.inner otherDone.2.inner := by
  cases deed with
  | ask frames call =>
      obtain ⟨ending, state⟩ :=
        aroundAll_agrees delegates ⟨subscriber, frames⟩ call world world rfl
      obtain ⟨otherEnding, otherState⟩ :=
        aroundAll_agrees delegates ⟨subscriber, frames⟩ (call.renamed rename) otherWorld
          otherWorld rfl
      obtain ⟨sameAnswer, next⟩ := corresponds.perform call
      dsimp only [Deed.perform, Deed.renamed]
      rw [ending, state, otherEnding, otherState]
      refine ⟨?_, next⟩
      simp only [manager, sameAnswer, Ending.ofExcept_map]
      rfl
  | make name => exact ⟨rfl, corresponds.place (.new name)⟩
  | fill id path content => exact ⟨rfl, corresponds.writeInto id path content⟩

/-- Whatever is done to two corresponding stores, behind delegates and whatever the journals hold,
is answered alike and leaves corresponding stores. -/
theorem performAll
    (deeds : List Deed) (world otherWorld : World Store)
    (corresponds : Corresponds rename world.inner otherWorld.inner) :
    let run := Deed.performAll delegates subscriber deeds world
    let otherRun :=
      Deed.performAll delegates subscriber (deeds.map (Deed.renamed rename)) otherWorld
    otherRun.1 = run.1.map (Answered.renamed rename) ∧
      Corresponds rename run.2.inner otherRun.2.inner := by
  induction deeds generalizing world otherWorld with
  | nil => exact ⟨rfl, corresponds⟩
  | cons deed others inductionHypothesis =>
      obtain ⟨sameAnswer, next⟩ := corresponds.deed delegates subscriber deed
      obtain ⟨sameAnswers, last⟩ := inductionHypothesis _ _ next
      simp only [List.map_cons, Deed.performAll]
      refine ⟨?_, last⟩
      rw [sameAnswer, sameAnswers, Option.toList_map, List.map_append]

end Store.Corresponds

end CompilationChecks
