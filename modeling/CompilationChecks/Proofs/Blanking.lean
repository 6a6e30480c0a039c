import CompilationChecks.Call
import CompilationChecks.Proofs.Containers

/-!
# Blanked contents

To blank a content is to put as many zeros in its place. Two contents are equal when blanked exactly
if they have the same size, so what is the same for blanked contents depends on sizes only. A
manager in memory does not look at contents: whatever it does to a blanked store on a blanked call
is, blanked, what it does to the store itself on the call itself.
-/

namespace CompilationChecks

/-- As many zeros as the content has bytes. -/
def blank (content : Bytes) : Bytes :=
  List.replicate content.length 0

@[simp]
theorem length_blank (content : Bytes) : (blank content).length = content.length :=
  List.length_replicate

theorem blank_eq_blank_iff {left right : Bytes} :
    blank left = blank right ↔ left.length = right.length := by
  constructor
  · intro same
    rw [← length_blank left, same, length_blank]
  · intro sameLength
    rw [blank, sameLength, blank]

/-! ## Tables -/

namespace SortedTable

universe u v w

variable {κ : Type u} {ν : Type v} {ω : Type w} [Ord κ]

@[simp]
theorem keys_mapWithKey (f : κ → ν → ω) (table : SortedTable κ ν) :
    (table.mapWithKey f).keys = table.keys := by
  simp [keys, mapWithKey]

theorem map_place
    (f : ν → ω) (key : κ) (value : ν) (entries : List (κ × ν)) :
    (place key (fun _ => value) entries).map (fun entry => (entry.1, f entry.2)) =
      place key (fun _ => f value) (entries.map fun entry => (entry.1, f entry.2)) := by
  induction entries with
  | nil => rfl
  | cons first rest inductionHypothesis =>
      cases order : compare key first.1 with
      | lt => simp [place, order]
      | eq => simp [place, order]
      | gt => simp [place, order, inductionHypothesis]

theorem mapWithKey_insert
    [Std.TransOrd κ] (f : ν → ω) (table : SortedTable κ ν) (key : κ) (value : ν) :
    (table.insert key value).mapWithKey (fun _ => f) =
      (table.mapWithKey fun _ => f).insert key (f value) :=
  eq_of_entries (map_place f key value table.entries)

end SortedTable

/-! ## Containers -/

namespace Container

def blanked (container : Container) : Container :=
  { container with files := container.files.mapWithKey fun _ => blank }

variable (container : Container)

@[simp]
theorem name_blanked : container.blanked.name = container.name := rfl

@[simp]
theorem paths_blanked : container.blanked.paths = container.paths :=
  SortedTable.keys_mapWithKey _ _

@[simp]
theorem read_blanked (path : String) :
    container.blanked.read path = (container.read path).map blank :=
  SortedTable.find?_mapWithKey _ _ _

@[simp]
theorem contains_blanked (path : String) :
    container.blanked.contains path = container.contains path := by
  rw [contains_eq_isSome_read, read_blanked, Option.isSome_map, contains_eq_isSome_read]

@[simp]
theorem list_blanked (directory : String) (recurse : Bool) :
    container.blanked.list directory recurse = container.list directory recurse := by
  simp only [list, paths_blanked]

@[simp]
theorem inspect_blanked : container.blanked.inspect = container.inspect := by
  have size : container.blanked.size = container.size := List.length_map _
  simp only [inspect, name_blanked, size]

theorem blanked_write (path : String) (content : Bytes) :
    (container.write path content).blanked = container.blanked.write path (blank content) := by
  simp only [blanked, write, SortedTable.mapWithKey_insert]

/-- The first of several containers to hold a path is the same when they are blanked. -/
theorem findSome?_read_blanked (containers : List Container) (path : String) :
    ((containers.map blanked).findSome? fun container => container.read path) =
      (containers.findSome? fun container => container.read path).map blank := by
  rw [List.findSome?_map, List.map_findSome?]
  exact congrArg (fun search => containers.findSome? search)
    (funext fun container => container.read_blanked path)

end Container

/-! ## The shelf and groups -/

namespace Shelf

def blanked (shelf : Shelf) : Shelf :=
  ⟨shelf.containers.map Container.blanked⟩

variable (shelf : Shelf)

@[simp]
theorem size_blanked : shelf.blanked.size = shelf.size :=
  List.length_map _

@[simp]
theorem get_blanked (id : ContainerId) : shelf.blanked.get id = (shelf.get id).blanked := by
  simp only [get, blanked, List.getD_eq_getElem?_getD, List.getElem?_map]
  cases shelf.containers[id]? with
  | none => rfl
  | some container => rfl

theorem blanked_add (container : Container) :
    (shelf.add container).blanked = shelf.blanked.add container.blanked := by
  simp [blanked, add]

theorem blanked_write (id : ContainerId) (path : String) (content : Bytes) :
    (shelf.write id path content).blanked = shelf.blanked.write id path (blank content) := by
  have samePlaces :
      (shelf.containers.modify id fun container => container.write path content).map
          Container.blanked =
        (shelf.containers.map Container.blanked).modify id fun container =>
          container.write path (blank content) := by
    apply List.ext_getElem?
    intro place
    simp only [List.getElem?_map, List.getElem?_modify]
    cases shelf.containers[place]? with
    | none => rfl
    | some container =>
        by_cases here : id = place
        · simp [here, Container.blanked_write]
        · simp [here]
  simp only [blanked, write, samePlaces]

end Shelf

namespace PackageGroup

variable (group : PackageGroup) (shelf : Shelf)

theorem containers_blanked :
    group.containers shelf.blanked = (group.containers shelf).map Container.blanked := by
  simp [containers]

@[simp]
theorem file?_blanked (path : String) :
    group.file? shelf.blanked path = group.file? shelf path := by
  simp [file?, containers_blanked, List.find?_map, Function.comp_def]

@[simp]
theorem contains_blanked (path : String) :
    group.contains shelf.blanked path = group.contains shelf path := by
  simp [contains, containers_blanked, Function.comp_def]

theorem read_blanked (path : String) :
    group.read shelf.blanked path = (group.read shelf path).map blank := by
  rw [read, containers_blanked]
  exact Container.findSome?_read_blanked (group.containers shelf) path

theorem size_read_blanked (path : String) :
    (group.read shelf.blanked path).map List.length =
      (group.read shelf path).map List.length := by
  rw [read_blanked, Option.map_map]
  exact congrArg (fun size => (group.read shelf path).map size) (funext length_blank)

@[simp]
theorem list_blanked (packageName : String) (kinds : List FileKind) (recurse : Bool) :
    group.list shelf.blanked packageName kinds recurse =
      group.list shelf packageName kinds recurse := by
  simp [list, containers_blanked, List.flatMap_map]

@[simp]
theorem inspect_blanked : group.inspect shelf.blanked = group.inspect shelf := by
  simp [inspect, containers_blanked, Function.comp_def]

end PackageGroup

theorem inspectModules_blanked (modules : SortedTable String PackageGroup) (shelf : Shelf) :
    inspectModules modules shelf.blanked = inspectModules modules shelf := by
  simp only [inspectModules, PackageGroup.inspect_blanked]

/-! ## Calls -/

namespace Call

/-- The call with its content blanked, if it has one. -/
def blanked : Call → Call
  | .writeFile location packageName relativeName content =>
    .writeFile location packageName relativeName (blank content)
  | other => other

/-- The answer to a call with its content blanked, if it has one. -/
def blankAnswer : (call : Call) → call.Answer → call.blanked.Answer
  | .addContainer .., answer => answer
  | .addModuleContainer .., answer => answer
  | .createEmptyLocation .., answer => answer
  | .hasLocation .., known => known
  | .contains .., held => held
  | .getPackageGroup .., group => group
  | .getModuleGroup .., group => group
  | .getOutputGroup .., group => group
  | .getPackageGroups, groups => groups
  | .list .., files => files
  | .getFileForInput .., file => file
  | .writeFile .., file => file
  | .read .., content => blank content
  | .inferBinaryName .., name => name
  | .effectiveRelease, release => release
  | .flush, answer => answer
  | .close, answer => answer

theorem blanked_eq_self_or_writeFile (call : Call) :
    call.blanked = call ∨
      ∃ location packageName relativeName content,
        call = .writeFile location packageName relativeName content := by
  cases call with
  | writeFile location packageName relativeName content =>
      exact Or.inr ⟨location, packageName, relativeName, content, rfl⟩
  | _ => exact Or.inl rfl

theorem eq_writeFile_of_blanked
    {call : Call} {location : Location} {packageName relativeName : String} {content : Bytes}
    (same : call.blanked = blanked (.writeFile location packageName relativeName content)) :
    ∃ other, call = .writeFile location packageName relativeName other ∧
      other.length = content.length := by
  rcases call.blanked_eq_self_or_writeFile with unchanged | ⟨_, _, _, written, rfl⟩
  · exact ⟨blank content, unchanged.symm.trans same, length_blank content⟩
  · obtain ⟨rfl, rfl, rfl, sameBlank⟩ := Call.writeFile.inj same
    exact ⟨written, rfl, blank_eq_blank_iff.1 sameBlank⟩

/-- Calls that are equal when blanked are equal or write contents of the same size. -/
theorem eq_or_writeFile_of_blanked_eq {call other : Call} (same : call.blanked = other.blanked) :
    call = other ∨
      ∃ location packageName relativeName content otherContent,
        call = .writeFile location packageName relativeName content ∧
          other = .writeFile location packageName relativeName otherContent ∧
            content.length = otherContent.length := by
  rcases call.blanked_eq_self_or_writeFile with callSame | ⟨_, _, _, content, rfl⟩
  · rcases other.blanked_eq_self_or_writeFile with otherSame | ⟨_, _, _, otherContent, rfl⟩
    · exact Or.inl (callSame.symm.trans (same.trans otherSame))
    · obtain ⟨content, isWrite, sizes⟩ := eq_writeFile_of_blanked same
      exact Or.inr ⟨_, _, _, content, otherContent, isWrite, rfl, sizes⟩
  · obtain ⟨otherContent, isWrite, sizes⟩ := eq_writeFile_of_blanked same.symm
    exact Or.inr ⟨_, _, _, content, otherContent, rfl, isWrite, sizes.symm⟩

theorem blankAnswer_injective_or_read (call : Call) :
    Function.Injective call.blankAnswer ∨ ∃ file, call = .read file := by
  cases call with
  | read file => exact Or.inr ⟨file, rfl⟩
  | _ => exact Or.inl fun _ _ same => same

@[simp]
theorem operation_blanked (call : Call) : call.blanked.operation = call.operation := by
  cases call <;> rfl

theorem sizeText_blank (content : Bytes) : sizeText (blank content) = sizeText content := by
  simp only [sizeText, length_blank]

/-- The log shows the arguments of a call without looking at contents. -/
theorem arguments_blanked (call : Call) (shelf : Shelf) :
    call.blanked.arguments shelf.blanked = call.arguments shelf := by
  cases call <;> simp [blanked, arguments, sizeText_blank]

/-- The log shows the answer to a call without looking at contents. -/
theorem answerText_blanked (call : Call) (shelf : Shelf) (answer : call.Answer) :
    call.blanked.answerText shelf.blanked (call.blankAnswer answer) =
      call.answerText shelf answer := by
  cases call <;>
    simp [blanked, answerText, blankAnswer, sizeText_blank, ModuleGroup.inspect,
      OutputGroup.inspect, inspectModules_blanked]

end Call

/-! ## Stores -/

namespace Store

def blanked (store : Store) : Store :=
  { store with shelf := store.shelf.blanked }

variable (store : Store)

theorem blanked_register (location : Location) (id : ContainerId) :
    (store.register location id).blanked = store.blanked.register location id := by
  cases location <;> rfl

theorem blanked_place (container : Container) :
    (store.place container).blanked = store.blanked.place container.blanked := by
  simp only [blanked, place, Shelf.blanked_add]

theorem blanked_writeInto (id : ContainerId) (path : String) (content : Bytes) :
    (store.writeInto id path content).blanked =
      store.blanked.writeInto id path (blank content) := by
  simp only [blanked, writeInto, Shelf.blanked_write]

theorem roots?_blanked (location : Location) :
    store.blanked.roots? location = store.roots? location := by
  cases location <;> rfl

theorem blanked_ensureRoots (location : Location) :
    (store.ensureRoots location).blanked = store.blanked.ensureRoots location := by
  have newContainer : (Container.new location.name).blanked = .new location.name := rfl
  have sameSize : store.blanked.shelf.size = store.shelf.size := store.shelf.size_blanked
  unfold ensureRoots
  rw [roots?_blanked]
  split
  · rw [blanked_register, blanked_place, newContainer, sameSize]
  · rfl

/-! ### Performing a call -/

/-- An answered call with its answer changed and the state it leaves blanked. -/
def blankStep {α β : Type} (blankAnswer : α → β) (step : Step α) : Step β :=
  (step.1.map blankAnswer, step.2.blanked)

theorem blankStep_ite
    {α β : Type} {blankAnswer : α → β} {condition : Prop} [Decidable condition]
    {first second : Step α} {blankedFirst blankedSecond : Step β}
    (sameFirst : blankedFirst = blankStep blankAnswer first)
    (sameSecond : blankedSecond = blankStep blankAnswer second) :
    (if condition then blankedFirst else blankedSecond) =
      blankStep blankAnswer (if condition then first else second) := by
  rw [sameFirst, sameSecond]
  exact (apply_ite _ _ _ _).symm

theorem packageGroup?_blanked (location : Location) :
    store.blanked.packageGroup? location = store.packageGroup? location := by
  rw [packageGroup?, roots?_blanked, packageGroup?]

theorem moduleTable?_blanked (location : Location) :
    store.blanked.moduleTable? location = store.moduleTable? location := by
  cases location <;> rfl

theorem shelf_blanked : store.blanked.shelf = store.shelf.blanked := rfl

theorem addContainer_blanked (location : Location) (id : ContainerId) :
    store.blanked.addContainer location id =
      blankStep (fun answer => answer) (store.addContainer location id) := by
  refine blankStep_ite rfl (blankStep_ite rfl ?_)
  rw [← blanked_register]
  rfl

theorem addModuleContainer_blanked
    (location : Location) (moduleName : String) (id : ContainerId) :
    store.blanked.addModuleContainer location moduleName id =
      blankStep (fun answer => answer) (store.addModuleContainer location moduleName id) := by
  cases location with
  | standard parent => exact blankStep_ite rfl (blankStep_ite rfl rfl)
  | module parent name => exact blankStep_ite rfl rfl

theorem createEmptyLocation_blanked (location : Location) :
    store.blanked.createEmptyLocation location =
      blankStep (fun answer => answer) (store.createEmptyLocation location) := by
  have ready := store.blanked_ensureRoots location
  cases location with
  | standard root =>
      refine blankStep_ite rfl (blankStep_ite rfl ?_)
      rw [← ready]
      rfl
  | module parent name =>
      refine blankStep_ite rfl ?_
      rw [← ready]
      rfl

theorem contains_blanked (location : Location) (path : String) :
    store.blanked.contains location path =
      blankStep (fun held => held) (store.contains location path) := by
  refine blankStep_ite rfl ?_
  simp only [packageGroup?_blanked, moduleTable?_blanked, shelf_blanked,
    PackageGroup.contains_blanked]
  rfl

theorem getPackageGroup_blanked (location : Location) :
    store.blanked.getPackageGroup location =
      blankStep (fun group => group) (store.getPackageGroup location) := by
  refine blankStep_ite rfl (blankStep_ite rfl ?_)
  rw [packageGroup?_blanked]
  rfl

theorem getModuleGroup_blanked (location : Location) :
    store.blanked.getModuleGroup location =
      blankStep (fun group => group) (store.getModuleGroup location) := by
  refine blankStep_ite rfl (blankStep_ite ?_ rfl)
  rw [moduleTable?_blanked]
  rfl

theorem getOutputGroup_blanked (location : Location) :
    store.blanked.getOutputGroup location =
      blankStep (fun group => group) (store.getOutputGroup location) := by
  refine blankStep_ite rfl (blankStep_ite ?_ rfl)
  rw [packageGroup?_blanked, moduleTable?_blanked]
  split
  all_goals rfl

theorem list_blanked
    (location : Location) (packageName : String) (kinds : List FileKind) (recurse : Bool) :
    store.blanked.list location packageName kinds recurse =
      blankStep (fun files => files) (store.list location packageName kinds recurse) := by
  refine blankStep_ite rfl (blankStep_ite rfl ?_)
  simp only [packageGroup?_blanked, shelf_blanked, PackageGroup.list_blanked]
  rfl

theorem getFileForInput_blanked (location : Location) (packageName relativeName : String) :
    store.blanked.getFileForInput location packageName relativeName =
      blankStep (fun file => file) (store.getFileForInput location packageName relativeName) := by
  refine blankStep_ite rfl (blankStep_ite rfl ?_)
  simp only [packageGroup?_blanked, shelf_blanked, PackageGroup.file?_blanked]
  rfl

theorem writeFile_blanked
    (location : Location) (packageName relativeName : String) (content : Bytes) :
    store.blanked.writeFile location packageName relativeName (blank content) =
      blankStep (fun file => file)
        (store.writeFile location packageName relativeName content) := by
  refine blankStep_ite rfl (blankStep_ite ?_ rfl)
  simp only [← blanked_ensureRoots, roots?_blanked]
  cases (store.ensureRoots location).roots? location with
  | none => rfl
  | some roots =>
      cases roots with
      | nil => rfl
      | cons id others =>
          simp only [← blanked_writeInto, shelf_blanked, Shelf.get_blanked,
            Container.name_blanked]
          rfl

theorem read_blanked (file : FileRef) :
    store.blanked.read file = blankStep blank (store.read file) := by
  refine blankStep_ite rfl ?_
  rw [packageGroup?_blanked]
  cases store.packageGroup? file.location with
  | none => rfl
  | some group =>
      have sameNamed :
          ((group.containers store.blanked.shelf).filter fun container =>
              container.name == file.container) =
            ((group.containers store.shelf).filter fun container =>
              container.name == file.container).map Container.blanked := by
        simp [shelf_blanked, PackageGroup.containers_blanked, List.filter_map, Function.comp_def]
      simp only [sameNamed]
      generalize ((group.containers store.shelf).filter fun container =>
        container.name == file.container) = named
      rw [Container.findSome?_read_blanked named file.path]
      cases named.findSome? fun container => container.read file.path with
      | none => rfl
      | some content => rfl

/-- On a blanked store a blanked call is answered as on the store itself, but for the contents. -/
theorem perform_blanked (call : Call) :
    store.blanked.perform call.blanked = blankStep call.blankAnswer (store.perform call) := by
  cases call with
  | addContainer location id => exact store.addContainer_blanked location id
  | addModuleContainer location moduleName id =>
      exact store.addModuleContainer_blanked location moduleName id
  | createEmptyLocation location => exact store.createEmptyLocation_blanked location
  | hasLocation location =>
      have known : store.blanked.hasLocation location = store.hasLocation location := by
        rw [hasLocation, roots?_blanked, moduleTable?_blanked, hasLocation]
      exact congrArg store.blanked.answer known
  | contains location path => exact store.contains_blanked location path
  | getPackageGroup location => exact store.getPackageGroup_blanked location
  | getModuleGroup location => exact store.getModuleGroup_blanked location
  | getOutputGroup location => exact store.getOutputGroup_blanked location
  | getPackageGroups => exact blankStep_ite rfl rfl
  | list location packageName kinds recurse =>
      exact store.list_blanked location packageName kinds recurse
  | getFileForInput location packageName relativeName =>
      exact store.getFileForInput_blanked location packageName relativeName
  | writeFile location packageName relativeName content =>
      exact store.writeFile_blanked location packageName relativeName content
  | read file => exact store.read_blanked file
  | inferBinaryName location file => exact blankStep_ite rfl rfl
  | effectiveRelease => rfl
  | flush => exact blankStep_ite rfl rfl
  | close => rfl

end Store

end CompilationChecks
