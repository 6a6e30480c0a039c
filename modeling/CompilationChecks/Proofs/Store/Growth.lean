import CompilationChecks.Proofs.Store.Getters

/-!
# Stores grow

Whatever happens to a store, the roots of a location are only added to at the end, locations and
modules stay known, and a container keeps every path it has. So a group that was handed out once
is a beginning of every later group of its location. Its containers are shared with the store: the
first of them stays the first root, which is where writes go, so they show in the old group.
-/

namespace CompilationChecks

open Relation

namespace Store

variable {store later : Store}

/-! ## What every move keeps -/

/-- A relation of earlier and later stores that holds along every part of a move. -/
structure Persists (kept : Store → Store → Prop) : Prop where
  refl : ∀ store, kept store store
  trans : ∀ {before middle after}, kept before middle → kept middle after → kept before after
  place : ∀ store name, kept store (store.place (.new name))
  register : ∀ store location id, kept store (store.register location id)
  ensureModules : ∀ store parent, kept store (store.ensureModules parent)
  writeInto : ∀ store id path content, kept store (store.writeInto id path content)
  close : ∀ store : Store, kept store { store with closed := true }

namespace Persists

variable {kept : Store → Store → Prop} (persists : Persists kept)

include persists

theorem ensureRoots (store : Store) (location : Location) :
    kept store (store.ensureRoots location) := by
  unfold Store.ensureRoots
  split
  · exact persists.trans (persists.place store location.name)
      (persists.register _ location store.shelf.size)
  · exact persists.refl store

theorem change {handed : List ContainerId} {next : Store} (change : store.Change handed next) :
    kept store next := by
  cases change with
  | nothing => exact persists.refl store
  | registered location id => exact persists.register store location id
  | ensured location => exact persists.ensureRoots store location
  | knownToHoldModules parent => exact persists.ensureModules store parent
  | written location first others path content =>
      exact persists.trans (persists.ensureRoots store location)
        (persists.writeInto _ first path content)
  | closed => exact persists.close store

theorem moves {next : Store} (moves : store.Moves next) : kept store next := by
  cases moves with
  | made name => exact persists.place store name
  | written id path content => exact persists.writeInto store id path content
  | called call => exact persists.change (change_perform store call)

theorem run (run : ReflTransGen Moves store later) : kept store later := by
  induction run with
  | refl => exact persists.refl store
  | tail _ move inductionHypothesis => exact persists.trans inductionHypothesis (persists.moves move)

end Persists

/-! ## Growing -/

/-- Nothing of the first store is lost in the second one. -/
structure Grows (before after : Store) : Prop where
  isOpen : after.closed = false → before.closed = false
  roots : ∀ location old, before.roots? location = some old →
    ∃ new, after.roots? location = some new ∧ old <+: new
  parents : ∀ parent, (before.modules.find? parent).isSome = true →
    (after.modules.find? parent).isSome = true
  held : ∀ id path, ((before.shelf.get id).read path).isSome = true →
    ((after.shelf.get id).read path).isSome = true

namespace Grows

theorem refl (store : Store) : store.Grows store :=
  ⟨id, fun _ old known => ⟨old, known, List.prefix_refl old⟩, fun _ => id, fun _ _ => id⟩

theorem trans {before middle after : Store} (first : before.Grows middle)
    (second : middle.Grows after) : before.Grows after := by
  refine ⟨first.isOpen ∘ second.isOpen, ?_, ?_, ?_⟩
  · intro location old known
    obtain ⟨between, knownBetween, firstPrefix⟩ := first.roots location old known
    obtain ⟨new, knownAfter, secondPrefix⟩ := second.roots location between knownBetween
    exact ⟨new, knownAfter, firstPrefix.trans secondPrefix⟩
  · exact fun parent known => second.parents parent (first.parents parent known)
  · exact fun id path isHeld => second.held id path (first.held id path isHeld)

/-- A store with the same tables loses nothing as long as its containers do not. -/
theorem of_tables_eq
    {before after : Store} (isOpen : after.closed = false → before.closed = false)
    (samePackages : after.packages = before.packages) (sameModules : after.modules = before.modules)
    (held : ∀ id path, ((before.shelf.get id).read path).isSome = true →
      ((after.shelf.get id).read path).isSome = true) :
    before.Grows after := by
  refine ⟨isOpen, ?_, ?_, held⟩
  · intro location old known
    exact ⟨old, (roots?_congr samePackages sameModules location).trans known, List.prefix_refl old⟩
  · intro parent known
    rw [sameModules]
    exact known

theorem place (store : Store) (name : String) : store.Grows (store.place (.new name)) := by
  refine of_tables_eq id rfl rfl fun id path isHeld => ?_
  have unchanged := Shelf.read_get_add_new store.shelf name id path
  exact (congrArg Option.isSome unchanged).trans isHeld

theorem writeInto (store : Store) (id : ContainerId) (path : String) (content : Bytes) :
    store.Grows (store.writeInto id path content) := by
  refine of_tables_eq (fun isClosed => isClosed) rfl rfl fun other otherPath isHeld => ?_
  simp only [← Container.contains_eq_isSome_read] at isHeld ⊢
  by_cases same : other = id
  · subst same
    by_cases used : other < store.shelf.size
    · have written := Shelf.get_write_self store.shelf path content used
      simp only [Store.writeInto, written]
      exact (Container.contains_write_iff _ _ _ _).2 (Or.inr isHeld)
    · have unwritten := Shelf.write_of_le store.shelf path content (Nat.le_of_not_lt used)
      simp only [Store.writeInto, unwritten]
      exact isHeld
  · have unwritten := Shelf.get_write_of_ne store.shelf path content same
    simp only [Store.writeInto, unwritten]
    exact isHeld

theorem register (store : Store) (location : Location) (id : ContainerId) :
    store.Grows (store.register location id) := by
  refine ⟨?_, ?_, ?_, ?_⟩
  · rw [closed_register]
    exact fun isClosed => isClosed
  · intro other old known
    by_cases same : other = location
    · subst same
      rw [roots?_register_self, known]
      exact ⟨old ++ [id], rfl, List.prefix_append old [id]⟩
    · rw [roots?_register_of_ne store id same]
      exact ⟨old, known, List.prefix_refl old⟩
  · intro parent known
    cases location with
    | standard root => exact known
    | module other moduleName =>
        by_cases same : parent = other
        · subst same
          simp [Store.register, registerModule]
        · simp only [Store.register, registerModule]
          rw [SortedTable.find?_update_of_ne _ _ same]
          exact known
  · intro other path isHeld
    rw [shelf_register]
    exact isHeld

theorem ensureModules (store : Store) (parent : Location.Standard) :
    store.Grows (store.ensureModules parent) := by
  refine ⟨id, ?_, ?_, fun _ _ => id⟩
  · intro location old known
    rw [roots?_ensureModules]
    exact ⟨old, known, List.prefix_refl old⟩
  · intro other known
    by_cases same : other = parent
    · subst same
      simp [Store.ensureModules]
    · simp only [Store.ensureModules]
      rw [SortedTable.find?_update_of_ne _ _ same]
      exact known

theorem close (store : Store) : store.Grows { store with closed := true } :=
  of_tables_eq nofun rfl rfl fun _ _ => id

theorem persists : Persists Grows :=
  ⟨refl, trans, place, register, ensureModules, writeInto, close⟩

theorem run (run : ReflTransGen Moves store later) : store.Grows later :=
  persists.run run

end Grows

theorem Reachable.run (reachable : store.Reachable) (run : ReflTransGen Moves store later) :
    later.Reachable := by
  obtain ⟨release, before⟩ := reachable
  exact ⟨release, before.trans run⟩

/-! ### What the manager tells about a store that grew -/

theorem getPackageGroup_ok_iff {location : Location} {group : PackageGroup} :
    (store.getPackageGroup location).1 = .ok (some group) ↔
      store.closed = false ∧ location.isModuleOriented = false ∧
        group.location = location ∧ store.roots? location = some group.roots := by
  unfold getPackageGroup
  cases store.closed <;> cases location.isModuleOriented <;>
    simp [refuse, answer, packageGroup?]
  constructor
  · rintro ⟨roots, known, rfl⟩
    exact ⟨rfl, known⟩
  · rintro ⟨rfl, known⟩
    exact ⟨group.roots, known, rfl⟩

theorem getModuleGroup_ok_iff {location : Location} {group : ModuleGroup} :
    (store.getModuleGroup location).1 = .ok (some group) ↔
      store.closed = false ∧ (location.isModuleOriented || location.isOutput) = true ∧
        group.location = location ∧ store.moduleTable? location = some group.modules := by
  unfold getModuleGroup
  cases store.closed <;> cases (location.isModuleOriented || location.isOutput) <;>
    simp [refuse, answer]
  constructor
  · rintro ⟨modules, known, rfl⟩
    exact ⟨rfl, known⟩
  · rintro ⟨rfl, known⟩
    exact ⟨group.modules, known, rfl⟩

theorem Grows.getPackageGroup
    (grows : store.Grows later) (isOpen : later.closed = false) {location : Location}
    {group : PackageGroup} (found : (store.getPackageGroup location).1 = .ok (some group)) :
    ∃ grown, (later.getPackageGroup location).1 = .ok (some grown) ∧
      group.roots <+: grown.roots := by
  obtain ⟨_, holdsFiles, rfl, known⟩ := getPackageGroup_ok_iff.1 found
  obtain ⟨roots, knownLater, isPrefix⟩ := grows.roots _ _ known
  exact ⟨⟨group.location, roots⟩,
    getPackageGroup_ok_iff.2 ⟨isOpen, holdsFiles, rfl, knownLater⟩, isPrefix⟩

/-- The modules of a location stay in its group, each with the roots that it had and perhaps
more. -/
theorem Grows.getModuleGroup
    (grows : store.Grows later) (isOpen : later.closed = false) {location : Location}
    {group : ModuleGroup} (found : (store.getModuleGroup location).1 = .ok (some group)) :
    ∃ grown, (later.getModuleGroup location).1 = .ok (some grown) ∧
      ∀ moduleName part, group.module? moduleName = some part →
        ∃ grownPart, grown.module? moduleName = some grownPart ∧
          part.roots <+: grownPart.roots := by
  obtain ⟨_, takes, rfl, known⟩ := getModuleGroup_ok_iff.1 found
  cases here : group.location with
  | module parent moduleName => simp [moduleTable?, here] at known
  | standard parent =>
      rw [here] at takes known
      have parentKnown : (store.modules.find? parent).isSome = true := by
        have tableKnown := congrArg Option.isSome known
        simpa [moduleTable?] using tableKnown
      obtain ⟨table, tableLater⟩ := Option.isSome_iff_exists.1 (grows.parents parent parentKnown)
      have knownLater : later.moduleTable? (.standard parent) =
          some (table.mapWithKey fun moduleName roots => ⟨.module parent moduleName, roots⟩) := by
        simp [moduleTable?, tableLater]
      refine ⟨⟨.standard parent, _⟩,
        getModuleGroup_ok_iff.2 ⟨isOpen, takes, rfl, knownLater⟩, ?_⟩
      -- The group of a module is the same alone and in the group of its parent.
      intro moduleName part partFound
      have alone : store.packageGroup? (.module parent moduleName) = some part := by
        rw [← find?_moduleTable?_eq, known]
        exact partFound
      obtain ⟨roots, rootsKnown, rfl⟩ := Option.map_eq_some_iff.1 alone
      obtain ⟨grownRoots, grownKnown, isPrefix⟩ := grows.roots _ _ rootsKnown
      refine ⟨⟨.module parent moduleName, grownRoots⟩, ?_, isPrefix⟩
      have aloneLater : later.packageGroup? (.module parent moduleName) =
          some ⟨.module parent moduleName, grownRoots⟩ := by
        simp [packageGroup?, grownKnown]
      rw [← find?_moduleTable?_eq, knownLater] at aloneLater
      exact aloneLater

theorem hasLocation_eq_true_iff {location : Location} :
    store.hasLocation location = true ↔
      (∃ roots, store.roots? location = some roots) ∨
        ∃ parent, location = .standard parent ∧ (store.modules.find? parent).isSome = true := by
  cases location with
  | standard parent => simp [hasLocation, moduleTable?, Option.isSome_iff_exists]
  | module parent moduleName => simp [hasLocation, moduleTable?, Option.isSome_iff_exists]

theorem Grows.hasLocation
    (grows : store.Grows later) {location : Location}
    (known : store.hasLocation location = true) :
    later.hasLocation location = true := by
  rcases hasLocation_eq_true_iff.1 known with ⟨roots, rootsKnown⟩ | ⟨parent, rfl, parentKnown⟩
  · obtain ⟨grown, grownKnown, _⟩ := grows.roots location roots rootsKnown
    exact hasLocation_eq_true_iff.2 (Or.inl ⟨grown, grownKnown⟩)
  · exact hasLocation_eq_true_iff.2 (Or.inr ⟨parent, rfl, grows.parents parent parentKnown⟩)

theorem Grows.read
    (grows : store.Grows later) {group : PackageGroup} {path : String}
    (isHeld : (group.read store.shelf path).isSome = true) :
    (group.read later.shelf path).isSome = true := by
  obtain ⟨container, member, heldThere⟩ := List.findSome?_isSome_iff.1 isHeld
  obtain ⟨id, isRoot, rfl⟩ := List.mem_map.1 member
  refine List.findSome?_isSome_iff.2 ⟨later.shelf.get id, ?_, grows.held id path heldThere⟩
  exact List.mem_map.2 ⟨id, isRoot, rfl⟩

/-! ## Writes that leave a file alone -/

/-- The container that a call writes into and the path in it, if the call writes. -/
def target? (store : Store) : Call → Option (ContainerId × String)
  | .writeFile location packageName relativeName _ =>
    if store.closed || !location.isOutput then none
    else
      (((store.ensureRoots location).roots? location).bind List.head?).map fun first =>
        (first, Path.resolve packageName relativeName)
  | _ => none

/-- One move in the life of a store that does not write to one path of one container, under
whatever spelling of the path. -/
inductive SparingMoves (id : ContainerId) (path : String) : Store → Store → Prop where
  | made (store : Store) (name : String) : SparingMoves id path store (store.place (.new name))
  | written (store : Store) (other : ContainerId) (otherPath : String) (content : Bytes)
      (onShelf : other < store.shelf.size)
      (spares : other ≠ id ∨ Path.normalize otherPath ≠ Path.normalize path) :
      SparingMoves id path store (store.writeInto other otherPath content)
  | called (store : Store) (call : Call) (onShelf : ∀ id ∈ call.containers, id < store.shelf.size)
      (spares : ∀ target, store.target? call = some target →
        target.1 ≠ id ∨ Path.normalize target.2 ≠ Path.normalize path) :
      SparingMoves id path store (store.perform call).2

section Sparing

variable {id : ContainerId} {path : String}

theorem read_writeInto_of_spares
    {other : ContainerId} {otherPath : String} (content : Bytes)
    (spares : other ≠ id ∨ Path.normalize otherPath ≠ Path.normalize path) :
    ((store.writeInto other otherPath content).shelf.get id).read path =
      (store.shelf.get id).read path := by
  by_cases same : id = other
  · subst same
    have otherText : Path.normalize path ≠ Path.normalize otherPath :=
      fun samePath => spares.elim (fun different => different rfl) fun apart => apart samePath.symm
    by_cases used : id < store.shelf.size
    · have written := Shelf.get_write_self store.shelf otherPath content used
      exact (congrArg (Container.read · path) written).trans
        (Container.read_write_of_ne _ content otherText)
    · have unwritten := Shelf.write_of_le store.shelf otherPath content (Nat.le_of_not_lt used)
      exact congrArg (fun shelf => (shelf.get id).read path) unwritten
  · exact congrArg (Container.read · path)
      (Shelf.get_write_of_ne store.shelf otherPath content same)

theorem read_perform_of_spares
    {call : Call} (spares : ∀ target, store.target? call = some target →
      target.1 ≠ id ∨ Path.normalize target.2 ≠ Path.normalize path) :
    ((store.perform call).2.shelf.get id).read path = (store.shelf.get id).read path := by
  cases closedness : store.closed with
  | true => rw [unchanged_of_closed closedness]
  | false =>
      cases call
      case writeFile location packageName relativeName content =>
        cases output : location.isOutput with
        | false => simp [perform, writeFile_of_not_output _ _ _ closedness output, refuse]
        | true =>
            obtain ⟨first, others, roots, written⟩ :=
              writeFile_eq closedness output packageName relativeName content
            have aimed : store.target? (.writeFile location packageName relativeName content) =
                some (first, Path.resolve packageName relativeName) := by
              simp [target?, closedness, output, roots]
            simp only [perform, written]
            rw [read_writeInto_of_spares content (spares _ aimed), read_ensureRoots]
      case createEmptyLocation location =>
        cases holdsModules : location.isModuleOriented with
        | false =>
            simp only [perform, createEmptyLocation_eq closedness holdsModules]
            exact read_ensureRoots store location id path
        | true =>
            cases location with
            | module => cases holdsModules
            | standard root =>
                have rootHoldsModules : root.isModuleOriented = true := holdsModules
                simp [perform, createEmptyLocation, closedness, rootHoldsModules, ensureModules]
      case addContainer location other =>
        simp only [perform, addContainer, closedness, Bool.false_eq_true, if_false]
        split
        · rfl
        · simp only [shelf_register]
      case addModuleContainer location moduleName other =>
        simp only [perform, addModuleContainer, closedness, Bool.false_eq_true, if_false]
        repeat' split
        all_goals rfl
      case close => rfl
      -- All other calls only ask.
      all_goals rw [perform_of_onlyAsks rfl]

/-- A file stays as it is while every move leaves it alone. -/
theorem read_of_sparing_run (run : ReflTransGen (SparingMoves id path) store later) :
    (later.shelf.get id).read path = (store.shelf.get id).read path := by
  induction run with
  | refl => rfl
  | tail _ move inductionHypothesis =>
      rw [← inductionHypothesis]
      cases move with
      | made name => exact Shelf.read_get_add_new _ name id path
      | written other otherPath content _ spares => exact read_writeInto_of_spares content spares
      | called call _ spares => exact read_perform_of_spares spares

end Sparing

/-! ## Old groups and later writes -/

/-- A write goes into the container that was the first of any earlier group of the location. -/
theorem writeFile_of_earlier_group
    (reachable : store.Reachable) (run : ReflTransGen Moves store later) {location : Location}
    {group : PackageGroup} (found : (store.getPackageGroup location).1 = .ok (some group))
    {packageName relativeName : String} {content : Bytes} {file : FileRef} {written : Store}
    (succeeded : later.writeFile location packageName relativeName content = (.ok file, written)) :
    ∃ first others, group.roots = first :: others ∧ first < later.shelf.size ∧
      written = later.writeInto first file.path content := by
  obtain ⟨_, _, _, known⟩ := getPackageGroup_ok_iff.1 found
  obtain ⟨first, others, shape⟩ :=
    List.exists_cons_of_ne_nil (reachable.sound.nonempty _ _ known)
  have soundLater : later.Sound := (reachable.run run).sound
  obtain ⟨roots, knownLater, isPrefix⟩ := (Grows.run run).roots _ _ known
  obtain ⟨further, extended⟩ := isPrefix
  rw [shape, List.cons_append] at extended
  subst extended
  obtain ⟨isOpen, output⟩ :=
    (writeFile_ok_iff packageName relativeName content).1 ⟨file, congrArg Prod.fst succeeded⟩
  obtain ⟨target, _, targetRoots, writes⟩ :=
    writeFile_eq isOpen output packageName relativeName content
  -- The location has roots, so none is made, and the first one is the first of the old group.
  rw [ensureRoots_of_nonempty knownLater (List.cons_ne_nil _ _)] at targetRoots writes
  rw [knownLater] at targetRoots
  cases targetRoots
  rw [writes] at succeeded
  cases succeeded
  exact ⟨first, others, shape, soundLater.onShelf _ _ knownLater first List.mem_cons_self, rfl⟩

/-- **Nothing is ever lost, and groups are live views.** Between two moments in the life of a store
the roots of a group only grow at the end, for locations and for the modules of a location, what is
known stays known, and what a group could read it still can. A write shows in every group of its
location that was handed out before, until the same path of the same container is written again. -/
theorem nothing_is_lost_and_groups_are_live
    (reachable : store.Reachable) (run : ReflTransGen Moves store later) :
    (later.closed = false → ∀ location group,
      (store.getPackageGroup location).1 = .ok (some group) →
        ∃ grown, (later.getPackageGroup location).1 = .ok (some grown) ∧
          group.roots <+: grown.roots) ∧
    (later.closed = false → ∀ location group,
      (store.getModuleGroup location).1 = .ok (some group) →
        ∃ grown, (later.getModuleGroup location).1 = .ok (some grown) ∧
          ∀ moduleName part, group.module? moduleName = some part →
            ∃ grownPart, grown.module? moduleName = some grownPart ∧
              part.roots <+: grownPart.roots) ∧
    (∀ location, store.hasLocation location = true → later.hasLocation location = true) ∧
    (∀ (group : PackageGroup) path, (group.read store.shelf path).isSome = true →
      (group.read later.shelf path).isSome = true) ∧
    ∀ location group packageName relativeName content file written,
      (store.getPackageGroup location).1 = .ok (some group) →
      later.writeFile location packageName relativeName content = (.ok file, written) →
        ∃ first others, group.roots = first :: others ∧
          ∀ final, ReflTransGen (SparingMoves first file.path) written final →
            group.read final.shelf file.path = some content := by
  have grows : store.Grows later := Grows.run run
  refine ⟨?_, ?_, ?_, ?_, ?_⟩
  · exact fun isOpen location group found => grows.getPackageGroup isOpen found
  · exact fun isOpen location group found => grows.getModuleGroup isOpen found
  · exact fun location known => grows.hasLocation known
  · exact fun group path isHeld => grows.read isHeld
  · intro location group packageName relativeName content file written found succeeded
    obtain ⟨first, others, shape, onShelf, rfl⟩ :=
      writeFile_of_earlier_group reachable run found succeeded
    refine ⟨first, others, shape, fun final sparing => ?_⟩
    have isWritten : ((later.writeInto first file.path content).shelf.get first).read file.path =
        some content :=
      Shelf.read_get_write_self later.shelf file.path content onShelf
    exact PackageGroup.read_of_first shape ((read_of_sparing_run sparing).trans isWritten)

/-! ## A root that comes late -/

/-- One container is a root of the class output. -/
def earlyRoots : Store :=
  (((Store.new "17").place (.new "out")).perform (.addContainer (.standard .classOutput) 0)).2

/-- Another container has become a root as well, and holds a file. -/
def lateRoots : Store :=
  ((earlyRoots.place (.new "late")).perform (.addContainer (.standard .classOutput) 1)).2.writeInto
    1 "p/A.class" [1]

theorem earlyRoots_reachable : earlyRoots.Reachable := by
  have made := (Reachable.new "17").moves (.made _ "out")
  exact made.moves (.called _ (.addContainer (.standard .classOutput) 0) (by decide))

theorem earlyRoots_run : ReflTransGen Moves earlyRoots lateRoots := by
  have made : ReflTransGen Moves earlyRoots (earlyRoots.place (.new "late")) :=
    ReflTransGen.single (.made _ "late")
  have added := made.tail (.called _ (.addContainer (.standard .classOutput) 1) (by decide))
  exact added.tail (.written _ 1 "p/A.class" [1] (by decide))

/-- A write on the later store goes past its second root, which holds the same path, and the group
of the earlier store shows it even after the second root was written again. -/
theorem nothing_is_lost_and_groups_are_live_lateRoots :
    earlyRoots.Reachable ∧ ReflTransGen Moves earlyRoots lateRoots ∧ lateRoots.closed = false ∧
      (earlyRoots.getPackageGroup (.standard .classOutput)).1 =
        .ok (some ⟨.standard .classOutput, [0]⟩) ∧
      (∃ grown, (lateRoots.getPackageGroup (.standard .classOutput)).1 = .ok (some grown) ∧
        [0] <+: grown.roots) ∧
      ∃ file written,
        lateRoots.writeFile (.standard .classOutput) "p" "A.class" [2] = (.ok file, written) ∧
          (⟨.standard .classOutput, [0]⟩ : PackageGroup).read
            (written.writeInto 1 "p/A.class" [3]).shelf file.path = some [2] := by
  obtain ⟨groups, _, _, _, live⟩ :=
    nothing_is_lost_and_groups_are_live earlyRoots_reachable earlyRoots_run
  have isOpen : lateRoots.closed = false := rfl
  have output : Location.isOutput (.standard .classOutput) = true := rfl
  obtain ⟨first, _, roots, written⟩ := writeFile_eq isOpen output "p" "A.class" [2]
  refine ⟨earlyRoots_reachable, earlyRoots_run, rfl, rfl,
    groups rfl _ ⟨.standard .classOutput, [0]⟩ rfl, _, _, written, ?_⟩
  obtain ⟨oldFirst, _, shape, shows⟩ := live _ _ _ _ _ _ _ rfl written
  cases shape
  have onShelf : 1 < ((lateRoots.ensureRoots (.standard .classOutput)).writeInto first
      (Path.resolve "p" "A.class") [2]).shelf.size := by
    simp only [writeInto, Shelf.size_write]
    decide
  exact shows _ (ReflTransGen.single (.written _ 1 "p/A.class" [3] onShelf (Or.inl (by decide))))

end Store

end CompilationChecks
