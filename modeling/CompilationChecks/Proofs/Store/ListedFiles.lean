import CompilationChecks.Proofs.Listing
import CompilationChecks.Proofs.Store.Reachable

/-!
# Listed files and files that are looked up

A listing compares paths with the normal form of the directory of a package, a look-up joins the
directory as it is spelled with a name and takes the normal form of the whole. Both come down to the
segments of the directory and those behind them, so a file that is looked up by a name is listed,
and a listed file is looked up by what its path adds to the directory.
-/

namespace CompilationChecks

namespace Container

/-! ## Starts of paths -/

section Directory

variable {directory : String}

theorem directoryStart_of_top (top : Path.segments directory = []) :
    directoryStart directory = [] := by
  have empty : Path.normalize directory = "" := Path.normalize_eq_empty_iff.2 top
  simp [directoryStart, empty]

theorem directoryStart_of_named (named : Path.segments directory ≠ []) :
    directoryStart directory = (Path.normalize directory ++ "/").toList := by
  have directoryText : Path.normalize directory ≠ "" := fun empty =>
    named (Path.normalize_eq_empty_iff.1 empty)
  simp [directoryStart, directoryText]

/-- The start of the directory puts its segments before those of what stands behind it. -/
theorem segments_of_starts
    {path rest : String} (text : path.toList = directoryStart directory ++ rest.toList) :
    Path.segments path = Path.segments directory ++ Path.segments rest := by
  by_cases top : Path.segments directory = []
  · rw [directoryStart_of_top top, List.nil_append] at text
    rw [String.toList_inj.1 text, top, List.nil_append]
  · rw [directoryStart_of_named top, ← String.toList_append] at text
    rw [String.toList_inj.1 text, Path.segments_append_slash, Path.segments_normalize]

end Directory

variable {packageName relativeName path : String}

theorem isListed_resolve
    {recurse : Bool} (named : Path.normalize relativeName ≠ "")
    (deep : recurse = true ∨ '/' ∉ (Path.normalize relativeName).toList) :
    isListed (directoryStart (Path.packageDirectory packageName)) recurse
        (Path.normalize (Path.resolve packageName relativeName)) = true := by
  have nameParts : Path.segments relativeName ≠ [] := fun noParts =>
    named (Path.normalize_eq_empty_iff.2 noParts)
  by_cases top : Path.segments (Path.packageDirectory packageName) = []
  · have sameText :
        Path.normalize (Path.resolve packageName relativeName) = Path.normalize relativeName := by
      rw [Path.normalize, Path.segments_resolve, top, List.nil_append, Path.normalize]
    rw [directoryStart_of_top top, sameText]
    simpa [isListed] using deep
  · have parts :
        Path.segments (Path.normalize (Path.resolve packageName relativeName)) =
          Path.segments (Path.packageDirectory packageName) ++ Path.segments relativeName := by
      rw [Path.segments_normalize, Path.segments_resolve]
    have single :
        '/' ∉ (Path.normalize relativeName).toList ↔
          (Path.segments relativeName).length = 1 :=
      Path.slash_notMem_join_iff (fun _ member => Path.isSegment_of_mem_segments member)
        nameParts
    apply (isListed_iff_of_segments (Path.normalize_normalize _) top parts nameParts recurse).2
    exact deep.imp_right single.1

theorem exists_remainder_of_isListed
    {start : List Char} (listed : isListed start true path = true) :
    ∃ rest : String, path.toList = start ++ rest.toList := by
  rw [isListed, Bool.and_eq_true, List.isPrefixOf_iff_prefix] at listed
  obtain ⟨rest, text⟩ := listed.1
  exact ⟨String.ofList rest, by rw [String.toList_ofList, text]⟩

/-- A normal form is what its part behind the directory of a package resolves to. -/
theorem normalize_resolve_of_starts
    (normal : Path.normalize path = path)
    (text : path.toList =
      directoryStart (Path.packageDirectory packageName) ++ relativeName.toList) :
    Path.normalize (Path.resolve packageName relativeName) = path := by
  calc
    Path.normalize (Path.resolve packageName relativeName) = Path.join (Path.segments path) := by
      rw [Path.normalize, Path.segments_resolve, segments_of_starts text]
    _ = path := normal

end Container

namespace PackageGroup

variable {group : PackageGroup} {shelf : Shelf} {packageName : String}

/-! ## One group -/

theorem file?_congr
    {path other : String} (same : Path.normalize path = Path.normalize other) :
    group.file? shelf path = group.file? shelf other := by
  simp only [file?, same]

@[simp]
theorem path_entry (container : Container) (path : String) :
    (group.entry container path).path = path := rfl

theorem list_eq_filter (recurse : Bool) :
    group.list shelf packageName [] recurse =
      (group.list shelf "" [] true).filter fun file =>
        Container.isListed (Container.directoryStart (Path.packageDirectory packageName)) recurse
          file.path := by
  have allKinds : group.list shelf packageName [] recurse =
      (group.containers shelf).flatMap fun container =>
        (container.list (Path.packageDirectory packageName) recurse).map
          (group.entry container) := by
    unfold list
    simp only [List.isEmpty_nil, Bool.true_or]
    exact List.filter_eq_self.2 fun _ _ => rfl
  rw [allKinds, list_top, List.filter_flatMap]
  apply List.flatMap_congr
  intro container _
  rw [Container.list, List.filter_map]
  simp only [Function.comp_def, path_entry]

theorem normalize_path_of_mem_list
    (tidy : shelf.Tidy) {recurse : Bool} {file : FileRef}
    (member : file ∈ group.list shelf packageName [] recurse) :
    Path.normalize file.path = file.path := by
  rw [list_eq_filter, list_top] at member
  obtain ⟨container, isRoot, inContainer⟩ := List.mem_flatMap.1 (List.mem_filter.1 member).1
  obtain ⟨id, _, rfl⟩ := List.mem_map.1 isRoot
  obtain ⟨path, isStored, rfl⟩ := List.mem_map.1 inContainer
  exact tidy id path isStored

theorem mem_list_of_file?
    {relativeName : String} {recurse : Bool} {file : FileRef}
    (named : Path.normalize relativeName ≠ "")
    (deep : recurse = true ∨ '/' ∉ (Path.normalize relativeName).toList)
    (found : group.file? shelf (Path.resolve packageName relativeName) = some file) :
    file ∈ group.list shelf packageName [] recurse := by
  rw [file?_eq_find?_list_top] at found
  have isPath : file.path = Path.normalize (Path.resolve packageName relativeName) := by
    simpa using List.find?_some found
  rw [list_eq_filter]
  apply List.mem_filter.2
  refine ⟨List.mem_of_find?_eq_some found, ?_⟩
  rw [isPath]
  exact Container.isListed_resolve named deep

/-- If a path is in a listing, all entries of the group with this path are. -/
theorem find?_list_eq_file?
    (tidy : shelf.Tidy) {recurse : Bool} {file : FileRef}
    (member : file ∈ group.list shelf packageName [] recurse) :
    ((group.list shelf packageName [] recurse).find? fun listed => listed.path = file.path) =
      group.file? shelf file.path := by
  have normal := normalize_path_of_mem_list tidy member
  rw [list_eq_filter] at member ⊢
  have isListed := (List.mem_filter.1 member).2
  have samePredicate :
      (fun listed : FileRef =>
          decide (Container.isListed
              (Container.directoryStart (Path.packageDirectory packageName)) recurse
              listed.path = true ∧ decide (listed.path = file.path) = true)) =
        fun listed => decide (listed.path = file.path) := by
    funext listed
    by_cases samePath : listed.path = file.path
    · simp [samePath, isListed]
    · simp [samePath]
  rw [file?_eq_find?_list_top, normal, List.find?_filter, samePredicate]

theorem exists_file?_of_mem_list
    (tidy : shelf.Tidy) {file : FileRef}
    (member : file ∈ group.list shelf packageName [] true) :
    ∃ (relativeName : String) (found : FileRef),
      file.path.toList =
          Container.directoryStart (Path.packageDirectory packageName) ++ relativeName.toList ∧
        group.file? shelf (Path.resolve packageName relativeName) = some found ∧
        found.path = file.path ∧
        ((group.list shelf packageName [] true).find? fun listed => listed.path = file.path) =
          some found := by
  have normal := normalize_path_of_mem_list tidy member
  have first := find?_list_eq_file? tidy member
  have isThere :
      ((group.list shelf packageName [] true).find? fun listed =>
        listed.path = file.path).isSome = true :=
    List.find?_isSome.2 ⟨file, member, decide_eq_true rfl⟩
  obtain ⟨found, isFound⟩ := Option.isSome_iff_exists.1 isThere
  rw [list_eq_filter] at member
  obtain ⟨relativeName, text⟩ :=
    Container.exists_remainder_of_isListed (List.mem_filter.1 member).2
  have resolved := Container.normalize_resolve_of_starts normal text
  refine ⟨relativeName, found, text, ?_, ?_, isFound⟩
  · -- The directory is joined as it is spelled, so the two paths only have one normal form.
    rw [file?_congr (resolved.trans normal.symm), ← first]
    exact isFound
  · simpa using List.find?_some isFound

end PackageGroup

namespace Store

variable {store : Store} {location : Location}

section Asking

variable (isOpen : store.closed = false) (holdsFiles : location.isModuleOriented = false)

include isOpen holdsFiles

theorem list_eq (packageName : String) (kinds : List FileKind) (recurse : Bool) :
    store.list location packageName kinds recurse =
      store.answer
        (((store.packageGroup? location).map fun group =>
          group.list store.shelf packageName kinds recurse).getD []) := by
  simp [list, isOpen, holdsFiles]

theorem getFileForInput_eq (packageName relativeName : String) :
    store.getFileForInput location packageName relativeName =
      store.answer
        ((store.packageGroup? location).bind fun group =>
          group.file? store.shelf (Path.resolve packageName relativeName)) := by
  simp [getFileForInput, isOpen, holdsFiles]

end Asking

/-- **Listings and look-ups agree.** On a reachable open store, take any location that holds files
and any spelling of a package. A file that is looked up by a name that says something is in the
listing of everything below the package, and in that of the package alone if the name is one
segment. Of every listed file the path is the start of the directory and a name behind it, and the
look-up by that name gives the first entry of the listing with this path. -/
theorem listings_agree_with_lookups
    (reachable : store.Reachable) (isOpen : store.closed = false)
    (holdsFiles : location.isModuleOriented = false) (packageName : String) :
    ∃ all direct,
      store.list location packageName [] true = store.answer all ∧
        store.list location packageName [] false = store.answer direct ∧
        (∀ relativeName file, Path.normalize relativeName ≠ "" →
          store.getFileForInput location packageName relativeName = store.answer (some file) →
            file ∈ all ∧ ('/' ∉ (Path.normalize relativeName).toList → file ∈ direct)) ∧
        ∀ file ∈ all, ∃ (relativeName : String) (found : FileRef),
          file.path.toList =
              Container.directoryStart (Path.packageDirectory packageName) ++
                relativeName.toList ∧
            store.getFileForInput location packageName relativeName =
              store.answer (some found) ∧
            found.path = file.path ∧
            (all.find? fun listed => listed.path = file.path) = some found := by
  have tidy := reachable.tidy
  refine ⟨_, _, list_eq isOpen holdsFiles packageName [] true,
    list_eq isOpen holdsFiles packageName [] false, ?_, ?_⟩
  · intro relativeName file named lookedUp
    rw [getFileForInput_eq isOpen holdsFiles] at lookedUp
    have found := Except.ok.inj (congrArg Prod.fst lookedUp)
    cases known : store.packageGroup? location with
    | none =>
        rw [known] at found
        cases found
    | some group =>
        rw [known] at found
        refine ⟨PackageGroup.mem_list_of_file? named (Or.inl rfl) found, ?_⟩
        intro single
        exact PackageGroup.mem_list_of_file? named (Or.inr single) found
  · intro file member
    cases known : store.packageGroup? location with
    | none =>
        rw [known] at member
        cases member
    | some group =>
        rw [known] at member
        obtain ⟨relativeName, found, text, lookedUp, samePath, first⟩ :=
          PackageGroup.exists_file?_of_mem_list tidy member
        refine ⟨relativeName, found, text, ?_, samePath, first⟩
        rw [getFileForInput_eq isOpen holdsFiles, known]
        exact congrArg store.answer lookedUp

/-! ## A shadowed file -/

/-- Two roots of the class path hold a file under the same path, and the second holds one more. -/
def shadowedRoots : Store :=
  let made := ((Store.new "17").place (.new "first")).place (.new "second")
  let first := (made.perform (.addContainer (.standard .classPath) 0)).2
  let both := (first.perform (.addContainer (.standard .classPath) 1)).2
  let filled := both.writeInto 0 "a/B.class" [1]
  (filled.writeInto 1 "a\\./B.class" [2]).writeInto 1 "a/b/C.class" [3]

theorem shadowedRoots_reachable : shadowedRoots.Reachable := by
  have made := ((Reachable.new "17").moves (.made _ "first")).moves (.made _ "second")
  have first := made.moves (.called _ (.addContainer (.standard .classPath) 0) (by decide))
  have both := first.moves (.called _ (.addContainer (.standard .classPath) 1) (by decide))
  have filled := both.moves (.written _ 0 "a/B.class" [1] (by decide))
  have shadowed := filled.moves (.written _ 1 "a\\./B.class" [2] (by decide))
  exact shadowed.moves (.written _ 1 "a/b/C.class" [3] (by decide))

/-- In a package whose name has a slash and an empty part, the file that is looked up further down
is listed, and the file of the second root is looked up as that of the first. -/
theorem listings_agree_with_lookups_shadowedRoots :
    shadowedRoots.Reachable ∧ shadowedRoots.closed = false ∧
      (Location.standard .classPath).isModuleOriented = false ∧
      ∃ all direct,
        shadowedRoots.list (.standard .classPath) "/a." [] true = shadowedRoots.answer all ∧
          shadowedRoots.list (.standard .classPath) "/a." [] false =
            shadowedRoots.answer direct ∧
          .locate (.standard .classPath) "second" "a/b/C.class" ∈ all ∧
          ∃ (relativeName : String) (found : FileRef),
            "a/B.class".toList = "a/".toList ++ relativeName.toList ∧
              shadowedRoots.getFileForInput (.standard .classPath) "/a." relativeName =
                shadowedRoots.answer (some found) ∧
              found.path = "a/B.class" ∧
              (all.find? fun listed => listed.path = "a/B.class") = some found := by
  obtain ⟨all, direct, listed, listedDirectly, lookedUp, looksUp⟩ :=
    listings_agree_with_lookups shadowedRoots_reachable rfl
      (rfl : (Location.standard .classPath).isModuleOriented = false) "/a."
  have entries :
      shadowedRoots.list (.standard .classPath) "/a." [] true =
        shadowedRoots.answer
          [.locate (.standard .classPath) "first" "a/B.class",
            .locate (.standard .classPath) "second" "a/B.class",
            .locate (.standard .classPath) "second" "a/b/C.class"] := rfl
  have isAll := Except.ok.inj (congrArg Prod.fst (listed.symm.trans entries))
  have shadowed : .locate (.standard .classPath) "second" "a/B.class" ∈ all := by
    rw [isAll]
    simp
  have further :
      shadowedRoots.getFileForInput (.standard .classPath) "/a." "b//C.class" =
        shadowedRoots.answer (some (.locate (.standard .classPath) "second" "a/b/C.class")) := rfl
  refine ⟨shadowedRoots_reachable, rfl, rfl, all, direct, listed, listedDirectly, ?_, ?_⟩
  · exact (lookedUp "b//C.class" _ (by decide) further).1
  · exact looksUp _ shadowed

end Store

end CompilationChecks
