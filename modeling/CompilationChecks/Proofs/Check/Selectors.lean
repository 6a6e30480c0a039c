import CompilationChecks.Check.Chain
import CompilationChecks.Proofs.Delegate.Transparency
import CompilationChecks.Proofs.Store.Closing
import CompilationChecks.Proofs.Store.Getters

/-!
# From a compilation to a group

Three assertions lead from a compilation to the group of a location. Each of them checks the
category of the location before it asks the file manager, and the file manager checks it once more,
by other conditions and only if it is open. The two agree: whatever such an assertion lets through
is refused by the manager for one reason alone, that it was closed.
-/

namespace CompilationChecks

/-- A way from a compilation to the group of a location. -/
inductive Selector where
  | package
  | modules
  | output
  deriving DecidableEq, Repr

namespace Selector

/-- The assertion that goes this way. -/
def assertion : Selector → Location → Assertion
  | .package, location => .packageGroup location
  | .modules, location => .moduleGroup location
  | .output, location => .outputGroup location

/-- Whether the category of the location is right. -/
def admits : Selector → Location → Bool
  | .package, location => !location.isModuleOriented
  | .modules, location => location.isModuleOriented
  | .output, location => location.isOutput

/-- The complaint about a location of another category. -/
def refusal : Selector → Location → Complaint
  | .package, location => .moduleOriented location
  | .modules, location => .notModuleOriented location
  | .output, location => .notOutput location

/-- The sentence of this complaint. -/
def sentence : Selector → Location → String
  | .package, location => "Expected location " ++ location.name ++ " to not be module-oriented"
  | .modules, location => "Expected location " ++ location.name ++ " to be module-oriented"
  | .output, location => "Expected location " ++ location.name ++ " to be an output location"

/-- The getter of the file manager that is asked. -/
def getter : Selector → Location → Call
  | .package, location => .getPackageGroup location
  | .modules, location => .getModuleGroup location
  | .output, location => .getOutputGroup location

/-- The subject that an answer of the getter leads to. -/
def subject (selector : Selector) (location : Location) :
    (selector.getter location).Answer → Subject :=
  match selector with
  | .package => fun group => .package ⟨location, group⟩
  | .modules => fun group => .modules ⟨location, group⟩
  | .output => fun group => .output ⟨location, group⟩

/-- What becomes of a look-up: its answer leads to a subject, and any other ending to a complaint. -/
def verdict {α : Type} (location : Location) (lead : α → Subject) : Ending α → Verdict Subject
  | .returned answer => .ok (lead answer)
  | .failed failure => .error (.lookupFailed location failure)
  | .panicked text => .error (.abandoned text)

section Ways

variable (selector : Selector) (location : Location)

theorem onlyAsks_getter : (selector.getter location).onlyAsks = true := by
  cases selector <;> rfl

theorem mayFail_getter : (selector.getter location).mayFail = true := by
  cases selector <;> rfl

theorem getter_ne_close : selector.getter location ≠ .close := by
  cases selector <;> nofun

theorem message_refusal : (selector.refusal location).message = selector.sentence location := by
  cases selector <;> rfl

end Ways

/-- The complaint about a location that was looked up on a closed manager. -/
def closedComplaint (location : Location) : Complaint :=
  .lookupFailed location (.of .closed)

theorem message_closedComplaint (location : Location) :
    (closedComplaint location).message =
      "Failed to look up " ++ location.name ++ ": file manager has been closed" := by
  have shown : (Failure.of .closed).message = "file manager has been closed" :=
    -- Nothing was set aside, and the fault has this text.
    (rfl : _ = Fault.closed.message ++ "").trans String.append_empty
  have joined : ": " ++ (Failure.of .closed).message = ": file manager has been closed" := by
    rw [shown]
    decide
  calc
    (closedComplaint location).message =
        "Failed to look up " ++ location.name ++ ": " ++ (Failure.of .closed).message := rfl
    _ = "Failed to look up " ++ location.name ++ (": " ++ (Failure.of .closed).message) :=
        String.append_assoc
    _ = "Failed to look up " ++ location.name ++ ": file manager has been closed" := by
        rw [joined]

/-! ## Asking any manager -/

section Asking

variable {σ : Type} (manager : Manager σ) (shelf : σ → Shelf) (compilation : Compilation)
  {selector : Selector} {location : Location} (world : World σ)

/-- A location of another category is refused, and nobody is asked. -/
theorem apply_of_refused (refused : selector.admits location = false) :
    (selector.assertion location).apply manager shelf compilation .compilation world =
      (.error (selector.refusal location), world) := by
  cases selector
  case package =>
    have holdsModules : location.isModuleOriented = true := by
      simpa [admits] using refused
    simp only [assertion, Assertion.apply, Assertion.aboutCompilation,
      Check.Inquiry.packageGroup, if_pos holdsModules]
    rfl
  case modules =>
    have holdsFiles : ¬ location.isModuleOriented = true := by
      simpa [admits] using refused
    simp only [assertion, Assertion.apply, Assertion.aboutCompilation,
      Check.Inquiry.moduleGroup, if_neg holdsFiles]
    rfl
  case output =>
    have notOutput : ¬ location.isOutput = true := by
      simpa [admits] using refused
    simp only [assertion, Assertion.apply, Assertion.aboutCompilation,
      Check.Inquiry.outputGroup, if_neg notOutput]
    rfl

theorem leadingTo_lookUp
    {γ : Type} (lead : Check.Lookup γ → Subject) (ask : Activity σ (Option γ)) :
    Assertion.leadingTo lead (.lookUp location ask) world =
      (verdict location (fun group => lead ⟨location, group⟩) (ask world).1, (ask world).2) := by
  unfold Assertion.leadingTo Check.Inquiry.lookUp
  rcases ask world with ⟨_ | _ | _, _⟩ <;> rfl

/-- Any other location is asked for once, and the answer alone decides. -/
theorem apply_of_admitted (admitted : selector.admits location = true) :
    (selector.assertion location).apply manager shelf compilation .compilation world =
      (verdict location (selector.subject location) (manager (selector.getter location) world).1,
        (manager (selector.getter location) world).2) := by
  cases selector
  case package =>
    have holdsFiles : ¬ location.isModuleOriented = true := by
      simpa [admits] using admitted
    simp only [assertion, Assertion.apply, Assertion.aboutCompilation,
      Check.Inquiry.packageGroup, if_neg holdsFiles]
    exact leadingTo_lookUp world _ _
  case modules =>
    simp only [assertion, Assertion.apply, Assertion.aboutCompilation,
      Check.Inquiry.moduleGroup, if_pos (show location.isModuleOriented = true from admitted)]
    exact leadingTo_lookUp world _ _
  case output =>
    simp only [assertion, Assertion.apply, Assertion.aboutCompilation,
      Check.Inquiry.outputGroup, if_pos (show location.isOutput = true from admitted)]
    exact leadingTo_lookUp world _ _

end Asking

/-! ## Asking the manager in memory -/

/-- The manager in memory refuses nothing that was let through, unless it is closed. -/
theorem perform_getter_of_admitted
    {store : Store} {selector : Selector} {location : Location}
    (isOpen : store.closed = false) (admitted : selector.admits location = true) :
    ∃ group, store.perform (selector.getter location) = (.ok group, store) := by
  have unchanged : (store.perform (selector.getter location)).2 = store :=
    Store.perform_of_onlyAsks (selector.onlyAsks_getter location)
  suffices answered : ∃ group, (store.perform (selector.getter location)).1 = .ok group by
    obtain ⟨group, answered⟩ := answered
    exact ⟨group, Prod.ext answered unchanged⟩
  cases selector
  case package =>
    have holdsFiles : location.isModuleOriented = false := by
      simpa [admits] using admitted
    exact ⟨_, congrArg Prod.fst (Store.getPackageGroup_of_holds_files isOpen holdsFiles)⟩
  case modules =>
    cases location with
    | standard parent =>
        have takes : parent.takesModules = true :=
          Bool.or_eq_true_iff.2 (Or.inl admitted)
        exact ⟨_, congrArg Prod.fst (Store.getModuleGroup_of_takes isOpen takes)⟩
    | module parent moduleName => cases admitted
  case output =>
    obtain ⟨group, found, _⟩ := Store.getOutputGroup_assembles isOpen admitted
    exact ⟨group, congrArg Prod.fst found⟩

end Selector

namespace Store

theorem noted_settled : Store.manager.noted.Settled :=
  fun call world => passedOn_perform world.inner.1 call

theorem noted_agrees : Store.manager.noted.Agrees Store.manager.noted := by
  intro call world other same
  simp only [Manager.noted, manager, same, and_self]

/-- The manager in memory with a note of the calls that reach it, behind some delegates. -/
abbrev notedBehind (delegates : List Delegate) (surroundings : Log.Surroundings) :
    Manager (Store × List Call) :=
  Delegate.aroundAll delegates surroundings (fun state => state.1.shelf) Store.manager.noted

end Store

namespace Selector

section InMemory

variable (compilation : Compilation) (delegates : List Delegate)
  (surroundings : Log.Surroundings) {selector : Selector} {location : Location}
  (world : World (Store × List Call))

theorem apply_notedBehind_of_admitted (admitted : selector.admits location = true) :
    let done := (selector.assertion location).apply (Store.notedBehind delegates surroundings)
      (fun state => state.1.shelf) compilation .compilation world
    let answered := world.inner.1.perform (selector.getter location)
    done.1 = verdict location (selector.subject location) (.ofExcept answered.1) ∧
      done.2.inner = (answered.2, world.inner.2 ++ [selector.getter location]) := by
  obtain ⟨sameEnding, sameState⟩ :=
    Delegate.agrees_aroundAll surroundings (fun state : Store × List Call => state.1.shelf)
      delegates Store.noted_agrees Store.noted_settled (selector.getter location) world world rfl
  intro done answered
  have asked := apply_of_admitted (Store.notedBehind delegates surroundings)
    (fun state => state.1.shelf) compilation world admitted
  constructor
  · exact (congrArg Prod.fst asked).trans
      (congrArg (verdict location (selector.subject location)) sameEnding)
  · exact (congrArg (fun pair => pair.2.inner) asked).trans sameState

end InMemory

end Selector

/-- **The ways to groups refuse what the manager refuses.** Let a compilation stand on a manager in
memory, alone or behind any delegates, and let the manager note the calls that reach it. A location
of the wrong category is complained about in the words for this way, and this is so for no other
location; nothing is asked and nothing changes. For a location of the right category exactly the
getter of this way reaches the manager, whose state stays the same. Then there is a complaint
exactly if the manager is closed, namely that the look-up failed for this reason; and on an open
manager the way leads to the group that the getter answers with. There are no other complaints, so
the manager's own objections to a category are never heard. -/
theorem selectors_validate_as_the_manager_does
    (compilation : Compilation) (delegates : List Delegate) (surroundings : Log.Surroundings)
    (selector : Selector) (location : Location) (world : World (Store × List Call)) :
    let manager := Store.notedBehind delegates surroundings
    let store := world.inner.1
    let closedComplaint := Selector.closedComplaint location
    let done := (selector.assertion location).apply manager (fun state => state.1.shelf)
      compilation .compilation world
    ((done.1 = .error (selector.refusal location) ↔ selector.admits location = false) ∧
      (selector.refusal location).message = selector.sentence location ∧
      (selector.admits location = false → done.2 = world)) ∧
    (selector.admits location = true →
      done.2.inner = (store, world.inner.2 ++ [selector.getter location]) ∧
        ((∃ complaint, done.1 = .error complaint) ↔ store.closed = true) ∧
        (done.1 = .error closedComplaint ↔ store.closed = true) ∧
        (store.closed = false →
          ∃ group, store.perform (selector.getter location) = (.ok group, store) ∧
            done.1 = .ok (selector.subject location group))) ∧
    closedComplaint.message =
      "Failed to look up " ++ location.name ++ ": file manager has been closed" ∧
    ∀ complaint, done.1 = .error complaint →
      complaint = selector.refusal location ∨ complaint = closedComplaint := by
  intro manager store closedComplaint done
  have message : (selector.refusal location).message = selector.sentence location :=
    selector.message_refusal location
  have closedMessage := Selector.message_closedComplaint location
  cases admission : selector.admits location with
  | false =>
      have refused : done = (.error (selector.refusal location), world) :=
        Selector.apply_of_refused manager _ compilation world admission
      rw [refused]
      refine ⟨⟨by simp, message, fun _ => rfl⟩, nofun, closedMessage, ?_⟩
      rintro complaint ⟨⟩
      exact Or.inl rfl
  | true =>
      obtain ⟨ending, state⟩ := Selector.apply_notedBehind_of_admitted compilation delegates
        surroundings world admission
      have unchanged : (store.perform (selector.getter location)).2 = store :=
        Store.perform_of_onlyAsks (selector.onlyAsks_getter location)
      have reached : done.2.inner = (store, world.inner.2 ++ [selector.getter location]) :=
        state.trans (congrArg (·, _) unchanged)
      cases closedness : store.closed with
      | true =>
          have refused : done.1 = .error closedComplaint := by
            rw [ending, Store.perform_of_closed closedness (selector.mayFail_getter location)
              (selector.getter_ne_close location)]
            rfl
          have differs : closedComplaint ≠ selector.refusal location := by
            cases selector <;> nofun
          rw [refused]
          refine ⟨⟨by simp [differs], message, nofun⟩,
            fun _ => ⟨reached, by simp, by simp, nofun⟩, closedMessage, ?_⟩
          rintro complaint ⟨⟩
          exact Or.inr rfl
      | false =>
          obtain ⟨group, answered⟩ := Selector.perform_getter_of_admitted closedness admission
          have led : done.1 = .ok (selector.subject location group) := by
            rw [ending, answered]
            rfl
          rw [led]
          refine ⟨⟨by simp, message, nofun⟩,
            fun _ => ⟨reached, by simp, by simp, fun _ => ⟨group, answered, rfl⟩⟩,
            closedMessage, ?_⟩
          rintro complaint ⟨⟩

end CompilationChecks
