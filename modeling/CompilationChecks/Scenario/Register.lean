/-!
Registers: names that were given to things, so that later steps can use them. A name may be given
again, which hides what it stood for. Whoever looks up a name that was never given panics and
spoils the register: from then on every use of it is a panic as well.
-/

namespace CompilationChecks.Scenario

/-- Things with names. -/
structure Register (α : Type) where
  /-- The names, latest first. -/
  entries : List (String × α)
  /-- Whether a name was looked up that was never given. -/
  spoiled : Bool
  deriving DecidableEq, Repr

namespace Register

variable {α : Type}

/-- Nothing has a name. -/
def empty : Register α :=
  ⟨[], false⟩

/-- The text with which a use of a spoiled register panics. -/
def spoiledText : String :=
  "called `Result::unwrap()` on an `Err` value: PoisonError \x7b .. \x7d"

/-- The text with which the use of a name panics that no thing of the given kind has. -/
def namelessText (kind : String) : String :=
  "bad input: " ++ kind ++ " id"

/-- The thing with a name, or the text of the panic. -/
def get (register : Register α) (kind name : String) : Except String α :=
  if register.spoiled then .error spoiledText
  else
    match register.entries.lookup name with
    | some found => .ok found
    | none => .error (namelessText kind)

/-- The register after a name was looked up in it. -/
def afterGet (register : Register α) (name : String) : Register α :=
  { register with spoiled := register.spoiled || (register.entries.lookup name).isNone }

/-- The register with one name more, or the text of the panic. -/
def put (register : Register α) (name : String) (value : α) : Except String (Register α) :=
  if register.spoiled then .error spoiledText
  else .ok { register with entries := (name, value) :: register.entries }

/-! ## Laws -/

/-- A name stands for what it was given to last. -/
theorem get_put
    {register after : Register α} {kind name : String} {value : α}
    (given : register.put name value = .ok after) :
    after.get kind name = .ok value := by
  unfold put at given
  split at given
  · cases given
  · rename_i fresh
    cases given
    simp only [get, fresh, Bool.false_eq_true, if_false, List.lookup_cons, BEq.rfl]

/-- A look-up that panics spoils the register, and no other one does. -/
theorem spoiled_afterGet_iff
    (register : Register α) (kind name : String) :
    (register.afterGet name).spoiled = true ↔
      ∃ text, register.get kind name = .error text := by
  unfold afterGet get
  cases spoiled : register.spoiled
  · cases found : register.entries.lookup name <;> simp
  · simp

end Register

end CompilationChecks.Scenario
