import MapBacked.Config
import MapBacked.Event

/-!
# What can go wrong

An operation of the library may fail, and it tells what happens on the way. `Attempt` is an answer
or a failure together with the events told until then: a failure keeps them and gives no answer.

A fault of the built-in template is the library's own and a failure apart from those of templates
that hosts write.
-/

namespace MapBacked

/-- Why there is no answer. Faults of templates are known by the text the engine reports. -/
inductive Failure where
  | config (e : ConfigError)
  | embeddedTemplate (message : String)
  | inapplicable (valueType : String)
  | template (cause : String)
  | templateUnreadable (path : Path) (cause : ReadError)
deriving DecidableEq, Inhabited

/-- What a host is told. -/
def Failure.message : Failure → String
  | .config e => e.message
  | .embeddedTemplate message => "embedded template failed to compile: " ++ message
  | .inapplicable valueType =>
    "'" ++ valueType ++ "' is not assignable to java.util.Map<java.lang.String, java.lang.Object>"
  | .template cause => "template error: " ++ cause
  | .templateUnreadable path cause =>
    "failed to read template '" ++ path.text ++ "': " ++ cause.message

/-- An answer or a failure, and what was told on the way. -/
abbrev Attempt := ExceptT Failure Logged

namespace Attempt

variable {α : Type}

def tell (e : Event) : Attempt Unit := ExceptT.lift (Logged.tell e)

/-- The answer of a step that tells nothing, its faults put among the failures. -/
def ofExcept {ε : Type} (failure : ε → Failure) (r : Except ε α) : Attempt α :=
  match r with
  | .ok a => pure a
  | .error e => throw (failure e)

def result (a : Attempt α) : Except Failure α := (ExceptT.run a).value

def events (a : Attempt α) : List Event := (ExceptT.run a).events

/-! ## How steps follow one another

A step that fails is the last one: its failure is the result, and nothing further is told.
-/

variable {β ε : Type}

@[simp] theorem result_pure (a : α) : result (pure a : Attempt α) = .ok a := rfl

@[simp] theorem events_pure (a : α) : events (pure a : Attempt α) = [] := rfl

@[simp] theorem result_throw (f : Failure) : result (throw f : Attempt α) = .error f := rfl

@[simp] theorem events_throw (f : Failure) : events (throw f : Attempt α) = [] := rfl

@[simp] theorem result_tell (e : Event) : (tell e).result = .ok () := rfl

@[simp] theorem events_tell (e : Event) : (tell e).events = [e] := rfl

@[simp] theorem result_lift (l : Logged α) : result (ExceptT.lift l) = .ok l.value := rfl

@[simp] theorem events_lift (l : Logged α) : events (ExceptT.lift l) = l.events := by
  simp [events, ExceptT.lift, ExceptT.run, ExceptT.mk, Functor.map]

/-- A step that cannot fail, taken among steps that can. -/
theorem result_liftM (l : Logged α) : result (liftM l) = .ok l.value := rfl

theorem events_liftM (l : Logged α) : events (liftM l) = l.events := events_lift l

theorem result_bind (a : Attempt α) (f : α → Attempt β) :
    (a >>= f).result = a.result.bind fun x => (f x).result := by
  rcases a with ⟨_ | _, _⟩ <;> rfl

theorem events_bind (a : Attempt α) (f : α → Attempt β) :
    (a >>= f).events = a.events ++ match a.result with
      | .ok x => (f x).events
      | .error _ => [] := by
  rcases a with ⟨_ | _, _⟩ <;> rfl

@[simp] theorem result_ofExcept (failure : ε → Failure) (r : Except ε α) :
    (ofExcept failure r).result = r.mapError failure := by
  cases r <;> rfl

@[simp] theorem events_ofExcept (failure : ε → Failure) (r : Except ε α) :
    (ofExcept failure r).events = [] := by
  cases r <;> rfl

end Attempt

end MapBacked
