/-!
# Sessions with the outside

A computation that asks servers and the `svn` program as it goes.  A session is the tree of its
questions, so that what it asks and what it makes of the answers are one value; run against a world,
which may answer by everything asked before, it gives its result and the questions in order.
-/

namespace ReleaseGap

/-- A request to a server. -/
inductive Request where
  | get (url : String)
  | post (url body : String)
deriving DecidableEq, Repr

/-- What comes of a request. -/
inductive Reply where
  /-- The server could not be reached. -/
  | unreachable
  | answered (status : Nat) (body : List UInt8)
deriving DecidableEq, Repr

/-- A call of a program. -/
structure Call where
  command : String
  arguments : List String
deriving DecidableEq, Repr

/-- What comes of a call. -/
inductive Outcome where
  /-- There is no such program. -/
  | notFound
  | exited (code : Nat) (output errors : List UInt8)
deriving DecidableEq, Repr

/-- Anything asked of the outside. -/
inductive Question where
  | request (r : Request)
  | call (c : Call)
deriving DecidableEq, Repr

/-- The outside: what it answers, given what was asked before. -/
structure World where
  reply : List Question → Request → Reply
  outcome : List Question → Call → Outcome

/-- A world in which every question always gets the same answer. -/
def World.constant (reply : Request → Reply) (outcome : Call → Outcome) : World :=
  ⟨fun _ => reply, fun _ => outcome⟩

inductive Session (α : Type) where
  | done (result : α)
  | request (r : Request) (next : Reply → Session α)
  | call (c : Call) (next : Outcome → Session α)

namespace Session

variable {α β : Type}

/-- Goes on with the result of a session. -/
def bind : Session α → (α → Session β) → Session β
  | .done a, f => f a
  | .request r next, f => .request r fun answer => (next answer).bind f
  | .call c next, f => .call c fun answer => (next answer).bind f

instance : Monad Session where
  pure := .done
  bind := bind

/-- Sends a request. -/
def ask (r : Request) : Session Reply := .request r .done

/-- Calls a program. -/
def run (c : Call) : Session Outcome := .call c .done

/-- The result of a session in a world where `past` was asked before, and all that was asked then.
-/
def runFrom (world : World) (past : List Question) : Session α → α × List Question
  | .done a => (a, past)
  | .request r next => (next (world.reply past r)).runFrom world (past ++ [.request r])
  | .call c next => (next (world.outcome past c)).runFrom world (past ++ [.call c])

/-- The result of a session in a world, and what it asked. -/
def runIn (world : World) (s : Session α) : α × List Question := s.runFrom world []

@[simp] theorem pure_bind (a : α) (f : α → Session β) : (pure a >>= f) = f a := rfl

theorem bind_done (s : Session α) : s.bind .done = s := by
  induction s with
  | done a => rfl
  | request r next ih => simp only [bind, ih]
  | call c next ih => simp only [bind, ih]

theorem bind_assoc {γ : Type} (s : Session α) (f : α → Session β) (g : β → Session γ) :
    (s.bind f).bind g = s.bind fun a => (f a).bind g := by
  induction s with
  | done a => rfl
  | request r next ih => simp only [bind, ih]
  | call c next ih => simp only [bind, ih]

instance : LawfulMonad Session :=
  LawfulMonad.mk' _ (fun s => bind_done s) (fun _ _ => rfl) bind_assoc

@[simp] theorem runFrom_pure (world : World) (past : List Question) (a : α) :
    (pure a : Session α).runFrom world past = (a, past) := rfl

/-- A session that goes on runs the rest where the first part ends. -/
@[simp] theorem runFrom_bind (world : World) (past : List Question) (s : Session α)
    (f : α → Session β) :
    (s >>= f).runFrom world past
      = (f (s.runFrom world past).1).runFrom world (s.runFrom world past).2 := by
  change (s.bind f).runFrom world past = _
  induction s generalizing past with
  | done a => rfl
  | request r next ih => exact ih _ _
  | call c next ih => exact ih _ _

end Session

end ReleaseGap
