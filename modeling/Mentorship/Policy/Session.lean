import Mentorship.Policy.Store

/-! Sessions: a document that comes, changes and goes, and a store that is asked for its policy,
step by step. -/

namespace Mentorship.Policy

inductive Step where
  | write (document : Document)
  | remove
  | clear
  | load
  | reload
  deriving DecidableEq, Repr

/-- What stands at the path of a store, and the store. -/
structure Session where
  source : Source
  store : Store

namespace Session

/-- A store that has read nothing, over a path where nothing stands. -/
def start (path : String) (mode : Mode) : Session :=
  ⟨.error .notFound, { path, mode }⟩

/-- What a session answers to a step, if the step asks for the policy, and the session after it. -/
def step (s : Session) : Step → Option (Except Error Loaded) × Session
  | .write document => (none, { s with source := .ok document })
  | .remove => (none, { s with source := .error .notFound })
  | .clear => (none, { s with store := s.store.clear })
  | .load =>
    let (answer, store) := s.store.load s.source
    (some answer, { s with store })
  | .reload =>
    let (answer, store) := s.store.reload s.source
    (some answer, { s with store })

/-- The answers to steps in turn, and the session after them. -/
def run (s : Session) : List Step → List (Option (Except Error Loaded)) × Session
  | [] => ([], s)
  | x :: xs =>
    let (answer, s) := s.step x
    let (answers, s) := s.run xs
    (answer :: answers, s)

theorem run_append (s : Session) (xs ys : List Step) :
    s.run (xs ++ ys) =
      ((s.run xs).1 ++ ((s.run xs).2.run ys).1, ((s.run xs).2.run ys).2) := by
  induction xs generalizing s with
  | nil => rfl
  | cons x xs ih => simp [run, ih]

end Session

end Mentorship.Policy
