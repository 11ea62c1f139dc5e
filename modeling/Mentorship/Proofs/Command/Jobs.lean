import Mathlib.Logic.Basic
import Mentorship.Command.Job
import Mentorship.Proofs.Sequence

/-! Jobs one after another. A failure ends a sequence of jobs, so what was changed before it
stays and nothing else is changed. Some jobs only prepare: they pass on the files that they
found, and do not fail for want of writing. Others only write, and fail for nothing else. -/

namespace Mentorship.Command.Job

variable {α β : Type}

/-! ### Running -/

/-- What comes of a job on some files. -/
def resultOn (a : Job α) (t : FileTree) : Except Failure α :=
  (a.runOn t).1

theorem resultOn_ofExcept_bind (x : Except Failure α) (f : α → Job β) (t : FileTree) :
    (ofExcept x >>= f).resultOn t = x >>= fun a => (f a).resultOn t := by
  cases x <;> rfl

theorem runOn_change (f : FileTree → Option FileFault × FileTree) (t : FileTree) :
    (change f).runOn t =
      match f t with
      | (none, t) => (.ok (), t)
      | (some fault, t) => (.error (.file fault), t) := rfl

theorem runOn_bind_of_ok {a : Job α} {t t' : FileTree} {x : α} (h : a.runOn t = (.ok x, t'))
    (f : α → Job β) : (a >>= f).runOn t = (f x).runOn t' := by
  change ExceptT.bindCont f (a.runOn t).1 (a.runOn t).2 = _
  rw [h]
  rfl

/-- A failure is passed on, with the files as they are then. -/
theorem runOn_bind_of_error {a : Job α} {t t' : FileTree} {e : Failure}
    (h : a.runOn t = (.error e, t')) (f : α → Job β) :
    (a >>= f).runOn t = (.error e, t') := by
  change ExceptT.bindCont f (a.runOn t).1 (a.runOn t).2 = _
  rw [h]
  rfl

/-! ### Preparation -/

/-- A job that leaves the files as they are, whether it fails or not, and that does not fail for
want of writing. -/
structure Prepares (a : Job α) : Prop where
  runOn_snd : ∀ t, (a.runOn t).2 = t
  ne_file : ∀ t fault, a.resultOn t ≠ .error (.file fault)

namespace Prepares

theorem pure (x : α) : (Pure.pure x : Job α).Prepares :=
  ⟨fun _ => rfl, nofun⟩

theorem read (path : String) : (Job.read path).Prepares :=
  ⟨fun _ => rfl, nofun⟩

theorem ofExcept {x : Except Failure α} (h : ∀ fault, x ≠ .error (.file fault)) :
    (Job.ofExcept x).Prepares :=
  ⟨fun _ => rfl, fun _ => h⟩

/-- Failures of one kind, other than that of writing. -/
theorem ofMapError {ε : Type} {cause : ε → Failure} (h : ∀ e fault, cause e ≠ .file fault)
    (x : Except ε α) : (Job.ofExcept (x.mapError cause)).Prepares := by
  refine ofExcept fun fault hfault => ?_
  cases x with
  | ok x => cases hfault
  | error e => exact h e fault (Except.error.inj hfault)

variable {a : Job α}

theorem runOn_eq (ha : a.Prepares) (t : FileTree) : a.runOn t = (a.resultOn t, t) :=
  Prod.ext rfl (ha.runOn_snd t)

theorem runOn_bind_of_ok (ha : a.Prepares) {t : FileTree} {x : α} (hx : a.resultOn t = .ok x)
    (f : α → Job β) : (a >>= f).runOn t = (f x).runOn t :=
  Job.runOn_bind_of_ok (hx ▸ ha.runOn_eq t) f

theorem runOn_bind_of_error (ha : a.Prepares) {t : FileTree} {e : Failure}
    (he : a.resultOn t = .error e) (f : α → Job β) : (a >>= f).runOn t = (.error e, t) :=
  Job.runOn_bind_of_error (he ▸ ha.runOn_eq t) f

/-- What comes of two preparations on some files. -/
theorem resultOn_bind (ha : a.Prepares) (f : α → Job β) (t : FileTree) :
    (a >>= f).resultOn t = a.resultOn t >>= fun x => (f x).resultOn t := by
  cases hx : a.resultOn t with
  | ok x => exact congrArg Prod.fst (ha.runOn_bind_of_ok hx f)
  | error e => exact congrArg Prod.fst (ha.runOn_bind_of_error hx f)

theorem bind (ha : a.Prepares) {f : α → Job β} (hf : ∀ x, (f x).Prepares) :
    (a >>= f).Prepares := by
  constructor
  · intro t
    cases hx : a.resultOn t with
    | ok x => rw [ha.runOn_bind_of_ok hx, (hf x).runOn_snd]
    | error e => rw [ha.runOn_bind_of_error hx]
  · intro t fault hfault
    rw [ha.resultOn_bind] at hfault
    cases hx : a.resultOn t with
    | ok x => rw [hx] at hfault; exact (hf x).ne_file t fault hfault
    | error e => rw [hx] at hfault; cases hfault; exact ha.ne_file t fault hx

end Prepares

/-! ### Writing -/

/-- A job that fails only where files or directories cannot be written. -/
structure Writes (a : Job α) : Prop where
  eq_file : ∀ t f, a.resultOn t = .error f → ∃ fault, f = .file fault

namespace Writes

theorem pure (x : α) : (Pure.pure x : Job α).Writes :=
  ⟨fun _ _ h => by cases h⟩

theorem change (f : FileTree → Option FileFault × FileTree) : (Job.change f).Writes := by
  refine ⟨fun t e he => ?_⟩
  rw [resultOn, runOn_change] at he
  split at he
  · cases he
  · rename_i fault t' _
    cases he
    exact ⟨fault, rfl⟩

theorem bind {a : Job α} (ha : a.Writes) {f : α → Job β} (hf : ∀ x, (f x).Writes) :
    (a >>= f).Writes := by
  refine ⟨fun t e he => ?_⟩
  rcases h : a.runOn t with ⟨x | x, t'⟩
  · rw [resultOn, runOn_bind_of_error h] at he
    cases he
    exact ha.eq_file t _ (congrArg Prod.fst h)
  · rw [resultOn, runOn_bind_of_ok h] at he
    exact (hf x).eq_file t' e he

end Writes

/-! ### Preparation before writing -/

/-- Two preparations and writing after them, where what makes the preparations fail is known. If
they succeed, there is no other failure than that of writing; if not, nothing is written, and it is
another failure. -/
theorem Prepares.runOn_cases {γ : Type} {a : Job α} (ha : a.Prepares) {b : α → Job β}
    (hb : ∀ x, (b x).Prepares) {f : α → β → Job γ} (hf : ∀ x y, (f x y).Writes) {t : FileTree}
    {refused : Prop}
    (h : (∃ x y, a.resultOn t = .ok x ∧ (b x).resultOn t = .ok y) ↔ ¬refused) :
    (¬refused ∧
      ∀ e, (a >>= fun x => b x >>= f x).resultOn t = .error e → ∃ fault, e = .file fault) ∨
    (refused ∧ ∃ e, (∀ fault, e ≠ .file fault) ∧
      (a >>= fun x => b x >>= f x).runOn t = (.error e, t)) := by
  cases hx : a.resultOn t with
  | error e =>
    refine .inr ⟨h.not_left.mp ?_, e, fun fault he => ha.ne_file t fault (he ▸ hx), ?_⟩
    · rintro ⟨x, y, hx', -⟩
      cases hx.symm.trans hx'
    · exact ha.runOn_bind_of_error hx _
  | ok x =>
    cases hy : (b x).resultOn t with
    | error e =>
      refine .inr ⟨h.not_left.mp ?_, e, fun fault he => (hb x).ne_file t fault (he ▸ hy), ?_⟩
      · rintro ⟨x', y, hx', hy'⟩
        cases hx.symm.trans hx'
        cases hy.symm.trans hy'
      · rw [ha.runOn_bind_of_ok hx]
        exact (hb x).runOn_bind_of_error hy _
    | ok y =>
      refine .inl ⟨h.mp ⟨x, y, hx, hy⟩, fun e he => (hf x y).eq_file t e ?_⟩
      rw [← he, resultOn, resultOn, ha.runOn_bind_of_ok hx, (hb x).runOn_bind_of_ok hy]

end Mentorship.Command.Job
