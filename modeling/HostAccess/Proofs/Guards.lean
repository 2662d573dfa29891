import HostAccess.Guard
import HostAccess.Proofs.FileTree

/-!
# What guards put back

An act that runs under a guard runs in the world with the guarded file written, or with the variable
overridden, and what it leaves is changed in that one respect: the file is taken away as far as that
can be done, and the variable is what it was.
-/
namespace HostAccess

variable {ν α : Type}

@[simp] theorem mapError_ok {ε ε' : Type} (f : ε → ε') (a : α) :
    (Except.ok a).mapError f = .ok a := rfl

@[simp] theorem mapError_error {ε ε' : Type} (f : ε → ε') (e : ε) :
    (Except.error e : Except ε α).mapError f = .error (f e) := rfl

namespace Guard

def released (g : Guard) (t : FileTree) : Except Error Unit :=
  match t.remove g.path with
  | .ok _ => .ok ()
  | .error cause => .error (.io (some g.path) cause)

/-- What is written down of the removal of a file that nobody is told of. -/
def complaints (g : Guard) (t : FileTree) : Journal :=
  match t.remove g.path with
  | .ok _ => []
  | .error cause =>
    [⟨g.component.target, .warn, "cannot remove " ++ g.path.display ++ ": " ++ cause.message⟩]

theorem attempt_release (g : Guard) (w : World ν) :
    Act.attempt g.release w =
      (.done (g.released w.files), { w with files := w.files.discard g.path }) := by
  cases h : w.files.remove g.path with
  | ok u => simp [Act.attempt, release_eq, Act.removeFile, released, FileTree.discard, h]
  | error cause => simp [Act.attempt, release_eq, Act.removeFile, released, FileTree.discard, h]

theorem drop_world (g : Guard) (w : World ν) :
    (g.drop w).2 = { w with
      files := w.files.discard g.path
      journal := w.journal ++ g.complaints w.files } := by
  unfold complaints FileTree.discard
  rw [drop_apply]
  cases w.files.remove g.path with
  | ok u => simp
  | error cause => rfl

/-- Nothing is run if the file cannot be written. What could be written of it stays. -/
theorem around_of_error {component : Component} {path : Path} {contents : Bytes} {x : Act ν α}
    {w : World ν} {cause : SystemError} {u : FileTree}
    (h : w.files.write path contents = .error (cause, u)) :
    around component path contents x w = (.failed (.io (some path) cause), { w with files := u }) := by
  have hc : create component path contents w =
      (.failed (.io (some path) cause), { w with files := u }) := by
    simp [create, Act.writeFile, h]
  simp [around, hc]

/-- What becomes of an act under a guard: the file is removed, and it is told or written down if it
could not be. -/
def close (g : Guard) : Ending α → World ν → Ending (α × Except Error Unit) × World ν
  | .done a, w => (.done (a, g.released w.files), { w with files := w.files.discard g.path })
  | .failed e, w => (.failed e, { w with
      files := w.files.discard g.path
      journal := w.journal ++ g.complaints w.files })
  | .panicked p, w => (.panicked p, { w with
      files := w.files.discard g.path
      journal := w.journal ++ g.complaints w.files })

/-- An act that runs while a file stands finds the file written, and the file is removed after it. -/
theorem around_of_ok {component : Component} {path : Path} {contents : Bytes} {x : Act ν α}
    {w : World ν} {u : FileTree} (h : w.files.write path contents = .ok u) :
    around component path contents x w =
      close ⟨path, component⟩ (x { w with files := u }).1 (x { w with files := u }).2 := by
  have hc : create component path contents w = (.done ⟨path, component⟩, { w with files := u }) := by
    simp [create, Act.writeFile, h]
  unfold around
  simp only [hc]
  generalize x { w with files := u } = run
  obtain ⟨ending, v⟩ := run
  cases ending with
  | done a => simp [attempt_release, close]
  | failed e => simp [drop_world, close]
  | panicked p => simp [drop_world, close]

end Guard

namespace Override

/-- Nothing is run if no variable can be like that. -/
theorem around_of_not_accepts {name value : Bytes} {x : Act ν α} {w : World ν}
    (h : Environment.accepts name value = false) :
    around name value x w = (.panicked .unusableVariable, w) := by
  simp [around, begin, h]

/-- An act that runs while a variable is overridden finds it set, and the variable is put back after
it to what it was before. -/
theorem around_of_accepts {name value : Bytes} {x : Act ν α} {w : World ν}
    (h : Environment.accepts name value = true) :
    around name value x w =
      ((x { w with environment := w.environment.set name value }).1,
        { (x { w with environment := w.environment.set name value }).2 with
          environment := (x { w with environment := w.environment.set name value }).2.environment.restore
            name (w.environment.get? name) }) := by
  simp [around, begin, h, restore]

end Override

end HostAccess
