import HostAccess.World

/-!
# Guards

What a run changes for a while is put back when the while is over, however it ends. A guarded file is
removed: its guard either releases it, which reports a failure, or is dropped, which only writes the
failure down. An overridden variable gets back the value, or the absence, that it had before.
-/
namespace HostAccess

/-- A file that lives as long as its guard, and the component that answers for it. -/
structure Guard where
  path : Path
  component : Component
  deriving DecidableEq, Repr

namespace Guard

variable {ν α : Type}

def create (component : Component) (path : Path) (contents : Bytes) : Act ν Guard := do
  Act.writeFile path contents
  return ⟨path, component⟩

/-- What the end of a guard does: the file is removed unless that has been tried already. A failure is
only written down. -/
def expire (g : Guard) (removed : Bool) : Act ν Unit := fun w =>
  if removed then (.done (), w)
  else match w.files.remove g.path with
    | .ok files => (.done (), { w with files })
    | .error cause =>
      Act.note g.component .warn ("cannot remove " ++ g.path.display ++ ": " ++ cause.message) w

/-- Removes the file. This is the end of the guard, which has nothing left to remove. -/
def release (g : Guard) : Act ν Unit := fun w =>
  let (ending, w) := Act.removeFile g.path w
  (ending, (g.expire true w).2)

def drop (g : Guard) : Act ν Unit := g.expire false

theorem release_eq (g : Guard) : (g.release : Act ν Unit) = Act.removeFile g.path := rfl

theorem drop_apply (g : Guard) (w : World ν) :
    g.drop w = match w.files.remove g.path with
      | .ok files => (.done (), { w with files })
      | .error cause =>
        Act.note g.component .warn ("cannot remove " ++ g.path.display ++ ": " ++ cause.message) w := rfl

/-- Runs an act while a file stands. If the act ends with a value, the file is released and the
outcome of that is told along with the value; otherwise the guard is dropped. -/
def around (component : Component) (path : Path) (contents : Bytes) (x : Act ν α) :
    Act ν (α × Except Error Unit) := fun w =>
  match create component path contents w with
  | (.failed e, w) => (.failed e, w)
  | (.panicked p, w) => (.panicked p, w)
  | (.done guard, w) =>
    match x w with
    | (.done a, w) => ((do return (a, ← Act.attempt guard.release)) : Act ν _) w
    | (.failed e, w) => (.failed e, (guard.drop w).2)
    | (.panicked p, w) => (.panicked p, (guard.drop w).2)

end Guard

structure Override where
  name : Bytes
  previous : Option Bytes
  deriving DecidableEq, Repr

namespace Override

variable {ν α : Type}

/-- Overrides a variable. Nothing changes if no variable can be like that. -/
def begin (name value : Bytes) : Act ν Override := fun w =>
  if Environment.accepts name value then
    (.done ⟨name, w.environment.get? name⟩,
      { w with environment := w.environment.set name value })
  else (.panicked .unusableVariable, w)

def restore (o : Override) (w : World ν) : World ν :=
  { w with environment := w.environment.restore o.name o.previous }

def around (name value : Bytes) (x : Act ν α) : Act ν α := fun w =>
  match begin name value w with
  | (.failed e, w) => (.failed e, w)
  | (.panicked p, w) => (.panicked p, w)
  | (.done override, w) =>
    let (ending, w) := x w
    (ending, override.restore w)

end Override

end HostAccess
