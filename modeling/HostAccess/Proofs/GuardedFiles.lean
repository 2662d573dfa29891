import HostAccess.Proofs.Contents
import HostAccess.Proofs.Operations
import Mathlib.Data.List.Infix
import Mathlib.Data.List.InsertIdx

/-!
# Guarded files live as long as their guards

A run creates and fetches files and gives them up again, in any order. As long as no two guards that
are held are about one file, the file of each holds what was written or received for it, a file is gone
when its last guard is, and every other place is as it was at first. What cannot be created or fetched
changes no file. This is so where nothing hinders the guards: no link and no further name of a file is
at their paths, what is written is taken as a whole, and what is there can be removed.

What is meant to stand where is kept in a ledger: from what operations are asked for, what comes from
the server, and how each operation ends, without a look at the files.
-/
namespace HostAccess

variable {ν : Type}

/-! ## Fetching -/

/-- What is received as a file: the whole body of an answer of success. -/
def Http.Reception.received? : Http.Reception → Option Bytes
  | .answered response => if Http.isSuccess response.status then response.body else none
  | .unreached | .dropped => none

namespace Certificate

variable (network : Network ν) (url : String) (path : Path) (w : World ν)

/-- The world after the exchange of a fetch. No file has changed. -/
def exchanged : World ν :=
  network.sent (request url)
    (w.noted [⟨Component.rpc.target, .debug, "fetching trust certificate from " ++ url⟩])

theorem exchanged_files : (exchanged network url w).files = w.files := rfl

/-- What has been received is put under guard. -/
theorem fetchFrom_of_received {contents : Bytes}
    (received : (network.reception (request url) w).received? = some contents) :
    fetchFrom network url path w = Guard.create .rpc path contents (exchanged network url w) := by
  unfold fetchFrom
  simp only [Act.bind_apply, Act.note_apply, Network.answer_eq, Network.reception_noted]
  cases answer : network.reception (request url) w with
  | unreached => simp [answer, Http.Reception.received?] at received
  | dropped => simp [answer, Http.Reception.received?] at received
  | answered response =>
    obtain ⟨success, body⟩ : Http.isSuccess response.status = true ∧ response.body = some contents := by
      simpa [answer, Http.Reception.received?] using received
    simp only [Http.Reception.taken, success, Bool.not_true, Bool.false_eq_true, if_false,
      Act.bind_apply, Http.Response.whole, body]
    rfl

/-- If nothing has been received, then that is all. -/
theorem fetchFrom_of_missing (missing : (network.reception (request url) w).received? = none) :
    ∃ e, fetchFrom network url path w = (.failed e, exchanged network url w) := by
  unfold fetchFrom
  simp only [Act.bind_apply, Act.note_apply, Network.answer_eq, Network.reception_noted]
  cases answer : network.reception (request url) w with
  | unreached => exact ⟨_, rfl⟩
  | dropped => exact ⟨_, rfl⟩
  | answered response =>
    cases success : Http.isSuccess response.status with
    | false =>
      simp only [Http.Reception.taken, success, Bool.not_false, if_true]
      exact ⟨_, rfl⟩
    | true =>
      have body : response.body = none := by
        simpa [answer, Http.Reception.received?, success] using missing
      simp only [Http.Reception.taken, success, Bool.not_true, Bool.false_eq_true, if_false,
        Act.bind_apply, Http.Response.whole, body]
      exact ⟨_, rfl⟩

end Certificate

/-! ## Operations on guards -/

namespace Operation

/-- Whether an operation is to put a file under guard. -/
def acquires : Operation → Bool
  | .create .. | .fetch _ | .fetchFrom .. => true
  | .load _ | .loadEnvironment | .parse _ | .connect _ | .session _ | .object _ | .fixture .. | .teardown _
  | .dropFixtures _ | .release _ | .dropGuard _ | .ask _ | .leftovers => false

/-- The guard that an operation gives up, by its place among those that are held. -/
def givesUp? : Operation → Option Nat
  | .release index | .dropGuard index => some index
  | .load _ | .loadEnvironment | .parse _ | .connect _ | .session _ | .object _ | .fixture .. | .teardown _
  | .dropFixtures _ | .fetch _ | .fetchFrom .. | .create .. | .ask _ | .leftovers => none

/-- Whether an operation is about guards and nothing else. -/
def tendsGuards (op : Operation) : Bool := op.acquires || op.givesUp?.isSome

/-- The guard that an operation is to give, and what is to stand in the file: what is written, or what
is received from the server if anything is. -/
def offer? (r : Rig ν) (w : World ν) : Operation → Option (Guard × Bytes)
  | .create path contents => some (⟨path, .pam⟩, contents)
  | .fetch path => fetched ("http://" ++ r.settings.server.hostname ++ Certificate.address) path
  | .fetchFrom url path => fetched url path
  | .load _ | .loadEnvironment | .parse _ | .connect _ | .session _ | .object _ | .fixture .. | .teardown _
  | .dropFixtures _ | .release _ | .dropGuard _ | .ask _ | .leftovers => none
where
  fetched (url : String) (path : Path) : Option (Guard × Bytes) :=
    (r.network.reception (Certificate.request url) w).received?.map fun contents =>
      (⟨path, .rpc⟩, contents)

/-- Holds the guard that an act gives. -/
def holding (held : Held) (x : Act ν Guard) : Act ν (Answer × Held) := do
  let guard ← x
  return (.nothing, { held with guards := held.guards ++ [guard] })

theorem act_fetchFrom (r : Rig ν) (held : Held) (url : String) (path : Path) (w : World ν) :
    ∃ v : World ν, v.files = w.files ∧
      match offer?.fetched r w url path with
      | some (g, contents) => act r held (.fetchFrom url path) w =
          holding held (Guard.create g.component g.path contents) v
      | none => ∃ e, act r held (.fetchFrom url path) w = (.failed e, v) := by
  refine ⟨_, Certificate.exchanged_files r.network url w, ?_⟩
  have acts : act r held (.fetchFrom url path) =
      holding held (Certificate.fetchFrom r.network url path) := rfl
  unfold offer?.fetched
  rw [acts]
  cases received : (r.network.reception (Certificate.request url) w).received? with
  | some contents =>
    have fetched := Certificate.fetchFrom_of_received r.network url path w received
    simp only [Option.map_some, holding, Act.bind_apply, fetched]
  | none =>
    obtain ⟨e, failed⟩ := Certificate.fetchFrom_of_missing r.network url path w received
    exact ⟨e, by simp only [holding, Act.bind_apply, failed]⟩

/-- An operation that is to put a file under guard creates a file with what there is for it, or fails
if there is nothing. No file changes before that. -/
theorem act_of_acquires (r : Rig ν) (held : Held) {op : Operation} (acquires : op.acquires = true)
    (w : World ν) :
    ∃ v : World ν, v.files = w.files ∧
      match op.offer? r w with
      | some (g, contents) =>
        op.act r held w = holding held (Guard.create g.component g.path contents) v
      | none => ∃ e, op.act r held w = (.failed e, v) := by
  cases op with
  | create path contents => exact ⟨w, rfl, rfl⟩
  | fetch path => exact act_fetchFrom r held _ path w
  | fetchFrom url path => exact act_fetchFrom r held url path w
  | _ => cases acquires

/-- **What puts a file under guard does so or changes nothing**, if what there is for the file is taken
as a whole. It gives the guard if there is something to put into the file and the file can be written.
Otherwise it fails, no guard is held for it, and no file has changed. -/
theorem perform_of_acquires (r : Rig ν) (s : Stage ν) {op : Operation} (acquires : op.acquires = true)
    (whole : ∀ g contents, op.offer? r s.world = some (g, contents) →
      s.world.files.Whole g.path contents) :
    (∃ g contents u, op.offer? r s.world = some (g, contents) ∧
      s.world.files.write g.path contents = .ok u ∧
      (op.perform r s).1 = .done .nothing ∧
      (op.perform r s).2.held = { s.held with guards := s.held.guards ++ [g] } ∧
      (op.perform r s).2.world.files = u) ∨
    ((∀ g contents u, op.offer? r s.world = some (g, contents) →
        s.world.files.write g.path contents ≠ .ok u) ∧
      ∃ e, (op.perform r s).1 = .failed e ∧ (op.perform r s).2.held = s.held ∧
        (op.perform r s).2.world.files = s.world.files) := by
  obtain ⟨v, files, acts⟩ := act_of_acquires r s.held acquires s.world
  have spent : op.spent s.held = s.held := by
    cases op with
    | create | fetch | fetchFrom => rfl
    | _ => cases acquires
  cases offer : op.offer? r s.world with
  | none =>
    rw [offer] at acts
    obtain ⟨e, failed⟩ := acts
    refine .inr ⟨by simp, e, ?_⟩
    simp only [perform, failed, spent, files, and_self]
  | some given =>
    obtain ⟨g, contents⟩ := given
    rw [offer] at acts
    cases written : s.world.files.write g.path contents with
    | ok u =>
      refine .inl ⟨g, contents, u, rfl, written, ?_⟩
      simp only [perform, acts, holding, Guard.create, Act.bind_apply, Act.writeFile, files, written,
        Act.pure_apply, and_self]
    | error failure =>
      obtain ⟨cause, u⟩ := failure
      obtain rfl := (whole g contents offer).of_error written
      have unwritten : ∀ g' contents' u, some (g, contents) = some (g', contents') →
          s.world.files.write g'.path contents' ≠ .ok u := by
        rintro _ _ u ⟨⟩ other
        rw [written] at other
        cases other
      refine .inr ⟨unwritten, .io (some g.path) cause, ?_⟩
      simp only [perform, acts, holding, Guard.create, Act.bind_apply, Act.writeFile, files, written,
        spent, and_self]

/-- What gives up a guard takes away its file, if that can be removed, and holds the guard no longer.
Nothing is written down. -/
theorem perform_of_givesUp (r : Rig ν) (s : Stage ν) {op : Operation} {index : Nat} {g : Guard}
    {u : FileTree} (givesUp : op.givesUp? = some index) (guarded : s.held.guards[index]? = some g)
    (removed : s.world.files.remove g.path = .ok u) :
    op.perform r s = (.done .nothing,
      ⟨{ s.held with guards := s.held.guards.eraseIdx index }, { s.world with files := u }⟩) := by
  cases op with
  | release index =>
    cases givesUp
    simp only [perform, act, withGuard, guarded, Act.bind_apply, Guard.release_eq, Act.removeFile, removed,
      Act.pure_apply]
  | dropGuard index =>
    cases givesUp
    simp only [perform, act, withGuard, guarded, Act.bind_apply, Guard.drop_apply, removed,
      Act.pure_apply]
  | _ => cases givesUp

theorem perform_of_absent (r : Rig ν) (s : Stage ν) {op : Operation} {index : Nat}
    (givesUp : op.givesUp? = some index) (absent : s.held.guards[index]? = none) :
    op.perform r s = (.done .nothing, s) := by
  cases op with
  | release index =>
    cases givesUp
    simp only [perform, act, withGuard, absent, Act.pure_apply]
  | dropGuard index =>
    cases givesUp
    simp only [perform, act, withGuard, absent, Act.pure_apply]
  | _ => cases givesUp

end Operation

/-! ## What is meant to stand -/

/-- The guards that are held, each with what was written or received for it, and the path of every
guard that there has been. -/
structure Ledger where
  standing : List (Guard × Bytes)
  guarded : List Path
  deriving DecidableEq

namespace Ledger

def blank : Ledger := ⟨[], []⟩

def guards (ledger : Ledger) : List Guard := ledger.standing.map Prod.fst

def add (ledger : Ledger) (g : Guard) (contents : Bytes) : Ledger :=
  ⟨ledger.standing ++ [(g, contents)], g.path :: ledger.guarded⟩

def strike (ledger : Ledger) (index : Nat) : Ledger :=
  { ledger with standing := ledger.standing.eraseIdx index }

@[simp] theorem guards_add (ledger : Ledger) (g : Guard) (contents : Bytes) :
    (ledger.add g contents).guards = ledger.guards ++ [g] := by
  simp [guards, add]

@[simp] theorem guards_strike (ledger : Ledger) (index : Nat) :
    (ledger.strike index).guards = ledger.guards.eraseIdx index :=
  (List.eraseIdx_map ..).symm

/-- Enters an operation: a guard that is given up is struck out, and one that has been put up, which
shows in how the operation ends, is added with what was offered for it. -/
def enter (r : Rig ν) (s : Stage ν) (op : Operation) (ledger : Ledger) : Ledger :=
  match op.givesUp? with
  | some index => ledger.strike index
  | none =>
    match (op.perform r s).1, op.offer? r s.world with
    | .done _, some (g, contents) => ledger.add g contents
    | _, _ => ledger

end Ledger

/-- The ledger of a run. -/
def Rig.record (r : Rig ν) : List Operation → Stage ν → Ledger → Ledger
  | [], _, ledger => ledger
  | op :: rest, s, ledger => r.record rest (op.perform r s).2 (ledger.enter r s op)

/-- No two guards are about one file. -/
def Guard.Apart (t : FileTree) (guards : List Guard) : Prop :=
  guards.Pairwise fun g k => t.target? g.path ≠ t.target? k.path

instance (t : FileTree) (guards : List Guard) : Decidable (Guard.Apart t guards) :=
  inferInstanceAs (Decidable (guards.Pairwise _))

/-- The guards that are left when one is given up are not about its file. -/
theorem Guard.Apart.of_eraseIdx {t : FileTree} {guards : List Guard} {index : Nat} {g k : Guard}
    (apart : Guard.Apart t guards) (guarded : guards[index]? = some g)
    (left : k ∈ guards.eraseIdx index) : t.target? k.path ≠ t.target? g.path := by
  obtain ⟨j, ne, at_⟩ := List.mem_eraseIdx_iff_getElem?.mp left
  obtain ⟨hi, rfl⟩ := List.getElem?_eq_some_iff.mp guarded
  obtain ⟨hj, rfl⟩ := List.getElem?_eq_some_iff.mp at_
  have pairwise := List.pairwise_iff_getElem.mp apart
  obtain lt | gt := Nat.lt_or_gt_of_ne ne
  · exact pairwise j index hj hi lt
  · exact (pairwise index j hi hj gt).symm

/-- Nothing hinders a guard at its path: a file of one name is there or may be, what is to be put into
it is taken as a whole, and the system does not refuse to remove it. -/
structure Guard.Unhindered (t : FileTree) (g : Guard) (contents : Bytes) : Prop where
  free : t.IsFree g.path
  whole : t.Whole g.path contents
  removable : ¬ t.Refuses g.path

/-! ## What an operation keeps -/

/-- The files are as they were at the start but for those that the ledger tells of, and these are as
it tells. Which file a path is about is what it was at the start. -/
structure Ledger.Kept (start : FileTree) (ledger : Ledger) (s : Stage ν) : Prop where
  ground : FileTree.SameGround start s.world.files
  serials : ∀ m serial, s.world.files.serialAt? m = some serial → start.serialAt? m = some serial
  settled : ∀ p ∈ ledger.guarded, start.IsFree p ∧ ¬ start.Refuses p
  held : s.held.guards = ledger.guards
  stands : ∀ g contents, (g, contents) ∈ ledger.standing → g.path ∈ ledger.guarded ∧
    ∃ l, start.target? g.path = some l ∧ s.world.files.contentsAt? l = some contents
  gone : ∀ p ∈ ledger.guarded, ∃ l, start.target? p = some l ∧
    ((∀ g ∈ ledger.guards, start.target? g.path ≠ some l) → s.world.files.entryAt? l = none)
  untouched : ∀ l, (∀ p ∈ ledger.guarded, start.target? p ≠ some l) →
    s.world.files.entryAt? l = start.entryAt? l

namespace Ledger.Kept

variable {start : FileTree} {ledger : Ledger} {s : Stage ν}

theorem blank (w : World ν) : Ledger.blank.Kept w.files ⟨Held.nothing, w⟩ where
  ground := .refl _
  serials := fun _ _ => id
  settled := by simp [Ledger.blank]
  held := rfl
  stands := by simp [Ledger.blank]
  gone := by simp [Ledger.blank]
  untouched := fun _ _ => rfl

/-- What happens at one location leaves the file of a guard that is not about it. -/
theorem still_stands (kept : ledger.Kept start s) {v : Stage ν} {m : Location}
    (elsewhere : ∀ l, l ≠ m → v.world.files.entryAt? l = s.world.files.entryAt? l) {k : Guard}
    {contents : Bytes} (entered : (k, contents) ∈ ledger.standing)
    (beside : start.target? k.path ≠ some m) :
    k.path ∈ ledger.guarded ∧
      ∃ l, start.target? k.path = some l ∧ v.world.files.contentsAt? l = some contents := by
  obtain ⟨known, l, hl, stands⟩ := kept.stands k contents entered
  have ne : l ≠ m := fun same => beside (same ▸ hl)
  exact ⟨known, l, hl, (FileTree.contentsAt?_congr (elsewhere l ne)).trans stands⟩

/-- A file that is written for a new guard stands beside those of the others. -/
theorem put_up (kept : ledger.Kept start s) {g : Guard} {contents : Bytes} {v : Stage ν}
    (free : start.IsFree g.path) (removable : ¬ start.Refuses g.path)
    (written : s.world.files.write g.path contents = .ok v.world.files)
    (held : v.held.guards = s.held.guards ++ [g]) (apart : Guard.Apart start v.held.guards) :
    (ledger.add g contents).Kept start v := by
  have freeNow := free.mono kept.ground kept.serials
  obtain ⟨m, takes, -⟩ := FileTree.write_eq_ok_iff.mp written
  obtain ⟨aim, -⟩ := freeNow.aim?_iff.mp takes.aim
  have target : start.target? g.path = some m := kept.ground.target? g.path ▸ aim
  have beside : ∀ k ∈ ledger.guards, start.target? k.path ≠ some m := by
    rw [held, kept.held] at apart
    exact fun k hk => target ▸ (List.pairwise_append.mp apart).2.2 k hk g (by simp)
  have elsewhere : ∀ l, l ≠ m → v.world.files.entryAt? l = s.world.files.entryAt? l := fun l ne =>
    FileTree.entryAt?_write written fun reached =>
      ne (Option.some.inj ((freeNow.reaches_iff.mp reached).1.symm.trans aim))
  constructor
  case ground => exact kept.ground.trans (FileTree.sameGround_write written)
  case serials =>
    intro n serial hn
    rw [FileTree.eq_left_of_ok written] at hn
    exact kept.serials n serial (FileTree.serialAt?_of_left_write hn)
  case settled => exact List.forall_mem_cons.mpr ⟨⟨free, removable⟩, kept.settled⟩
  case held => rw [held, kept.held, guards_add]
  case stands =>
    intro k bytes entered
    obtain old | new := List.mem_append.mp entered
    · obtain ⟨known, stands⟩ :=
        kept.still_stands elsewhere old (beside k (List.mem_map_of_mem old))
      exact ⟨List.mem_cons_of_mem _ known, stands⟩
    · obtain ⟨rfl, rfl⟩ : k = g ∧ bytes = contents := by simpa using new
      refine ⟨List.mem_cons_self, m, target, ?_⟩
      rw [FileTree.contentsAt?_write freeNow written, if_pos aim]
  case gone =>
    intro p known
    obtain rfl | known := List.mem_cons.mp known
    · refine ⟨m, target, fun given_up => ?_⟩
      exact absurd target (given_up g (by simp))
    · obtain ⟨l, hl, gone⟩ := kept.gone p known
      refine ⟨l, hl, fun given_up => ?_⟩
      have ne : l ≠ m := by
        rintro rfl
        exact given_up g (by simp) target
      rw [elsewhere l ne]
      exact gone fun k hk => given_up k (by simp [hk])
  case untouched =>
    intro l never
    have ne : l ≠ m := fun same => never g.path List.mem_cons_self (same ▸ target)
    rw [elsewhere l ne]
    exact kept.untouched l fun p known => never p (List.mem_cons_of_mem _ known)

/-- The file of a guard that is held can be removed. -/
theorem removes (kept : ledger.Kept start s) {g : Guard} (guarded : g ∈ s.held.guards) :
    ∃ l contents, start.target? g.path = some l ∧ g.path ∈ ledger.guarded ∧
      s.world.files.contentsAt? l = some contents ∧
      s.world.files.remove g.path = .ok (s.world.files.erase l) := by
  rw [kept.held] at guarded
  obtain ⟨⟨_, contents⟩, entered, rfl⟩ := List.mem_map.mp guarded
  obtain ⟨known, l, hl, stands⟩ := kept.stands _ _ entered
  exact ⟨l, contents, hl, known, stands, FileTree.remove_of_contentsAt?
    ((kept.ground.target? _).trans hl) stands fun refused =>
      (kept.settled _ known).2 (kept.ground.refuses.mp refused)⟩

/-- When a guard is given up, its file is gone and the others stand. -/
theorem take_down (kept : ledger.Kept start s) {g : Guard} {index : Nat} {v : Stage ν}
    (guarded : s.held.guards[index]? = some g)
    (removed : s.world.files.remove g.path = .ok v.world.files)
    (held : v.held.guards = s.held.guards.eraseIdx index)
    (apart : Guard.Apart start s.held.guards) :
    (ledger.strike index).Kept start v := by
  obtain ⟨m, contents, target, known, stands, erased⟩ :=
    kept.removes (List.mem_of_getElem? guarded)
  obtain files : v.world.files = s.world.files.erase m := Except.ok.inj (removed.symm.trans erased)
  have notRoot : m ≠ [] := FileTree.ne_nil_of_target? target
  rw [kept.held] at guarded held apart
  have beside : ∀ k ∈ (ledger.strike index).guards, start.target? k.path ≠ some m :=
    fun k hk => target ▸ apart.of_eraseIdx guarded (ledger.guards_strike index ▸ hk)
  have elsewhere : ∀ l, l ≠ m → v.world.files.entryAt? l = s.world.files.entryAt? l := fun l ne => by
    rw [files, FileTree.entryAt?_erase notRoot, if_neg ne]
  constructor
  case ground =>
    exact files ▸ kept.ground.trans (FileTree.sameGround_erase_of_contentsAt? stands)
  case serials =>
    intro n serial hn
    rw [← FileTree.discard_of_remove removed] at hn
    exact kept.serials n serial (FileTree.serialAt?_of_discard hn)
  case settled => exact kept.settled
  case held => rw [held, guards_strike]
  case stands =>
    intro k bytes entered
    exact kept.still_stands elsewhere (List.mem_of_mem_eraseIdx entered)
      (beside k (List.mem_map_of_mem entered))
  case gone =>
    intro p known
    obtain ⟨l, hl, gone⟩ := kept.gone p known
    refine ⟨l, hl, fun given_up => ?_⟩
    by_cases same : l = m
    · rw [files, FileTree.entryAt?_erase notRoot, if_pos same]
    · rw [elsewhere l same]
      refine gone fun k hk => ?_
      obtain ⟨j, at_⟩ := List.mem_iff_getElem?.mp hk
      by_cases here : j = index
      · -- The guard that is given up is about another file.
        rw [here, guarded] at at_
        cases at_
        exact fun hl => same (Option.some.inj (hl.symm.trans target))
      · rw [guards_strike] at given_up
        exact given_up k (List.mem_eraseIdx_iff_getElem?.mpr ⟨j, here, at_⟩)
  case untouched =>
    intro l never
    have ne : l ≠ m := fun same => never g.path known (same ▸ target)
    rw [elsewhere l ne]
    exact kept.untouched l never

theorem of_same (kept : ledger.Kept start s) {v : Stage ν} (held : v.held.guards = s.held.guards)
    (files : v.world.files = s.world.files) : ledger.Kept start v where
  ground := files ▸ kept.ground
  serials := files ▸ kept.serials
  settled := kept.settled
  held := held.trans kept.held
  stands := files ▸ kept.stands
  gone := files ▸ kept.gone
  untouched := files ▸ kept.untouched

/-- An operation on guards keeps the files as the ledger has them, if nothing hinders the guard that it
may give, and no two guards are about one file before it or after it. -/
theorem step (kept : ledger.Kept start s) (r : Rig ν) {op : Operation} (tends : op.tendsGuards = true)
    (unhindered : ∀ g contents, op.offer? r s.world = some (g, contents) →
      Guard.Unhindered start g contents)
    (before : Guard.Apart start s.held.guards)
    (after : Guard.Apart start (op.perform r s).2.held.guards) :
    (ledger.enter r s op).Kept start (op.perform r s).2 := by
  cases givesUp : op.givesUp? with
  | some index =>
    simp only [enter, givesUp]
    cases guarded : s.held.guards[index]? with
    | some g =>
      obtain ⟨l, -, -, -, -, removed⟩ := kept.removes (List.mem_of_getElem? guarded)
      rw [Operation.perform_of_givesUp r s givesUp guarded removed]
      exact kept.take_down guarded removed rfl before
    | none =>
      rw [Operation.perform_of_absent r s givesUp guarded]
      have short : ledger.standing.length ≤ index := by
        simpa [kept.held, guards] using guarded
      rwa [strike, List.eraseIdx_of_length_le short]
  | none =>
    have acquires : op.acquires = true := by simpa [Operation.tendsGuards, givesUp] using tends
    obtain ⟨g, contents, u, offer, written, done, held, files⟩ | ⟨-, e, failed, held, files⟩ :=
      Operation.perform_of_acquires r s acquires fun g contents offer =>
        kept.ground.whole (unhindered g contents offer).whole
    · simp only [enter, givesUp, done, offer]
      have plain := unhindered g contents offer
      exact kept.put_up plain.free plain.removable (files ▸ written) (by rw [held]) after
    · simp only [enter, givesUp, failed]
      exact kept.of_same (by rw [held]) files

/-- The files are as the ledger has them throughout a run. -/
theorem run (kept : ledger.Kept start s) (r : Rig ν) {ops : List Operation}
    (tends : ∀ op ∈ ops, op.tendsGuards = true)
    (unhindered : ∀ earlier op, earlier ++ [op] <+: ops → ∀ g contents,
      op.offer? r (r.run earlier s).world = some (g, contents) → Guard.Unhindered start g contents)
    (apart : ∀ earlier, earlier <+: ops → Guard.Apart start (r.run earlier s).held.guards) :
    (r.record ops s ledger).Kept start (r.run ops s) := by
  induction ops generalizing s ledger with
  | nil => exact kept
  | cons op rest ih =>
    have stepped : (ledger.enter r s op).Kept start (op.perform r s).2 :=
      kept.step r (tends op List.mem_cons_self) (unhindered [] op ⟨rest, rfl⟩)
        (apart [] List.nil_prefix) (apart [op] ⟨rest, rfl⟩)
    refine ih stepped (fun o ho => tends o (List.mem_cons_of_mem _ ho)) (fun earlier o pre => ?_)
      fun earlier pre => ?_
    · exact unhindered (op :: earlier) o (List.cons_prefix_cons.mpr ⟨rfl, pre⟩)
    · exact apart (op :: earlier) (List.cons_prefix_cons.mpr ⟨rfl, pre⟩)

end Ledger.Kept

/-- **Guarded files live as long as their guards.** At any point of a run of operations on guards, no
two of which are ever about one file and none of which is hindered: the file of each guard that is held
holds what was written or received for it; a path is gone once no guard for its file is left; and all
else is as it was at the start. What puts a file under guard does so or fails without a trace in the
files. Giving up a guard that is held succeeds, and of a removal nothing is written down. -/
theorem guarded_files_stand (r : Rig ν) (w : World ν) (ops : List Operation)
    (tends : ∀ op ∈ ops, op.tendsGuards = true)
    (unhindered : ∀ earlier op, earlier ++ [op] <+: ops → ∀ g contents,
      op.offer? r (r.run earlier ⟨Held.nothing, w⟩).world = some (g, contents) →
        Guard.Unhindered w.files g contents)
    (apart : ∀ earlier, earlier <+: ops →
      Guard.Apart w.files (r.run earlier ⟨Held.nothing, w⟩).held.guards) :
    let s := r.run ops ⟨Held.nothing, w⟩
    let ledger := r.record ops ⟨Held.nothing, w⟩ Ledger.blank
    s.held.guards = ledger.guards ∧
      (∀ g contents, (g, contents) ∈ ledger.standing → s.world.files.read g.path = .ok contents) ∧
      (∀ p ∈ ledger.guarded, (∀ g ∈ s.held.guards, w.files.target? g.path ≠ w.files.target? p) →
        s.world.files.has p = false) ∧
      (FileTree.SameGround w.files s.world.files ∧
        ∀ l, (∀ p ∈ ledger.guarded, w.files.target? p ≠ some l) →
          s.world.files.entryAt? l = w.files.entryAt? l) ∧
      (∀ op : Operation, op.acquires = true →
        (∀ g contents, op.offer? r s.world = some (g, contents) → w.files.Whole g.path contents) →
        (∃ g contents u, op.offer? r s.world = some (g, contents) ∧
          s.world.files.write g.path contents = .ok u ∧
          (op.perform r s).1 = .done .nothing ∧
          (op.perform r s).2.held = { s.held with guards := s.held.guards ++ [g] } ∧
          (op.perform r s).2.world.files = u) ∨
        ((∀ g contents u, op.offer? r s.world = some (g, contents) →
            s.world.files.write g.path contents ≠ .ok u) ∧
          ∃ e, (op.perform r s).1 = .failed e ∧ (op.perform r s).2.held = s.held ∧
            (op.perform r s).2.world.files = s.world.files)) ∧
      (∀ (op : Operation) (index : Nat) (g : Guard), op.givesUp? = some index →
        s.held.guards[index]? = some g →
        ∃ u, s.world.files.remove g.path = .ok u ∧
          op.perform r s = (.done .nothing, ⟨{ s.held with guards := s.held.guards.eraseIdx index },
            { s.world with files := u }⟩)) := by
  intro s ledger
  have kept : ledger.Kept w.files s := (Ledger.Kept.blank w).run r tends unhindered apart
  refine ⟨kept.held, ?_, ?_, ⟨kept.ground, kept.untouched⟩, fun op acquires whole =>
    op.perform_of_acquires r s acquires fun g contents offer =>
      kept.ground.whole (whole g contents offer), ?_⟩
  · intro g contents entered
    obtain ⟨known, l, target, stands⟩ := kept.stands g contents entered
    have free := (kept.settled _ known).1.mono kept.ground kept.serials
    obtain ⟨mode, entry⟩ := FileTree.contentsAt?_eq_some_iff.mp stands
    refine FileTree.read_of_aim? (free.aim?_iff.mpr ⟨(kept.ground.target? _).trans target, ?_⟩) entry
    simp [entry]
  · intro p known given_up
    obtain ⟨l, target, gone⟩ := kept.gone p known
    refine FileTree.has_of_nothing ((kept.ground.target? p).trans target) (gone fun g hg => ?_)
    exact target ▸ given_up g (kept.held ▸ hg)
  · intro op index g givesUp guarded
    obtain ⟨l, -, -, -, -, removed⟩ := kept.removes (List.mem_of_getElem? guarded)
    exact ⟨_, removed, Operation.perform_of_givesUp r s givesUp guarded removed⟩

/-- A rig whose server answers every request with one file. -/
def Rig.serving (contents : Bytes) : Rig Unit where
  settings := .forTests []
  network := fun _ outside => (.answered ⟨200, [], some contents⟩, outside)
  checker := fun _ _ w => (.code 0, w)

/-- Nothing hinders a guard in a world without entries and bars. -/
theorem Guard.unhindered_blank (outside : ν) (g : Guard) (contents : Bytes) :
    Guard.Unhindered (World.blank outside).files g contents where
  free := fun l _ => FileTree.free_of_all rfl l
  whole := FileTree.whole_of_unbarred rfl g.path contents
  removable := FileTree.not_refuses_of_unbarred rfl g.path

/-- A file is created and the server's is fetched; when the first is released, the second stands. -/
theorem guarded_files_stand_fetched :
    let r := Rig.serving [0x2D]
    let w := World.blank ()
    let ops := [.create [0x61] [0x31], .fetchFrom "http://server/ca.crt" [0x62], .release 0]
    (∀ op ∈ ops, op.tendsGuards = true) ∧
      (∀ earlier op, earlier ++ [op] <+: ops → ∀ g contents,
        op.offer? r (r.run earlier ⟨Held.nothing, w⟩).world = some (g, contents) →
          Guard.Unhindered w.files g contents) ∧
      (∀ earlier, earlier <+: ops →
        Guard.Apart w.files (r.run earlier ⟨Held.nothing, w⟩).held.guards) ∧
      (r.run ops ⟨Held.nothing, w⟩).held.guards = [⟨[0x62], .rpc⟩] ∧
      (r.run ops ⟨Held.nothing, w⟩).world.files.read [0x62] = .ok [0x2D] ∧
      (r.run ops ⟨Held.nothing, w⟩).world.files.has [0x61] = false := by
  intro r w ops
  have tends : ∀ op ∈ ops, op.tendsGuards = true := by decide
  have unhindered : ∀ earlier op, earlier ++ [op] <+: ops → ∀ g contents,
      op.offer? r (r.run earlier ⟨Held.nothing, w⟩).world = some (g, contents) →
        Guard.Unhindered w.files g contents :=
    fun _ _ _ g contents _ => Guard.unhindered_blank () g contents
  have apart : ∀ earlier, earlier <+: ops →
      Guard.Apart w.files (r.run earlier ⟨Held.nothing, w⟩).held.guards := by
    have each : ∀ earlier ∈ ops.inits,
        Guard.Apart w.files (r.run earlier ⟨Held.nothing, w⟩).held.guards := by decide +kernel
    exact fun earlier pre => each earlier ((List.mem_inits ..).mpr pre)
  have known : r.record ops ⟨Held.nothing, w⟩ Ledger.blank =
      ⟨[(⟨[0x62], .rpc⟩, [0x2D])], [[0x62], [0x61]]⟩ := by decide +kernel
  obtain ⟨held, stands, gone, -⟩ := guarded_files_stand r w ops tends unhindered apart
  rw [known] at held stands gone
  have absent := gone [0x61] (by simp)
  rw [held] at absent
  exact ⟨tends, unhindered, apart, held, stands ⟨[0x62], .rpc⟩ [0x2D] List.mem_cons_self,
    absent (by decide +kernel)⟩

/-- A world with these entries and bars. -/
def World.holding (entries : List (Location × Entry)) (bars : List (Location × Bars)) : World Unit :=
  { World.blank () with files := ⟨entries, [], bars⟩ }

/-- A link stands at `a`, and leads to a file. -/
def World.leading : World Unit :=
  .holding [([[0x61]], .link [0x62]), ([[0x62]], .file [0x31] .plain)] []

/-- Nothing can be removed from `a`. -/
def World.fixed : World Unit := .holding [] [([[0x61]], { removal := some Errno.notPermitted })]

/-- There is a file at `a`, and no room for more in it. -/
def World.full : World Unit :=
  .holding [([[0x61]], .file [0x31] .plain)] [([[0x61]], { filling := some (0, 28) })]

/-- What may hinder a guard. Through a link a file changes that never had one. A file that cannot be
removed stays when its guard is given up. A file that does not take all that is written to it gets no
guard, and has lost what it held. -/
theorem guarded_files_hindered :
    (World.leading.files.target? [0x61] = some [[0x61]] ∧
      ((Rig.serving []).run [.create [0x61] [0x32]] ⟨.nothing, .leading⟩).world.files.entryAt? [[0x62]] ≠
        World.leading.files.entryAt? [[0x62]]) ∧
    (((Rig.serving []).run [.create [0x61] [0x32]] ⟨.nothing, .fixed⟩).held.guards = [⟨[0x61], .pam⟩] ∧
      ((Rig.serving []).run [.create [0x61] [0x32], .release 0] ⟨.nothing, .fixed⟩).held.guards = [] ∧
      ((Rig.serving []).run [.create [0x61] [0x32], .release 0] ⟨.nothing, .fixed⟩).world.files.has
        [0x61] = true) ∧
    ((Rig.serving []).run [.create [0x61] [0x32]] ⟨.nothing, .full⟩).held.guards = [] ∧
      ((Rig.serving []).run [.create [0x61] [0x32]] ⟨.nothing, .full⟩).world.files.entryAt? [[0x61]] ≠
        World.full.files.entryAt? [[0x61]] := by
  decide +kernel

end HostAccess
