import HostAccess.Proofs.Cleanup
import HostAccess.Proofs.Contents
import HostAccess.Proofs.PathNames

/-!
# Checks by a checker that only looks

A checker that changes nothing and goes by what it is shown makes a check a matter of the files alone.
What a check leaves of them is worn: files at the places that checks write to may be gone or cut short,
and nothing else is different, provided that no links and no other names of a file are at these places.
A check comes to the same from worn files as from whole ones, because it writes over whatever is at
those places before anything depends on it.
-/
namespace HostAccess.Harness

variable {ν : Type}

/-! ## What a checker is shown -/

/-- What a checker is asked and what it finds: the variable of the host, and what is in the
description of the service and in the configuration. -/
structure Sight where
  user : String
  service : String
  hostName : Option Bytes
  description : Option Bytes
  config : Option Bytes
  deriving DecidableEq, Repr

/-- What is to be seen in a tree, for a host that is exported. -/
def view (h : Harness ν) (user service : String) (host : Option Bytes) (t : FileTree) : Sight where
  user := user
  service := service
  hostName := host
  description := (t.read (h.serviceFile service)).toOption
  config := h.configPath.bind fun path => (t.read path).toOption

def sight (h : Harness ν) (user service : String) (w : World ν) : Sight :=
  h.view user service (w.environment.get? hostVariable) w.files

/-- Whether the checker changes nothing and answers by what it is shown alone. -/
def Watches (h : Harness ν) (answer : Sight → Verdict) : Prop :=
  ∀ user service w, h.checker user service w = (answer (h.sight user service w), w)

/-! ## The course of a check, by the files alone -/

/-- How a check ends, what the checker is shown, and the files that are left. -/
structure Course where
  ending : Ending Int32
  shown : List Sight
  left : FileTree

def course (h : Harness ν) (answer : Sight → Verdict) (user service : String)
    (host : Option String) (t : FileTree) : Course :=
  if isServiceName service = false then ⟨.failed (.usage (.serviceName service)), [], t⟩
  else if Bytes.hasNul (h.hostValue host) then ⟨.panicked .unusableVariable, [], t⟩
  else
    match h.layConfig host t with
    | .error (e, left) => ⟨.failed e, [], left⟩
    | .ok configured =>
      match h.layService service configured with
      | .error (e, left) => ⟨.failed e, [], h.clearConfig left⟩
      | .ok described =>
        let sight := h.view user service (some (h.hostValue host)) described
        ⟨h.conclusion service (answer sight) described, [sight], h.clear service described⟩

section

variable {h : Harness ν} {answer : Sight → Verdict} {user service : String} {host : Option String}
  {t u v : FileTree} {e : Error}

theorem course_of_misnamed (named : isServiceName service = false) :
    h.course answer user service host t = ⟨.failed (.usage (.serviceName service)), [], t⟩ :=
  if_pos named

variable (named : isServiceName service = true)

include named

theorem course_of_unexportable (nul : Bytes.hasNul (h.hostValue host) = true) :
    h.course answer user service host t = ⟨.panicked .unusableVariable, [], t⟩ := by
  simp [course, named, nul]

variable (nul : Bytes.hasNul (h.hostValue host) = false)

include nul

theorem course_of_unconfigured (config : h.layConfig host t = .error (e, u)) :
    h.course answer user service host t = ⟨.failed e, [], u⟩ := by
  simp [course, named, nul, config]

theorem course_of_undescribed (config : h.layConfig host t = .ok u)
    (description : h.layService service u = .error (e, v)) :
    h.course answer user service host t = ⟨.failed e, [], h.clearConfig v⟩ := by
  simp [course, named, nul, config, description]

theorem course_of_asked (config : h.layConfig host t = .ok u)
    (description : h.layService service u = .ok v) :
    h.course answer user service host t =
      ⟨h.conclusion service (answer (h.view user service (some (h.hostValue host)) v)) v,
        [h.view user service (some (h.hostValue host)) v], h.clear service v⟩ := by
  simp [course, named, nul, config, description]

end

theorem sight_found (h : Harness ν) (user service : String) (host : Option String) (u : FileTree)
    (w : World ν) : h.sight user service (h.found service host u w) =
      h.view user service (some (h.hostValue host)) u := by
  unfold sight
  rw [show (h.found service host u w).environment.get? hostVariable = some (h.hostValue host) by
    simp [found, Environment.get?_set]]
  rfl

/-- A check by a checker that only looks takes its course, and no variable is different after it. -/
theorem check_course {h : Harness ν} {answer : Sight → Verdict} (watches : h.Watches answer)
    (user service : String) (host : Option String) (w : World ν) :
    (h.check user service host w).1 = (h.course answer user service host w.files).ending ∧
      (h.check user service host w).2.files = (h.course answer user service host w.files).left ∧
      (∀ name, (h.check user service host w).2.environment.get? name = w.environment.get? name) ∧
      ∃ calls, h.recorded.check user service host (w.recording []) =
          ((h.check user service host w).1, (h.check user service host w).2.recording calls) ∧
        calls.map (fun call => h.sight call.user call.service call.found) =
          (h.course answer user service host w.files).shown := by
  obtain ⟨calls, checks, recorded⟩ := h.check_checks user service host w
  have hrecorded := recorded []
  rw [List.nil_append] at hrecorded
  suffices hcourse : (h.check user service host w).1 =
        (h.course answer user service host w.files).ending ∧
      (h.check user service host w).2.files = (h.course answer user service host w.files).left ∧
      (∀ name, name ≠ hostVariable →
        (h.check user service host w).2.environment.get? name = w.environment.get? name) ∧
      calls.map (fun call => h.sight call.user call.service call.found) =
        (h.course answer user service host w.files).shown by
    obtain ⟨ending, left, others, shown⟩ := hcourse
    refine ⟨ending, left, fun name => ?_, calls, hrecorded, shown⟩
    by_cases hn : name = hostVariable
    · rw [hn]
      exact checks.hostVariable_eq
    · exact others name hn
  generalize (h.check user service host w).1 = ending at checks
  generalize (h.check user service host w).2 = after at checks
  have spared : calls = [] → ∀ name, name ≠ hostVariable →
      after.environment.get? name = w.environment.get? name := by
    rintro rfl
    exact checks.spares_unasked.1.otherVariables
  cases checks with
  | misnamed named =>
    rw [course_of_misnamed named]
    exact ⟨rfl, rfl, spared rfl, rfl⟩
  | unexportable named nul =>
    rw [course_of_unexportable named nul]
    exact ⟨rfl, rfl, spared rfl, rfl⟩
  | unconfigured named nul config =>
    rw [course_of_unconfigured named nul config]
    exact ⟨rfl, rfl, spared rfl, rfl⟩
  | undescribed named nul config description =>
    rw [course_of_undescribed named nul config description]
    exact ⟨rfl, rfl, spared rfl, rfl⟩
  | @asked t u verdict left named nul config description answered =>
    rw [watches, h.sight_found] at answered
    obtain ⟨rfl, rfl⟩ := Prod.mk.inj answered
    rw [course_of_asked named nul config description]
    refine ⟨rfl, rfl, fun name hn => ?_, ?_⟩
    · exact (variables_restore _ _ hn).trans (h.variables_set host _ hn)
    · rw [List.map_singleton, h.sight_found]

/-! ## What a check writes -/

theorem layConfig_eq_error {h : Harness ν} {host : Option String} {t u : FileTree} {e : Error} :
    h.layConfig host t = .error (e, u) ↔ ∃ path cause, h.configPath = some path ∧
      t.write path (Utf8.encode (h.configText (h.effectiveHost host))) = .error (cause, u) ∧
        Error.io (some path) cause = e := by
  unfold layConfig
  cases h.configPath with
  | none => simp
  | some path => simp [lay_eq_error_iff]

/-- The location of the configuration, if there is one and its path leads anywhere. -/
def configTarget? (h : Harness ν) (t : FileTree) : Option Location := h.configPath.bind t.target?

theorem configTarget?_eq_some_iff {h : Harness ν} {t : FileTree} {l : Location} :
    h.configTarget? t = some l ↔ ∃ path ∈ h.configPath, t.target? path = some l := by
  simp [configTarget?, Option.bind_eq_some_iff]

theorem configTarget?_of_sameGround (h : Harness ν) {t u : FileTree}
    (s : FileTree.SameGround t u) : h.configTarget? u = h.configTarget? t := by
  unfold configTarget?
  rw [funext s.target?]

/-- Whether the configuration can be opened to be written, if there is one. -/
def HasRoom (h : Harness ν) (t : FileTree) : Prop :=
  ∀ path ∈ h.configPath, ∃ l, t.target? path = some l ∧ t.entryAt? l ≠ some .folder ∧
    (t.barsAt l).opening = none

theorem HasRoom.of_sameGround {h : Harness ν} {t u : FileTree} (s : FileTree.SameGround t u)
    (room : h.HasRoom t) : h.HasRoom u := by
  intro path hp
  obtain ⟨l, hl, hf, opens⟩ := room path hp
  exact ⟨l, by rwa [s.target?], fun hu => hf ((s.folders l).mp hu), by rwa [s.barsAt]⟩

/-- Nothing but files of one name can be at the paths that checks of these services write to. -/
structure Plain (h : Harness ν) (services : List String) (t : FileTree) : Prop where
  config : ∀ path ∈ h.configPath, t.IsFree path
  description : ∀ service ∈ services, t.IsFree (h.serviceFile service)

namespace Plain

variable {h : Harness ν} {services : List String} {t u : FileTree}

theorem mono (plain : h.Plain services t) (s : FileTree.SameGround t u)
    (serials : ∀ m serial, u.serialAt? m = some serial → t.serialAt? m = some serial) :
    h.Plain services u where
  config := fun path hp => (plain.config path hp).mono s serials
  description := fun service hm => (plain.description service hm).mono s serials

theorem sub {fewer : List String} (plain : h.Plain services t)
    (sub : ∀ service ∈ fewer, service ∈ services) : h.Plain fewer t :=
  ⟨plain.config, fun service hm => plain.description service (sub service hm)⟩

theorem lasts (h : Harness ν) (services : List String) :
    FileTree.Lasts fun t => h.Plain services t where
  write := fun _ p contents plain =>
    ⟨fun path hp => (plain.config path hp).left_write p contents,
      fun service hm => (plain.description service hm).left_write p contents⟩
  discard := fun _ p plain =>
    ⟨fun path hp => (plain.config path hp).discard p,
      fun service hm => (plain.description service hm).discard p⟩

theorem layConfig {host : Option String} (plain : h.Plain services t)
    (config : h.layConfig host t = .ok u) : h.Plain services u :=
  lasts_layConfig (lasts h services) config plain

theorem layService {service : String} (plain : h.Plain services t)
    (description : h.layService service t = .ok u) : h.Plain services u :=
  lasts_layService (lasts h services) description plain

/-- Taking a description away leaves the ground as it is. -/
theorem sameGround_discard {service : String} (plain : h.Plain [service] t) :
    FileTree.SameGround t (t.discard (h.serviceFile service)) :=
  FileTree.sameGround_discard (plain.description service (List.mem_singleton_self _)).notLink

theorem sameGround_clearConfig (plain : h.Plain services t) :
    FileTree.SameGround t (h.clearConfig t) := by
  unfold clearConfig
  cases hp : h.configPath with
  | none => exact .refl t
  | some path => exact FileTree.sameGround_discard (plain.config path hp).notLink

theorem contentsAt?_layConfig {host : Option String} (plain : h.Plain services t)
    (config : h.layConfig host t = .ok u) (l : Location) :
    u.contentsAt? l = if h.configTarget? t = some l
      then some (Utf8.encode (h.configText (h.effectiveHost host))) else t.contentsAt? l := by
  unfold configTarget?
  cases hp : h.configPath with
  | none =>
    rw [layConfig_none hp config]
    rfl
  | some path =>
    exact FileTree.contentsAt?_write (plain.config path hp) (layConfig_write hp config) l

end Plain

/-- The locations that checks of these services write to: that of the configuration and, if the
configuration can be written, those of the descriptions. -/
def Uses (h : Harness ν) (services : List String) (t : FileTree) (l : Location) : Prop :=
  h.configTarget? t = some l ∨
    h.HasRoom t ∧ ∃ service ∈ services, isServiceName service = true ∧
      t.target? (h.serviceFile service) = some l

/-- The tree `u` is `t`, but for what is in files, or whether they are there, at locations that checks
write to. -/
structure Worn (h : Harness ν) (services : List String) (t u : FileTree) : Prop
    extends FileTree.SameGround t u where
  entries : ∀ l, ¬ h.Uses services t l → u.entryAt? l = t.entryAt? l
  serials : ∀ m serial, u.serialAt? m = some serial → t.serialAt? m = some serial

theorem Uses.of_sameGround {h : Harness ν} {services : List String} {t u : FileTree}
    {l : Location} (s : FileTree.SameGround t u) (used : h.Uses services u l) :
    h.Uses services t l := by
  obtain hc | ⟨room, service, hm, named, hl⟩ := used
  · exact .inl (by rwa [h.configTarget?_of_sameGround s] at hc)
  · exact .inr ⟨room.of_sameGround s.symm, service, hm, named, by rwa [s.target?] at hl⟩

theorem Uses.mono {h : Harness ν} {services more : List String} {t : FileTree} {l : Location}
    (sub : ∀ service ∈ services, service ∈ more) (used : h.Uses services t l) :
    h.Uses more t l := by
  obtain hc | ⟨room, service, hm, named, hl⟩ := used
  · exact .inl hc
  · exact .inr ⟨room, service, sub service hm, named, hl⟩

namespace Worn

theorem refl (h : Harness ν) (services : List String) (t : FileTree) : h.Worn services t t :=
  ⟨.refl t, fun _ _ => rfl, fun _ _ => id⟩

theorem trans {h : Harness ν} {services more : List String} {t u v : FileTree}
    (a : h.Worn services t u) (b : h.Worn more u v) : h.Worn (services ++ more) t v where
  toSameGround := a.toSameGround.trans b.toSameGround
  entries := fun l unused =>
    have later : ¬ h.Uses more u l := fun used =>
      unused ((used.of_sameGround a.toSameGround).mono fun _ => List.mem_append_right _)
    have earlier : ¬ h.Uses services t l := fun used =>
      unused (used.mono fun _ => List.mem_append_left _)
    (b.entries l later).trans (a.entries l earlier)
  serials := fun m serial hm => a.serials m serial (b.serials m serial hm)

theorem plain {h : Harness ν} {services more : List String} {t u : FileTree}
    (worn : h.Worn services t u) (plain : h.Plain more t) : h.Plain more u :=
  plain.mono worn.toSameGround worn.serials

end Worn

/-! ## A check comes to the same from worn files -/

section

variable {h : Harness ν} {services more : List String} {host : Option String} {t u : FileTree}

variable {t' u' : FileTree}

theorem Worn.configured (worn : h.Worn services t u) (config : h.layConfig host t = .ok t')
    (config' : h.layConfig host u = .ok u') : FileTree.SameGround t' u' :=
  ((sameGround_layConfig config).symm.trans worn.toSameGround).trans (sameGround_layConfig config')

variable {t'' u'' : FileTree} {service : String}

/-- What is at the places that a check writes to does not depend on what was there before. -/
theorem Worn.contentsAt? (worn : h.Worn services t u) (plain : h.Plain more t)
    (hm : service ∈ more)
    (config : h.layConfig host t = .ok t') (config' : h.layConfig host u = .ok u')
    (description : h.layService service t' = .ok t'')
    (description' : h.layService service u' = .ok u'') {l : Location}
    (hl : h.configTarget? t'' = some l ∨ t''.target? (h.serviceFile service) = some l) :
    u''.contentsAt? l = t''.contentsAt? l := by
  have plain' := worn.plain plain
  have st := sameGround_layConfig config
  have su := sameGround_layConfig config'
  have sd := sameGround_layService description
  rw [FileTree.contentsAt?_write ((plain.layConfig config).description service hm)
      (layService_write description),
    FileTree.contentsAt?_write ((plain'.layConfig config').description service hm)
      (layService_write description'),
    plain.contentsAt?_layConfig config, plain'.contentsAt?_layConfig config', su.target?, worn.target?,
    h.configTarget?_of_sameGround worn.toSameGround, st.target?]
  rw [sd.target?, st.target?, h.configTarget?_of_sameGround sd,
    h.configTarget?_of_sameGround st] at hl
  obtain hl | hl := hl
  · simp only [hl, if_true]
  · simp only [hl, if_true]

end
section

variable {h : Harness ν} {service : String} {t u : FileTree}

end

section

variable {h : Harness ν} {service : String} {host : Option String} {t t' : FileTree}

/-- So does taking the configuration away. -/
theorem Worn.clearConfig {services : List String} {u : FileTree} (worn : h.Worn services t u)
    (plain : h.Plain services t) : h.Worn services t (h.clearConfig u) where
  toSameGround := worn.toSameGround.trans (worn.plain plain).sameGround_clearConfig
  entries := by
    intro l unused
    refine (h.entries_clearConfig u fun path hp hpath => unused (.inl ?_)).trans (worn.entries l unused)
    exact configTarget?_eq_some_iff.mpr ⟨path, hp, (worn.target? path).symm.trans hpath⟩
  serials := lasts_clearConfig (FileTree.lasts_serials t) worn.serials

/-- So does taking a description away. -/
theorem Worn.discard {u : FileTree} (worn : h.Worn [service] t u) (plain : h.Plain [service] t)
    (named : isServiceName service = true) (room : h.HasRoom t) :
    h.Worn [service] t (u.discard (h.serviceFile service)) where
  toSameGround := worn.toSameGround.trans (worn.plain plain).sameGround_discard
  entries := by
    intro l unused
    refine (FileTree.entryAt?_discard fun hl => unused (.inr ?_)).trans (worn.entries l unused)
    exact ⟨room, service, List.mem_singleton_self service, named, (worn.target? _).symm.trans hl⟩
  serials := (FileTree.lasts_serials t).discard u _ worn.serials

end

/-- Nothing hinders a check at its two paths: what is written there is taken as a whole, and the system
does not refuse to remove it. -/
structure Unhindered (h : Harness ν) (service : String) (host : Option String) (t : FileTree) :
    Prop where
  configWhole : ∀ path ∈ h.configPath,
    t.Whole path (Utf8.encode (h.configText (h.effectiveHost host)))
  configRemovable : ∀ path ∈ h.configPath, ¬ t.Refuses path
  descriptionWhole : t.Whole (h.serviceFile service) (Utf8.encode h.serviceText)
  descriptionRemovable : ¬ t.Refuses (h.serviceFile service)

theorem Unhindered.of_sameGround {h : Harness ν} {service : String} {host : Option String}
    {t u : FileTree} (free : h.Unhindered service host t) (s : FileTree.SameGround t u) :
    h.Unhindered service host u where
  configWhole := fun path hp => s.whole (free.configWhole path hp)
  configRemovable := fun path hp refused => free.configRemovable path hp (s.refuses.mp refused)
  descriptionWhole := s.whole free.descriptionWhole
  descriptionRemovable := fun refused => free.descriptionRemovable (s.refuses.mp refused)

section

variable {h : Harness ν} {service : String} {host : Option String} {t u : FileTree} {l : Location}
  (plain : h.Plain [service] t) (free : h.Unhindered service host t)

include free

/-- The configuration is gone once it is taken away. -/
theorem Unhindered.clearConfig (room : h.HasRoom t) (s : FileTree.SameGround t u)
    (hl : h.configTarget? t = some l) : (h.clearConfig u).entryAt? l = none := by
  obtain ⟨path, hp, hpath⟩ := configTarget?_eq_some_iff.mp hl
  obtain ⟨m, hm, hf, -⟩ := room path hp
  obtain rfl := Option.some.inj (hm.symm.trans hpath)
  have hp : h.configPath = some path := hp
  simp only [clearConfig, hp]
  exact FileTree.entryAt?_discard_self ((s.target? path).trans hpath)
    (fun hu => hf ((s.folders m).mp hu)) fun refused =>
      free.configRemovable path hp (s.refuses.mp refused)

include plain

variable (answer : Sight → Verdict) (user : String)

end

end HostAccess.Harness
