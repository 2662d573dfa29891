import HostAccess.Proofs.Check

/-!
# A check cleans up

Whatever the checker does, and whichever way a check ends, the variable of the host is afterwards what
it was before, no file is left where the check wrote one, and everything else is as it was or as the
checker left it. The checker is asked at most once, and only when everything is in place.
-/
namespace HostAccess.Harness

variable {ν : Type}

/-- The configuration can be put in place: the service and the host can be used, and the file, if
there is one, can be written. -/
structure Configures (h : Harness ν) (service : String) (host : Option String) (t : FileTree) :
    Prop where
  nonempty : service ≠ ""
  plain : '/' ∉ service.toList
  exportable : Char.ofNat 0 ∉ (h.effectiveHost host).toList
  config : ∀ path ∈ h.configPath,
    ∃ u, t.write path (Utf8.encode (h.configText (h.effectiveHost host))) = .ok u

/-- Everything can be put in place that a checker is to find. -/
structure Reaches (h : Harness ν) (service : String) (host : Option String) (t : FileTree) : Prop
    extends Configures h service host t where
  description : ∃ u, t.write (h.serviceFile service) (Utf8.encode h.serviceText) = .ok u

/-- The locations that the files of a check are written to: those that its two paths reach. -/
def Writes (h : Harness ν) (service : String) (t : FileTree) (l : Location) : Prop :=
  (∃ path ∈ h.configPath, t.Reaches path l) ∨ t.Reaches (h.serviceFile service) l

/-- The locations that a check takes something away from: those that its two paths are about. -/
def Removes (h : Harness ν) (service : String) (t : FileTree) (l : Location) : Prop :=
  (∃ path ∈ h.configPath, t.target? path = some l) ∨ t.target? (h.serviceFile service) = some l

/-- The world `b` differs from `a` in no entry but some that may be touched, in no variable but that of
the host, and not at all in what has to do with the server. -/
structure Spares (touched : Location → Prop) (a b : World ν) : Prop where
  entries : ∀ l, ¬ touched l → b.files.entryAt? l = a.files.entryAt? l
  home : b.files.home = a.files.home
  bars : b.files.bars = a.files.bars
  otherVariables : ∀ name, name ≠ hostVariable → b.environment.get? name = a.environment.get? name
  wire : b.wire = a.wire
  credential : b.credential = a.credential
  outside : b.outside = a.outside

/-! ## When the checker is asked -/

theorem isServiceName_iff (service : String) :
    isServiceName service = true ↔ service ≠ "" ∧ '/' ∉ service.toList := by
  simp [isServiceName]

theorem nul_iff (h : Harness ν) (host : Option String) :
    Bytes.hasNul (h.hostValue host) = false ↔ Char.ofNat 0 ∉ (h.effectiveHost host).toList := by
  rw [← Utf8.hasNul_encode, Bool.not_eq_true]
  rfl

theorem Configures.named {h : Harness ν} {service : String} {host : Option String} {t : FileTree}
    (ready : h.Configures service host t) : isServiceName service = true :=
  (isServiceName_iff service).mpr ⟨ready.nonempty, ready.plain⟩

theorem Configures.noNul {h : Harness ν} {service : String} {host : Option String} {t : FileTree}
    (ready : h.Configures service host t) : Bytes.hasNul (h.hostValue host) = false :=
  (h.nul_iff host).mpr ready.exportable

theorem layConfig_ok_iff (h : Harness ν) (host : Option String) (t : FileTree) :
    (∃ u, h.layConfig host t = .ok u) ↔ ∀ path ∈ h.configPath,
      ∃ u, t.write path (Utf8.encode (h.configText (h.effectiveHost host))) = .ok u := by
  unfold layConfig
  cases h.configPath with
  | none => simp
  | some path => simp [lay_eq_ok_iff]

theorem layConfig_write {h : Harness ν} {host : Option String} {t u : FileTree} {path : Path}
    (hp : h.configPath = some path) (config : h.layConfig host t = .ok u) :
    t.write path (Utf8.encode (h.configText (h.effectiveHost host))) = .ok u := by
  simp only [layConfig, hp] at config
  exact lay_eq_ok_iff.mp config

theorem layConfig_none {h : Harness ν} {host : Option String} {t u : FileTree}
    (hp : h.configPath = none) (config : h.layConfig host t = .ok u) : u = t := by
  simp only [layConfig, hp] at config
  exact (Except.ok.inj config).symm

theorem layService_write {h : Harness ν} {service : String} {t u : FileTree}
    (description : h.layService service t = .ok u) :
    t.write (h.serviceFile service) (Utf8.encode h.serviceText) = .ok u :=
  lay_eq_ok_iff.mp description

theorem left_lay (path : Path) (text : String) (t : FileTree) :
    FileTree.left (lay path text t) = FileTree.left (t.write path (Utf8.encode text)) := by
  unfold lay
  cases t.write path (Utf8.encode text) <;> rfl

/-- The attempt to write the configuration leaves the ground as it is. -/
theorem sameGround_left_layConfig (h : Harness ν) (host : Option String) (t : FileTree) :
    FileTree.SameGround t (FileTree.left (h.layConfig host t)) := by
  unfold layConfig
  cases h.configPath with
  | none => exact .refl t
  | some path =>
    rw [left_lay]
    exact t.sameGround_left_write _ _

theorem sameGround_left_layService (h : Harness ν) (service : String) (t : FileTree) :
    FileTree.SameGround t (FileTree.left (h.layService service t)) := by
  unfold layService
  rw [left_lay]
  exact t.sameGround_left_write _ _

theorem sameGround_layConfig {h : Harness ν} {host : Option String} {t u : FileTree}
    (config : h.layConfig host t = .ok u) : FileTree.SameGround t u := by
  have s := h.sameGround_left_layConfig host t
  rwa [config] at s

theorem sameGround_layService {h : Harness ν} {service : String} {t u : FileTree}
    (description : h.layService service t = .ok u) : FileTree.SameGround t u := by
  have s := h.sameGround_left_layService service t
  rwa [description] at s

theorem configures_of_layConfig {h : Harness ν} {service : String} {host : Option String}
    {t u : FileTree} (named : isServiceName service = true)
    (nul : Bytes.hasNul (h.hostValue host) = false) (config : h.layConfig host t = .ok u) :
    h.Configures service host t :=
  ⟨((isServiceName_iff service).mp named).1, ((isServiceName_iff service).mp named).2,
    (h.nul_iff host).mp nul, (h.layConfig_ok_iff host t).mp ⟨u, config⟩⟩

/-- The checker is asked once if everything can be put in place, and otherwise not at all. -/
theorem Checks.asked_iff {h : Harness ν} {user service : String} {host : Option String}
    {w after : World ν} {calls : List (Call ν)} {ending : Ending Int32}
    (c : Checks h user service host w calls ending after) :
    calls.length ≤ 1 ∧ (calls.length = 1 ↔ h.Reaches service host w.files) := by
  cases c with
  | misnamed named =>
    refine ⟨by simp, fun h => by simp at h, fun r => ?_⟩
    rw [r.named] at named
    cases named
  | unexportable named nul =>
    refine ⟨by simp, fun h => by simp at h, fun r => ?_⟩
    rw [r.noNul] at nul
    cases nul
  | unconfigured named nul config =>
    refine ⟨by simp, fun h => by simp at h, fun r => ?_⟩
    obtain ⟨u, hu⟩ := (h.layConfig_ok_iff host w.files).mpr r.config
    rw [config] at hu
    cases hu
  | undescribed named nul config description =>
    refine ⟨by simp, fun h => by simp at h, fun r => ?_⟩
    obtain ⟨u, hu⟩ := (sameGround_layConfig config).writable r.description
    rw [layService, lay_eq_ok_iff.mpr hu] at description
    cases description
  | asked named nul config description answer =>
    refine ⟨by simp, fun _ => ?_, fun _ => by simp⟩
    exact ⟨configures_of_layConfig named nul config,
      (sameGround_layConfig config).symm.writable ⟨_, layService_write description⟩⟩

/-- The tree with both files written, as far as they can be. -/
def laid (h : Harness ν) (service : String) (host : Option String) (t : FileTree) : FileTree :=
  FileTree.left (h.layService service (FileTree.left (h.layConfig host t)))

/-- If everything can be put in place, the checker's answer to what it finds there decides. -/
theorem check_of_reaches {h : Harness ν} {user service : String} {host : Option String}
    {w left : World ν} {verdict : Verdict} (ready : h.Reaches service host w.files)
    (answer : h.checker user service (h.found service host (h.laid service host w.files) w) =
      (verdict, left)) :
    h.check user service host w = (h.conclusion service verdict left.files,
      putBack w left (h.clear service left.files)
        (h.closingRecords user service host verdict left.files)) := by
  obtain ⟨t, config⟩ := (h.layConfig_ok_iff host w.files).mpr ready.config
  obtain ⟨u, hu⟩ := (sameGround_layConfig config).writable ready.description
  have description : h.layService service t = .ok u := lay_eq_ok_iff.mpr hu
  obtain rfl := FileTree.eq_left_of_ok config
  obtain rfl := FileTree.eq_left_of_ok description
  exact check_of_asked ready.named ready.noNul config description answer

/-- What is recorded of such a check is what the checker finds when everything is in place. -/
theorem found_of_recorded {h : Harness ν} {user service : String} {host : Option String}
    {w after : World ν} {ending : Ending Int32} {call : Call ν}
    (ready : h.Reaches service host w.files)
    (recorded : ∀ log, h.recorded.check user service host (w.recording log) =
      (ending, after.recording (log ++ [call]))) :
    call.found = h.found service host (h.laid service host w.files) w := by
  have answer : h.checker.recorded user service
      ((h.found service host (h.laid service host w.files) w).recording []) = _ :=
    h.checker.recorded_of_answer rfl
  have ready' : h.recorded.Reaches service host (w.recording []).files :=
    ⟨⟨ready.nonempty, ready.plain, ready.exportable, ready.config⟩, ready.description⟩
  have once := (recorded []).symm.trans (check_of_reaches ready' answer)
  have calls := congrArg (fun result => result.2.outside.2) once
  exact congrArg Call.found (List.cons.inj calls).1

/-! ## What lasts through a check -/

section

variable {h : Harness ν} {safe : FileTree → Prop} (lasts : FileTree.Lasts safe)

include lasts

theorem lasts_layConfig {host : Option String} {t : FileTree}
    {laid : Except (Error × FileTree) FileTree} (config : h.layConfig host t = laid) (files : safe t) :
    safe (FileTree.left laid) := by
  rw [← config, layConfig]
  split
  · rw [left_lay]
    exact lasts.write t _ _ files
  · exact files

theorem lasts_layService {service : String} {t : FileTree}
    {laid : Except (Error × FileTree) FileTree} (description : h.layService service t = laid)
    (files : safe t) : safe (FileTree.left laid) := by
  rw [← description, layService, left_lay]
  exact lasts.write t _ _ files

theorem lasts_clearConfig {t : FileTree} (files : safe t) : safe (h.clearConfig t) := by
  unfold clearConfig
  split
  · exact lasts.discard t _ files
  · exact files

/-- What lasts while files are written and removed, and is kept by the checker, lasts through a
check. -/
theorem Checks.keeps (kept : ∀ user service w, safe w.files → safe (h.checker user service w).2.files)
    {user service : String} {host : Option String} {w after : World ν} {calls : List (Call ν)}
    {ending : Ending Int32} (c : Checks h user service host w calls ending after)
    (files : safe w.files) : safe after.files := by
  cases c with
  | misnamed named => exact files
  | unexportable named nul => exact files
  | unconfigured named nul config => exact lasts_layConfig lasts config files
  | @undescribed t u e named nul config description =>
    have configured : safe t := lasts_layConfig lasts config files
    exact lasts_clearConfig lasts (lasts_layService lasts description configured)
  | @asked t u verdict left named nul config description answer =>
    have configured : safe t := lasts_layConfig lasts config files
    have described : safe u := lasts_layService lasts description configured
    have answered := kept user service (h.found service host u w) described
    rw [answer] at answered
    exact lasts_clearConfig lasts (lasts.discard left.files _ answered)

end

/-! ## What is put back -/

/-- The variable of the host is afterwards what it was before. -/
theorem Checks.hostVariable_eq {h : Harness ν} {user service : String} {host : Option String}
    {w after : World ν} {calls : List (Call ν)} {ending : Ending Int32}
    (c : Checks h user service host w calls ending after) :
    after.environment.get? hostVariable = w.environment.get? hostVariable := by
  cases c with
  | misnamed named => rfl
  | unexportable named nul => rfl
  | unconfigured named nul config => simp [putBack, Environment.get?_restore]
  | undescribed named nul config description => simp [putBack, Environment.get?_restore]
  | asked named nul config description answer => simp [putBack, Environment.get?_restore]

/-- After an attempt to take the configuration away, a file is at its path only if the system refused. -/
theorem refuses_of_hasFile_clearConfig {h : Harness ν} {t : FileTree} {path : Path}
    (hp : path ∈ h.configPath) {before : List Bytes} {name : Bytes}
    (hn : FileTree.NamesFile path before name) (left : (h.clearConfig t).HasFile path) :
    t.Refuses path := by
  have hpath : h.configPath = some path := hp
  simp only [clearConfig, hpath] at left
  exact FileTree.refuses_of_hasFile_discard hn left

theorem hasFile_of_clearConfig {h : Harness ν} {t : FileTree} {p : Path}
    (left : (h.clearConfig t).HasFile p) : t.HasFile p := by
  unfold clearConfig at left
  cases hp : h.configPath with
  | none => rwa [hp] at left
  | some path =>
    rw [hp] at left
    exact FileTree.hasFile_of_discard left

/-- If the configuration could be written and the checker is not asked, a file is afterwards at the
path of the configuration only if the system refuses to remove it. -/
theorem Checks.config_gone_unasked {h : Harness ν} {user service : String} {host : Option String}
    {w after : World ν} {ending : Ending Int32}
    (c : Checks h user service host w [] ending after)
    (ready : h.Configures service host w.files) {path : Path} (hp : path ∈ h.configPath)
    (standing : after.files.HasFile path) : w.files.Refuses path := by
  obtain ⟨u, hu⟩ := ready.config path hp
  obtain ⟨before, name, hn⟩ := FileTree.namesFile_of_write hu
  cases c with
  | misnamed named =>
    rw [ready.named] at named
    cases named
  | unexportable named nul =>
    rw [ready.noNul] at nul
    cases nul
  | unconfigured named nul config =>
    obtain ⟨u, hu⟩ := (h.layConfig_ok_iff host w.files).mpr ready.config
    rw [config] at hu
    cases hu
  | @undescribed t u e named nul config description =>
    have s := h.sameGround_left_layService service t
    rw [description] at s
    exact ((sameGround_layConfig config).trans s).refuses.mp (refuses_of_hasFile_clearConfig hp hn standing)

/-- If the checker is asked, a file is afterwards at one of the two paths only if the system refuses to
remove what the checker left there. -/
theorem Checks.gone_asked {h : Harness ν} {user service : String} {host : Option String}
    {w after : World ν} {calls : List (Call ν)} {ending : Ending Int32}
    (c : Checks h user service host w calls ending after) {call : Call ν} (hm : call ∈ calls) :
    (∀ path ∈ h.configPath, after.files.HasFile path → call.left.files.Refuses path) ∧
      (after.files.HasFile (h.serviceFile service) →
        call.left.files.Refuses (h.serviceFile service)) := by
  cases c with
  | misnamed named => cases hm
  | unexportable named nul => cases hm
  | unconfigured named nul config => cases hm
  | undescribed named nul config description => cases hm
  | @asked t u verdict left named nul config description answer =>
    obtain rfl := List.mem_singleton.mp hm
    constructor
    · intro path hp standing
      obtain ⟨v, hv⟩ := (h.layConfig_ok_iff host w.files).mp ⟨t, config⟩ path hp
      obtain ⟨before, name, hn⟩ := FileTree.namesFile_of_write hv
      exact FileTree.refuses_of_discard (refuses_of_hasFile_clearConfig hp hn standing)
    · intro standing
      obtain ⟨before, name, hn⟩ := FileTree.namesFile_of_write (layService_write description)
      exact FileTree.refuses_of_hasFile_discard hn (hasFile_of_clearConfig standing)

/-! ## What is left alone -/

theorem variables_set (h : Harness ν) (host : Option String) (e : Environment) {name : Bytes}
    (hn : name ≠ hostVariable) :
    (e.set hostVariable (h.hostValue host)).get? name = e.get? name := by
  rw [Environment.get?_set, if_neg hn]

theorem variables_restore (e : Environment) (previous : Option Bytes) {name : Bytes}
    (hn : name ≠ hostVariable) : (e.restore hostVariable previous).get? name = e.get? name := by
  rw [Environment.get?_restore, if_neg hn]

theorem entries_left_layConfig (h : Harness ν) (host : Option String) (t : FileTree) {l : Location}
    (hl : ∀ path ∈ h.configPath, ¬ t.Reaches path l) :
    (FileTree.left (h.layConfig host t)).entryAt? l = t.entryAt? l := by
  unfold layConfig
  cases hp : h.configPath with
  | none => rfl
  | some path =>
    simp only [left_lay]
    exact FileTree.entryAt?_left_write _ (hl path hp)

theorem entries_left_layService (h : Harness ν) (service : String) (t : FileTree) {l : Location}
    (hl : ¬ t.Reaches (h.serviceFile service) l) :
    (FileTree.left (h.layService service t)).entryAt? l = t.entryAt? l := by
  rw [layService, left_lay]
  exact FileTree.entryAt?_left_write _ hl

theorem reaches_left_layConfig (h : Harness ν) (host : Option String) (t : FileTree) (p : Path)
    (l : Location) : (FileTree.left (h.layConfig host t)).Reaches p l ↔ t.Reaches p l := by
  unfold layConfig
  cases h.configPath with
  | none => rfl
  | some path =>
    simp only [left_lay]
    exact FileTree.reaches_left_write t path _ p l

theorem entries_clearConfig (h : Harness ν) (t : FileTree) {l : Location}
    (hl : ∀ path ∈ h.configPath, t.target? path ≠ some l) :
    (h.clearConfig t).entryAt? l = t.entryAt? l := by
  unfold clearConfig
  cases hp : h.configPath with
  | none => rfl
  | some path => exact FileTree.entryAt?_discard (hl path hp)

theorem clearConfig_ground (h : Harness ν) (t : FileTree) :
    (h.clearConfig t).home = t.home ∧ (h.clearConfig t).bars = t.bars := by
  unfold clearConfig
  cases h.configPath with
  | none => exact ⟨rfl, rfl⟩
  | some path => exact t.discard_ground path

theorem Spares.refl (touched : Location → Prop) (w : World ν) : Spares touched w w :=
  ⟨fun _ _ => rfl, rfl, rfl, fun _ _ => rfl, rfl, rfl, rfl⟩

/-- Writing both files, or one and a part of the other, changes only what the two paths reach. -/
theorem entries_left_layService_layConfig {h : Harness ν} {service : String} {host : Option String}
    {t u : FileTree} (config : h.layConfig host t = .ok u) {l : Location}
    (hl : ¬ h.Writes service t l) :
    (FileTree.left (h.layService service u)).entryAt? l = t.entryAt? l := by
  have hu : FileTree.left (h.layConfig host t) = u := by rw [config]; rfl
  simp only [Writes, not_or, not_exists, not_and] at hl
  have hservice : ¬ u.Reaches (h.serviceFile service) l := by
    rw [← hu, reaches_left_layConfig]
    exact hl.2
  rw [h.entries_left_layService service u hservice, ← hu]
  exact h.entries_left_layConfig host t hl.1

/-- Up to the question, a check changes only what it puts in place. -/
theorem spares_found {h : Harness ν} {service : String} {host : Option String} {w : World ν}
    {t u : FileTree} (config : h.layConfig host w.files = .ok t)
    (description : h.layService service t = .ok u) :
    Spares (h.Writes service w.files) w (h.found service host u w) := by
  have s := (sameGround_layConfig config).trans (sameGround_layService description)
  refine ⟨fun l hl => ?_, s.home, s.bars, fun _ hn => h.variables_set host _ hn, rfl, rfl, rfl⟩
  have entries := entries_left_layService_layConfig config hl
  rwa [description] at entries

/-- From the answer on, a check changes only what it takes away. -/
theorem spares_putBack (h : Harness ν) (service : String) (w left : World ν) (records : Journal) :
    Spares (h.Removes service left.files) left
      (putBack w left (h.clear service left.files) records) := by
  obtain ⟨home, bars⟩ := left.files.discard_ground (h.serviceFile service)
  obtain ⟨home', bars'⟩ := h.clearConfig_ground (left.files.discard (h.serviceFile service))
  refine ⟨fun l hl => ?_, home'.trans home, bars'.trans bars, fun _ hn => variables_restore _ _ hn,
    rfl, rfl, rfl⟩
  simp only [Removes, not_or, not_exists, not_and] at hl
  exact (h.entries_clearConfig _ fun path hp hpath =>
    hl.1 path hp (FileTree.target?_of_discard hpath)).trans (FileTree.entryAt?_discard hl.2)

/-- A check that does not ask the checker changes only what it puts in place and takes away. -/
theorem Checks.spares_unasked {h : Harness ν} {user service : String} {host : Option String}
    {w after : World ν} {ending : Ending Int32}
    (c : Checks h user service host w [] ending after) :
    Spares (fun l => h.Writes service w.files l ∨ h.Removes service w.files l) w after ∧
      ∀ code, ending ≠ .done code := by
  have others : ∀ name, name ≠ hostVariable →
      ((w.environment.set hostVariable (h.hostValue host)).restore hostVariable
        (w.environment.get? hostVariable)).get? name = w.environment.get? name := fun name hn =>
    (variables_restore _ _ hn).trans (h.variables_set host _ hn)
  cases c with
  | misnamed named => exact ⟨.refl _ w, by simp⟩
  | unexportable named nul => exact ⟨.refl _ w, by simp⟩
  | @unconfigured t e named nul config =>
    have s := h.sameGround_left_layConfig host w.files
    rw [config] at s
    refine ⟨⟨fun l hl => ?_, s.home, s.bars, others, rfl, rfl, rfl⟩, by simp⟩
    simp only [Writes, not_or, not_exists, not_and] at hl
    have entries := h.entries_left_layConfig host w.files hl.1.1
    rwa [config] at entries
  | @undescribed t u e named nul config description =>
    have s := h.sameGround_left_layService service t
    rw [description] at s
    have s := (sameGround_layConfig config).trans s
    obtain ⟨home, bars⟩ := h.clearConfig_ground u
    refine ⟨⟨fun l hl => ?_, home.trans s.home, bars.trans s.bars, others, rfl, rfl, rfl⟩, by simp⟩
    obtain ⟨hwrites, hremoves⟩ := not_or.mp hl
    have entries := entries_left_layService_layConfig config hwrites
    rw [description] at entries
    exact (h.entries_clearConfig u fun path hp hpath =>
      hremoves (.inl ⟨path, hp, (s.target? path).symm.trans hpath⟩)).trans entries

/-- A question is about the user and the service of the check. Up to it and from the answer on, only
what the check puts in place and takes away changes, and the answer decides how the check ends. -/
theorem Checks.spares_asked {h : Harness ν} {user service : String} {host : Option String}
    {w after : World ν} {calls : List (Call ν)} {ending : Ending Int32}
    (c : Checks h user service host w calls ending after) {call : Call ν} (hm : call ∈ calls) :
    call.user = user ∧ call.service = service ∧
      Spares (h.Writes service w.files) w call.found ∧
      h.checker user service call.found = (call.verdict, call.left) ∧
      Spares (h.Removes service call.left.files) call.left after ∧
      ending = h.conclusion service call.verdict call.left.files := by
  cases c with
  | misnamed named => cases hm
  | unexportable named nul => cases hm
  | unconfigured named nul config => cases hm
  | undescribed named nul config description => cases hm
  | asked named nul config description answer =>
    obtain rfl := List.mem_singleton.mp hm
    exact ⟨rfl, rfl, spares_found config description, answer, h.spares_putBack service w _ _, rfl⟩

/-- **A check cleans up on every exit, against any checker.** The checker is asked at most once, and
exactly when everything can be put in place. Whether the check ends with a code, with an error or in
a panic, the variable of the host is then what it was. No file is at a path that the check has
written, unless the system refuses to remove what is there. Apart from what the checker did, the check
has changed nothing else: up to the question it writes only the files that its two paths reach,
through links and under all their names, and from the answer on it takes away only what stands at
these paths. An answer decides how the check ends; without one it does not end with a code. -/
theorem check_cleans_up (h : Harness ν) (user service : String) (host : Option String)
    (w : World ν) :
    ∃ calls : List (Call ν),
      (∀ log, h.recorded.check user service host (w.recording log) =
        ((h.check user service host w).1,
          (h.check user service host w).2.recording (log ++ calls))) ∧
      (calls.length ≤ 1 ∧ (calls.length = 1 ↔ h.Reaches service host w.files)) ∧
      (h.check user service host w).2.environment.get? hostVariable =
        w.environment.get? hostVariable ∧
      (calls = [] →
        Spares (fun l => h.Writes service w.files l ∨ h.Removes service w.files l) w
          (h.check user service host w).2 ∧
        (h.Configures service host w.files → ∀ path ∈ h.configPath,
          (h.check user service host w).2.files.HasFile path → w.files.Refuses path) ∧
        ∀ code, (h.check user service host w).1 ≠ .done code) ∧
      ∀ call ∈ calls, call.user = user ∧ call.service = service ∧
        Spares (h.Writes service w.files) w call.found ∧
        h.checker user service call.found = (call.verdict, call.left) ∧
        Spares (h.Removes service call.left.files) call.left (h.check user service host w).2 ∧
        (∀ path ∈ h.configPath, (h.check user service host w).2.files.HasFile path →
          call.left.files.Refuses path) ∧
        ((h.check user service host w).2.files.HasFile (h.serviceFile service) →
          call.left.files.Refuses (h.serviceFile service)) ∧
        (h.check user service host w).1 =
          h.conclusion service call.verdict call.left.files := by
  obtain ⟨calls, c, recorded⟩ := h.check_checks user service host w
  refine ⟨calls, recorded, c.asked_iff, c.hostVariable_eq, ?_, fun call hm => ?_⟩
  · rintro rfl
    obtain ⟨spares, uncoded⟩ := c.spares_unasked
    exact ⟨spares, fun ready path hp standing => c.config_gone_unasked ready hp standing, uncoded⟩
  · obtain ⟨hu, hs, found, answer, left, ending⟩ := c.spares_asked hm
    obtain ⟨config, service⟩ := c.gone_asked hm
    exact ⟨hu, hs, found, answer, left, config, service, ending⟩

/-- A harness whose checker throws away every file and every variable, and panics. -/
def thrownAway : Harness Unit where
  serviceDir := Path.ofString "/pam.d"
  modulePath := Path.ofString "/pam_hbac.so"
  configPath := some (Path.ofString "/pam_hbac.conf")
  directory := ModuleConfig.empty
  server := ⟨"ipa.ipa.test", "ipa.test", "IPA.TEST", "admin", "Secret123", .anyone⟩
  defaultHost := "client.ipa.test"
  checker := fun _ _ w =>
    (.panic "thrown away", { w with files := ⟨[], [], []⟩, environment := Environment.empty })

/-- A world with the folder of the services in it, and a value for the variable of the host. -/
def prepared : World Unit where
  files := ⟨[([Path.ofString "pam.d"], .folder)], [], []⟩
  environment := ⟨[(hostVariable, Utf8.encode "before")]⟩
  journal := []
  wire := []
  credential := none
  outside := ()

/-- Everything can be put in place for a check of the service `login`, if both files can be written. -/
theorem reaches_login {h : Harness Unit} {t : FileTree} (host : h.defaultHost = "client.ipa.test")
    (config : ∀ path ∈ h.configPath, ∃ l,
      t.Takes path (Utf8.encode (h.configText (h.effectiveHost none))) l)
    (description : ∃ l, t.Takes (h.serviceFile "login") (Utf8.encode h.serviceText) l) :
    h.Reaches "login" none t where
  nonempty := by decide
  plain := by decide
  exportable := by
    rw [effectiveHost, host]
    decide
  config := fun path hp => FileTree.writable_iff.mpr (config path hp)
  description := FileTree.writable_iff.mpr description

theorem reaches_prepared : thrownAway.Reaches "login" none prepared.files := by
  refine reaches_login rfl (fun path hp => ⟨[Path.ofString "pam_hbac.conf"], ?_, rfl, rfl⟩)
    ⟨[Path.ofString "pam.d", Path.ofString "login"], by decide +kernel, rfl, rfl⟩
  obtain rfl : Path.ofString "/pam_hbac.conf" = path := Option.some.inj hp
  decide +kernel

theorem isServiceName_login : isServiceName "login" = true :=
  reaches_prepared.named

theorem check_cleans_up_thrown_away :
    ∃ calls : List (Call Unit), calls.length = 1 ∧
      (thrownAway.check "alice" "login" none prepared).1 = .panicked (.stated "thrown away") ∧
      (thrownAway.check "alice" "login" none prepared).2.environment.get? hostVariable =
        some (Utf8.encode "before") := by
  obtain ⟨calls, -, ⟨-, once⟩, restored, -, asked⟩ :=
    check_cleans_up thrownAway "alice" "login" none prepared
  have one : calls.length = 1 := once.mpr reaches_prepared
  refine ⟨calls, one, ?_, ?_⟩
  · obtain ⟨call, rfl⟩ := List.length_eq_one_iff.mp one
    obtain ⟨-, -, -, answer, -, -, -, ending⟩ := asked call List.mem_cons_self
    have verdict : call.verdict = .panic "thrown away" := (congrArg Prod.fst answer).symm
    rw [ending, verdict]
    rfl
  · rw [restored]
    decide +kernel

/-- A harness whose checker changes nothing and allows. -/
def idle : Harness Unit := { thrownAway with checker := fun _ _ w => (.code 0, w) }

/-- A world in which a link is at the path of the configuration. -/
def linked : World Unit :=
  { prepared with files := {
      entries := [([Path.ofString "pam.d"], .folder),
        ([Path.ofString "pam_hbac.conf"], .link (Path.ofString "third")),
        ([Path.ofString "third"], .file [] .plain)]
      home := [] } }

/-- A world in which no name can be removed at the path of the configuration. -/
def barred : World Unit :=
  { prepared with files := { prepared.files with
      bars := [([Path.ofString "pam_hbac.conf"], { removal := some Errno.notPermitted })] } }

theorem reaches_linked : idle.Reaches "login" none linked.files := by
  refine reaches_login rfl (fun path hp => ⟨[Path.ofString "third"], ?_, rfl, rfl⟩)
    ⟨[Path.ofString "pam.d", Path.ofString "login"], by decide +kernel, rfl, rfl⟩
  obtain rfl : Path.ofString "/pam_hbac.conf" = path := Option.some.inj hp
  decide +kernel

theorem reaches_barred : idle.Reaches "login" none barred.files := by
  refine reaches_login rfl (fun path hp => ⟨[Path.ofString "pam_hbac.conf"], ?_, rfl, rfl⟩)
    ⟨[Path.ofString "pam.d", Path.ofString "login"], by decide +kernel, rfl, rfl⟩
  obtain rfl : Path.ofString "/pam_hbac.conf" = path := Option.some.inj hp
  decide +kernel

/-- Through a link at the path of the configuration a check changes a file that is at neither of its
paths. The configuration stays at its path if the system refuses to remove it. -/
theorem check_leaves_traces :
    ((idle.check "alice" "login" none linked).1 = .done 0 ∧
      linked.files.target? (Path.ofString "/pam_hbac.conf") ≠ some [Path.ofString "third"] ∧
      linked.files.target? (idle.serviceFile "login") ≠ some [Path.ofString "third"] ∧
      (idle.check "alice" "login" none linked).2.files.entryAt? [Path.ofString "third"] ≠
        linked.files.entryAt? [Path.ofString "third"]) ∧
    idle.Reaches "login" none barred.files ∧
      (idle.check "alice" "login" none barred).1 =
        .failed (.io (some (Path.ofString "/pam_hbac.conf")) (.errno Errno.notPermitted)) ∧
      (idle.check "alice" "login" none barred).2.files.HasFile (Path.ofString "/pam_hbac.conf") := by
  rw [check_of_reaches reaches_linked rfl, check_of_reaches reaches_barred rfl]
  refine ⟨by decide +kernel, reaches_barred, by decide +kernel,
    Utf8.encode (idle.configText "client.ipa.test"), ?_⟩
  refine FileTree.read_of_aim? (l := [Path.ofString "pam_hbac.conf"]) (m := .plain) ?_ ?_
  · decide +kernel
  · decide +kernel

end HostAccess.Harness
