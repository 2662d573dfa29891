import HostAccess.Proofs.ConfigText
import HostAccess.Proofs.Course

/-!
# What the account module is shown

A check writes the configuration first and the description of the service after it. What the account
module reads at the two paths depends on whether they lead to two files: if they lead to one, the
description stands in the place of the configuration. If they are names of that one file's only name,
then only one of the two removals finds it.
-/
namespace HostAccess

/-! ## The two texts -/

namespace ModuleConfig

theorem head_line (s : Setting) (value : String) :
    ∃ c rest, s.line value = c :: rest ∧ c ≠ 'a' := by
  have capitals : 'a' ∉ s.key.toList := by
    cases s <;> decide
  obtain ⟨-, -, -, c, rest, hkey, -⟩ := s.key_chars
  refine ⟨c, rest ++ ' ' :: '=' :: ' ' :: value.toList, ?_, ?_⟩
  · rw [Setting.line, hkey, List.cons_append]
  · rintro rfl
    exact capitals (hkey ▸ List.mem_cons_self)

theorem head_serviceLine (module : Path) (config : Option Path) :
    ∃ rest, (serviceLine module config).toList = 'a' :: rest := by
  have hword : "account required ".toList = 'a' :: "ccount required ".toList := by
    decide +kernel
  delta serviceLine
  simp only [String.append_assoc, String.toList_append, hword]
  exact ⟨_, rfl⟩

/-- No configuration begins as a description does. -/
theorem render_ne_serviceLine (c : ModuleConfig) (module : Path) (config : Option Path) :
    c.render ≠ serviceLine module config := by
  intro same
  obtain ⟨rest, hrest⟩ := head_serviceLine module config
  rw [← same] at hrest
  rw [render_eq_written] at hrest
  cases hlines : c.written Setting.all with
  | nil => simp [hlines] at hrest
  | cons l ls =>
    have hl : l ∈ c.written Setting.all := hlines ▸ List.mem_cons_self
    obtain ⟨s, -, hs⟩ := List.mem_filterMap.mp hl
    obtain ⟨value, -, rfl⟩ := Option.map_eq_some_iff.mp hs
    obtain ⟨first, more, hline, hfirst⟩ := head_line s value
    rw [hlines, List.flatMap_cons, hline] at hrest
    exact hfirst (List.cons.inj hrest).1

end ModuleConfig

namespace Harness

variable {ν : Type}

/-- Whether the configuration and the description of a service are written to two files. -/
def Apart (h : Harness ν) (service : String) (t : FileTree) : Prop :=
  ∀ path ∈ h.configPath, ∀ lc ls, t.aim? path = some lc → t.aim? (h.serviceFile service) = some ls →
    ¬ t.SameFile lc ls

/-- Whether a path leads to the same file in both trees, with the same in it. -/
structure Kept (p : Path) (t u : FileTree) : Prop where
  target : u.target? p = t.target? p
  entry : ∀ l, t.target? p = some l → u.entryAt? l = t.entryAt? l

/-- The two files of a check as they stand in the tree `u` when both are written in the tree `t`: where
they are, and what is in them. -/
structure Stand (h : Harness ν) (service : String) (host : Option String) (path : Path)
    (t u : FileTree) (lc ls : Location) : Prop where
  config : u.aim? path = some lc
  description : u.aim? (h.serviceFile service) = some ls
  apart : h.Apart service t ↔ ¬ u.SameFile lc ls
  described : u.contentsAt? ls = some (Utf8.encode h.serviceText)
  configured : u.contentsAt? lc = some (if u.SameFile lc ls then Utf8.encode h.serviceText
    else Utf8.encode (h.configText (h.effectiveHost host)))

theorem stand_of_written {h : Harness ν} {service : String} {host : Option String} {path : Path}
    {t u v : FileTree} (hp : h.configPath = some path) (config : h.layConfig host t = .ok u)
    (description : h.layService service u = .ok v) :
    ∃ lc ls, h.Stand service host path t v lc ls := by
  -- No folder or link comes or goes, so both paths lead to where they led to before.
  have first := sameGround_layConfig config
  have second := sameGround_layService description
  obtain ⟨lc, takes, rfl⟩ := FileTree.write_eq_ok_iff.mp (layConfig_write hp config)
  obtain ⟨ls, takes', rfl⟩ := FileTree.write_eq_ok_iff.mp (layService_write description)
  have hlc := FileTree.ne_nil_of_aim? takes.aim
  have hls := FileTree.ne_nil_of_aim? takes'.aim
  refine ⟨lc, ls, (second.aim? path).trans ((first.aim? path).trans takes.aim),
    (second.aim? _).trans takes'.aim, ?_, ?_, ?_⟩
  · rw [FileTree.sameFile_store hls, FileTree.sameFile_store hlc]
    refine ⟨fun apart => apart path hp lc ls takes.aim ((first.aim? _).symm.trans takes'.aim), ?_⟩
    intro two path' hp' lc' ls' hlc' hls'
    obtain rfl := Option.mem_unique hp' hp
    rw [← first.aim?] at hls'
    rwa [Option.some.inj (hlc'.symm.trans takes.aim), Option.some.inj (hls'.symm.trans takes'.aim)]
  · rw [FileTree.contentsAt?_store hls, if_pos (.inl rfl)]
  · rw [FileTree.contentsAt?_store hls, FileTree.contentsAt?_store hlc]
    simp only [FileTree.sameFile_store hls, FileTree.sameFile_store hlc]
    by_cases one : t.SameFile lc ls
    · rw [if_pos one.symm, if_pos one]
    · rw [if_neg fun same => one same.symm, if_pos (.inl rfl), if_neg one]

section

variable {h : Harness ν} {service : String} {path : Path} {t : FileTree} {lc ls : Location}
  {config description : Bytes} (hp : h.configPath = some path) (hc : t.target? path = some lc)
  (hs : t.target? (h.serviceFile service) = some ls)
  (written : t.contentsAt? ls = some description)
  (removable : ¬ t.Refuses (h.serviceFile service))

include hs written removable

theorem released_of_written : (h.serviceGuard service).released t = .ok () := by
  simp [Guard.released, FileTree.remove_of_contentsAt? hs written removable]

theorem discard_of_written : t.discard (h.serviceFile service) = t.erase ls :=
  FileTree.discard_of_remove (FileTree.remove_of_contentsAt? hs written removable)

include hp hc

/-- A code is told if both files are there to be removed. -/
theorem conclusion_of_two (two : lc ≠ ls) (configured : t.contentsAt? lc = some config)
    (removable' : ¬ t.Refuses path) (c : Int32) : h.conclusion service (.code c) t = .done c := by
  have hc' := ((FileTree.sameGround_erase_of_contentsAt? written).target? path).trans hc
  have standing : (t.erase ls).contentsAt? lc = some config := by
    rw [FileTree.contentsAt?_erase (FileTree.ne_nil_of_target? hs), if_neg two, configured]
  have removable' : ¬ (t.erase ls).Refuses path := by
    rintro ⟨l, hl, barred⟩
    rw [hc'] at hl
    exact removable' ⟨l, hl ▸ hc, barred⟩
  have removed : h.configReleased (t.discard (h.serviceFile service)) = .ok () := by
    rw [discard_of_written hs written removable]
    simp [configReleased, configGuard?, hp, Guard.released,
      FileTree.remove_of_contentsAt? hc' standing removable']
  simp [conclusion, released_of_written hs written removable, removed]

/-- If both paths lead to one file, the second removal does not find it. -/
theorem conclusion_of_one (one : lc = ls) (c : Int32) :
    h.conclusion service (.code c) t = .failed (.io (some path) (.errno Errno.noEntry)) := by
  have hc' := ((FileTree.sameGround_erase_of_contentsAt? written).target? path).trans hc
  have gone : (t.erase ls).entryAt? lc = none := by
    rw [FileTree.entryAt?_erase (FileTree.ne_nil_of_target? hs), if_pos one]
  have missing : h.configReleased (t.discard (h.serviceFile service)) =
      .error (.io (some path) (.errno Errno.noEntry)) := by
    rw [discard_of_written hs written removable]
    simp [configReleased, configGuard?, hp, Guard.released, FileTree.remove_of_nothing hc' gone]
  simp [conclusion, released_of_written hs written removable, missing]

end

/-- Whether a file at a path has no other name, is not behind a link, and can be removed. -/
structure Removable (p : Path) (t : FileTree) : Prop where
  free : t.IsFree p
  unbarred : ¬ t.Refuses p

/-- What a path would be written at is what it is about, if it is so afterwards and all is kept. -/
theorem Kept.target?_of_aim? {p : Path} {t u : FileTree} (kept : Kept p t u) (free : u.IsFree p)
    {l : Location} (aim : t.aim? p = some l) : t.target? p = some l := by
  refine ((FileTree.aim?_of_notLink fun m hm target => ?_).mp aim).1
  rw [← kept.entry m hm]
  exact free.notLink m (kept.target.trans hm) target

namespace Stand

variable {h : Harness ν} {service : String} {host : Option String} {path : Path}
  {t u v : FileTree} {lc ls : Location} (stand : h.Stand service host path t u lc ls)

include stand

theorem read_config_of_one (one : u.SameFile lc ls) : u.read path = .ok (Utf8.encode h.serviceText) := by
  have configured := stand.configured
  rw [if_pos one] at configured
  exact FileTree.read_of_contentsAt? stand.config configured

/-- The configuration is read at its path exactly if no description has been written over it. -/
theorem read_config :
    u.read path = .ok (Utf8.encode (h.configText (h.effectiveHost host))) ↔ ¬ u.SameFile lc ls := by
  constructor
  · intro read one
    rw [stand.read_config_of_one one] at read
    have same := Utf8.eq_of_encode_eq (Except.ok.inj read)
    exact ModuleConfig.render_ne_serviceLine _ _ _ same.symm
  · intro two
    have configured := stand.configured
    rw [if_neg two] at configured
    exact FileTree.read_of_contentsAt? stand.config configured

theorem conclusion_of_kept (hp : h.configPath = some path) (keptConfig : Kept path u v)
    (keptService : Kept (h.serviceFile service) u v) (config : Removable path v)
    (description : Removable (h.serviceFile service) v) {verdict : Verdict} {c : Int32}
    (code : verdict = .code c) :
    (h.conclusion service verdict v = .done c ↔ ¬ u.SameFile lc ls) ∧
      (u.SameFile lc ls → h.conclusion service verdict v =
        .failed (.io (some path) (.errno Errno.noEntry))) := by
  subst code
  have uc := keptConfig.target?_of_aim? config.free stand.config
  have us := keptService.target?_of_aim? description.free stand.description
  have vc : v.target? path = some lc := keptConfig.target.trans uc
  have vs : v.target? (h.serviceFile service) = some ls := keptService.target.trans us
  have described : v.contentsAt? ls = some (Utf8.encode h.serviceText) :=
    (FileTree.contentsAt?_congr (keptService.entry ls us)).trans stand.described
  have configured := (FileTree.contentsAt?_congr (keptConfig.entry lc uc)).trans stand.configured
  -- The configuration has no other name, so one file is one location.
  have one_iff : u.SameFile lc ls ↔ lc = ls := by
    refine ⟨fun same => ?_, fun one => .inl one.symm⟩
    refine ((config.free lc vc).single ls (same.imp id fun ⟨serial, hc, hs⟩ => ⟨serial, ?_, ?_⟩)).symm
    · rwa [FileTree.serialAt?_of_entryAt? (keptConfig.entry lc uc)]
    · rwa [FileTree.serialAt?_of_entryAt? (keptService.entry ls us)]
  rw [one_iff]
  by_cases one : lc = ls
  · rw [conclusion_of_one hp vc vs described description.unbarred one]
    exact ⟨⟨nofun, fun two => absurd one two⟩, fun _ => rfl⟩
  · rw [conclusion_of_two hp vc vs described description.unbarred one configured config.unbarred]
    exact ⟨⟨fun _ => one, fun _ => rfl⟩, fun same => absurd same one⟩

end Stand

/-- **What the account module is shown, and what comes of it.** If both files can be written, the
checker is asked once. It finds the name of the host in the variable, and the description of the
service at its path. At the path of the configuration it finds the configuration exactly if that path
leads to another file, and otherwise the description again. If it leaves both files alone, neither of
which is behind a link, has another name or is barred from being removed, and answers with a code, then
the check ends with the code exactly if they are two files, and otherwise in an error about the
configuration, which is gone when it is to be removed. -/
theorem check_shows (h : Harness ν) {path : Path} (hp : h.configPath = some path) (user : String)
    {service : String} {host : Option String} {w : World ν}
    (ready : h.Reaches service host w.files) :
    ∃ call : Call ν,
      (∀ log, h.recorded.check user service host (w.recording log) =
        ((h.check user service host w).1,
          (h.check user service host w).2.recording (log ++ [call]))) ∧
      h.checker user service call.found = (call.verdict, call.left) ∧
      call.found.environment.get? hostVariable = some (Utf8.encode (h.effectiveHost host)) ∧
      call.found.files.read (h.serviceFile service) =
        .ok (Utf8.encode (ModuleConfig.serviceLine h.modulePath (some path))) ∧
      (call.found.files.read path =
        .ok (Utf8.encode (h.directory.withHost (h.effectiveHost host)).render) ↔
          h.Apart service w.files) ∧
      (¬ h.Apart service w.files → call.found.files.read path =
        .ok (Utf8.encode (ModuleConfig.serviceLine h.modulePath (some path)))) ∧
      (Kept path call.found.files call.left.files →
        Kept (h.serviceFile service) call.found.files call.left.files →
        Removable path call.left.files → Removable (h.serviceFile service) call.left.files →
        ∀ c, call.verdict = .code c →
          ((h.check user service host w).1 = .done c ↔ h.Apart service w.files) ∧
          (¬ h.Apart service w.files → (h.check user service host w).1 =
            .failed (.io (some path) (.errno Errno.noEntry)))) := by
  obtain ⟨calls, checks, recorded⟩ := h.check_checks user service host w
  have once : calls.length = 1 := checks.asked_iff.2.mpr ready
  generalize (h.check user service host w).1 = ending at checks recorded ⊢
  generalize (h.check user service host w).2 = after at checks recorded ⊢
  cases checks with
  | misnamed named => cases once
  | unexportable named nul => cases once
  | unconfigured named nul config => cases once
  | undescribed named nul config description => cases once
  | @asked t u verdict left named nul config description answer =>
    obtain ⟨lc, ls, stand⟩ := stand_of_written hp config description
    have hservice : h.serviceText = ModuleConfig.serviceLine h.modulePath (some path) := by
      rw [serviceText, hp]
    have hone : ¬ h.Apart service w.files ↔ u.SameFile lc ls := by
      rw [stand.apart, Classical.not_not]
    rw [hone, stand.apart, ← hservice]
    exact ⟨_, recorded, answer, by simp [found, Environment.get?_set, hostValue],
      FileTree.read_of_contentsAt? stand.description stand.described, stand.read_config,
      stand.read_config_of_one, fun keptConfig keptService config description c code =>
        stand.conclusion_of_kept hp keptConfig keptService config description code⟩

/-- A harness whose configuration is at a path, and whose checker changes nothing and allows. -/
def configuredAt (path : String) : Harness Unit :=
  { idle with configPath := some (Path.ofString path) }

theorem reaches_configuredAt {path : String} {l : Location}
    (config : prepared.files.aim? (Path.ofString path) = some l)
    (description : prepared.files.aim? ((configuredAt path).serviceFile "login") =
      some [Path.ofString "pam.d", Path.ofString "login"]) :
    (configuredAt path).Reaches "login" none prepared.files := by
  refine reaches_login rfl (fun p hp => ⟨l, ?_, rfl, rfl⟩) ⟨_, description, rfl, rfl⟩
  obtain rfl : Path.ofString path = p := Option.some.inj hp
  exact config

/-- The configuration may be in the folder of the services, under another name. -/
theorem check_shows_in_one_folder :
    (configuredAt "/pam.d/pam_hbac.conf").Reaches "login" none prepared.files ∧
      (configuredAt "/pam.d/pam_hbac.conf").Apart "login" prepared.files ∧
      ((configuredAt "/pam.d/pam_hbac.conf").check "alice" "login" none prepared).1 = .done 0 := by
  have config : prepared.files.aim? (Path.ofString "/pam.d/pam_hbac.conf") =
      some [Path.ofString "pam.d", Path.ofString "pam_hbac.conf"] := by decide +kernel
  have description : prepared.files.aim? ((configuredAt "/pam.d/pam_hbac.conf").serviceFile "login") =
      some [Path.ofString "pam.d", Path.ofString "login"] := by decide +kernel
  have ready : (configuredAt "/pam.d/pam_hbac.conf").Reaches "login" none prepared.files :=
    reaches_configuredAt config description
  have apart : (configuredAt "/pam.d/pam_hbac.conf").Apart "login" prepared.files := by
    intro path hp lc ls hlc hls
    obtain rfl : Path.ofString "/pam.d/pam_hbac.conf" = path := Option.some.inj hp
    obtain rfl := Option.some.inj (config.symm.trans hlc)
    obtain rfl := Option.some.inj (description.symm.trans hls)
    decide +kernel
  obtain ⟨call, recorded, answer, -, -, -, -, ending⟩ :=
    check_shows (configuredAt "/pam.d/pam_hbac.conf") rfl "alice" ready
  obtain ⟨code, same⟩ := Prod.mk.inj answer
  have files := congrArg World.files (found_of_recorded ready recorded)
  rw [← same] at ending
  have single : ∀ l, call.found.files.Free l := by
    rw [files]
    exact FileTree.free_of_all (by decide +kernel)
  have unbarred : call.found.files.bars = [] := by
    rw [files]
    decide +kernel
  have removable : ∀ p, Removable p call.found.files := fun p =>
    ⟨fun l _ => single l, FileTree.not_refuses_of_unbarred unbarred p⟩
  exact ⟨ready, apart, (ending ⟨rfl, fun _ _ => rfl⟩ ⟨rfl, fun _ _ => rfl⟩ (removable _) (removable _) 0
    code.symm).1.mpr apart⟩

/-- What describes a service whose configuration is at `/pam.d/login`. -/
def descriptionLine : Bytes :=
  Utf8.encode "account required /pam_hbac.so config=/pam.d/login\n"

/-- A configuration that is at the path of the description is lost: the account module is shown the
description in its place, and what it answers is not told. -/
theorem configured_at_description :
    (configuredAt "/pam.d/login").Reaches "login" none prepared.files ∧
      (configuredAt "/pam.d/login").Watches (fun _ => .code 0) ∧
      ((configuredAt "/pam.d/login").check "alice" "login" none prepared).1 =
        .failed (.io (some (Path.ofString "/pam.d/login")) (.errno Errno.noEntry)) ∧
      ∃ calls, (configuredAt "/pam.d/login").recorded.check "alice" "login" none
          (prepared.recording []) =
            (((configuredAt "/pam.d/login").check "alice" "login" none prepared).1,
              ((configuredAt "/pam.d/login").check "alice" "login" none prepared).2.recording calls) ∧
        calls.map (fun call => (configuredAt "/pam.d/login").sight call.user call.service call.found) =
          [⟨"alice", "login", some (Utf8.encode "client.ipa.test"), some descriptionLine,
            some descriptionLine⟩] := by
  have watches : (configuredAt "/pam.d/login").Watches fun _ => .code 0 := fun _ _ _ => rfl
  obtain ⟨ending, -, -, calls, recorded, shown⟩ := check_course watches "alice" "login" none prepared
  refine ⟨reaches_configuredAt (l := [Path.ofString "pam.d", Path.ofString "login"])
    (by decide +kernel) (by decide +kernel), watches, ?_, calls, recorded, ?_⟩
  · rw [ending, course, isServiceName_login]
    decide +kernel
  · rw [shown, course, isServiceName_login]
    decide +kernel

end Harness

end HostAccess
