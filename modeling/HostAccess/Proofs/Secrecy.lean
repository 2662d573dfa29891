import HostAccess.Proofs.Alike
import HostAccess.Proofs.ConfigText

/-!
# The password stays out of everything but its two channels

The password of the administrator goes to the server, in the form of a login, and to the account
module, in the configuration that stands during a check. Two runs that differ in the password alone
are told apart by these two and by nothing else, whatever the runs do. The server must not tell forms
apart, and the checker must not look into the configuration, nor cut its path off. And what is written
to that path must go to a file of one name that takes it as a whole and can be removed: else the
configuration, or a part of it, outlasts the check.
-/
namespace HostAccess

variable {ν : Type}

/-! ## Checkers that do not look -/

/-- Whether a checker makes nothing of what is in the configuration. -/
def Checker.Overlooks (checker : Checker ν) (config : Option Path) : Prop :=
  ∀ user service w v, World.Alike (config.bind w.files.target?) w v →
    (checker user service v).1 = (checker user service w).1 ∧
      World.Alike (config.bind w.files.target?) (checker user service w).2 (checker user service v).2

/-- Whether the place of the configuration is settled, if there is a configuration. -/
def FileTree.SettledAt (t : FileTree) (config : Option Path) : Prop := ∀ path ∈ config, t.Settled path

theorem FileTree.lasts_settledAt (config : Option Path) : Lasts fun t => t.SettledAt config where
  write := fun t p contents settled path hp => (lasts_settled path).write t p contents (settled path hp)
  discard := fun t p settled path hp => (lasts_settled path).discard t p (settled path hp)

namespace Harness

/-- Whether the checker leaves the place of the configuration settled, and does not cut off its path
from the configuration: if this is still there when it is to be removed, its path leads to it. -/
structure KeepsConfig (h : Harness ν) : Prop where
  settled : ∀ user service w, w.files.SettledAt h.configPath →
    (h.checker user service w).2.files.SettledAt h.configPath
  inReach : ∀ user service w l, w.files.HasFile (h.serviceFile service) →
    h.configTarget? w.files = some l →
      (((h.checker user service w).2.files.discard (h.serviceFile service)).contentsAt? l).isSome = true →
        h.configTarget? ((h.checker user service w).2.files.discard (h.serviceFile service)) = some l

/-- A checker that does nothing to the files does nothing to the place of the configuration. -/
theorem KeepsConfig.of_untouched {h : Harness ν}
    (untouched : ∀ user service w, (h.checker user service w).2.files = w.files) : h.KeepsConfig where
  settled := fun user service w settled => by
    rwa [untouched]
  inReach := fun user service w l file hl _ => by
    obtain ⟨path, hp, hpath⟩ := configTarget?_eq_some_iff.mp hl
    rw [untouched]
    exact configTarget?_eq_some_iff.mpr ⟨path, hp, FileTree.target?_discard_of_hasFile file hpath⟩

end Harness

/-! ## The password in the configuration -/

namespace ModuleConfig

/-- Whether two texts are the same but for the password in them. -/
def DifferInPassword (p q : String) (a b : Option Bytes) : Prop :=
  ∃ before after : List Char,
    a = some (Utf8.encode (String.ofList (before ++ Setting.bindPassword.line p ++ after))) ∧
      b = some (Utf8.encode (String.ofList (before ++ Setting.bindPassword.line q ++ after)))

/-- The password of a configuration is on a line of its own. -/
theorem render_bindPassword (c : ModuleConfig) : ∃ before after : List Char, ∀ password,
    ({ c with bindPassword := some password } : ModuleConfig).render =
      String.ofList (before ++ Setting.bindPassword.line password ++ after) := by
  refine ⟨(c.written [.uri, .base, .bindDn]).flatMap (· ++ ['\n']),
    '\n' :: (c.written [.certificate, .hostName]).flatMap (· ++ ['\n']), fun password => ?_⟩
  have hwritten : ({ c with bindPassword := some password } : ModuleConfig).written Setting.all =
      c.written [.uri, .base, .bindDn] ++ Setting.bindPassword.line password ::
        c.written [.certificate, .hostName] := by
    unfold written
    rw [show Setting.all = [.uri, .base, .bindDn] ++ .bindPassword :: [.certificate, .hostName] from rfl,
      List.filterMap_append, List.filterMap_cons]
    rfl
  rw [← String.ofList_toList (s := ModuleConfig.render _), render_eq_written, hwritten]
  simp

end ModuleConfig

namespace Harness

/-- The same harness under another password. -/
def withPassword (h : Harness ν) (password : String) : Harness ν :=
  { h with
    directory := { h.directory with bindPassword := some password }
    server := { h.server with password } }

/-! ## What a check puts in place and takes away -/

section

variable (h : Harness ν) (password : String) {hidden : Option Location} {t u : FileTree}

theorem layConfig_alike (host : Option String) (settled : t.SettledAt h.configPath) :
    FileTree.WrittenAlike (h.configTarget? t) (h.layConfig host t)
      ((h.withPassword password).layConfig host t) := by
  have hpath : (h.withPassword password).configPath = h.configPath := rfl
  unfold layConfig configTarget?
  rw [hpath]
  cases hp : h.configPath with
  | none => exact .refl none _
  | some path => exact ((settled path hp).write_alike _ _).mapError (Error.io (some path))

theorem layService_alike (service : String) (alike : u.under hidden = t.under hidden) :
    FileTree.WrittenAlike hidden (h.layService service t) (h.layService service u) :=
  (FileTree.write_of_under alike _ _).mapError (Error.io (some (h.serviceFile service)))

/-- A configuration that cannot be written leaves no trace at a settled place. -/
theorem eq_of_layConfig_error {h : Harness ν} {host : Option String} {e : Error}
    (settled : t.SettledAt h.configPath) (config : h.layConfig host t = .error (e, u)) : u = t := by
  obtain ⟨path, cause, hp, hw, -⟩ := layConfig_eq_error.mp config
  exact ((settled path hp).whole _).of_error hw

end

section

variable {hidden : Option Location} {t u : FileTree} (alike : u.under hidden = t.under hidden)

include alike

theorem removal_alike (g : Guard) :
    g.released u = g.released t ∧ g.complaints u = g.complaints t := by
  unfold Guard.released Guard.complaints
  obtain ⟨e, ht, hu⟩ | ⟨t', u', ht, hu, -⟩ := except_cases (FileTree.remove_of_under alike g.path)
  · rw [ht, hu]
    exact ⟨rfl, rfl⟩
  · rw [ht, hu]
    exact ⟨rfl, rfl⟩

variable (h : Harness ν)

theorem configRemoval_alike :
    h.configReleased u = h.configReleased t ∧ h.configComplaints u = h.configComplaints t := by
  unfold configReleased configComplaints
  cases h.configGuard? with
  | none => exact ⟨rfl, rfl⟩
  | some guard => exact removal_alike alike guard

theorem conclusion_alike (service : String) (verdict : Verdict) :
    h.conclusion service verdict u = h.conclusion service verdict t := by
  unfold conclusion
  rw [(removal_alike alike _).1,
    (configRemoval_alike (FileTree.discard_of_under alike (h.serviceFile service)) h).1]

theorem closingRecords_alike (user service : String) (host : Option String) (verdict : Verdict) :
    h.closingRecords user service host verdict u = h.closingRecords user service host verdict t := by
  unfold closingRecords
  rw [conclusion_alike alike, (removal_alike alike _).2,
    (configRemoval_alike (FileTree.discard_of_under alike (h.serviceFile service)) h).2]

/-- Without the configuration nothing is left to tell two trees apart. -/
theorem clearConfig_alike (settled : t.SettledAt h.configPath) (named : ∀ l, hidden = some l → l ≠ [])
    (reach : ∀ l, hidden = some l → (t.contentsAt? l).isSome = true → h.configTarget? t = some l) :
    h.clearConfig u = h.clearConfig t := by
  cases hidden with
  | none => rw [show u = t from alike]
  | some l =>
    unfold clearConfig
    cases hp : h.configPath with
    | some path =>
      refine FileTree.discard_eq_of_veil (named l rfl) alike fun hsome => ?_
      have hl := reach l rfl hsome
      rw [configTarget?, hp] at hl
      exact ⟨hl, (settled path hp).removable⟩
    | none =>
      have nothing : t.contentsAt? l = none := by
        refine Option.not_isSome_iff_eq_none.mp fun hsome => ?_
        have hl := reach l rfl hsome
        rw [configTarget?, hp] at hl
        cases hl
      exact FileTree.eq_of_veil_of_nothing (named l rfl) alike nothing

end

/-- What a check puts back is alike if what the checker left is and the files are the same. -/
theorem putBack_alike {hidden : Option Location} {w v a b : World ν} {t u : FileTree}
    {records records' : Journal} (alike : World.Alike none w v) (left : World.Alike hidden a b)
    (files : u = t) (same : records' = records) :
    World.Alike none (putBack w a t records) (putBack v b u records') := by
  refine ⟨files, ?_, ?_, left.wire, left.credential, left.outside⟩
  · simp only [putBack]
    rw [left.environment, alike.environment]
  · simp only [putBack]
    rw [left.journal, same]

/-- What a checker finds is alike under a veil over the configuration. -/
theorem found_alike (h : Harness ν) (password service : String) (host : Option String)
    {hidden : Option Location} {w v : World ν} {t u : FileTree} (alike : World.Alike none w v)
    (files : u.under hidden = t.under hidden) :
    World.Alike hidden (h.found service host t w) ((h.withPassword password).found service host u v) := by
  refine ⟨files, ?_, ?_, alike.wire, alike.credential, alike.outside⟩
  · simp only [found]
    rw [alike.environment]
    rfl
  · simp only [found]
    rw [alike.journal]
    rfl

/-! ## Checks -/

theorem ne_nil_of_configTarget? {h : Harness ν} {t : FileTree} {l : Location}
    (hl : h.configTarget? t = some l) : l ≠ [] := by
  obtain ⟨path, -, hpath⟩ := configTarget?_eq_some_iff.mp hl
  exact FileTree.ne_nil_of_target? hpath

section

variable (h : Harness ν) (password user service : String) (host : Option String)
  {w v : World ν} {t u : FileTree}

theorem exported_alike (alike : World.Alike none w v) :
    World.Alike none (h.exported host w) ((h.withPassword password).exported host v) := by
  refine ⟨alike.files, ?_, alike.journal, alike.wire, alike.credential, alike.outside⟩
  rw [exported, alike.environment]
  rfl

/-- The checker answers the same, leaves alike worlds, and keeps the configuration in place. -/
theorem answer_alike (overlooks : h.checker.Overlooks h.configPath) (keeps : h.KeepsConfig)
    (alike : World.Alike none w v) (s : FileTree.SameGround w.files t)
    (hidden : u.under (h.configTarget? w.files) = t.under (h.configTarget? w.files))
    (described : t.HasFile (h.serviceFile service)) (settled : t.SettledAt h.configPath) :
    let left := (h.checker user service (h.found service host t w)).2
    (h.checker user service ((h.withPassword password).found service host u v)).1 =
        (h.checker user service (h.found service host t w)).1 ∧
      World.Alike (h.configTarget? w.files) left
        (h.checker user service ((h.withPassword password).found service host u v)).2 ∧
      left.files.SettledAt h.configPath ∧
      ∀ l, h.configTarget? w.files = some l →
        ((left.files.discard (h.serviceFile service)).contentsAt? l).isSome = true →
          h.configTarget? (left.files.discard (h.serviceFile service)) = some l := by
  intro left
  have hconfig : h.configPath.bind (h.found service host t w).files.target? =
      h.configTarget? w.files := h.configTarget?_of_sameGround s
  have hfound := h.found_alike password service host alike hidden
  rw [← hconfig] at hfound
  obtain ⟨hverdict, hleft⟩ := overlooks user service _ _ hfound
  rw [hconfig] at hleft
  exact ⟨hverdict, hleft, keeps.settled user service _ settled,
    fun l hl => keeps.inReach user service _ l described (hconfig.trans hl)⟩

/-- What a check puts back after alike answers is alike. -/
theorem putBack_answer_alike {left left' : World ν} (verdict : Verdict)
    (alike : World.Alike none w v) (hleft : World.Alike (h.configTarget? w.files) left left')
    (settled : left.files.SettledAt h.configPath)
    (reach : ∀ l, h.configTarget? w.files = some l →
      ((left.files.discard (h.serviceFile service)).contentsAt? l).isSome = true →
        h.configTarget? (left.files.discard (h.serviceFile service)) = some l) :
    World.Alike none
      (putBack w left (h.clear service left.files)
        (h.closingRecords user service host verdict left.files))
      (putBack v left' (h.clear service left'.files)
        (h.closingRecords user service host verdict left'.files)) := by
  refine putBack_alike alike hleft ?_ (closingRecords_alike hleft.files h user service host verdict)
  exact clearConfig_alike (FileTree.discard_of_under hleft.files (h.serviceFile service)) h
    ((FileTree.lasts_settledAt h.configPath).discard _ _ settled) (fun _ => ne_nil_of_configTarget?) reach

end

/-- **A check agrees with itself under another password**, if its checker overlooks the configuration
and keeps it in place, and the place is settled. -/
theorem check_agree (h : Harness ν) (password : String) (overlooks : h.checker.Overlooks h.configPath)
    (keeps : h.KeepsConfig) (user service : String) (host : Option String) :
    Act.Agree (fun t => t.SettledAt h.configPath) (h.check user service host)
      ((h.withPassword password).check user service host) := by
  intro w v alike settled
  have lasts := FileTree.lasts_settledAt h.configPath
  obtain ⟨calls, checks, -⟩ := h.check_checks user service host w
  rw [← and_assoc]
  refine ⟨?_, checks.keeps lasts keeps.settled settled⟩
  have hfiles : v.files = w.files := alike.files
  cases named : isServiceName service with
  | false =>
    rw [check_of_misnamed named, check_of_misnamed named]
    exact ⟨rfl, alike⟩
  | true =>
    cases nul : Bytes.hasNul (h.hostValue host) with
    | true =>
      have nul' : Bytes.hasNul ((h.withPassword password).hostValue host) = true := nul
      rw [check_of_unexportable named nul, check_of_unexportable named nul']
      exact ⟨rfl, alike⟩
    | false =>
      have nul' : Bytes.hasNul ((h.withPassword password).hostValue host) = false := nul
      have hexported := h.exported_alike password host alike
      have configs := h.layConfig_alike password host settled
      generalize config : h.layConfig host w.files = laid at configs
      generalize config' : (h.withPassword password).layConfig host w.files = laid' at configs
      rw [← hfiles] at config'
      cases configs with
      | @error e t u hidden =>
        obtain rfl := eq_of_layConfig_error settled config
        have settled' : v.files.SettledAt (h.withPassword password).configPath := hfiles ▸ settled
        have unchanged : u = v.files := eq_of_layConfig_error settled' config'
        rw [check_of_unconfigured named nul config, check_of_unconfigured named nul' config']
        exact ⟨rfl, putBack_alike alike hexported (unchanged.trans hfiles) rfl⟩
      | @ok t u hidden =>
        have st := sameGround_layConfig config
        have laid : t.SettledAt h.configPath := lasts_layConfig lasts config settled
        have descriptions := h.layService_alike service hidden
        generalize description : h.layService service t = laid at descriptions
        generalize description' : h.layService service u = laid' at descriptions
        cases descriptions with
        | @error e t' u' hidden' =>
          have s : FileTree.SameGround t t' := by
            have s := h.sameGround_left_layService service t
            rwa [description] at s
          have described : t'.SettledAt h.configPath := lasts_layService lasts description laid
          rw [check_of_undescribed named nul config description,
            check_of_undescribed (h := h.withPassword password) named nul' config' description']
          refine ⟨rfl, putBack_alike alike hexported ?_ (configRemoval_alike hidden' h).2⟩
          refine clearConfig_alike hidden' h described (fun _ => ne_nil_of_configTarget?) fun l hl _ => ?_
          rwa [h.configTarget?_of_sameGround (st.trans s)]
        | @ok t' u' hidden' =>
          have s := sameGround_layService description
          have described : t'.SettledAt h.configPath := lasts_layService lasts description laid
          obtain ⟨hverdict, hleft, settledLeft, reach⟩ := h.answer_alike password user service host
            overlooks keeps alike (st.trans s) hidden'
            ⟨_, FileTree.read_of_write (layService_write description)⟩ described
          rw [check_of_asked named nul config description rfl,
            check_of_asked (h := h.withPassword password) named nul' config' description' rfl, hverdict]
          exact ⟨conclusion_alike hleft.files h service _,
            h.putBack_answer_alike user service host _ alike hleft settledLeft reach⟩

/-! ## What checkers find -/

/-- Whether two worlds are the same but for the password in the configuration. -/
structure SameButPassword (h : Harness ν) (p q : String) (a b : World ν) : Prop where
  alike : World.Alike (h.configTarget? a.files) a b
  config : ∀ l, h.configTarget? a.files = some l →
    b.files.contentsAt? l = a.files.contentsAt? l ∨
      ModuleConfig.DifferInPassword p q (a.files.contentsAt? l) (b.files.contentsAt? l)

/-- What is at the place of the configuration once both files are written: the configuration, unless
the description reaches that place. -/
theorem contentsAt?_configured {h : Harness ν} {service : String} {host : Option String}
    {t t' t'' : FileTree} (settled : t.SettledAt h.configPath) (config : h.layConfig host t = .ok t')
    (description : h.layService service t' = .ok t'') {l : Location}
    (hl : h.configTarget? t = some l) :
    (t.Reaches (h.serviceFile service) l → t''.contentsAt? l = some (Utf8.encode h.serviceText)) ∧
      (¬ t.Reaches (h.serviceFile service) l →
        t''.contentsAt? l = some (Utf8.encode (h.configText (h.effectiveHost host)))) := by
  obtain ⟨path, hp, hpath⟩ := configTarget?_eq_some_iff.mp hl
  have written := FileTree.contentsAt?_write (settled path hp).free (layConfig_write hp config) l
  rw [if_pos hpath] at written
  have reaches : t'.Reaches (h.serviceFile service) l ↔ t.Reaches (h.serviceFile service) l := by
    have left := h.reaches_left_layConfig host t (h.serviceFile service) l
    rwa [config] at left
  have hw := layService_write description
  constructor
  · intro reached
    obtain ⟨m, takes, rfl⟩ := FileTree.write_eq_ok_iff.mp hw
    obtain ⟨k, hk, same⟩ := reaches.mpr reached
    obtain rfl := Option.some.inj (takes.aim.symm.trans hk)
    rw [FileTree.contentsAt?_store (FileTree.ne_nil_of_aim? takes.aim), if_pos same]
  · intro unreached
    rw [FileTree.contentsAt?_congr (FileTree.entryAt?_write hw fun reached =>
      unreached (reaches.mp reached)), written]

section

variable {h : Harness ν} {p q user service : String} {host : Option String} {w v : World ν}

theorem found_sameButPassword {t u t' u' : FileTree} (alike : World.Alike none w v)
    (settled : w.files.SettledAt h.configPath)
    (config : (h.withPassword p).layConfig host w.files = .ok t)
    (config' : (h.withPassword q).layConfig host v.files = .ok u)
    (description : (h.withPassword p).layService service t = .ok t')
    (description' : (h.withPassword q).layService service u = .ok u') :
    h.SameButPassword p q ((h.withPassword p).found service host t' w)
      ((h.withPassword q).found service host u' v) := by
  have hfiles : v.files = w.files := alike.files
  rw [hfiles] at config'
  have sd := (sameGround_layConfig config).trans (sameGround_layService description)
  have hconfig : h.configTarget? t' = h.configTarget? w.files := h.configTarget?_of_sameGround sd
  have configs := (h.withPassword p).layConfig_alike q host settled
  rw [config, show ((h.withPassword p).withPassword q).layConfig host w.files = .ok u from config']
    at configs
  cases configs with
  | ok hidden =>
    have descriptions := (h.withPassword p).layService_alike service hidden
    rw [description, show (h.withPassword p).layService service u = .ok u' from description']
      at descriptions
    cases descriptions with
    | ok hidden' =>
      refine ⟨?_, fun l hl => ?_⟩
      · rw [show ((h.withPassword p).found service host t' w).files = t' from rfl, hconfig]
        exact (h.withPassword p).found_alike q service host alike hidden'
      · have hl' : h.configTarget? w.files = some l := hconfig.symm.trans hl
        obtain ⟨described, configured⟩ :=
          contentsAt?_configured (h := h.withPassword p) settled config description hl'
        obtain ⟨described', configured'⟩ :=
          contentsAt?_configured (h := h.withPassword q) settled config' description' hl'
        by_cases reached : w.files.Reaches (h.serviceFile service) l
        -- If the description reaches the place, it has been written over the configuration.
        · exact .inl ((described' reached).trans (described reached).symm)
        · obtain ⟨before, after, render⟩ :=
            (h.directory.withHost (h.effectiveHost host)).render_bindPassword
          refine .inr ⟨before, after, (configured reached).trans ?_, (configured' reached).trans ?_⟩
          · exact congrArg (some ∘ Utf8.encode) (render p)
          · exact congrArg (some ∘ Utf8.encode) (render q)

theorem reaches_withPassword (q : String) {t : FileTree} (settled : t.SettledAt h.configPath)
    (ready : (h.withPassword p).Reaches service host t) :
    (h.withPassword q).Reaches service host t := by
  refine ⟨⟨ready.nonempty, ready.plain, ready.exportable, fun path hp => ?_⟩, ready.description⟩
  exact (settled path hp).writable (ready.config path hp) _

/-- Under two passwords the checker is asked the same, and finds worlds that are the same but for the
password in the configuration. -/
theorem calls_alike (alike : World.Alike none w v) (settled : w.files.SettledAt h.configPath)
    {calls calls' : List (Call ν)} {ending ending' : Ending Int32} {after after' : World ν}
    (c : Checks (h.withPassword p) user service host w calls ending after)
    (c' : Checks (h.withPassword q) user service host v calls' ending' after') :
    List.Forall₂ (fun a b : Call ν => a.user = b.user ∧ a.service = b.service ∧
      h.SameButPassword p q a.found b.found) calls calls' := by
  have hfiles : v.files = w.files := alike.files
  have both : calls.length = 1 ↔ calls'.length = 1 := by
    rw [c.asked_iff.2, c'.asked_iff.2, hfiles]
    exact ⟨reaches_withPassword q settled, reaches_withPassword p settled⟩
  have silent : calls.length ≠ 1 → calls = [] ∧ calls' = [] := by
    intro hne
    have hne' : calls'.length ≠ 1 := fun hc => hne (both.mpr hc)
    have hle := c.asked_iff.1
    have hle' := c'.asked_iff.1
    exact ⟨List.eq_nil_of_length_eq_zero (by omega), List.eq_nil_of_length_eq_zero (by omega)⟩
  by_cases once : calls.length = 1
  · have once' := both.mp once
    cases c with
    | misnamed named => cases once
    | unexportable named nul => cases once
    | unconfigured named nul config => cases once
    | undescribed named nul config description => cases once
    | asked named nul config description answer =>
      cases c' with
      | misnamed named => cases once'
      | unexportable named nul => cases once'
      | unconfigured named nul config => cases once'
      | undescribed named nul config description => cases once'
      | asked named' nul' config' description' answer' =>
        have found := found_sameButPassword alike settled config config' description description'
        exact .cons ⟨rfl, rfl, found⟩ .nil
  · obtain ⟨rfl, rfl⟩ := silent once
    exact .nil

end

/-! ## Questions -/

/-- The questions that the checker is asked for a question to the harness. -/
def Question.asked (h : Harness ν) (question : Question) (w : World ν) : List (Call ν) :=
  (question.ask h.recorded (w.recording [])).2.outside.2

theorem Question.asked_checks (h : Harness ν) (question : Question) (w : World ν) :
    Checks h question.user question.service question.host w (question.asked h w)
      (h.check question.user question.service question.host w).1
      (h.check question.user question.service question.host w).2 := by
  obtain ⟨calls, checks, recorded⟩ :=
    h.check_checks question.user question.service question.host w
  have hcalls : question.asked h w = calls := by
    unfold asked
    rw [question.ask_eq h.recorded, recorded []]
    rfl
  rwa [hcalls]

theorem Question.ask_agree (h : Harness ν) (password : String)
    (overlooks : h.checker.Overlooks h.configPath) (keeps : h.KeepsConfig) (question : Question) :
    Act.Agree (fun t => t.SettledAt h.configPath) (question.ask h)
      (question.ask (h.withPassword password)) := by
  intro w v alike settled
  obtain ⟨ending, after, files⟩ := h.check_agree password overlooks keeps question.user
    question.service question.host w v alike settled
  rw [question.ask_eq, question.ask_eq, ending]
  refine ⟨?_, after, files⟩
  cases question <;> rfl

theorem leftovers_agree {safe : FileTree → Prop} (h : Harness ν) (password : String) :
    Act.Agree safe h.leftovers (h.withPassword password).leftovers := by
  intro w v alike files
  have hfiles : v.files = w.files := alike.files
  have hpattern : (h.withPassword password).leftoverPattern = h.leftoverPattern := rfl
  unfold leftovers
  rw [hfiles, hpattern]
  cases Utf8.decode? h.leftoverPattern with
  | none => exact ⟨rfl, alike, files⟩
  | some pattern =>
    simp only
    cases Glob.search w.files pattern with
    | error fault => exact ⟨rfl, alike, files⟩
    | ok found => exact ⟨rfl, alike, files⟩

end Harness

/-! ## Every operation -/

/-- The same rig under another password. -/
def Rig.withPassword (r : Rig ν) (password : String) : Rig ν :=
  { r with settings := { r.settings with server := { r.settings.server with password } } }

/-- Whether a rig's server does not tell forms apart, and its checker neither looks into the
configuration nor gets in the way of its removal. -/
structure Rig.IsDiscreet (r : Rig ν) : Prop where
  deaf : r.network.IsDeaf
  overlooks : r.checker.Overlooks r.settings.configPath
  keeps : r.harness.KeepsConfig

namespace Operation

open Act

section

variable {r : Rig ν} (discreet : r.IsDiscreet) (password : String) (held : Held)

include discreet

theorem withClient_agree {safe : FileTree → Prop} {x : Client ν → Act ν (Answer × Held)}
    (hx : ∀ c : Client ν, c.network.IsDeaf → Agree safe (x c) (x (c.withPassword password))) :
    Agree safe (withClient r held x) (withClient (r.withPassword password) held x) := by
  unfold withClient
  cases held.connected with
  | some url => exact hx (r.client url) discreet.deaf
  | none => exact .done _

theorem act_agree (op : Operation) :
    Agree (fun t => t.SettledAt r.settings.configPath) (op.act r held)
      (op.act (r.withPassword password) held) := by
  have lasts := FileTree.lasts_settledAt r.settings.configPath
  have guarded : ∀ (index : Nat) (x : Guard → Act ν Unit),
      (∀ g, Agree (fun t => t.SettledAt r.settings.configPath) (x g) (x g)) →
        Agree (fun t => t.SettledAt r.settings.configPath) (withGuard held index x)
          (withGuard held index x) := by
    intro index x hx
    unfold withGuard
    cases held.guards[index]? with
    | some guard => exact (hx guard).bind fun _ => .done _
    | none => exact .done _
  cases op with
  | load lookup =>
    refine (Agree.loading fun w v alike => ?_).bind fun settings => .done _
    rw [show v.files = w.files from alike.files]
  | loadEnvironment =>
    refine (Agree.loading fun w v alike => ?_).bind fun settings => .done _
    rw [show v.files = w.files from alike.files, alike.environment]
  | parse text => exact (Agree.ofExcept _).bind fun c => .done _
  | connect url =>
    have hconnect : Agree (fun t => t.SettledAt r.settings.configPath) (r.connect url)
        ((r.withPassword password).connect url) := by
      rw [r.connect_eq, (r.withPassword password).connect_eq]
      exact (Agree.trusting _).bind fun _ => (Agree.setCredential none).bind fun _ => .done _
    exact hconnect.bind fun address => .done _
  | session op =>
    exact withClient_agree discreet password held fun c deaf =>
      (op.act_agree password deaf).bind fun answer => .done (answer, held)
  | object op =>
    exact withClient_agree discreet password held fun c deaf =>
      (op.act_agree password deaf).bind fun _ => .done (Answer.nothing, held)
  | fixture slot op =>
    exact withClient_agree discreet password held fun c deaf =>
      (op.act_agree password deaf (held.fixtures slot)).bind fun (answer, f) =>
        .done (answer, { held with fixtures := Function.update held.fixtures slot f })
  | teardown slot =>
    exact withClient_agree discreet password held fun c deaf =>
      (Fixtures.teardown_agree password deaf _).bind fun _ => .done _
  | dropFixtures slot =>
    exact withClient_agree discreet password held fun c deaf =>
      (Fixtures.drop_agree password deaf _).bind fun _ => .done _
  | fetch path =>
    exact (Certificate.fetchFrom_agree lasts discreet.deaf _ _).bind fun guard => .done _
  | fetchFrom url path =>
    exact (Certificate.fetchFrom_agree lasts discreet.deaf _ _).bind fun guard => .done _
  | create path contents => exact (Guard.create_agree lasts _ _ _).bind fun guard => .done _
  | release index => exact guarded index _ fun g => g.release_eq ▸ .removeFile lasts _
  | dropGuard index => exact guarded index _ (Guard.drop_agree lasts)
  | ask question =>
    exact (question.ask_agree r.harness password discreet.overlooks discreet.keeps).bind
      fun value => .done _
  | leftovers => exact (r.harness.leftovers_agree password).bind fun found => .done _

end

end Operation

/-! ## Runs -/

/-- Two stages of runs that nothing but their forms tells apart. -/
structure Stage.Alike (s t : Stage ν) : Prop where
  held : t.held = s.held
  world : World.Alike none s.world t.world

theorem Operation.perform_agree {r : Rig ν} (discreet : r.IsDiscreet) (password : String)
    (op : Operation) {s t : Stage ν} (alike : s.Alike t)
    (settled : s.world.files.SettledAt r.settings.configPath) :
    (op.perform (r.withPassword password) t).1 = (op.perform r s).1 ∧
      (op.perform r s).2.Alike (op.perform (r.withPassword password) t).2 ∧
      (op.perform r s).2.world.files.SettledAt r.settings.configPath := by
  obtain ⟨ending, after, files⟩ :=
    op.act_agree discreet password s.held s.world t.world alike.world settled
  unfold Operation.perform
  rw [alike.held]
  generalize op.act r s.held s.world = ran at ending after files
  generalize op.act (r.withPassword password) s.held t.world = ran' at ending after
  obtain ⟨e, w⟩ := ran
  obtain ⟨e', v⟩ := ran'
  obtain rfl : e' = e := ending
  cases e' with
  | done value => exact ⟨rfl, ⟨rfl, after⟩, files⟩
  | failed cause => exact ⟨rfl, ⟨rfl, after⟩, files⟩
  | panicked p => exact ⟨rfl, ⟨rfl, after⟩, files⟩

namespace Rig

theorem run_agree {r : Rig ν} (discreet : r.IsDiscreet) (password : String) (ops : List Operation)
    {s t : Stage ν} (alike : s.Alike t) (settled : s.world.files.SettledAt r.settings.configPath) :
    (r.run ops s).Alike ((r.withPassword password).run ops t) ∧
      (r.run ops s).world.files.SettledAt r.settings.configPath := by
  induction ops generalizing s t with
  | nil => exact ⟨alike, settled⟩
  | cons op rest ih =>
    obtain ⟨-, after, files⟩ := op.perform_agree discreet password alike settled
    exact ih after files

theorem IsDiscreet.withPassword {r : Rig ν} (discreet : r.IsDiscreet) (password : String) :
    (r.withPassword password).IsDiscreet where
  deaf := discreet.deaf
  overlooks := discreet.overlooks
  keeps := ⟨discreet.keeps.settled, discreet.keeps.inReach⟩

/-- **The password stays out of everything but its two channels**, if at first the place of the
configuration is settled. Of two runs that differ in the password alone, each operation ends the same,
and after any number of operations what is held, the files, the variables, the credential, what is
shown of the journal and the requests are the same, but for the bodies of the forms. While a check
runs, the checker finds the same but for the password in the configuration. A description of the server
is the same. -/
theorem password_kept {r : Rig ν} (discreet : r.IsDiscreet) (p q : String) (ops : List Operation)
    (s : Stage ν) (settled : s.world.files.SettledAt r.settings.configPath) :
    let one := (r.withPassword p).run ops s
    let other := (r.withPassword q).run ops s
    (∀ op : Operation,
      (op.perform (r.withPassword q) other).1 = (op.perform (r.withPassword p) one).1) ∧
    other.held = one.held ∧ other.world.files = one.world.files ∧
    other.world.environment = one.world.environment ∧
    other.world.credential = one.world.credential ∧
    (∀ threshold, other.world.journal.render threshold = one.world.journal.render threshold) ∧
    other.world.wire.map Http.Exchange.masked = one.world.wire.map Http.Exchange.masked ∧
    (∀ question : Harness.Question, List.Forall₂
      (fun a b : Call ν => a.user = b.user ∧ a.service = b.service ∧
        r.harness.SameButPassword p q a.found b.found)
      (question.asked (r.withPassword p).harness one.world)
      (question.asked (r.withPassword q).harness other.world)) ∧
    (r.withPassword q).settings.server.describe = (r.withPassword p).settings.server.describe := by
  intro one other
  have kept := discreet.withPassword p
  obtain ⟨alike, files⟩ : one.Alike other ∧ one.world.files.SettledAt r.settings.configPath :=
    run_agree kept q ops ⟨rfl, .refl none s.world⟩ settled
  have journal := alike.world.journal
  refine ⟨fun op => (Operation.perform_agree kept q op alike files).1, alike.held, alike.world.files,
    alike.world.environment, alike.world.credential, fun threshold => by rw [journal],
    alike.world.wire, fun question => ?_, rfl⟩
  exact Harness.calls_alike (h := r.harness) alike.world files (question.asked_checks _ _)
    (question.asked_checks _ _)

/-! ## Examples -/

theorem forTests_isDeaf (configPath : Path) (checker : Checker Unit) :
    (Rig.forTests configPath checker).network.IsDeaf := fun _ _ _ _ => rfl

/-- Allows everyone on a host that is told. -/
def hostChecker : Checker Unit := fun _ _ w =>
  (if (w.environment.get? Harness.hostVariable).isSome then .code 0 else .panic "no host", w)

def discreet : Rig Unit := .forTests (Path.ofString "/pam_hbac.conf") hostChecker

theorem discreet_isDiscreet : discreet.IsDiscreet where
  deaf := forTests_isDeaf _ _
  overlooks := fun user service w v alike => by
    refine ⟨?_, alike⟩
    simp only [discreet, Rig.forTests, hostChecker]
    rw [alike.environment]
  keeps := .of_untouched fun _ _ _ => rfl

def ready : Stage Unit := ⟨.nothing, Harness.prepared⟩

/-- Every place is settled in a tree without links, further names and bars. -/
theorem settledAt_of_all {t : FileTree} (single : t.entries.all (fun e => FileTree.isSingle e.2) = true)
    (unbarred : t.bars = []) (config : Option Path) : t.SettledAt config := fun path _ =>
  { free := fun l _ => FileTree.free_of_all single l
    removable := FileTree.not_refuses_of_unbarred unbarred path
    roomy := fun l _ => by rw [FileTree.barsAt_of_unbarred unbarred] }

/-- Two logins under two passwords are different requests, and the same but for their forms. -/
theorem password_kept_logins :
    ((discreet.withPassword "beta").run [.connect none, .session .authenticate] ready).world.wire ≠
      ((discreet.withPassword "alpha").run [.connect none, .session .authenticate] ready).world.wire ∧
    ((discreet.withPassword "beta").run [.connect none, .session .authenticate] ready).world.wire.map
        Http.Exchange.masked =
      ((discreet.withPassword "alpha").run
        [.connect none, .session .authenticate] ready).world.wire.map Http.Exchange.masked :=
  ⟨by decide +kernel, (password_kept discreet_isDiscreet "alpha" "beta"
    [.connect none, .session .authenticate] ready (settledAt_of_all rfl rfl _)).2.2.2.2.2.2.1⟩

def worldOf (t : FileTree) : World Unit := { Harness.prepared with files := t }

/-- The files after a check under a password. -/
def filesAfterCheck (r : Rig Unit) (password : String) (t : FileTree) : FileTree :=
  ((r.withPassword password).run [.ask (.check "alice" "login" none)] ⟨.nothing, worldOf t⟩).world.files

theorem run_ask (r : Rig ν) (question : Harness.Question) (s : Stage ν) :
    (r.run [.ask question] s).world =
      (r.harness.check question.user question.service question.host s.world).2 := by
  have hworld : (question.ask r.harness s.world).2 =
      (r.harness.check question.user question.service question.host s.world).2 := by
    rw [question.ask_eq]
  rw [← hworld]
  simp only [run, List.foldl_cons, List.foldl_nil, Operation.perform, Operation.act_ask, Act.bind_apply]
  generalize question.ask r.harness s.world = ran
  obtain ⟨ending, w⟩ := ran
  cases ending <;> rfl

/-- A tree in which something can be written to the folder of the services and to `/pam_hbac.conf`. -/
def hindered (entries : List (Location × Entry)) (bars : List (Location × Bars)) : FileTree where
  entries := ([Path.ofString "pam.d"], .folder) :: entries
  home := []
  bars := bars

/-- Trees in which the place of the configuration is not settled: a link is there, or a file that has
another name, or the system refuses to remove what is there, or takes only a part of it. -/
def hindrances : List FileTree :=
  [hindered [([Path.ofString "pam_hbac.conf"], .link (Path.ofString "third"))] [],
    hindered [([Path.ofString "pam_hbac.conf"], .file [] ⟨false, some 0⟩),
      ([Path.ofString "third"], .file [] ⟨false, some 0⟩)] [],
    hindered [] [([Path.ofString "pam_hbac.conf"], { removal := some Errno.notPermitted })],
    hindered [] [([Path.ofString "pam_hbac.conf"], { filling := some (140, 28) })]]

/-- Removes a folder, and looks at nothing. -/
def folderRemover : Checker Unit := fun _ _ w =>
  (.code 0, { w with files := w.files.prune [Path.ofString "a"] })

/-- A rig whose configuration is reached by a path through the folder that is removed. -/
def roundabout : Rig Unit := .forTests (Path.ofString "/a/../c.conf") folderRemover

def withFolder : FileTree := hindered [([Path.ofString "a"], .folder)] []

theorem roundabout_reaches (password : String) :
    (roundabout.withPassword password).harness.Reaches "login" none withFolder := by
  have host : roundabout.harness.defaultHost = "client.ipa.test" := by decide +kernel
  have description : withFolder.aim? (roundabout.harness.serviceFile "login") =
      some [Path.ofString "pam.d", Path.ofString "login"] := by decide +kernel
  refine Harness.reaches_login host (fun path hp => ⟨[Path.ofString "c.conf"], ?_, rfl, rfl⟩)
    ⟨_, description, rfl, rfl⟩
  obtain rfl : Path.ofString "/a/../c.conf" = path := Option.some.inj hp
  decide +kernel

theorem roundabout_answers (password : String) (w : World Unit) :
    (roundabout.withPassword password).harness.checker "alice" "login" w =
      (.code 0, { w with files := w.files.prune [Path.ofString "a"] }) := rfl

/-- A check can leave the configuration behind, with the password in it: where its place is not settled,
and also where it is, if the checker has cut its path off by the time that it is to be removed. -/
theorem password_left_behind :
    (discreet.IsDiscreet ∧ ∀ t ∈ hindrances,
      (discreet.filesAfterCheck "alpha" t).entries ≠ (discreet.filesAfterCheck "beta" t).entries) ∧
    roundabout.network.IsDeaf ∧ roundabout.checker.Overlooks roundabout.settings.configPath ∧
      withFolder.SettledAt roundabout.settings.configPath ∧
      (roundabout.filesAfterCheck "alpha" withFolder).entries ≠
        (roundabout.filesAfterCheck "beta" withFolder).entries := by
  have watches : ∀ password, (discreet.withPassword password).harness.Watches fun s =>
      if s.hostName.isSome then .code 0 else .panic "no host" := fun _ _ _ _ => rfl
  have checked : ∀ password t, discreet.filesAfterCheck password t =
      ((discreet.withPassword password).harness.course
        (fun s => if s.hostName.isSome then .code 0 else .panic "no host") "alice" "login" none t).left :=
    fun password t => by
      rw [filesAfterCheck, run_ask]
      exact (Harness.check_course (watches password) "alice" "login" none _).2.1
  have cut : ∀ password, roundabout.filesAfterCheck password withFolder =
      (roundabout.withPassword password).harness.clear "login"
        (((roundabout.withPassword password).harness.laid "login" none withFolder).prune
          [Path.ofString "a"]) := fun password => by
    rw [filesAfterCheck, run_ask]
    simp only [Harness.Question.user, Harness.Question.service, Harness.Question.host]
    rw [Harness.check_of_reaches (w := worldOf withFolder) (roundabout_reaches password)
      (roundabout_answers password _)]
    simp only [Harness.putBack, Harness.found, worldOf]
  refine ⟨⟨discreet_isDiscreet, ?_⟩, forTests_isDeaf _ _, fun user service w v alike => ⟨rfl, ?_⟩,
    settledAt_of_all rfl rfl _, ?_⟩
  · simp only [checked, Harness.course, Harness.isServiceName_login]
    decide +kernel
  · exact ⟨FileTree.prune_of_under alike.files _, alike.environment, alike.journal,
      alike.wire, alike.credential, alike.outside⟩
  · rw [cut, cut]
    decide +kernel

end Rig

end HostAccess
