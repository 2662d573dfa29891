import HostAccess.Proofs.Cleanup
import HostAccess.Proofs.LowerCase
import HostAccess.Proofs.Objects
import HostAccess.Proofs.Operations
import HostAccess.Proofs.Settings

/-!
# One name for a host

The domain of loaded settings is in lower case, so a name that the domain has been added to carries
it, whatever the name was, and is not given it again. Hence a host goes by one name in the commands of
a client and in the checks of a harness, whether it is asked for by a short name or by the full one.
-/
namespace HostAccess

/-! ## Full names -/

namespace Identity

theorem carries_iff {id : Identity} {host : String} :
    id.carries host = true ↔ id.suffix.toList <:+ (Text.lower host).toList :=
  List.isSuffixOf_iff_suffix

theorem qualify_eq (id : Identity) (host : String) :
    id.qualify host = host ∨ id.qualify host = host ++ id.suffix := by
  unfold qualify
  split
  · exact .inl rfl
  · exact .inr rfl

section

variable {id : Identity} (low : ∀ c ∈ id.domain.toList, Text.Case.IsLow c)

include low

theorem isLow_suffix : ∀ c ∈ id.suffix.toList, Text.Case.IsLow c := by
  intro c hc
  rw [suffix, String.toList_append] at hc
  obtain dot | label := List.mem_append.mp hc
  · obtain rfl : c = '.' := by simpa using dot
    exact Text.Case.isLow_of_image? (by decide) (by decide)
  · exact low c label

/-- A full name carries the domain, if the domain is in lower case. -/
theorem carries_qualify (host : String) : id.carries (id.qualify host) = true := by
  unfold qualify
  split
  · assumption
  · exact carries_iff.mpr (Text.suffix_lower_append (isLow_suffix low) host)

theorem qualify_qualify (host : String) : id.qualify (id.qualify host) = id.qualify host :=
  if_pos (carries_qualify low host)

end

theorem nul_not_mem_qualify {id : Identity} {host : String} (hostPart : Char.ofNat 0 ∉ host.toList)
    (domain : Char.ofNat 0 ∉ id.domain.toList) : Char.ofNat 0 ∉ (id.qualify host).toList := by
  obtain h | h := id.qualify_eq host
  · rwa [h]
  · have hdot : Char.ofNat 0 ≠ '.' := by decide
    rw [h, suffix]
    simp [hostPart, domain, hdot]

end Identity

theorem Settings.Gives.isLow_domain {files : FileTree} {lookup : Settings.Lookup} {s : Settings}
    (g : Settings.Gives files lookup s) : ∀ c ∈ s.server.domain.toList, Text.Case.IsLow c := by
  obtain ⟨domain, -, hdomain⟩ := Option.map_eq_some_iff.mp g.domain
  rw [← hdomain]
  exact fun c hc => Text.isLow_of_mem_lower hc

/-! ## Where a host is named -/

/-- Whether a host that is asked for as `given` goes by the name `full`: when a client creates it,
removes it, or makes it a member among others, and when a harness makes a check for it. -/
structure GoesBy {ν : Type} (c : Client ν) (h : Harness ν) (given full : String) : Prop where
  added : c.Says ((Object.named c.identity .host given).add c)
    (Object.said .host "add" full [("force", .bool true)])
  removed : c.Says ((Object.named c.identity .host given).remove c) (Object.said .host "del" full [])
  member : ∀ m : Membership, m.isOfHosts = true → ∀ name before after groups, ∃ options,
    c.Says (Object.addMembers c m name ⟨before ++ given :: after, groups⟩)
      (Object.said m.kind m.action name options) ∧
    options.lookup "host" = some (Json.Value.texts
      (before.map c.identity.qualify ++ full :: after.map c.identity.qualify))
  effective : h.effectiveHost (some given) = full
  /-- The checker finds the name in the variable of the host. -/
  shown : ∀ user service w, ∃ calls : List (Call ν),
    (∀ log, h.recorded.check user service (some given) (w.recording log) =
      ((h.check user service (some given) w).1,
        (h.check user service (some given) w).2.recording (log ++ calls))) ∧
    (calls.length = 1 ↔ h.Reaches service (some given) w.files) ∧
    ∀ call ∈ calls, call.found.environment.get? Harness.hostVariable = some (Utf8.encode full)

namespace Harness

variable {ν : Type}

/-- The checker finds the host that the check is made for in the variable of the host. -/
theorem Checks.shows_host {h : Harness ν} {user service : String} {host : Option String}
    {w after : World ν} {calls : List (Call ν)} {ending : Ending Int32}
    (c : Checks h user service host w calls ending after) {call : Call ν} (hm : call ∈ calls) :
    call.found.environment.get? hostVariable = some (h.hostValue host) := by
  cases c with
  | misnamed named => cases hm
  | unexportable named nul => cases hm
  | unconfigured named nul config => cases hm
  | undescribed named nul config description => cases hm
  | asked named nul config description answer =>
    obtain rfl := List.mem_singleton.mp hm
    simp [found, Environment.get?_set]

end Harness

/-- A host goes by its full name with a client and a harness of one identity. -/
theorem goesBy_qualify {ν : Type} {c : Client ν} {h : Harness ν} (same : c.identity = h.server)
    (given : String) : GoesBy c h given (h.server.qualify given) := by
  have hname : (Object.named c.identity .host given).name = h.server.qualify given := by
    rw [same]
    rfl
  refine ⟨?_, ?_, fun m hosts name before after groups => ?_, rfl, fun user service w => ?_⟩
  · rw [← hname]
    exact Object.says_add c (.named c.identity .host given)
  · rw [← hname]
    exact Object.says_remove c (.named c.identity .host given)
  · have hkey : m.directKey = "host" := by
      cases m with
      | hostInGroup | hostOfRule => rfl
      | userInGroup | serviceInGroup | userOfRule | serviceOfRule => cases hosts
    obtain ⟨options, one, told⟩ := Object.says_addMembers_hosts c hosts name
      ⟨before ++ given :: after, groups⟩ (by simp)
    refine ⟨options, one, ?_⟩
    rw [← hkey, told, List.map_append, List.map_cons, same]
  · obtain ⟨calls, checks, recorded⟩ := h.check_checks user service (some given) w
    exact ⟨calls, recorded, checks.asked_iff.2, fun call hm => checks.shows_host hm⟩

/-- **A host goes by one name everywhere.** With settings that were loaded, the full name of a host is
the host, or the host with the domain added; it carries the domain, and it is its own full name. Every
client and every harness of these settings names the host by it, whether the short name is asked for
or the full one. A check can be made for it if neither the host nor the domain holds a NUL. -/
theorem one_host_name {files : FileTree} {lookup : Settings.Lookup} {s : Settings}
    (loaded : Settings.load files lookup = .ok s) (host : String) :
    (s.server.qualify host = host ∨
      s.server.qualify host = host ++ "." ++ s.server.domain) ∧
    ("." ++ s.server.domain).toList <:+ (Text.lower (s.server.qualify host)).toList ∧
    s.server.qualify (s.server.qualify host) = s.server.qualify host ∧
    (Char.ofNat 0 ∉ host.toList → Char.ofNat 0 ∉ s.server.domain.toList →
      Char.ofNat 0 ∉ (s.server.qualify host).toList) ∧
    ∀ {ν : Type} (checker : Checker ν) (c : Client ν), c.identity = s.server →
      (Harness.ofSettings s checker).effectiveHost (some (Harness.ofSettings s checker).defaultHost) =
        (Harness.ofSettings s checker).effectiveHost none ∧
      GoesBy c (.ofSettings s checker) host (s.server.qualify host) ∧
      GoesBy c (.ofSettings s checker) (s.server.qualify host) (s.server.qualify host) := by
  have low := (Settings.load_eq_ok.mp loaded).isLow_domain
  have again := Identity.qualify_qualify low
  refine ⟨?_, ?_, again host, Identity.nul_not_mem_qualify, fun checker c same => ⟨?_, ?_, ?_⟩⟩
  · rw [String.append_assoc]
    exact s.server.qualify_eq host
  · exact Identity.carries_iff.mp (Identity.carries_qualify low host)
  · exact again s.defaultHost
  · exact goesBy_qualify same host
  · have h := goesBy_qualify (h := .ofSettings s checker) same (s.server.qualify host)
    rwa [show (Harness.ofSettings s checker).server = s.server from rfl, again host] at h

/-- A name that carries the domain in capitals is a full name, and a short one is made full once. -/
theorem one_host_name_capitals :
    Settings.load Harness.prepared.files (Settings.lookupFor "IPA.Test" "Secret123") =
        .ok (.forTests (Path.ofString "/pam_hbac.conf")) ∧
      Identity.forTests.qualify "CLIENT.IPA.TEST" = "CLIENT.IPA.TEST" ∧
      GoesBy Client.turnedDown
        (.ofSettings (.forTests (Path.ofString "/pam_hbac.conf")) fun _ _ w => (.code 0, w))
        "client" "client.ipa.test" ∧
      GoesBy Client.turnedDown
        (.ofSettings (.forTests (Path.ofString "/pam_hbac.conf")) fun _ _ w => (.code 0, w))
        "client.ipa.test" "client.ipa.test" := by
  have loaded : Settings.load Harness.prepared.files (Settings.lookupFor "IPA.Test" "Secret123") =
      .ok (.forTests (Path.ofString "/pam_hbac.conf")) := by decide +kernel
  have full : Identity.forTests.qualify "client" = "client.ipa.test" := by decide +kernel
  obtain ⟨-, -, -, -, goes⟩ := one_host_name loaded "client"
  obtain ⟨-, short, again⟩ := goes (fun _ _ w => (.code 0, w)) Client.turnedDown rfl
  rw [show Settings.server _ = Identity.forTests from rfl, full] at short again
  exact ⟨loaded, by decide +kernel, short, again⟩

/-- Settings whose domain holds a NUL. -/
def Settings.nulDomain : Settings :=
  { Settings.forTests (Path.ofString "/pam_hbac.conf") with
    server := { Identity.forTests with domain := "a\x00b", realm := "A\x00B" }
    baseDn := "dc=a\x00b" }

/-- A domain that no variable can hold is let through. The server is then told of a host that no check
can be made for, though everything else can be put in place. -/
theorem no_variable_for_nul_domain :
    Settings.load Harness.prepared.files (Settings.lookupFor "a\x00b" "Secret123") =
        .ok .nulDomain ∧
      Char.ofNat 0 ∉ "x".toList ∧
      (∀ c : Client Unit, c.identity = Settings.nulDomain.server →
        c.Says ((Object.named c.identity .host "x").add c)
          (Object.said .host "add" "x.a\x00b" [("force", .bool true)])) ∧
      ∀ checker : Checker Unit,
        (∃ t, (Harness.ofSettings .nulDomain checker).layConfig (some "x")
            Harness.prepared.files = .ok t ∧
          ∃ u, (Harness.ofSettings .nulDomain checker).layService "login" t = .ok u) ∧
        (Harness.ofSettings .nulDomain checker).check "alice" "login" (some "x") Harness.prepared =
          (.panicked .unusableVariable, Harness.prepared) ∧
        ∀ log, (Harness.ofSettings .nulDomain checker).recorded.check "alice" "login" (some "x")
            (Harness.prepared.recording log) =
          (.panicked .unusableVariable, Harness.prepared.recording log) := by
  have full : Settings.nulDomain.server.qualify "x" = "x.a\x00b" := by decide +kernel
  have nul : Bytes.hasNul (Utf8.encode (Settings.nulDomain.server.qualify "x")) = true := by
    rw [full]
    decide +kernel
  have configAim : Harness.prepared.files.aim? (Path.ofString "/pam_hbac.conf") =
      some [Path.ofString "pam_hbac.conf"] := by decide +kernel
  have descriptionAim : Harness.prepared.files.aim? (Path.ofString "/pam.d/login") =
      some [Path.ofString "pam.d", Path.ofString "login"] := by decide +kernel
  have written : ∀ {p l}, Harness.prepared.files.aim? p = some l → ∀ contents,
      ∃ u, Harness.prepared.files.write p contents = .ok u := fun aim _ =>
    FileTree.writable_iff.mpr ⟨_, aim, rfl, rfl⟩
  refine ⟨by decide +kernel, by decide, fun c same => ?_, fun checker => ⟨?_, ?_, fun log => ?_⟩⟩
  · rw [← full]
    exact (goesBy_qualify (h := .ofSettings .nulDomain fun _ _ w => (.code 0, w)) same "x").added
  · obtain ⟨t, config⟩ :=
      ((Harness.ofSettings .nulDomain checker).layConfig_ok_iff (some "x") Harness.prepared.files).mpr
        fun path hp => Option.some.inj hp ▸ written configAim _
    obtain ⟨u, description⟩ := (Harness.sameGround_layConfig config).writable
      (written descriptionAim (Utf8.encode (Harness.ofSettings .nulDomain checker).serviceText))
    exact ⟨t, config, u, Harness.lay_eq_ok_iff.mpr description⟩
  · exact Harness.check_of_unexportable Harness.isServiceName_login nul
  · exact Harness.check_of_unexportable Harness.isServiceName_login nul

end HostAccess
