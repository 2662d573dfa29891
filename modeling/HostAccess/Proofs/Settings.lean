import HostAccess.Settings

/-!
# Where settings come from

Settings are loaded exactly if every variable that is asked for is there and right. Each of them is
then the value of one variable, or what stands for it if the variable is absent.
-/
namespace HostAccess.Settings

theorem bind_eq_ok {ε α β : Type} {x : Except ε α} {f : α → Except ε β} {b : β} :
    (x >>= f) = .ok b ↔ ∃ a, x = .ok a ∧ f a = .ok b := by
  cases x <;> simp [bind, Except.bind]

theorem ne_empty_of_optional {lookup : Lookup} {name value : String}
    (h : optional lookup name = some value) : value ≠ "" := by
  simpa using (Option.filter_eq_some_iff.mp h).2

theorem required_eq_ok {lookup : Lookup} {name value : String} :
    required lookup name = .ok value ↔ optional lookup name = some value := by
  unfold required
  cases optional lookup name <;> simp

theorem checkFolder_eq_ok {access : Access} {files : FileTree} {path : Path} :
    checkFolder access files path = .ok () ↔
      access path = true ∧ Bytes.hasNul path = false ∧ files.isFolder path = true := by
  unfold checkFolder
  cases Bytes.hasNul path <;> cases access path <;> cases files.isFolder path <;> simp

/-- There is a folder only where there is something. -/
theorem has_of_isFolder {files : FileTree} {path : Path} (h : files.isFolder path = true) :
    files.has path = true := by
  unfold FileTree.isFolder at h
  unfold FileTree.has
  split at h
  · rename_i l hl
    simp [hl, Except.toOption]
  · cases h

/-- Whether files and variables give these settings: what they have to be, and what each setting is. -/
structure Gives (files : FileTree) (lookup : Lookup) (s : Settings) : Prop where
  initialized : optional lookup Variable.wrapper = some "1"
  serviceDir : (optional lookup Variable.serviceDir).map Path.ofString = some s.serviceDir
  folder : Bytes.hasNul s.serviceDir = false ∧ files.isFolder s.serviceDir = true
  modulePath : (optional lookup Variable.modulePath).map Path.ofString = some s.modulePath
  absolute : s.modulePath.isAbsolute = true
  hostname : optional lookup Variable.hostname = some s.server.hostname
  domain : (optional lookup Variable.domain).map Text.lower = some s.server.domain
  password : optional lookup Variable.password = some s.server.password
  trust : ∃ insecure, flag Variable.insecure (optional lookup Variable.insecure) = .ok insecure ∧
    s.server.trust = if insecure then .anyone
      else .certificate (s.serviceDir.join (Path.ofString certificateName))
  realm : s.server.realm = (optional lookup Variable.realm).getD (Text.upper s.server.domain)
  admin : s.server.admin = (optional lookup Variable.admin).getD defaultAdmin
  configPath : s.configPath = (optional lookup Variable.configPath).map Path.ofString
  baseDn : s.baseDn = (optional lookup Variable.baseDn).getD (baseDnOfDomain s.server.domain)
  defaultHost : s.defaultHost = (optional lookup Variable.hostName).getD s.server.hostname
  testClient : s.testClient =
    Path.ofString ((optional lookup Variable.testClient).getD defaultTestClient)

theorem unless_eq_ok {ε α β : Type} {refused : Bool} {e : ε} {f : α → Except ε β} {x : Except ε β}
    {b : β} :
    (if refused = true then throw e >>= f else x) = .ok b ↔ refused = false ∧ x = .ok b := by
  cases refused <;> simp [throw, throwThe, MonadExceptOf.throw, bind, Except.bind]

theorem loadWith_eq_ok {access : Access} {files : FileTree} {lookup : Lookup} {s : Settings} :
    loadWith access files lookup = .ok s ↔
      access s.serviceDir = true ∧ Gives files lookup s := by
  unfold loadWith
  simp only [bind_eq_ok, unless_eq_ok, required_eq_ok, bne_eq_false_iff_eq, Bool.not_eq_false']
  constructor
  · rintro ⟨_, wrapper, rfl, dir, serviceDir, _, folder, module, modulePath, absolute, hostname,
      named, domain, placed, password, secret, insecure, flagged, hs⟩
    obtain rfl := Except.ok.inj hs
    obtain ⟨granted, folder⟩ := checkFolder_eq_ok.mp folder
    exact ⟨granted, {
      initialized := wrapper
      serviceDir := by simp [serviceDir]
      folder
      modulePath := by simp [modulePath]
      absolute
      hostname := named
      domain := by simp [placed]
      password := secret
      trust := ⟨insecure, flagged, rfl⟩
      realm := rfl
      admin := rfl
      configPath := rfl
      baseDn := rfl
      defaultHost := rfl
      testClient := rfl }⟩
  · rintro ⟨granted, g⟩
    obtain ⟨dir, serviceDir, hdir⟩ := Option.map_eq_some_iff.mp g.serviceDir
    obtain ⟨module, modulePath, hmodule⟩ := Option.map_eq_some_iff.mp g.modulePath
    obtain ⟨domain, placed, hdomain⟩ := Option.map_eq_some_iff.mp g.domain
    obtain ⟨insecure, flagged, trust⟩ := g.trust
    refine ⟨_, g.initialized, rfl, dir, serviceDir, (), ?_, module, modulePath, ?_, _, g.hostname,
      domain, placed, _, g.password, insecure, flagged, ?_⟩
    · rw [hdir]
      exact checkFolder_eq_ok.mpr ⟨granted, g.folder⟩
    · rw [hmodule]
      exact g.absolute
    · rw [hdir, hmodule, hdomain, ← g.realm, ← g.admin, ← trust, ← g.configPath, ← g.baseDn,
        ← g.defaultHost, ← g.testClient]
      rfl

/-- **Settings are loaded exactly if the files and the variables give them.** -/
theorem load_eq_ok {files : FileTree} {lookup : Lookup} {s : Settings} :
    load files lookup = .ok s ↔ Gives files lookup s := by
  unfold load
  rw [loadWith_eq_ok]
  exact and_iff_right_of_imp fun g => has_of_isFolder g.folder.2

/-- Variables that set up a run in a domain, with a password for the administrator. -/
def lookupFor (domain password : String) : Lookup := fun name =>
  [(Variable.wrapper, "1"), (Variable.serviceDir, "/pam.d"), (Variable.modulePath, "/pam_hbac.so"),
    (Variable.configPath, "/pam_hbac.conf"), (Variable.hostname, "ipa.ipa.test"),
    (Variable.domain, domain), (Variable.password, password), (Variable.insecure, "yes"),
    (Variable.hostName, "client")].lookup name

end HostAccess.Settings
