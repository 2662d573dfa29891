import HostAccess.Proofs.ConfigText
import HostAccess.Proofs.Operations
import HostAccess.Proofs.Settings

/-!
# What is written of settings

The configuration that a check writes is made of settings, and settings are made of variables, which
may hold anything. Values are written as they are. So the configuration is read back exactly if each of
them can stand on a line: without line feeds, and without blanks where the line begins or ends with it.
-/
namespace HostAccess

namespace Text

/-! ## Ends of texts -/

def BeginsSolid (cs : List Char) : Prop := ∀ c ∈ cs.head?, isBlank c = false

def EndsSolid (cs : List Char) : Prop := ∀ c ∈ cs.getLast?, isBlank c = false

instance (cs : List Char) : Decidable (BeginsSolid cs) :=
  decidable_of_iff (cs.head?.all fun c => !isBlank c) (by simp [BeginsSolid, Option.all_eq_true])

instance (cs : List Char) : Decidable (EndsSolid cs) :=
  decidable_of_iff (cs.getLast?.all fun c => !isBlank c) (by simp [EndsSolid, Option.all_eq_true])

theorem trimStart_eq_self_iff {cs : List Char} : trimStart cs = cs ↔ BeginsSolid cs := by
  cases cs with
  | nil => simp [trimStart, BeginsSolid]
  | cons c rest => simp [trimStart, List.dropWhile_eq_self_iff, BeginsSolid]

theorem trimEnd_eq_self_iff {cs : List Char} : trimEnd cs = cs ↔ EndsSolid cs := by
  rw [trimEnd, List.reverse_eq_iff, EndsSolid, ← List.head?_reverse]
  exact trimStart_eq_self_iff

/-- Trimming changes nothing exactly if there is no blank at the ends. -/
theorem trim_eq_self_iff {cs : List Char} : trim cs = cs ↔ BeginsSolid cs ∧ EndsSolid cs := by
  rw [← trimStart_eq_self_iff, ← trimEnd_eq_self_iff]
  constructor
  · intro h
    have cut : (trim cs).length ≤ (trimStart cs).length :=
      (List.rdropWhile_prefix isBlank (trimStart cs)).length_le
    rw [h] at cut
    have start : trimStart cs = cs := (List.dropWhile_suffix isBlank).eq_of_length_le cut
    rw [trim, start] at h
    exact ⟨start, h⟩
  · rintro ⟨start, ending⟩
    rw [trim, start, ending]

theorem beginsSolid_append {before : List Char} (h : before ≠ []) (cs : List Char) :
    BeginsSolid (before ++ cs) ↔ BeginsSolid before := by
  rw [BeginsSolid, List.head?_append_of_ne_nil before h, BeginsSolid]

theorem endsSolid_append (before : List Char) {cs : List Char} (h : cs ≠ []) :
    EndsSolid (before ++ cs) ↔ EndsSolid cs := by
  rw [EndsSolid, List.getLast?_append_of_ne_nil before h, EndsSolid]

/-- What is put before a text makes no difference to its end, unless it is a blank at the end of
nothing. -/
theorem endsSolid_append_solid {before : List Char} (h : EndsSolid before) (cs : List Char) :
    EndsSolid (before ++ cs) ↔ EndsSolid cs := by
  cases cs with
  | nil => simpa [EndsSolid] using h
  | cons c rest => exact endsSolid_append before (by simp)

end Text

namespace ModuleConfig

/-- Whether a value stands on a line as it is: it has no line feed and no blank at its ends. -/
structure Stands (value : String) : Prop where
  whole : '\n' ∉ value.toList
  begins : Text.BeginsSolid value.toList
  ends : Text.EndsSolid value.toList

theorem isCarried_iff {c : ModuleConfig} : c.IsCarried ↔
    (∀ s, ∀ value ∈ c.get? s, Stands value) ∧ ∀ path ∈ c.certificate, Utf8.IsText path := by
  constructor
  · intro h
    refine ⟨fun s value hv => ?_, h.isText⟩
    obtain ⟨begins, ends⟩ := Text.trim_eq_self_iff.mp (h.trimmed s value hv)
    exact ⟨h.whole s value hv, begins, ends⟩
  · rintro ⟨stands, isText⟩
    exact ⟨fun s value hv => (stands s value hv).whole, fun s value hv =>
      Text.trim_eq_self_iff.mpr ⟨(stands s value hv).begins, (stands s value hv).ends⟩, isText⟩

/-- After a word that stands, a value counts for its line feeds and for its end. -/
theorem stands_append {word : String} (stands : Stands word) (filled : word.toList ≠ [])
    (value : String) :
    Stands (word ++ value) ↔ '\n' ∉ value.toList ∧ Text.EndsSolid value.toList := by
  have begins := (Text.beginsSolid_append filled value.toList).mpr stands.begins
  have ends := Text.endsSolid_append_solid stands.ends value.toList
  constructor
  · rintro ⟨hw, -, he⟩
    rw [String.toList_append] at hw he
    exact ⟨fun h => hw (List.mem_append_right _ h), ends.mp he⟩
  · rintro ⟨hw, he⟩
    refine ⟨?_, ?_, ?_⟩
    · rw [String.toList_append]
      exact fun h => (List.mem_append.mp h).elim stands.whole hw
    · rwa [String.toList_append]
    · rw [String.toList_append]
      exact ends.mpr he

end ModuleConfig

namespace Settings

open ModuleConfig (Stands)

/-- Whether the values of settings can stand on the lines that they are written on. The name of the
server and the folder of the services are at one end of a line only, the administrator at none. -/
structure IsWritten (s : Settings) : Prop where
  hostname : '\n' ∉ s.server.hostname.toList ∧ Text.EndsSolid s.server.hostname.toList
  admin : '\n' ∉ s.server.admin.toList
  base : Stands s.baseDn
  password : Stands s.server.password
  host : Stands (s.server.qualify s.defaultHost)
  certificate : s.server.trust ≠ .anyone →
    '\n' ∉ s.serviceDir.display.toList ∧ Text.BeginsSolid s.serviceDir.display.toList

theorem stands_uri {hostname : String} : Stands ("ldap://" ++ hostname) ↔
    '\n' ∉ hostname.toList ∧ Text.EndsSolid hostname.toList :=
  ModuleConfig.stands_append ⟨by decide, by decide, by decide⟩ (by decide) hostname

theorem stands_bindDn {admin base : String} (hbase : Stands base) :
    Stands ("uid=" ++ admin ++ ",cn=users,cn=accounts," ++ base) ↔ '\n' ∉ admin.toList := by
  have accounts : Text.EndsSolid ",cn=users,cn=accounts,".toList := by decide
  have whole : '\n' ∉ ",cn=users,cn=accounts,".toList := by decide
  have filled : ",cn=users,cn=accounts,".toList ≠ [] := by decide
  rw [String.append_assoc, String.append_assoc,
    ModuleConfig.stands_append ⟨by decide, by decide, by decide⟩ (by decide)]
  simp only [String.toList_append]
  rw [Text.endsSolid_append _ (List.append_ne_nil_of_left_ne_nil filled _),
    and_iff_left ((Text.endsSolid_append_solid accounts _).mpr hbase.ends)]
  simp only [List.mem_append, whole, hbase.whole, or_false]

/-- A name in a folder begins as the path of the folder and ends as the name. -/
theorem ofString_join (dir : String) {name : String} (plain : '/' ∉ name.toList) :
    ∃ between, (between = "" ∨ between = "/") ∧
      (Path.ofString dir).join (Path.ofString name) = Path.ofString (dir ++ (between ++ name)) := by
  have hslash : Path.slash ∉ Path.ofString name := fun h =>
    plain ((Utf8.ascii_mem_encode (by decide)).mp h)
  have hbyte : Utf8.encode "/" = [Path.slash] := by decide
  rw [Path.join_of_slash_not_mem hslash]
  split
  · exact ⟨"", .inl rfl, by simp [Path.ofString, Utf8.encode_append]⟩
  · exact ⟨"/", .inr rfl, by simp [Path.ofString, Utf8.encode_append, hbyte]⟩

/-- The certificate is in the folder of the services, so its path begins as that of the folder. -/
theorem stands_certificate {dir : String} (filled : dir.toList ≠ []) :
    ∃ path, (Path.ofString dir).join (Path.ofString certificateName) = Path.ofString path ∧
      (Stands path ↔ '\n' ∉ dir.toList ∧ Text.BeginsSolid dir.toList) := by
  obtain ⟨between, hb, hjoin⟩ := ofString_join dir (by decide : '/' ∉ certificateName.toList)
  refine ⟨_, hjoin, ?_⟩
  have tail : '\n' ∉ (between ++ certificateName).toList ∧
      (between ++ certificateName).toList ≠ [] ∧
      Text.EndsSolid (between ++ certificateName).toList := by
    obtain rfl | rfl := hb
    · exact ⟨by decide, by decide, by decide⟩
    · exact ⟨by decide, by decide, by decide⟩
  obtain ⟨whole, named, ends⟩ := tail
  constructor
  · rintro ⟨hw, begins, -⟩
    rw [String.toList_append] at hw begins
    exact ⟨fun h => hw (List.mem_append_left _ h), (Text.beginsSolid_append filled _).mp begins⟩
  · rintro ⟨hw, begins⟩
    refine ⟨?_, ?_, ?_⟩
    · rw [String.toList_append]
      exact fun h => (List.mem_append.mp h).elim hw whole
    · rw [String.toList_append]
      exact (Text.beginsSolid_append filled _).mpr begins
    · rw [String.toList_append]
      exact (Text.endsSolid_append _ named).mpr ends

/-- What a check writes for the host that checks are made for by default. -/
def written (s : Settings) : ModuleConfig := s.directory.withHost (s.server.qualify s.defaultHost)

/-- The certificate that is written of settings is in the folder of the services. -/
theorem Gives.certificate {files : FileTree} {lookup : Lookup} {s : Settings}
    (g : Gives files lookup s) :
    (s.server.trust = .anyone ∧ s.written.certificate = none) ∨
      ∃ path, s.server.trust ≠ .anyone ∧ s.written.certificate = some (Path.ofString path) ∧
        (Stands path ↔
          '\n' ∉ s.serviceDir.display.toList ∧ Text.BeginsSolid s.serviceDir.display.toList) := by
  obtain ⟨insecure, -, trust⟩ := g.trust
  cases insecure with
  | true =>
    exact .inl ⟨trust,
      by simp [written, ModuleConfig.withHost, directory, trust, Trust.certificate?]⟩
  | false =>
    obtain ⟨dir, hdir, same⟩ := Option.map_eq_some_iff.mp g.serviceDir
    have filled : dir.toList ≠ [] := by simpa using ne_empty_of_optional hdir
    obtain ⟨path, hjoin, stands⟩ := stands_certificate filled
    refine .inr ⟨path, by simp [trust], ?_, ?_⟩
    · simp [written, ModuleConfig.withHost, directory, trust, Trust.certificate?, ← same, hjoin]
    · rw [← same, Path.display, Path.ofString, Utf8.lossy_encode]
      exact stands

theorem isCarried_written {files : FileTree} {lookup : Lookup} {s : Settings}
    (g : Gives files lookup s) : s.written.IsCarried ↔ s.IsWritten := by
  rw [ModuleConfig.isCarried_iff]
  constructor
  · rintro ⟨stands, -⟩
    have base : Stands s.baseDn := stands .base _ rfl
    refine ⟨stands_uri.mp (stands .uri _ rfl), (stands_bindDn base).mp (stands .bindDn _ rfl), base,
      stands .bindPassword _ rfl, stands .hostName _ rfl, fun verified => ?_⟩
    obtain ⟨anyone, -⟩ | ⟨path, -, hpath, hiff⟩ := g.certificate
    · exact absurd anyone verified
    · refine hiff.mp (stands .certificate path ?_)
      simp [ModuleConfig.get?, hpath, Path.display, Path.ofString, Utf8.lossy_encode]
  · intro written
    refine ⟨fun t value hv => ?_, fun path hp => ?_⟩
    · cases t with
      | uri => exact Option.some.inj hv ▸ stands_uri.mpr written.hostname
      | base => exact Option.some.inj hv ▸ written.base
      | bindDn => exact Option.some.inj hv ▸ (stands_bindDn written.base).mpr written.admin
      | bindPassword => exact Option.some.inj hv ▸ written.password
      | hostName => exact Option.some.inj hv ▸ written.host
      | certificate =>
        obtain ⟨-, none⟩ | ⟨path, verified, hpath, hiff⟩ := g.certificate
        · simp [ModuleConfig.get?, none] at hv
        · have shown : path = value := by
            simpa [ModuleConfig.get?, hpath, Path.display, Path.ofString, Utf8.lossy_encode] using hv
          exact shown ▸ hiff.mpr (written.certificate verified)
    · obtain ⟨-, none⟩ | ⟨text, -, hpath, -⟩ := g.certificate
      · simp [none] at hp
      · exact ⟨text, (Option.some.inj (hpath.symm.trans hp)).symm⟩

/-- **The configuration that a check writes for settings that were loaded is read back exactly if each
of their values can stand on a line.** It makes no difference whether paths are compared byte by byte or
name by name. The password that is then read is the one that the client logs in with. -/
theorem parse_written_iff {files : FileTree} {lookup : Lookup} {s : Settings}
    (loaded : load files lookup = .ok s) {ν : Type} (checker : Checker ν) :
    (ModuleConfig.parse ((Harness.ofSettings s checker).configText
        ((Harness.ofSettings s checker).effectiveHost none)) = .ok s.written ↔ s.IsWritten) ∧
      (∀ d, ModuleConfig.parse ((Harness.ofSettings s checker).configText
          ((Harness.ofSettings s checker).effectiveHost none)) = .ok d → d.Same s.written →
        d = s.written) ∧
      s.written.bindPassword = some s.server.password ∧
      ∀ c : Client ν, c.identity = s.server → c.loginRequest.body =
        Http.Form.encode [("user", s.server.admin), ("password", s.server.password)] := by
  have text : (Harness.ofSettings s checker).configText
      ((Harness.ofSettings s checker).effectiveHost none) = s.written.render := rfl
  rw [text, ← isCarried_written (load_eq_ok.mp loaded)]
  refine ⟨⟨ModuleConfig.isCarried_of_parse, ModuleConfig.parse_render_of_isCarried⟩,
    fun d read same => ModuleConfig.eq_of_same read same, rfl, fun c same => ?_⟩
  rw [Client.loginRequest, same]

def withPassword (password : String) : Settings :=
  { Settings.forTests (Path.ofString "/pam_hbac.conf") with
    server := { Identity.forTests with password } }

/-- Marks that mean something elsewhere on a line mean nothing in a value. -/
theorem parse_written_marks :
    load Harness.prepared.files (lookupFor "ipa.test" "#a = b") = .ok (withPassword "#a = b") ∧
      ModuleConfig.parse (withPassword "#a = b").written.render =
        .ok (withPassword "#a = b").written ∧
      (withPassword "#a = b").written.bindPassword = some "#a = b" := by
  have loaded : load Harness.prepared.files (lookupFor "ipa.test" "#a = b") =
      .ok (withPassword "#a = b") := by decide +kernel
  have host : (withPassword "#a = b").server.qualify "client" = "client.ipa.test" := by
    decide +kernel
  have written : (withPassword "#a = b").IsWritten := by
    refine ⟨by decide, by decide, ⟨by decide, by decide, by decide⟩,
      ⟨by decide, by decide, by decide⟩, ?_, fun verified => absurd rfl verified⟩
    rw [show (withPassword "#a = b").defaultHost = "client" from rfl, host]
    exact ⟨by decide, by decide, by decide⟩
  obtain ⟨readBack, -, password, -⟩ :=
    parse_written_iff loaded (fun _ _ w => (.code 0, w) : Checker Unit)
  exact ⟨loaded, readBack.mpr written, password⟩

/-- A password that ends in a blank is let through. The client logs in with it, but the account module
reads another. -/
theorem parse_written_blank :
    load Harness.prepared.files (lookupFor "ipa.test" "Secret123 ") =
        .ok (withPassword "Secret123 ") ∧
      (withPassword "Secret123 ").written.bindPassword = some "Secret123 " ∧
      ModuleConfig.parse (withPassword "Secret123 ").written.render ≠
        .ok (withPassword "Secret123 ").written ∧
      ∃ d, ModuleConfig.parse (withPassword "Secret123 ").written.render = .ok d ∧
        d.bindPassword = some "Secret123" := by
  have loaded : load Harness.prepared.files (lookupFor "ipa.test" "Secret123 ") =
      .ok (withPassword "Secret123 ") := by decide +kernel
  have read : (ModuleConfig.parse (withPassword "Secret123 ").written.render).toOption.map
      (·.bindPassword) = some (some "Secret123") := by decide +kernel
  obtain ⟨d, hd, password⟩ := Option.map_eq_some_iff.mp read
  have parsed : ModuleConfig.parse (withPassword "Secret123 ").written.render = .ok d := by
    cases h : ModuleConfig.parse (withPassword "Secret123 ").written.render with
    | ok e => rw [h] at hd; exact congrArg _ (Option.some.inj hd)
    | error cause => rw [h] at hd; cases hd
  refine ⟨loaded, rfl, fun same => ?_, d, parsed, password⟩
  rw [parsed] at same
  rw [Except.ok.inj same] at password
  exact absurd password (by decide)

end Settings

end HostAccess
