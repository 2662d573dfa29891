import HostAccess.Proofs.Isolation
import HostAccess.Proofs.Search
import Mathlib.Data.List.Forall2

/-!
# What is left in the folder of the services

What is left is found by a pattern that begins as the path of the folder. So the answer tells what is
in the folder only if the path is no pattern itself and does not begin with `.`, and it never tells
names that are no texts. Nothing found may mean that nothing was looked for.
-/
namespace HostAccess.Harness

variable {ν : Type}

/-- Whether the pattern for the folder of the services stands for what is in that folder. -/
structure IsSearched (h : Harness ν) (dir : String) : Prop where
  text : h.serviceDir = Path.ofString dir
  plain : ∀ c ∈ dir.toList, Glob.IsPlain c
  named : h.serviceDir.names.head? ≠ some Path.dot

/-- Whether an entry of this name is told: the name is a text, and no certificate's. -/
def isTold (name : Bytes) : Bool :=
  (Utf8.decode? name).isSome && Path.extensionOf? name != some certificateExtension

theorem isTold_iff {name : Bytes} : isTold name = true ↔
    Utf8.IsText name ∧ Path.extensionOf? name ≠ some certificateExtension := by
  simp [isTold, Utf8.IsText, Option.isSome_iff_exists, Utf8.decode?_eq_some_iff]

theorem leftoverPattern_eq {h : Harness ν} {dir : String} (searched : h.IsSearched dir)
    (filled : h.serviceDir ≠ []) : ∃ front : String, h.serviceDir.stem = Path.ofString front ∧
      (∀ c ∈ front.toList, Glob.IsPlain c) ∧ h.leftoverPattern = Path.ofString (front ++ "/*") := by
  obtain ⟨front, hs, part⟩ := Glob.stem_ofString dir
  rw [← searched.text] at hs
  refine ⟨front, hs, fun c hc => searched.plain c (part.subset hc), ?_⟩
  have star : Path.slash :: Path.ofString "*" = Path.ofString "/*" := by decide
  rw [leftoverPattern, Path.join_eq filled (by decide), hs, star, Path.ofString, Path.ofString,
    Path.ofString, Utf8.encode_append]

theorem leftovers_eq {h : Harness ν} {dir : String} (searched : h.IsSearched dir) {w : World ν}
    (wf : w.files.WellFormed) {l : Location} (leads : w.files.locate h.serviceDir = .ok l)
    (folder : w.files.entryAt? l = some .folder) :
    ∃ q, Path.Same q h.serviceDir ∧ q ≠ [] ∧
      h.leftovers w = (.done (((w.files.namesIn l).filter isTold).map q.join), w) := by
  have filled := FileTree.ne_nil_of_locate leads
  obtain ⟨front, hs, plain, hpattern⟩ := leftoverPattern_eq searched filled
  obtain ⟨left, route⟩ := FileTree.locate_eq_ok_iff_leads.mp leads
  obtain ⟨q, hsame, hnamed, hroute, hsearch⟩ :=
    Glob.search_folder route searched.named hs plain
  have hleads := FileTree.locate_eq_ok_iff_leads.mpr ⟨left, hroute⟩
  have hq := FileTree.ne_nil_of_locate hleads
  -- Whether a path is a certificate's is decided by the name that it ends in.
  have told : (((w.files.namesIn l).filter fun name => (Utf8.decode? name).isSome).map q.join).filter
      (fun p => p.extension? != some certificateExtension) =
        ((w.files.namesIn l).filter isTold).map q.join := by
    rw [List.filter_map, List.filter_filter]
    refine congrArg _ (List.filter_congr fun name hname => ?_)
    rw [Function.comp_apply, Path.extension?_join hq (wf.isName_of_mem_namesIn hname)]
    exact Bool.and_comm ..
  refine ⟨q, hsame, hq, ?_⟩
  unfold leftovers
  rw [hpattern, Path.ofString, Utf8.decode?_encode]
  simp only [hsearch, told,
    Glob.expand_anyName hleads folder hnamed fun name => wf.isName_of_mem_namesIn]

/-- A name goes on from two paths that are the same to paths that are the same. -/
theorem same_join {p q : Path} (same : Path.Same p q) (hp : p ≠ []) (hq : q ≠ []) {name : Bytes}
    (plain : Path.slash ∉ name) : Path.Same (p.join name) (q.join name) where
  root := by rw [Path.isAbsolute_join plain, Path.isAbsolute_join plain, same.root]
  names := by rw [Path.names_join hp plain, Path.names_join hq plain, same.names]

/-- A description that stands in the folder is an entry of it, by the name of the service. -/
theorem hasEntry_of_description {h : Harness ν} {t : FileTree} (wf : t.WellFormed) {l : Location}
    (leads : t.locate h.serviceDir = .ok l) (standing : t.entryAt? l = some .folder) {service : String}
    (named : isServiceName service = true) (described : t.HasFile (h.serviceFile service)) :
    t.HasEntry h.serviceDir (Path.ofString service) := by
  obtain ⟨nonempty, plain⟩ := (isServiceName_iff service).mp named
  exact wf.hasEntry_of_hasFile leads standing (Path.ofString_ne_nil nonempty)
    (fun hslash => plain ((Utf8.ascii_mem_encode (by decide)).mp hslash)) described

/-- **All that is left is told, in order and each once.** If the path of the folder is a text, holds
no character of a pattern and does not begin with `.`, then what is left are the entries of the folder
whose names are texts and not those of certificates. So no description is left in the folder if
nothing is told, but for one that goes by the name of a certificate. -/
theorem leftovers_tell (h : Harness ν) {dir : String} (searched : h.IsSearched dir) (w : World ν)
    (wf : w.files.WellFormed) (folder : w.files.isFolder h.serviceDir = true) :
    ∃ names found, h.leftovers w = (.done found, w) ∧
      List.Forall₂ (fun p name => Path.Same p (h.serviceDir.join name)) found names ∧
      names.Pairwise (· < ·) ∧
      (∀ name, name ∈ names ↔ w.files.HasEntry h.serviceDir name ∧ Utf8.IsText name ∧
        Path.extensionOf? name ≠ some certificateExtension) ∧
      (found = [] → ∀ service, isServiceName service = true →
        Path.extensionOf? (Path.ofString service) ≠ some certificateExtension →
          ¬ w.files.HasFile (h.serviceFile service)) := by
  obtain ⟨l, leads, standing⟩ := FileTree.isFolder_iff.mp folder
  obtain ⟨q, hsame, hq, hleft⟩ := leftovers_eq searched wf leads standing
  have filled := FileTree.ne_nil_of_locate leads
  have members : ∀ name, name ∈ (w.files.namesIn l).filter isTold ↔
      w.files.HasEntry h.serviceDir name ∧ Utf8.IsText name ∧
        Path.extensionOf? name ≠ some certificateExtension := by
    intro name
    rw [List.mem_filter, isTold_iff, FileTree.mem_namesIn_iff]
    refine and_congr_left fun _ => ⟨fun hentry => ⟨l, leads, standing, hentry⟩, ?_⟩
    rintro ⟨m, hm, -, hentry⟩
    obtain rfl : l = m := Except.ok.inj (leads.symm.trans hm)
    exact hentry
  refine ⟨_, _, hleft, ?_, ?_, members, ?_⟩
  · refine List.forall₂_map_left_iff.mpr (List.forall₂_same.mpr fun name hname => ?_)
    exact same_join hsame hq filled (wf.isName_of_mem_namesIn (List.mem_of_mem_filter hname)).plain
  · exact (w.files.namesIn_ascending l).filter _
  · intro nothing service named other left
    have entry := hasEntry_of_description wf leads standing named left
    have told := (members _).mpr ⟨entry, ⟨service, rfl⟩, other⟩
    rw [List.map_eq_nil_iff.mp nothing] at told
    cases told

/-- **After any questions every description that is left is told.** The tree need only be well formed
at first, and be kept so by the checker. -/
theorem described_told {h : Harness ν} {dir : String} (searched : h.IsSearched dir)
    (kept : ∀ user service w, w.files.WellFormed ∧ w.files.HasPlainLinks →
      (h.checker user service w).2.files.WellFormed ∧ (h.checker user service w).2.files.HasPlainLinks)
    {w : World ν} (wf : w.files.WellFormed) (linked : w.files.HasPlainLinks) (qs : List Question)
    (folder : (h.afterAll qs w).files.isFolder h.serviceDir = true) :
    ∃ found, h.leftovers (h.afterAll qs w) = (.done found, h.afterAll qs w) ∧
      ∀ service, isServiceName service = true →
        Path.extensionOf? (Path.ofString service) ≠ some certificateExtension →
          (h.afterAll qs w).files.HasFile (h.serviceFile service) →
            ∃ p ∈ found, Path.Same p (h.serviceFile service) := by
  have wf := (afterAll_keeps FileTree.lasts_wellFormed kept qs ⟨wf, linked⟩).1
  obtain ⟨l, leads, standing⟩ := FileTree.isFolder_iff.mp folder
  obtain ⟨q, hsame, hq, hleft⟩ := leftovers_eq searched wf leads standing
  refine ⟨_, hleft, fun service named other described => ?_⟩
  obtain ⟨m, hm, -, entry⟩ := hasEntry_of_description wf leads standing named described
  obtain rfl : l = m := Except.ok.inj (leads.symm.trans hm)
  have inside := FileTree.mem_namesIn_iff.mpr entry
  refine ⟨q.join (Path.ofString service), List.mem_map_of_mem (List.mem_filter.mpr
    ⟨inside, isTold_iff.mpr ⟨⟨service, rfl⟩, other⟩⟩), ?_⟩
  exact same_join hsame hq (FileTree.ne_nil_of_locate leads) (wf.isName_of_mem_namesIn inside).plain

/-- A harness that describes services in the folder at this path. -/
def describingIn (dir : String) : Harness Unit := { thrownAway with serviceDir := Path.ofString dir }

/-- A world with a folder in it, and in the folder empty files of these names. -/
def holding (folder : String) (names : List Bytes) : World Unit :=
  { prepared with
    files := ⟨([Path.ofString folder], .folder) ::
      names.map fun name => ([Path.ofString folder, name], .file [] .plain), [], []⟩ }

/-- Files in the folder that are hidden, a certificate, or of a name that is no text. -/
def littered : World Unit := holding "pam.d"
  [Path.ofString "sshd", Path.ofString ".sshd.swp", Path.ofString "ca.crt", [0xFF]]

theorem leftovers_tell_littered : ∃ (names : List Bytes) (found : List Path),
    (describingIn "/pam.d//").leftovers littered = (.done found, littered) ∧
      found.length = names.length ∧ Path.ofString "sshd" ∈ names ∧ Path.ofString ".sshd.swp" ∈ names ∧
      Path.ofString "ca.crt" ∉ names ∧ [0xFF] ∉ names := by
  have searched : (describingIn "/pam.d//").IsSearched "/pam.d//" :=
    ⟨rfl, by simp [Glob.IsPlain], by decide +kernel⟩
  obtain ⟨names, found, ending, paired, -, members, -⟩ :=
    leftovers_tell (describingIn "/pam.d//") searched littered (by decide +kernel) (by decide +kernel)
  have entry : ∀ name, (littered.files.entryAt? [Path.ofString "pam.d", name]).isSome = true →
      littered.files.HasEntry (describingIn "/pam.d//").serviceDir name := fun name hentry =>
    ⟨[Path.ofString "pam.d"], by decide +kernel, by decide +kernel, hentry⟩
  refine ⟨names, found, ending, paired.length_eq, ?_, ?_, ?_, ?_⟩
  · exact (members _).mpr ⟨entry _ (by decide +kernel), ⟨"sshd", rfl⟩, by decide +kernel⟩
  · exact (members _).mpr ⟨entry _ (by decide +kernel), ⟨".sshd.swp", rfl⟩, by decide +kernel⟩
  · exact fun hmem => ((members _).mp hmem).2.2 (by decide +kernel)
  · intro hmem
    obtain ⟨-, text, -⟩ := (members _).mp hmem
    have told := isTold_iff.mpr ⟨text, ((members _).mp hmem).2.2⟩
    exact absurd told (by decide +kernel)

/-- A description is overlooked if the path of its folder is a pattern for other paths, and may be if
the path begins with `.`. A file is overlooked if its name is no text. -/
theorem leftovers_overlook :
    ((describingIn "svc[1]").leftovers (holding "svc[1]" [Path.ofString "sshd"])).1 = .done [] ∧
      (holding "svc[1]" [Path.ofString "sshd"]).files.WellFormed ∧
      (holding "svc[1]" [Path.ofString "sshd"]).files.HasFile
        ((describingIn "svc[1]").serviceFile "sshd") ∧
      Path.extensionOf? (Path.ofString "sshd") ≠ some certificateExtension ∧
      ((describingIn ".//svc").leftovers (holding "svc" [Path.ofString "sshd"])).1 = .done [] ∧
      (holding "svc" [Path.ofString "sshd"]).files.HasFile
        ((describingIn ".//svc").serviceFile "sshd") ∧
      ((describingIn "svc").leftovers (holding "svc" [[0xFF]])).1 = .done [] ∧
      (holding "svc" [[0xFF]]).files.HasEntry (describingIn "svc").serviceDir [0xFF] := by
  refine ⟨by decide +kernel, by decide +kernel, ⟨[], by decide +kernel⟩, by decide +kernel,
    by decide +kernel, ⟨[], by decide +kernel⟩, by decide +kernel, ?_⟩
  exact ⟨[Path.ofString "svc"], by decide +kernel, by decide +kernel, by decide +kernel⟩

end HostAccess.Harness
