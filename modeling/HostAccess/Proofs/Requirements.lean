import HostAccess.Proofs.Cleanup
import HostAccess.Proofs.Operations
import HostAccess.Proofs.Settings

/-!
# What a run requires of its surroundings

What variables and files have to be like for a run to be set up is a list of requirements, in the order
in which they are looked at. A computation obeys such a list if it succeeds only where all of them are
met, and otherwise ends with the fault of the first that is not. Computations that obey their lists, one
after the other, obey the lists one after the other. Main statement: loading settings obeys its list,
goes by the documented variables alone, and touches nothing.
-/
namespace HostAccess

/-- What is asked, and what is reported if it is the first that is not met. -/
structure Requirement where
  holds : Prop
  fault : Misconfiguration

namespace Requirement

/-- Whether this is the fault of the first requirement that is not met. -/
inductive FirstFault : List Requirement → Misconfiguration → Prop
  | here {r : Requirement} {rs} (fails : ¬ r.holds) : FirstFault (r :: rs) r.fault
  | later {r : Requirement} {rs fault} (met : r.holds) (rest : FirstFault rs fault) :
    FirstFault (r :: rs) fault

theorem not_firstFault {rs : List Requirement} (met : ∀ r ∈ rs, r.holds) (fault : Misconfiguration) :
    ¬ FirstFault rs fault := by
  intro first
  induction first with
  | here fails => exact fails (met _ List.mem_cons_self)
  | later _ _ ih => exact ih fun r hr => met r (List.mem_cons_of_mem _ hr)

theorem FirstFault.unique {rs : List Requirement} {fault other : Misconfiguration}
    (first : FirstFault rs fault) (again : FirstFault rs other) : other = fault := by
  induction first with
  | here fails =>
    cases again with
    | here => rfl
    | later met _ => exact absurd met fails
  | later met _ ih =>
    cases again with
    | here fails => exact absurd met fails
    | later _ rest => exact ih rest

theorem FirstFault.append {rs : List Requirement} {fault : Misconfiguration}
    (first : FirstFault rs fault) (more : List Requirement) : FirstFault (rs ++ more) fault := by
  induction first with
  | here fails => exact .here fails
  | later met _ ih => exact .later met ih

theorem firstFault_append {rs more : List Requirement} {fault : Misconfiguration}
    (met : ∀ r ∈ rs, r.holds) (first : FirstFault more fault) : FirstFault (rs ++ more) fault := by
  induction rs with
  | nil => exact first
  | cons r rest ih =>
    exact .later (met r List.mem_cons_self) (ih fun q hq => met q (List.mem_cons_of_mem r hq))

/-- Whether a computation succeeds only if all requirements are met, and otherwise ends with the fault
of the first that is not. -/
structure Obeys {α : Type} (x : Except Misconfiguration α) (rs : List Requirement) : Prop where
  met : ∀ a, x = .ok a → ∀ r ∈ rs, r.holds
  first : ∀ fault, x = .error fault → FirstFault rs fault

namespace Obeys

variable {α β : Type}

theorem of_ok {a : α} {rs : List Requirement} (met : ∀ r ∈ rs, r.holds) : Obeys (.ok a) rs :=
  ⟨fun _ _ => met, nofun⟩

theorem of_error {fault : Misconfiguration} {rs : List Requirement} (first : FirstFault rs fault) :
    Obeys (.error fault : Except Misconfiguration α) rs :=
  ⟨nofun, fun _ h => Except.error.inj h ▸ first⟩

theorem bind {x : Except Misconfiguration α} {f : α → Except Misconfiguration β}
    {rs more : List Requirement} (hx : Obeys x rs) (hf : ∀ a, x = .ok a → Obeys (f a) more) :
    Obeys (x >>= f) (rs ++ more) := by
  cases h : x with
  | error cause => exact of_error ((hx.first cause h).append more)
  | ok a =>
    refine ⟨fun b hb r hr => ?_, fun fault hfault => ?_⟩
    · exact (List.mem_append.mp hr).elim (hx.met a h r) ((hf a h).met b hb r)
    · exact firstFault_append (hx.met a h) ((hf a h).first fault hfault)

/-- What comes after a refusal obeys what is required beyond it, if the refusal is not made. -/
theorem guard {refused : Bool} {r : Requirement} {f : α → Except Misconfiguration β}
    {x : Except Misconfiguration β} {more : List Requirement} (asks : refused = false ↔ r.holds)
    (hx : Obeys x more) :
    Obeys (if refused = true then throw r.fault >>= f else x) (r :: more) := by
  cases refused with
  | true => exact of_error (.here fun met => Bool.noConfusion (asks.mpr met))
  | false =>
    have met := asks.mp rfl
    refine ⟨fun b hb => List.forall_mem_cons.mpr ⟨met, hx.met b hb⟩, fun fault hfault => ?_⟩
    exact .later met (hx.first fault hfault)

theorem succeeds_iff {x : Except Misconfiguration α} {rs : List Requirement} (hx : Obeys x rs) :
    (∃ a, x = .ok a) ↔ ∀ r ∈ rs, r.holds := by
  constructor
  · rintro ⟨a, h⟩
    exact hx.met a h
  · intro met
    cases h : x with
    | ok a => exact ⟨a, rfl⟩
    | error fault => exact absurd (hx.first fault h) (not_firstFault met fault)

theorem fails_iff {x : Except Misconfiguration α} {rs : List Requirement} (hx : Obeys x rs)
    {fault : Misconfiguration} : x = .error fault ↔ FirstFault rs fault := by
  constructor
  · exact hx.first fault
  · intro first
    cases h : x with
    | ok a => exact absurd first (not_firstFault (hx.met a h) fault)
    | error other => rw [first.unique (hx.first other h)]

end Obeys

end Requirement

namespace Variable

/-- The variables that set up a run, as they are documented. -/
def documented : List String := [wrapper, serviceDir, modulePath, hostname, domain, realm, admin,
  password, insecure, configPath, baseDn, testClient, hostName]

end Variable

namespace Settings

open Requirement (Obeys FirstFault)

/-- The value of a variable. An absent variable is like an empty one. -/
def valueOf (lookup : Lookup) (name : String) : String := (lookup name).getD ""

def saysFlag (value : String) : Prop :=
  value = "" ∨ Text.lowerAscii value ∈ ["1", "true", "yes", "0", "false", "no"]

def present (lookup : Lookup) (name : String) : Requirement :=
  ⟨valueOf lookup name ≠ "", .unset name⟩

/-- What is required of the variables and of the folder of the services, in the order in which it is
looked at. -/
def requirements (access : Access) (files : FileTree) (lookup : Lookup) : List Requirement :=
  let dir := valueOf lookup Variable.serviceDir
  let module := valueOf lookup Variable.modulePath
  let insecure := valueOf lookup Variable.insecure
  [ present lookup Variable.wrapper,
    ⟨valueOf lookup Variable.wrapper = "1", .notInitialized Variable.wrapper⟩,
    present lookup Variable.serviceDir,
    ⟨Char.ofNat 0 ∉ dir.toList, .holdsNul Variable.serviceDir⟩,
    ⟨access (Path.ofString dir) = true ∧ files.isFolder (Path.ofString dir) = true,
      .cannotAccess (Path.ofString dir)⟩,
    present lookup Variable.modulePath,
    ⟨module.toList.head? = some '/', .notAbsolute Variable.modulePath (Path.ofString module)⟩,
    present lookup Variable.hostname,
    present lookup Variable.domain,
    present lookup Variable.password,
    ⟨saysFlag insecure, .notFlag Variable.insecure insecure⟩ ]

theorem optional_eq (lookup : Lookup) (name : String) :
    optional lookup name =
      if valueOf lookup name = "" then none else some (valueOf lookup name) := by
  unfold optional valueOf
  cases lookup name with
  | none => rfl
  | some value => by_cases h : value = "" <;> simp [Option.filter, h]

theorem required_obeys (lookup : Lookup) (name : String) :
    Obeys (required lookup name) [present lookup name] := by
  unfold required
  rw [optional_eq]
  by_cases h : valueOf lookup name = ""
  · rw [if_pos h]
    exact .of_error (.here (r := present lookup name) (not_not_intro h))
  · rw [if_neg h]
    exact .of_ok fun r hr => List.mem_singleton.mp hr ▸ h

theorem eq_valueOf_of_required {lookup : Lookup} {name value : String}
    (h : required lookup name = .ok value) : value = valueOf lookup name := by
  rw [required_eq_ok, optional_eq] at h
  split at h
  · cases h
  · exact (Option.some.inj h).symm

theorem checkFolder_obeys (access : Access) (files : FileTree) (dir : String) :
    Obeys (checkFolder access files (Path.ofString dir))
      [⟨Char.ofNat 0 ∉ dir.toList, .holdsNul Variable.serviceDir⟩,
        ⟨access (Path.ofString dir) = true ∧ files.isFolder (Path.ofString dir) = true,
          .cannotAccess (Path.ofString dir)⟩] := by
  have nul : Bytes.hasNul (Path.ofString dir) = true ↔ Char.ofNat 0 ∈ dir.toList :=
    Utf8.hasNul_encode dir
  unfold checkFolder
  split
  · rename_i hnul
    exact .of_error (.here (r := ⟨_, _⟩) (not_not_intro (nul.mp hnul)))
  · rename_i hnul
    have free : Char.ofNat 0 ∉ dir.toList := fun h => hnul (nul.mpr h)
    split
    · rename_i usable
      refine .of_ok ?_
      simp only [List.forall_mem_cons, List.not_mem_nil, false_implies, implies_true, and_true]
      exact ⟨free, by simpa using usable⟩
    · rename_i unusable
      exact .of_error (.later (r := ⟨_, _⟩) free (.here (r := ⟨_, _⟩) (by simpa using unusable)))

theorem flag_obeys (name : String) (lookup : Lookup) :
    Obeys (flag name (optional lookup name))
      [⟨saysFlag (valueOf lookup name), .notFlag name (valueOf lookup name)⟩] := by
  rw [optional_eq]
  by_cases empty : valueOf lookup name = ""
  · rw [if_pos empty]
    exact .of_ok fun r hr => List.mem_singleton.mp hr ▸ .inl empty
  · rw [if_neg empty]
    have words : saysFlag (valueOf lookup name) ↔
        Text.lowerAscii (valueOf lookup name) ∈ ["1", "true", "yes"] ∨
          Text.lowerAscii (valueOf lookup name) ∈ ["0", "false", "no"] := by
      rw [saysFlag, or_iff_right empty]
      exact List.mem_append (s := ["1", "true", "yes"])
    simp only [flag, List.contains_iff_mem]
    split
    · rename_i on
      exact .of_ok fun r hr => List.mem_singleton.mp hr ▸ words.mpr (.inl on)
    · rename_i on
      split
      · rename_i off
        exact .of_ok fun r hr => List.mem_singleton.mp hr ▸ words.mpr (.inr off)
      · rename_i off
        exact .of_error (.here (r := ⟨_, _⟩) fun h => (words.mp h).elim on off)

theorem isAbsolute_ofString (s : String) :
    (Path.ofString s).isAbsolute = true ↔ s.toList.head? = some '/' := by
  unfold Path.ofString Path.isAbsolute Utf8.encode
  cases s.toList with
  | nil => decide
  | cons c rest =>
    obtain ⟨b, bs, hb⟩ := List.exists_cons_of_ne_nil (String.utf8EncodeChar_ne_nil (c := c))
    by_cases hc : c = '/'
    · have hbyte : String.utf8EncodeChar '/' = [Path.slash] := by decide
      simp [hc, hbyte]
    · have hnot := mt Path.slash_mem_encodeChar.mp hc
      rw [hb] at hnot
      have hne : b ≠ Path.slash := fun h => hnot (h ▸ List.mem_cons_self)
      simp [hb, hc, hne]

/-- **Loading obeys the list of its requirements.** -/
theorem loadWith_obeys (access : Access) (files : FileTree) (lookup : Lookup) :
    Obeys (loadWith access files lookup) (requirements access files lookup) := by
  unfold loadWith
  refine (required_obeys lookup Variable.wrapper).bind fun wrapper hwrapper => ?_
  obtain rfl := eq_valueOf_of_required hwrapper
  refine Obeys.guard (r := ⟨_, _⟩) bne_eq_false_iff_eq ?_
  refine (required_obeys lookup Variable.serviceDir).bind fun dir hdir => ?_
  obtain rfl := eq_valueOf_of_required hdir
  refine (checkFolder_obeys access files _).bind fun _ _ => ?_
  refine (required_obeys lookup Variable.modulePath).bind fun module hmodule => ?_
  obtain rfl := eq_valueOf_of_required hmodule
  refine Obeys.guard (r := ⟨_, _⟩) (by rw [Bool.not_eq_false', isAbsolute_ofString]) ?_
  refine (required_obeys lookup Variable.hostname).bind fun hostname _ => ?_
  refine (required_obeys lookup Variable.domain).bind fun domain _ => ?_
  refine (required_obeys lookup Variable.password).bind fun password _ => ?_
  exact (flag_obeys Variable.insecure lookup).bind fun _ _ => .of_ok nofun

/-- Whether two lookups give the documented variables the same values, of which an empty one is like
none. -/
def Agree (lookup other : Lookup) : Prop :=
  ∀ name ∈ Variable.documented, valueOf lookup name = valueOf other name

/-- Loading asks for the documented variables alone, and does not tell an empty one from none. -/
theorem loadWith_congr (access : Access) (files : FileTree) {lookup other : Lookup}
    (agree : Agree lookup other) : loadWith access files other = loadWith access files lookup := by
  have same (name : String) (h : name ∈ Variable.documented) :
      optional other name = optional lookup name := by
    rw [optional_eq, optional_eq, agree name h]
  simp only [Variable.documented, List.forall_mem_cons, List.not_mem_nil, false_implies, implies_true,
    and_true] at same
  obtain ⟨wrapper, dir, module, hostname, domain, realm, admin, password, insecure, config, base,
    client, host⟩ := same
  simp only [loadWith, required, wrapper, dir, module, hostname, domain, realm, admin, password,
    insecure, config, base, client, host]

end Settings

/-! ## Loading as an act -/

/-- Loads settings in a world of which a run may read and write what it is granted. -/
def Act.loadingWith {ν : Type} (access : Settings.Access) (lookup : Settings.Lookup) :
    Act ν Settings := Act.loading fun w => Settings.loadWith access w.files lookup

theorem Act.loadingWith_apply {ν : Type} (access : Settings.Access) (lookup : Settings.Lookup)
    (w : World ν) : Act.loadingWith access lookup w =
      match Settings.loadWith access w.files lookup with
      | .ok settings => (.done settings, w)
      | .error cause => (.failed (.environment cause), w) := rfl

namespace Settings

open Requirement (FirstFault)

/-- **Settings are loaded exactly where everything that is required is given, and otherwise the first
requirement that is not met is reported.** What comes of it depends on the documented variables alone,
with an empty one like none, and nothing is touched. -/
theorem loading_requires {ν : Type} (access : Access) (lookup : Lookup) (w : World ν) :
    ((∃ s, Act.loadingWith access lookup w = (.done s, w)) ↔
      ∀ r ∈ requirements access w.files lookup, r.holds) ∧
    (∀ fault, Act.loadingWith access lookup w = (.failed (.environment fault), w) ↔
      FirstFault (requirements access w.files lookup) fault) ∧
    (∀ ending after, Act.loadingWith access lookup w = (ending, after) → after = w ∧
      ((∃ s, ending = .done s) ∨ ∃ fault, ending = .failed (.environment fault))) ∧
    ∀ other, Agree lookup other → Act.loadingWith access other w = Act.loadingWith access lookup w := by
  have obeys := loadWith_obeys access w.files lookup
  refine ⟨?_, fun fault => ?_, fun ending after run => ?_, fun other agree => ?_⟩
  · rw [← obeys.succeeds_iff]
    simp only [Act.loadingWith_apply]
    cases loadWith access w.files lookup <;> simp
  · rw [← obeys.fails_iff]
    simp only [Act.loadingWith_apply]
    cases loadWith access w.files lookup <;> simp
  · rw [Act.loadingWith_apply] at run
    cases h : loadWith access w.files lookup with
    | ok s =>
      rw [h] at run
      obtain ⟨rfl, rfl⟩ := Prod.mk.inj run
      exact ⟨rfl, .inl ⟨s, rfl⟩⟩
    | error fault =>
      rw [h] at run
      obtain ⟨rfl, rfl⟩ := Prod.mk.inj run
      exact ⟨rfl, .inr ⟨fault, rfl⟩⟩
  · rw [Act.loadingWith_apply, Act.loadingWith_apply, loadWith_congr access w.files agree]

/-- A folder that is there but barred is reported before what is wrong after it, and an administrator
without a name is like none. -/
theorem loading_requires_barred :
    (∀ name ∈ Variable.documented,
      valueOf (lookupFor "" "Secret123") name =
        valueOf (fun name => if name = Variable.admin then some "" else lookupFor "" "Secret123" name)
          name) ∧
      Harness.prepared.files.isFolder (Path.ofString "/pam.d") = true ∧
      Act.loadingWith (fun _ => false) (lookupFor "" "Secret123") Harness.prepared =
        (.failed (.environment (.cannotAccess (Path.ofString "/pam.d"))), Harness.prepared) ∧
      Act.loadingWith (fun _ => false)
          (fun name => if name = Variable.admin then some "" else lookupFor "" "Secret123" name)
          Harness.prepared =
        (.failed (.environment (.cannotAccess (Path.ofString "/pam.d"))), Harness.prepared) := by
  have agree : Agree (lookupFor "" "Secret123")
      (fun name => if name = Variable.admin then some "" else lookupFor "" "Secret123" name) := by
    unfold Agree
    decide +kernel
  have dir : valueOf (lookupFor "" "Secret123") Variable.serviceDir = "/pam.d" := by decide
  have first : FirstFault
      (requirements (fun _ => false) Harness.prepared.files (lookupFor "" "Secret123"))
      (.cannotAccess (Path.ofString "/pam.d")) := by
    unfold requirements present
    simp only [dir]
    refine .later (by decide) (.later (by decide) (.later (by decide) (.later ?_ ?_)))
    · decide
    · exact .here (r := ⟨_, _⟩) (by simp)
  obtain ⟨-, fails, -, same⟩ :=
    loading_requires (fun _ => false) (lookupFor "" "Secret123") Harness.prepared
  exact ⟨agree, by decide +kernel, (fails _).mpr first, (same _ agree).trans ((fails _).mpr first)⟩

end Settings

end HostAccess
