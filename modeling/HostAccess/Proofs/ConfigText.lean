import HostAccess.ModuleConfig
import HostAccess.Proofs.Lines
import HostAccess.Proofs.PathNames

/-!
# What the configuration's text can carry

A value is written on a line of its own and read back without the blanks around it. So a value is
carried if it has no line feed and no blanks at its ends, and everything that is ever read is like
that. Main statement: what is written is read back exactly if every value is carried.
-/
namespace HostAccess

namespace Setting

/-- The line of a setting, without the line feed that ends it. -/
def line (s : Setting) (value : String) : List Char :=
  s.key.toList ++ ' ' :: '=' :: ' ' :: value.toList

theorem mem_all (s : Setting) : s ∈ all := by
  cases s <;> decide

theorem ofKey?_key (s : Setting) : ofKey? s.key = some s := by
  cases s <;> decide

theorem key_chars (s : Setting) :
    '\n' ∉ s.key.toList ∧ '=' ∉ s.key.toList ∧ Text.trim (s.key.toList ++ [' ']) = s.key.toList ∧
      ∃ c rest, s.key.toList = c :: rest ∧ Text.isBlank c = false ∧ c ≠ '#' := by
  cases s <;> exact ⟨by decide, by decide, by decide, _, _, rfl, by decide, by decide⟩

theorem feed_not_mem_line (s : Setting) {value : String} (h : '\n' ∉ value.toList) :
    '\n' ∉ s.line value := by
  simp [line, s.key_chars.1, h]

end Setting

namespace ModuleConfig

/-! ## One line -/

theorem ofChars_assignment (s : Setting) (rest : List Char) :
    Line.ofChars (s.key.toList ++ ' ' :: '=' :: rest) =
      .assigns s.key (String.ofList (Text.trim rest)) := by
  obtain ⟨-, equals, trimmed, c, more, hkey, solid, mark⟩ := s.key_chars
  have hsplit : Text.splitOnce '=' (s.key.toList ++ ' ' :: '=' :: rest) =
      some (s.key.toList ++ [' '], rest) := by
    have h : '=' ∉ s.key.toList ++ [' '] := by simp [equals]
    simpa using Text.splitOnce_append h rest
  have hstart : Text.trimStart (s.key.toList ++ ' ' :: '=' :: rest) =
      s.key.toList ++ ' ' :: '=' :: rest := by
    rw [hkey]
    exact Text.trimStart_cons_solid solid _
  unfold Line.ofChars
  rw [hstart]
  split
  · rename_i h
    simp at h
  · rename_i h
    rw [hkey] at h
    exact absurd (List.cons.inj h).1 mark
  · rw [hsplit]
    simp [trimmed]

/-- What is read of a value that is written. -/
def tidy (value : String) : String := String.ofList (Text.trim value.toList)

/-- A setting is read from its line without the blanks around its value. -/
theorem ofChars_line (s : Setting) (value : String) :
    Line.ofChars (Text.dropReturn (s.line value)) = .assigns s.key (tidy value) := by
  have hspace : Text.isBlank ' ' = true := by decide
  have hline : s.line value = (s.key.toList ++ [' ', '=']) ++ ' ' :: value.toList := by
    simp [Setting.line]
  rw [hline, Text.dropReturn_append _ (by simp), List.append_assoc]
  rw [List.cons_append, List.singleton_append, ofChars_assignment, Text.trim_dropReturn,
    Text.trim_cons_blank hspace]
  rfl

/-- What a line assigns is a trimmed part of the line. -/
theorem value_of_ofChars {l : List Char} {key value : String}
    (h : Line.ofChars l = .assigns key value) :
    ∃ rest, value = String.ofList (Text.trim rest) ∧ ∀ c ∈ rest, c ∈ l := by
  have inner : ∀ c ∈ Text.trimStart l, c ∈ l := fun c hc => (List.dropWhile_suffix _).subset hc
  unfold Line.ofChars at h
  split at h
  · cases h
  · cases h
  · split at h
    · cases h
    · rename_i before rest hsplit
      obtain ⟨-, rfl⟩ := Line.assigns.inj h
      refine ⟨rest, rfl, fun c hc => inner c ?_⟩
      rw [Text.eq_of_splitOnce hsplit]
      simp [hc]

/-! ## Values -/

theorem get?_set (c : ModuleConfig) (s t : Setting) (value : String) :
    (c.set s value).get? t = if t = s then some value else c.get? t := by
  cases s <;> cases t <;> simp [set, get?, Path.display, Path.ofString, Utf8.lossy_encode]

/-- Whether the text of a configuration can carry its values. -/
structure IsCarried (c : ModuleConfig) : Prop where
  whole : ∀ s, ∀ value ∈ c.get? s, '\n' ∉ value.toList
  trimmed : ∀ s, ∀ value ∈ c.get? s, Text.trim value.toList = value.toList
  isText : ∀ path ∈ c.certificate, Utf8.IsText path

theorem isText_set {c : ModuleConfig} (h : ∀ path ∈ c.certificate, Utf8.IsText path) (s : Setting)
    (value : String) : ∀ path ∈ (c.set s value).certificate, Utf8.IsText path := by
  intro path hp
  cases s with
  | certificate => exact ⟨value, (Option.some.inj hp).symm⟩
  | uri | base | bindDn | bindPassword | hostName => exact h path hp

theorem IsCarried.set {c : ModuleConfig} (h : c.IsCarried) (s : Setting) {value : String}
    (whole : '\n' ∉ value.toList) (trimmed : Text.trim value.toList = value.toList) :
    (c.set s value).IsCarried := by
  refine ⟨fun t v hv => ?_, fun t v hv => ?_, isText_set h.isText s value⟩
  · rw [get?_set] at hv
    split at hv
    · exact Option.some.inj hv ▸ whole
    · exact h.whole t v hv
  · rw [get?_set] at hv
    split at hv
    · exact Option.some.inj hv ▸ trimmed
    · exact h.trimmed t v hv

/-- Configurations whose certificates are texts are known by their values. -/
theorem eq_of_get? {c d : ModuleConfig} (hc : ∀ path ∈ c.certificate, Utf8.IsText path)
    (hd : ∀ path ∈ d.certificate, Utf8.IsText path) (h : ∀ s, c.get? s = d.get? s) : c = d := by
  have certificate : c.certificate = d.certificate := by
    have hshown : c.certificate.map Path.display = d.certificate.map Path.display := h .certificate
    cases hcp : c.certificate with
    | none =>
      cases hdp : d.certificate with
      | none => rfl
      | some q => simp [hcp, hdp] at hshown
    | some p =>
      cases hdp : d.certificate with
      | none => simp [hcp, hdp] at hshown
      | some q =>
        obtain ⟨s, rfl⟩ := hc p hcp
        obtain ⟨t, rfl⟩ := hd q hdp
        have hst : s = t := by simpa [hcp, hdp, Path.display, Utf8.lossy_encode] using hshown
        rw [hst]
  cases c
  cases d
  have uri := h .uri
  have base := h .base
  have bindDn := h .bindDn
  have bindPassword := h .bindPassword
  have hostName := h .hostName
  simp only [get?] at *
  simp [*]

/-! ## What is read -/

theorem readLines_isCarried {c d : ModuleConfig} (h : c.IsCarried) {number : Nat}
    {ls : List (List Char)} (whole : ∀ l ∈ ls, '\n' ∉ l) (read : c.readLines number ls = .ok d) :
    d.IsCarried := by
  induction ls generalizing c number with
  | nil =>
    obtain rfl : c = d := by simpa [readLines] using read
    exact h
  | cons l rest ih =>
    have later : ∀ m ∈ rest, '\n' ∉ m := fun m hm => whole m (List.mem_cons_of_mem l hm)
    rw [readLines] at read
    split at read
    · exact ih h later read
    · rename_i key value hl
      obtain ⟨part, rfl, inner⟩ := value_of_ofChars hl
      refine ih ?_ later read
      unfold assign
      split
      · refine h.set _ ?_ ?_
        · rw [String.toList_ofList]
          exact fun hfeed => whole l List.mem_cons_self (inner _ (Text.mem_of_mem_trim hfeed))
        · rw [String.toList_ofList, Text.trim_trim]
      · exact h
    · cases read

/-- Everything that is read can be carried. -/
theorem isCarried_of_parse {text : String} {c : ModuleConfig} (h : parse text = .ok c) :
    c.IsCarried := by
  have nothing : empty.IsCarried := by
    refine ⟨fun s value hv => ?_, fun s value hv => ?_, fun path hp => by cases hp⟩
    · cases s <;> cases hv
    · cases s <;> cases hv
  exact readLines_isCarried nothing (fun l hl => Text.feed_not_mem_line hl) h

/-! ## What is written -/

/-- The lines of the settings that have a value. -/
def written (c : ModuleConfig) (settings : List Setting) : List (List Char) :=
  settings.filterMap fun s => (c.get? s).map s.line

/-- A text that grows by the line of each setting in turn grows by the lines of all. -/
theorem foldl_written (c : ModuleConfig) {grow : String → Setting → String}
    (grows : ∀ text s, (grow text s).toList =
      text.toList ++ (c.written [s]).flatMap (· ++ ['\n']))
    (settings : List Setting) (text : String) :
    (settings.foldl grow text).toList =
      text.toList ++ (c.written settings).flatMap (· ++ ['\n']) := by
  induction settings generalizing text with
  | nil => simp [written]
  | cons s rest ih =>
    have hcons : c.written (s :: rest) = c.written [s] ++ c.written rest :=
      List.filterMap_append (l := [s])
    rw [List.foldl_cons, ih, grows, hcons, List.flatMap_append, List.append_assoc]

theorem render_eq_written (c : ModuleConfig) :
    c.render.toList = (c.written Setting.all).flatMap (· ++ ['\n']) := by
  refine (c.foldl_written (fun text s => ?_) Setting.all "").trans (List.nil_append _)
  cases hs : c.get? s with
  | none => simp [written, hs]
  | some value => simp [written, hs, renderLine, Setting.line]

/-- What is read of a setting, on top of a configuration. -/
def takeOver (c d : ModuleConfig) (s : Setting) : ModuleConfig :=
  match c.get? s with
  | some value => d.set s (tidy value)
  | none => d

theorem readLines_written (c d : ModuleConfig) (number : Nat) (settings : List Setting) :
    d.readLines number ((c.written settings).map Text.dropReturn) =
      .ok (settings.foldl c.takeOver d) := by
  induction settings generalizing d number with
  | nil => rfl
  | cons s rest ih =>
    cases hs : c.get? s with
    | none =>
      have hskip : c.written (s :: rest) = c.written rest := by simp [written, hs]
      have hkeep : c.takeOver d s = d := by simp [takeOver, hs]
      rw [hskip, ih, List.foldl_cons, hkeep]
    | some value =>
      have hline : c.written (s :: rest) = s.line value :: c.written rest := by simp [written, hs]
      have hset : c.takeOver d s = d.set s (tidy value) := by simp [takeOver, hs]
      have hassign : d.assign s.key (tidy value) = d.set s (tidy value) := by
        simp [assign, Setting.ofKey?_key]
      rw [hline, List.map_cons, readLines, ofChars_line]
      simp only
      rw [hassign, ih, List.foldl_cons, hset]

theorem get?_takeOver (c d : ModuleConfig) (s t : Setting) :
    (c.takeOver d s).get? t =
      if t = s then ((c.get? t).map tidy).or (d.get? t) else d.get? t := by
  unfold takeOver
  by_cases h : t = s
  · subst h
    cases c.get? t <;> simp [get?_set]
  · cases c.get? s <;> simp [get?_set, h]

theorem get?_foldl_takeOver (c d : ModuleConfig) (settings : List Setting) {t : Setting}
    (h : d.get? t = none) (ht : t ∈ settings) :
    (settings.foldl c.takeOver d).get? t = (c.get? t).map tidy := by
  have keep : ∀ (settings : List Setting) (e : ModuleConfig), e.get? t = (c.get? t).map tidy →
      (settings.foldl c.takeOver e).get? t = (c.get? t).map tidy := by
    intro settings
    induction settings with
    | nil => exact fun e he => he
    | cons s rest ih =>
      intro e he
      refine ih _ ?_
      rw [get?_takeOver, he]
      cases (c.get? t).map tidy <;> simp
  induction settings generalizing d with
  | nil => cases ht
  | cons s rest ih =>
    rw [List.foldl_cons]
    by_cases hs : t = s
    · refine keep rest _ ?_
      rw [get?_takeOver, if_pos hs, h, Option.or_none]
    · refine ih _ ?_ ((List.mem_cons.mp ht).resolve_left hs)
      rw [get?_takeOver, if_neg hs, h]

theorem isText_foldl_takeOver (c : ModuleConfig) {d : ModuleConfig}
    (h : ∀ path ∈ d.certificate, Utf8.IsText path) (settings : List Setting) :
    ∀ path ∈ (settings.foldl c.takeOver d).certificate, Utf8.IsText path := by
  induction settings generalizing d with
  | nil => exact h
  | cons s rest ih =>
    refine ih ?_
    unfold takeOver
    split
    · exact isText_set h s _
    · exact h

/-- A configuration without line feeds is read back but for the blanks around its values. -/
theorem parse_render_of_whole {c : ModuleConfig}
    (whole : ∀ s, ∀ value ∈ c.get? s, '\n' ∉ value.toList) :
    ∃ d, parse c.render = .ok d ∧ (∀ path ∈ d.certificate, Utf8.IsText path) ∧
      ∀ s, d.get? s = (c.get? s).map tidy := by
  have hfeeds : ∀ l ∈ c.written Setting.all, '\n' ∉ l := by
    intro l hl
    obtain ⟨s, -, hs⟩ := List.mem_filterMap.mp hl
    obtain ⟨value, hv, rfl⟩ := Option.map_eq_some_iff.mp hs
    exact s.feed_not_mem_line (whole s value hv)
  refine ⟨Setting.all.foldl c.takeOver empty, ?_,
    isText_foldl_takeOver c (fun path hp => by cases hp) _, fun s => ?_⟩
  · unfold parse
    rw [render_eq_written, Text.lines_ended hfeeds, readLines_written]
  · exact get?_foldl_takeOver c empty Setting.all (by cases s <;> rfl) s.mem_all

theorem parse_render_of_isCarried {c : ModuleConfig} (h : c.IsCarried) : parse c.render = .ok c := by
  obtain ⟨d, hd, isText, values⟩ := parse_render_of_whole h.whole
  have same : d = c := by
    refine eq_of_get? isText h.isText fun s => ?_
    rw [values]
    cases hs : c.get? s with
    | none => rfl
    | some value => simp [tidy, h.trimmed s value hs]
  rw [hd, same]

/-! ## What is read back -/

/-- Whether two configurations are equal, with paths compared name by name. -/
structure Same (c d : ModuleConfig) : Prop where
  values : ∀ s, s ≠ .certificate → c.get? s = d.get? s
  certificate : Option.Rel Path.Same c.certificate d.certificate

/-- A certificate that is read back under the same names is a text that differs from what is read in
slashes and dots alone. -/
theorem certificate_of_same {c d : ModuleConfig} (carried : d.IsCarried) (same : d.Same c) :
    (c.certificate = none ∧ d.certificate = none) ∨
      ∃ t v, c.certificate = some (Path.ofString t) ∧ d.certificate = some (Path.ofString v) ∧
        (Path.ofString t).filter Path.isSolid = (Path.ofString v).filter Path.isSolid := by
  have hrel := same.certificate
  cases hp : c.certificate with
  | none =>
    cases hq : d.certificate with
    | none => exact .inl ⟨rfl, rfl⟩
    | some q =>
      rw [hp, hq] at hrel
      cases hrel
  | some p =>
    cases hq : d.certificate with
    | none =>
      rw [hp, hq] at hrel
      cases hrel
    | some q =>
      rw [hp, hq] at hrel
      obtain ⟨v, rfl⟩ := carried.isText q hq
      cases hrel with
      | some hnames =>
        obtain ⟨t, rfl, hsolid⟩ := Path.text_of_names hnames.names.symm
        exact .inr ⟨t, v, rfl, rfl, hsolid⟩

/-- The names of the certificate's path tell its line feeds, so a configuration that is read back has
none. -/
theorem whole_of_same {c d : ModuleConfig} (carried : d.IsCarried) (same : d.Same c) :
    ∀ s, ∀ value ∈ c.get? s, '\n' ∉ value.toList := by
  intro s value hv
  by_cases hs : s = .certificate
  · subst hs
    obtain ⟨hnone, -⟩ | ⟨t, v, ht, hd, hsolid⟩ := certificate_of_same carried same
    · simp [get?, hnone] at hv
    · obtain rfl : t = value := by simpa [get?, ht, Path.display, Path.ofString, Utf8.lossy_encode] using hv
      have hwhole : '\n' ∉ v.toList :=
        carried.whole .certificate v (by simp [get?, hd, Path.display, Path.ofString, Utf8.lossy_encode])
      exact fun hfeed => hwhole ((Path.feed_mem_iff hsolid).mp hfeed)
  · exact carried.whole s value (same.values s hs ▸ hv)

/-- The names of the certificate's path tell the blanks at its ends, so a configuration that is read
back the same is read back to the byte. -/
theorem eq_of_same {c d : ModuleConfig} (read : parse c.render = .ok d) (same : d.Same c) : d = c := by
  have carried := isCarried_of_parse read
  obtain ⟨e, he, -, values⟩ := parse_render_of_whole (whole_of_same carried same)
  obtain rfl : e = d := Except.ok.inj (he.symm.trans read)
  have shown : e.get? .certificate = c.get? .certificate ∧
      ∀ path ∈ c.certificate, Utf8.IsText path := by
    obtain ⟨hc, hd⟩ | ⟨t, v, ht, hd, hsolid⟩ := certificate_of_same carried same
    · simp [get?, hc, hd]
    · have hv : v = tidy t := by
        simpa [get?, ht, hd, Path.display, Path.ofString, Utf8.lossy_encode] using values .certificate
      rw [hv] at hsolid hd
      have hkept : tidy t = t := by
        rw [tidy, Path.trim_of_filter hsolid, String.ofList_toList]
      rw [hkept] at hd
      simp only [get?, ht, hd, Option.mem_some_iff, true_and]
      exact fun path hpath => ⟨t, hpath.symm⟩
  refine eq_of_get? carried.isText shown.2 fun s => ?_
  by_cases hs : s = .certificate
  · rw [hs, shown.1]
  · exact same.values s hs

/-- **A configuration survives being written and read exactly if its text can carry it**: if every
value that it has is without line feeds and without blanks at its ends, and its certificate is a text.
It makes no difference whether the certificate's path is compared byte by byte or name by name. -/
theorem parse_render_iff (c : ModuleConfig) :
    (parse c.render = .ok c ↔ c.IsCarried) ∧
      ∀ d, parse c.render = .ok d → d.Same c → d = c :=
  ⟨⟨isCarried_of_parse, parse_render_of_isCarried⟩, fun _ read same => eq_of_same read same⟩

end ModuleConfig
end HostAccess
