import HostAccess.Proofs.ConfigText

/-!
# The grammar of the configuration's text

A configuration is read line by line, each line on top of what the lines before it have said. What it
comes to can be said without that order: of every setting, the last line that sets it counts, and the
first line that cannot be read is the one that is reported. Main statements: reading agrees with this
grammar, and a configuration that was read is written in a normal form.
-/
namespace HostAccess

namespace Text

/-! ## The lines of a text -/

/-- Whether these are the lines of a text. A line is ended by a line feed, with or without a return
before it; the last one may be ended by the text, if it holds anything. -/
inductive Lined : List Char → List (List Char) → Prop
  | nothing : Lined [] []
  | unended {l} (filled : l ≠ []) (whole : '\n' ∉ l) : Lined l [l]
  | feed {l rest ls} (whole : '\n' ∉ l) (bare : l.getLast? ≠ some '\r') (later : Lined rest ls) :
    Lined (l ++ '\n' :: rest) (l :: ls)
  | returnFeed {l rest ls} (whole : '\n' ∉ l) (later : Lined rest ls) :
    Lined (l ++ '\r' :: '\n' :: rest) (l :: ls)

/-- Whether what follows a text begins a line of its own. -/
def Ended (cs : List Char) : Prop := cs = [] ∨ cs.getLast? = some '\n'

instance (cs : List Char) : Decidable (Ended cs) := by unfold Ended; infer_instance

theorem lines_append {cs : List Char} (ended : Ended cs) (more : List Char) :
    lines (cs ++ more) = lines cs ++ lines more := by
  obtain rfl | hlast := ended
  · rfl
  obtain ⟨front, rfl⟩ := List.getLast?_eq_some_iff.mp hlast
  have hnil : Pieces.split '\n' more ≠ [] := Pieces.split_ne_nil '\n' more
  have both : Pieces.split '\n' (front ++ ['\n'] ++ more) =
      Pieces.split '\n' front ++ Pieces.split '\n' more := by
    rw [List.append_assoc, List.singleton_append, Pieces.split_concat]
  have first : lines (front ++ ['\n']) = (Pieces.split '\n' front).map dropReturn := by
    simp [lines, Pieces.split_concat, Pieces.split]
  rw [first]
  simp only [lines, both, List.dropLast_append_of_ne_nil hnil,
    List.getLast?_append_of_ne_nil _ hnil, List.map_append]
  split <;> simp

theorem lines_of_not_mem {l : List Char} (filled : l ≠ []) (whole : '\n' ∉ l) : lines l = [l] := by
  obtain ⟨c, rest, rfl⟩ := List.exists_cons_of_ne_nil filled
  simp [lines, Pieces.split_of_not_mem whole]

theorem lines_feed {l : List Char} (whole : '\n' ∉ l) (rest : List Char) :
    lines (l ++ '\n' :: rest) = dropReturn l :: lines rest := by
  have ended : ∀ m ∈ [l], '\n' ∉ m := by simpa using whole
  have first : lines (l ++ ['\n']) = [dropReturn l] := by simpa using lines_ended ended
  rw [← List.singleton_append, ← List.append_assoc, lines_append (by simp [Ended]), first]
  rfl

theorem dropReturn_of_bare {l : List Char} (bare : l.getLast? ≠ some '\r') : dropReturn l = l := by
  unfold dropReturn
  split
  · rename_i hlast
    exact absurd hlast bare
  · rfl

theorem dropReturn_concat (l : List Char) : dropReturn (l ++ ['\r']) = l := by
  simp [dropReturn]

theorem lined_lines (text : List Char) : Lined text (lines text) := by
  -- By the length of the text: what follows its first line feed is shorter.
  induction hn : text.length using Nat.strongRecOn generalizing text with
  | ind n ih =>
    by_cases hmem : '\n' ∈ text
    · obtain ⟨l, rest, rfl, whole⟩ := List.eq_append_cons_of_mem hmem
      have later : Lined rest (lines rest) := by
        refine ih rest.length ?_ rest rfl
        rw [← hn, List.length_append, List.length_cons]
        omega
      rw [lines_feed whole]
      by_cases bare : l.getLast? = some '\r'
      · obtain ⟨front, rfl⟩ := List.getLast?_eq_some_iff.mp bare
        rw [dropReturn_concat, List.append_assoc]
        exact .returnFeed (fun h => whole (List.mem_append_left _ h)) later
      · rw [dropReturn_of_bare bare]
        exact .feed whole bare later
    · by_cases filled : text = []
      · subst filled
        exact .nothing
      · rw [lines_of_not_mem filled hmem]
        exact .unended filled hmem

/-- **Every text has its lines, and no others.** -/
theorem lined_iff {text : List Char} {ls : List (List Char)} : Lined text ls ↔ ls = lines text := by
  constructor
  · intro lined
    induction lined with
    | nothing => rfl
    | unended filled whole => exact (lines_of_not_mem filled whole).symm
    | feed whole bare _ ih => rw [lines_feed whole, dropReturn_of_bare bare, ih]
    | @returnFeed l rest ls whole _ ih =>
      have hreturn : '\n' ∉ l ++ ['\r'] := by simp [whole]
      have hjoin : l ++ '\r' :: '\n' :: rest = l ++ ['\r'] ++ '\n' :: rest := by simp
      rw [hjoin, lines_feed hreturn, dropReturn_concat, ih]
  · rintro rfl
    exact lined_lines text

/-! ## What trimming leaves of a line -/

theorem trimStart_append_solid {c : Char} (h : isBlank c = false) (before after : List Char) :
    trimStart (before ++ c :: after) = trimStart before ++ c :: after := by
  unfold trimStart
  rw [List.dropWhile_append]
  split
  · rename_i hnil
    simp [List.isEmpty_iff.mp hnil, h]
  · rfl

theorem trim_trimStart (cs : List Char) : trim (trimStart cs) = trim cs := by
  have start : trimStart (trimStart cs) = trimStart cs := List.dropWhile_idempotent isBlank cs
  rw [trim, start, trim]

theorem splitOnce_of_not_mem {sep : Char} {cs : List Char} (h : sep ∉ cs) :
    splitOnce sep cs = none := by
  induction cs with
  | nil => rfl
  | cons c rest ih =>
    simp only [List.mem_cons, not_or] at h
    simp [splitOnce, Ne.symm h.1, ih h.2]

/-- Whether two texts are equal but for capitals, of which only those of ASCII count. -/
def SameLetters (a b : String) : Prop := upperAscii a = upperAscii b

end Text

namespace Setting

theorem upperAscii_key (s : Setting) : Text.upperAscii s.key = s.key := by
  cases s <;> decide

theorem ofKey?_eq_some_iff {key : String} {s : Setting} :
    ofKey? key = some s ↔ Text.SameLetters key s.key := by
  rw [Text.SameLetters, upperAscii_key]
  constructor
  · intro h
    unfold ofKey? at h
    have found : s.key = Text.upperAscii key := by simpa using List.find?_some h
    exact found.symm
  · intro h
    unfold ofKey?
    rw [h]
    cases s <;> decide

end Setting

namespace ModuleConfig

/-! ## What a line says -/

/-- Whether a line is neither blank nor a comment, and yet has nothing that separates a key from a
value. -/
structure Unreadable (line : List Char) : Prop where
  filled : Text.trimStart line ≠ []
  plain : (Text.trimStart line).head? ≠ some '#'
  unseparated : '=' ∉ line

/-- Whether a line sets a setting to a value: it is no comment, its key is what comes before the first
`=`, and its value what comes after it. -/
def Sets (s : Setting) (value : String) (line : List Char) : Prop :=
  (Text.trimStart line).head? ≠ some '#' ∧
    ∃ key rest, line = key ++ '=' :: rest ∧ '=' ∉ key ∧
      Text.SameLetters (String.ofList (Text.trim key)) s.key ∧
      value = String.ofList (Text.trim rest)

theorem ofChars_of_separated {key : List Char} (h : '=' ∉ key) (rest : List Char) :
    Line.ofChars (key ++ '=' :: rest) =
      if (Text.trimStart (key ++ '=' :: rest)).head? = some '#' then .nothing
      else .assigns (String.ofList (Text.trim key)) (String.ofList (Text.trim rest)) := by
  have inner : '=' ∉ Text.trimStart key := fun hmem => h ((List.dropWhile_suffix _).subset hmem)
  unfold Line.ofChars
  rw [Text.trimStart_append_solid (by decide)]
  split
  · rename_i hnil
    simp at hnil
  · rename_i hmark
    rw [hmark]
    rfl
  · rename_i hmark
    rw [Text.splitOnce_append inner, if_neg]
    · simp only [Text.trim_trimStart]
    · intro hhead
      obtain ⟨more, hmore⟩ := List.head?_eq_some_iff.mp hhead
      exact hmark _ hmore

theorem ofChars_of_unseparated {line : List Char} (h : '=' ∉ line) :
    Line.ofChars line =
      if Text.trimStart line = [] ∨ (Text.trimStart line).head? = some '#' then .nothing
      else .malformed := by
  have inner : '=' ∉ Text.trimStart line := fun hmem => h ((List.dropWhile_suffix _).subset hmem)
  unfold Line.ofChars
  split
  · rename_i hnil
    simp [hnil]
  · rename_i hmark
    simp [hmark]
  · rename_i hnil hmark
    rw [Text.splitOnce_of_not_mem inner, if_neg]
    rintro (hempty | hhead)
    · exact hnil hempty
    · obtain ⟨more, hmore⟩ := List.head?_eq_some_iff.mp hhead
      exact hmark _ hmore

theorem ofChars_eq_malformed_iff {line : List Char} :
    Line.ofChars line = .malformed ↔ Unreadable line := by
  by_cases hmem : '=' ∈ line
  · obtain ⟨key, rest, rfl, bare⟩ := List.eq_append_cons_of_mem hmem
    rw [ofChars_of_separated bare]
    constructor
    · intro h
      split at h <;> cases h
    · rintro ⟨-, -, unseparated⟩
      exact absurd hmem unseparated
  · rw [ofChars_of_unseparated hmem]
    constructor
    · intro h
      split at h
      · cases h
      · rename_i hsome
        obtain ⟨filled, plain⟩ := not_or.mp hsome
        exact ⟨filled, plain, hmem⟩
    · rintro ⟨filled, plain, -⟩
      simp [filled, plain]

/-- What a line sets a setting to, if it sets it. -/
def setBy? (s : Setting) (line : List Char) : Option String :=
  match Line.ofChars line with
  | .assigns key value => if Setting.ofKey? key = some s then some value else none
  | .nothing | .malformed => none

theorem setBy?_eq_some_iff {s : Setting} {line : List Char} {value : String} :
    setBy? s line = some value ↔ Sets s value line := by
  by_cases hmem : '=' ∈ line
  · obtain ⟨key, rest, rfl, bare⟩ := List.eq_append_cons_of_mem hmem
    have only : ∀ key' rest', key ++ '=' :: rest = key' ++ '=' :: rest' → '=' ∉ key' →
        key' = key ∧ rest' = rest := by
      intro key' rest' hline bare'
      have hsplit := Text.splitOnce_append bare' rest'
      rw [← hline, Text.splitOnce_append bare rest] at hsplit
      simpa [eq_comm] using hsplit
    unfold setBy?
    rw [ofChars_of_separated bare]
    constructor
    · intro h
      split at h
      · rename_i hline
        split at hline
        · cases hline
        · rename_i plain
          obtain ⟨rfl, rfl⟩ := Line.assigns.inj hline
          split at h
          · rename_i hkey
            exact ⟨plain, key, rest, rfl, bare, Setting.ofKey?_eq_some_iff.mp hkey,
              (Option.some.inj h).symm⟩
          · cases h
      · cases h
      · cases h
    · rintro ⟨plain, key', rest', hline, bare', same, rfl⟩
      obtain ⟨rfl, rfl⟩ := only key' rest' hline bare'
      simp [plain, Setting.ofKey?_eq_some_iff.mpr same]
  · have nothing : setBy? s line = none := by
      unfold setBy?
      rw [ofChars_of_unseparated hmem]
      split
      · rename_i hline
        split at hline <;> cases hline
      · rfl
      · rfl
    rw [nothing]
    constructor
    · intro h
      cases h
    · rintro ⟨-, key, rest, rfl, -⟩
      simp at hmem

/-! ## What lines say together -/

/-- The value that lines give to a setting: that of the last line that sets it. -/
inductive LastValue (s : Setting) (ls : List (List Char)) : Option String → Prop
  | unset (never : ∀ l ∈ ls, ∀ value, ¬ Sets s value l) : LastValue s ls none
  | set {before line after value} (split : ls = before ++ line :: after) (sets : Sets s value line)
    (last : ∀ l ∈ after, ∀ other, ¬ Sets s other l) : LastValue s ls (some value)

def lastValue (s : Setting) (ls : List (List Char)) : Option String :=
  ls.reverse.findSome? (setBy? s)

theorem lastValue_append (s : Setting) (ls more : List (List Char)) :
    lastValue s (ls ++ more) = (lastValue s more).or (lastValue s ls) := by
  simp [lastValue, List.findSome?_append]

theorem setBy?_eq_none_iff {s : Setting} {line : List Char} :
    setBy? s line = none ↔ ∀ value, ¬ Sets s value line := by
  simp [Option.eq_none_iff_forall_ne_some, ← setBy?_eq_some_iff]

theorem lastValue_iff {s : Setting} {ls : List (List Char)} {value : Option String} :
    LastValue s ls value ↔ value = lastValue s ls := by
  constructor
  · rintro (never | ⟨rfl, sets, last⟩)
    · refine (List.findSome?_eq_none_iff.mpr fun l hl => ?_).symm
      exact setBy?_eq_none_iff.mpr (never l (List.mem_reverse.mp hl))
    · rename_i before line after value
      have later : lastValue s after = none := List.findSome?_eq_none_iff.mpr fun l hl =>
        setBy?_eq_none_iff.mpr (last l (List.mem_reverse.mp hl))
      have here : lastValue s [line] = some value := by
        simp [lastValue, setBy?_eq_some_iff.mpr sets]
      rw [← List.singleton_append, lastValue_append, lastValue_append, later, here]
      rfl
  · rintro rfl
    cases h : lastValue s ls with
    | none =>
      refine .unset fun l hl => setBy?_eq_none_iff.mp ?_
      exact List.findSome?_eq_none_iff.mp h l (List.mem_reverse.mpr hl)
    | some value =>
      obtain ⟨after, line, before, hls, sets, last⟩ := List.findSome?_eq_some_iff.mp h
      have split : ls = before.reverse ++ line :: after.reverse := by
        simpa using congrArg List.reverse hls
      exact .set split (setBy?_eq_some_iff.mp sets) fun l hl =>
        setBy?_eq_none_iff.mp (last l (List.mem_reverse.mp hl))

/-- The configuration with these values. -/
def ofValues (values : Setting → Option String) : ModuleConfig where
  uri := values .uri
  base := values .base
  bindDn := values .bindDn
  bindPassword := values .bindPassword
  certificate := (values .certificate).map Path.ofString
  hostName := values .hostName

theorem ofValues_congr {values others : Setting → Option String} (h : ∀ s, values s = others s) :
    ofValues values = ofValues others := by rw [funext h]

theorem ofValues_none : ofValues (fun _ => none) = empty := rfl

theorem set_ofValues (values : Setting → Option String) (s : Setting) (value : String) :
    (ofValues values).set s value = ofValues fun t => if s = t then some value else values t := by
  cases s <;> simp [set, ofValues]

/-- The configuration after a line that can be read. -/
def afterLine (c : ModuleConfig) (line : List Char) : ModuleConfig :=
  match Line.ofChars line with
  | .assigns key value => c.assign key value
  | .nothing | .malformed => c

/-- A line changes the setting that it sets and no other. -/
theorem afterLine_ofValues (values : Setting → Option String) (line : List Char) :
    (ofValues values).afterLine line = ofValues fun s => (setBy? s line).or (values s) := by
  unfold afterLine setBy?
  split
  · rename_i key value hline
    unfold assign
    split
    · rename_i s hkey
      rw [set_ofValues]
      refine ofValues_congr fun t => ?_
      by_cases hst : s = t
      · simp [hkey, hst]
      · simp [hkey, hst]
    · rename_i hkey
      exact ofValues_congr fun t => by simp [hkey]
  · rfl
  · rfl

/-- **Of every setting, the last line that sets it counts.** -/
theorem foldl_afterLine (ls : List (List Char)) (values : Setting → Option String) :
    ls.foldl afterLine (ofValues values) = ofValues fun s => (lastValue s ls).or (values s) := by
  induction ls generalizing values with
  | nil => rfl
  | cons line rest ih =>
    rw [List.foldl_cons, afterLine_ofValues, ih]
    refine ofValues_congr fun s => ?_
    have one : lastValue s [line] = setBy? s line := by
      cases h : setBy? s line <;> simp [lastValue, h]
    rw [← List.singleton_append, lastValue_append, one, Option.or_assoc]

theorem readLines_eq_ok_iff {c d : ModuleConfig} {number : Nat} {ls : List (List Char)} :
    c.readLines number ls = .ok d ↔
      (∀ l ∈ ls, ¬ Unreadable l) ∧ d = ls.foldl afterLine c := by
  induction ls generalizing c number with
  | nil => simp [readLines, eq_comm]
  | cons line rest ih =>
    rw [List.foldl_cons, List.forall_mem_cons, ← ofChars_eq_malformed_iff]
    cases hline : Line.ofChars line with
    | nothing =>
      have kept : c.afterLine line = c := by simp [afterLine, hline]
      simp [readLines, hline, kept, ih]
    | assigns key value =>
      have changed : c.afterLine line = c.assign key value := by simp [afterLine, hline]
      simp [readLines, hline, changed, ih]
    | malformed => simp [readLines, hline]

/-- The place of the first line that cannot be read, counted from 1. -/
def FirstUnreadable (ls : List (List Char)) (number : Nat) : Prop :=
  ∃ before line after, ls = before ++ line :: after ∧ (∀ l ∈ before, ¬ Unreadable l) ∧
    Unreadable line ∧ number = before.length + 1

theorem readLines_eq_error_iff {c : ModuleConfig} {start : Nat} {ls : List (List Char)}
    {cause : Misuse} :
    c.readLines start ls = .error cause ↔
      ∃ number, FirstUnreadable ls number ∧ cause = .noSeparator (start + number - 1) := by
  induction ls generalizing c start with
  | nil => simp [readLines, FirstUnreadable]
  | cons line rest ih =>
    -- A line that can be read puts off the first that cannot.
    have later (h : ¬ Unreadable line) :
        (∃ number, FirstUnreadable rest number ∧ cause = .noSeparator (start + 1 + number - 1)) ↔
          ∃ number, FirstUnreadable (line :: rest) number ∧
            cause = .noSeparator (start + number - 1) := by
      constructor
      · rintro ⟨_, ⟨before, bad, after, rfl, readable, unreadable, rfl⟩, rfl⟩
        refine ⟨before.length + 2, ⟨line :: before, bad, after, rfl, ?_, unreadable, rfl⟩, ?_⟩
        · exact List.forall_mem_cons.mpr ⟨h, readable⟩
        · congr 1
          omega
      · rintro ⟨_, ⟨before, bad, after, hls, readable, unreadable, rfl⟩, rfl⟩
        cases before with
        | nil =>
          obtain ⟨rfl, -⟩ := List.cons.inj hls
          exact absurd unreadable h
        | cons first before =>
          obtain ⟨rfl, rfl⟩ := List.cons.inj hls
          refine ⟨before.length + 1, ⟨before, bad, after, rfl,
            (List.forall_mem_cons.mp readable).2, unreadable, rfl⟩, ?_⟩
          congr 1
          simp only [List.length_cons]
          omega
    rw [readLines]
    split
    · rename_i hline
      exact ih.trans (later fun h => by simp [ofChars_eq_malformed_iff.mpr h] at hline)
    · rename_i key value hline
      exact ih.trans (later fun h => by simp [ofChars_eq_malformed_iff.mpr h] at hline)
    · rename_i hline
      have here := ofChars_eq_malformed_iff.mp hline
      constructor
      · intro h
        exact ⟨1, ⟨[], line, rest, rfl, by simp, here, rfl⟩, (Except.error.inj h).symm⟩
      · rintro ⟨_, ⟨before, bad, after, hls, readable, -, rfl⟩, rfl⟩
        cases before with
        | nil => rfl
        | cons first before =>
          obtain ⟨rfl, -⟩ := List.cons.inj hls
          exact absurd here (readable line List.mem_cons_self)

theorem parse_eq_ok_iff {text : String} {c : ModuleConfig} :
    parse text = .ok c ↔ (∀ l ∈ Text.lines text.toList, ¬ Unreadable l) ∧
      c = ofValues fun s => lastValue s (Text.lines text.toList) := by
  unfold parse
  rw [readLines_eq_ok_iff, ← ofValues_none, foldl_afterLine]
  simp only [Option.or_none]

/-- The values of a configuration where it has them, and those of another elsewhere. -/
def onTopOf (c d : ModuleConfig) : ModuleConfig where
  uri := c.uri.or d.uri
  base := c.base.or d.base
  bindDn := c.bindDn.or d.bindDn
  bindPassword := c.bindPassword.or d.bindPassword
  certificate := c.certificate.or d.certificate
  hostName := c.hostName.or d.hostName

theorem onTopOf_ofValues (values others : Setting → Option String) :
    (ofValues values).onTopOf (ofValues others) = ofValues fun s => (values s).or (others s) := by
  simp [onTopOf, ofValues, Option.map_or]

theorem parse_append {a b : String} {c d : ModuleConfig} (ended : Text.Ended a.toList)
    (first : parse a = .ok c) (second : parse b = .ok d) : parse (a ++ b) = .ok (d.onTopOf c) := by
  rw [parse_eq_ok_iff] at first second ⊢
  obtain ⟨readableA, rfl⟩ := first
  obtain ⟨readableB, rfl⟩ := second
  rw [String.toList_append, Text.lines_append ended, onTopOf_ofValues]
  refine ⟨fun l hl => ?_, ofValues_congr fun s => (lastValue_append s _ _).symm⟩
  exact (List.mem_append.mp hl).elim (readableA l) (readableB l)

/-- **A configuration is read by the grammar of its lines.** Reading fails exactly if a line cannot be
read, and reports the first. Otherwise every setting has the value that the last line which sets it
gives, and is absent if no line sets it. So what is read of two texts, one after the other, is what is
read of the second on top of what is read of the first. -/
theorem parse_by_lines :
    (∀ (text : String) (ls : List (List Char)), Text.Lined text.toList ls →
      (∀ cause, parse text = .error cause ↔
        ∃ number, FirstUnreadable ls number ∧ cause = .noSeparator number ∧
          cause.message = "malformed line " ++ toString number ++ ": no separator") ∧
      ∀ c, parse text = .ok c ↔ (∀ l ∈ ls, ¬ Unreadable l) ∧
        ∃ values : Setting → Option String, (∀ s, LastValue s ls (values s)) ∧ c = ofValues values) ∧
    ∀ (a b : String) (c d : ModuleConfig), Text.Ended a.toList → parse a = .ok c → parse b = .ok d →
      parse (a ++ b) = .ok (d.onTopOf c) := by
  refine ⟨fun text ls lined => ?_, fun a b c d ended first second => parse_append ended first second⟩
  obtain rfl := Text.lined_iff.mp lined
  constructor
  · intro cause
    unfold parse
    rw [readLines_eq_error_iff]
    simp only [Nat.add_sub_cancel_left]
    refine exists_congr fun number => and_congr_right fun _ => ⟨?_, And.left⟩
    rintro rfl
    exact ⟨rfl, rfl⟩
  · intro c
    rw [parse_eq_ok_iff]
    refine and_congr_right fun _ => ⟨fun h => ⟨_, fun s => lastValue_iff.mpr rfl, h⟩, ?_⟩
    rintro ⟨values, last, rfl⟩
    exact ofValues_congr fun s => lastValue_iff.mp (last s)

/-- A comment may follow blanks, a value may hold what separates or begins a comment elsewhere, and a
text is read on top of another with the lines of both. -/
theorem parse_by_lines_commented :
    Text.Lined "URI=a\r\n #\nBASE".toList ["URI=a".toList, " #".toList, "BASE".toList] ∧
      parse "URI=a\r\n #\nBASE" = .error (.noSeparator 3) ∧
      parse "uri = b=#\n" = .ok { empty with uri := some "b=#" } ∧
      parse "Base=c" = .ok { empty with base := some "c" } ∧
      parse ("uri = b=#\n" ++ "Base=c") =
        .ok { empty with uri := some "b=#", base := some "c" } := by
  obtain ⟨byLines, appended⟩ := parse_by_lines
  have lined : Text.Lined "URI=a\r\n #\nBASE".toList ["URI=a".toList, " #".toList, "BASE".toList] :=
    .returnFeed (l := "URI=a".toList) (by decide)
      (.feed (l := " #".toList) (by decide) (by decide) (.unended (by decide) (by decide)))
  have unreadable : Unreadable "BASE".toList := ofChars_eq_malformed_iff.mp (by decide)
  have readable : ∀ l ∈ ["URI=a".toList, " #".toList], ¬ Unreadable l := by
    simp only [← ofChars_eq_malformed_iff]
    decide
  have first : parse "uri = b=#\n" = .ok { empty with uri := some "b=#" } := by decide +kernel
  have second : parse "Base=c" = .ok { empty with base := some "c" } := by decide +kernel
  exact ⟨lined, ((byLines _ _ lined).1 _).mpr ⟨3, ⟨_, _, [], rfl, readable, unreadable, rfl⟩, rfl, rfl⟩,
    first, second, appended _ _ _ _ (by decide) first second⟩

/-! ## The normal form of a text -/

/-- A text as it would be written: the configuration that is read of it, in its written form. -/
def rewritten (text : String) : Except Misuse String := (parse text).map render

theorem rewritten_eq_ok_iff {text other : String} :
    rewritten text = .ok other ↔ ∃ c, parse text = .ok c ∧ c.render = other := by
  unfold rewritten
  cases parse text <;> simp [Except.map]

/-- **What is written of a configuration that was read is the normal form of what it was read from.** It
is read as the same configuration and is its own normal form, and exactly the texts that are read alike
share it. -/
theorem render_of_parse {text : String} {c : ModuleConfig} (read : parse text = .ok c) :
    parse c.render = .ok c ∧ rewritten c.render = .ok c.render ∧
      ∀ other, rewritten other = .ok c.render ↔ parse other = .ok c := by
  have readBack : parse c.render = .ok c := parse_render_of_isCarried (isCarried_of_parse read)
  refine ⟨readBack, rewritten_eq_ok_iff.mpr ⟨c, readBack, rfl⟩, fun other => ?_⟩
  rw [rewritten_eq_ok_iff]
  constructor
  · rintro ⟨d, hd, same⟩
    -- What was read of the other text is read back as well, and from the same written form.
    have again : parse d.render = .ok d := parse_render_of_isCarried (isCarried_of_parse hd)
    rw [same, readBack] at again
    rw [hd, Except.ok.inj again]
  · exact fun h => ⟨c, h, rfl⟩

/-- Neither the order of the lines is kept, nor returns at their ends, nor what is said twice, nor what
is not known. An empty value stays a value. -/
theorem render_of_parse_disordered :
    parse "base=\r\nTIMEOUT=5\nURI = a\n\n uri =\u00a0b\rc = d \r\n" =
        .ok { empty with uri := some "b\rc = d", base := some "" } ∧
      { empty with uri := some "b\rc = d", base := some "" }.render = "URI = b\rc = d\nBASE = \n" ∧
      parse "URI = b\rc = d\nBASE = \n" = .ok { empty with uri := some "b\rc = d", base := some "" } := by
  have read : parse "base=\r\nTIMEOUT=5\nURI = a\n\n uri =\u00a0b\rc = d \r\n" =
      .ok { empty with uri := some "b\rc = d", base := some "" } := by decide +kernel
  have written : { empty with uri := some "b\rc = d", base := some "" }.render =
      "URI = b\rc = d\nBASE = \n" := by decide +kernel
  exact ⟨read, written, written ▸ (render_of_parse read).1⟩

end ModuleConfig

end HostAccess
