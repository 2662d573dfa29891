import HostAccess.Glob.Search
import HostAccess.Proofs.Listing

/-!
# Searching what is in a folder

A pattern that is the path of a folder with a star after it finds what is in the folder, if no
character of the path is one of a pattern: each part before the star is then looked up, and leads to
where the path leads. A path that begins with `.` is put down without it.
-/
namespace HostAccess.Glob

/-! ## Patterns without wildcards -/

/-- Whether a character of a pattern stands for itself. -/
def IsPlain (c : Char) : Prop := c ≠ '?' ∧ c ≠ '*' ∧ c ≠ '['

instance (c : Char) : Decidable (IsPlain c) := inferInstanceAs (Decidable (_ ∧ _ ∧ _))

/-- The part of a pattern that stands for one name alone. -/
def lookedUp (cs : List Char) : Component := cs.map .char

/-- The part of a pattern that stands for every name. -/
def anyName : Component := [.anyChars]

theorem token_plain {c : Char} (h : IsPlain c) (position : Nat) (before : Option Char)
    (rest : List Char) : token position before c rest = .ok (.char c, 0) := by
  obtain ⟨one, any, set⟩ := h
  unfold token
  split
  · exact absurd rfl one
  · exact absurd rfl any
  · exact absurd rfl set
  · rfl

theorem tokensFrom_append {cs tail : List Char} {ts : List Token} (plain : ∀ c ∈ cs, IsPlain c)
    (htail : ∀ position before, tokensFrom 0 position before tail = .ok ts) (position : Nat)
    (before : Option Char) :
    tokensFrom 0 position before (cs ++ tail) = .ok (lookedUp cs ++ ts) := by
  induction cs generalizing position before with
  | nil => exact htail position before
  | cons c rest ih =>
    rw [List.cons_append, tokensFrom, token_plain (plain c List.mem_cons_self)]
    have hrest := ih (fun d hd => plain d (List.mem_cons_of_mem c hd)) (position + 1) (some c)
    simp only [bind, Except.bind, hrest]
    rfl

theorem tokens_plain {cs : List Char} (plain : ∀ c ∈ cs, IsPlain c) :
    tokens cs = .ok (lookedUp cs) := by
  have h : tokensFrom 0 0 none (cs ++ []) = .ok (lookedUp cs ++ []) :=
    tokensFrom_append plain (fun _ _ => rfl) 0 none
  rwa [List.append_nil, List.append_nil] at h

theorem tokens_star {cs : List Char} (plain : ∀ c ∈ cs, IsPlain c) :
    tokens (cs ++ ['*']) = .ok (lookedUp cs ++ anyName) :=
  tokensFrom_append plain (fun _ _ => rfl) 0 none

theorem mapM_tokens {pieces : List (List Char)} (plain : ∀ cs ∈ pieces, ∀ c ∈ cs, IsPlain c) :
    (pieces ++ [['*']]).mapM tokens = .ok (pieces.map lookedUp ++ [anyName]) := by
  induction pieces with
  | nil => rfl
  | cons cs rest ih =>
    rw [List.cons_append, List.mapM_cons, tokens_plain (plain cs List.mem_cons_self),
      ih fun ds hds => plain ds (List.mem_cons_of_mem cs hds)]
    rfl

theorem literal?_lookedUp (cs : List Char) : literal? (lookedUp cs) = some cs := by
  induction cs with
  | nil => rfl
  | cons c rest ih =>
    rw [lookedUp, List.map_cons, literal?]
    exact congrArg (Option.map (c :: ·)) ih

theorem isAnyFolders_lookedUp (cs : List Char) : isAnyFolders (lookedUp cs) = false := by
  simp [isAnyFolders, lookedUp]

theorem collapse_lookedUp (pieces : List (List Char)) (last : Component) :
    collapse (pieces.map lookedUp ++ [last]) = pieces.map lookedUp ++ [last] := by
  induction pieces with
  | nil => rfl
  | cons cs rest ih =>
    cases rest with
    | nil => simp [collapse, isAnyFolders_lookedUp]
    | cons ds more =>
      rw [List.map_cons, List.cons_append] at ih ⊢
      rw [List.map_cons, List.cons_append, collapse, isAnyFolders_lookedUp, Bool.false_and,
        if_neg Bool.false_ne_true]
      exact congrArg _ ih

/-! ## Going down -/

abbrev bytesOf (cs : List Char) : Bytes := cs.flatMap String.utf8EncodeChar

theorem isHome_of_named {p : Path} (named : p.names.head? ≠ some Path.dot) : isHome p = false := by
  unfold isHome
  rw [beq_eq_false_iff_ne]
  intro h
  exact named (by rw [h]; rfl)

/-- A search goes on from where a name leads. -/
theorem expand_lookedUp {t : FileTree} {cs : List Char} {rest : List Component} {p next : Path}
    (hnext : (if isHome p then bytesOf cs else p.join (bytesOf cs)) = next)
    (folder : t.isFolder p = true) (there : t.has next = true) :
    expand t (lookedUp cs :: rest) p = expand t rest next := by
  rw [expand.eq_def]
  simp only [literal?_lookedUp, Utf8.encode_ofList, hnext, folder, there, ite_self, if_true]

/-- A search goes down the parts that are looked up, to where the names lead. -/
theorem expand_walk {t : FileTree} {whole : Path} (screened : FileTree.screen whole = .ok ())
    {last : Component} {pieces : List (List Char)}
    (parted : ∀ cs ∈ pieces, Path.slash ∉ bytesOf cs) {p : Path} {l m : Location} {links left : Nat}
    (named : p.names.head? ≠ some Path.dot) (leads : t.Leads p l links)
    (walks : FileTree.Walks t links l (pieces.map bytesOf) m left)
    (part : (p.stem ++ (pieces.map bytesOf).flatMap (Path.slash :: ·)).Sublist whole) :
    ∃ q, q.names = p.names ++ (pieces.map bytesOf).filter Path.isCounted ∧
      q.isAbsolute = p.isAbsolute ∧ q.names.head? ≠ some Path.dot ∧ t.Leads q m left ∧
      expand t (pieces.map lookedUp ++ [last]) p = expand t [last] q := by
  induction pieces generalizing p l links with
  | nil =>
    cases walks
    exact ⟨p, by simp, rfl, named, leads, rfl⟩
  | cons cs rest ih =>
    have plain := parted cs List.mem_cons_self
    have found := FileTree.locate_eq_ok_iff_leads.mpr ⟨links, leads⟩
    have walks : FileTree.Walks t links l ([bytesOf cs] ++ rest.map bytesOf) m left := walks
    obtain ⟨k, links', first, walks⟩ := walks.of_append
    have filled := FileTree.ne_nil_of_locate found
    have hjoin := Path.join_eq filled plain
    -- What is walked is never longer than the whole path, so it can be looked up.
    have longer : (p.join (bytesOf cs) ++
        (rest.map bytesOf).flatMap (Path.slash :: ·)).Sublist whole := by
      rw [hjoin]
      simpa using part
    have hnext : t.Leads (p.join (bytesOf cs)) k links' := by
      refine (FileTree.leads_join leads plain).mpr ⟨?_, first⟩
      refine FileTree.screen_of_sublist screened (by simp [hjoin]) ?_
      exact (List.sublist_append_left ..).trans longer
    have hnames := Path.names_join filled plain
    have hnamed := Path.named_join filled named plain
    obtain ⟨q, hq, habs, hqnamed, hqleads, hexpand⟩ :=
      ih (fun ds hds => parted ds (List.mem_cons_of_mem cs hds)) hnamed hnext walks
        (((Path.stem_sublist _).append_right _).trans longer)
    refine ⟨q, ?_, ?_, hqnamed, hqleads, ?_⟩
    · rw [hq, hnames, List.append_assoc, ← List.filter_append]
      rfl
    · rw [habs, Path.isAbsolute_join plain]
    · rw [← hexpand, List.map_cons, List.cons_append]
      refine expand_lookedUp ?_ ?_ ?_
      · rw [isHome_of_named named]
        rfl
      · exact FileTree.isFolder_iff.mpr ⟨l, found, first.folder_of_name⟩
      · exact FileTree.has_of_locate (FileTree.locate_eq_ok_iff_leads.mpr ⟨links', hnext⟩)

/-! ## All names in a folder -/

theorem accepts_anyName (name : List Char) : accepts anyName name = true := by
  have tail : anyTail (accepts []) name = true := by
    induction name with
    | nil => rfl
    | cons c rest ih => rw [anyTail, ih, Bool.or_true]
  exact tail

theorem nameMatches_anyName {p : Path} (filled : p ≠ []) {name : Bytes} (h : Path.IsName name) :
    nameMatches anyName (p.join name) = (Utf8.decode? name).isSome := by
  unfold nameMatches
  rw [Path.fileName?_join filled h, Option.bind_some]
  cases Utf8.decode? name with
  | none => rfl
  | some text => exact accepts_anyName text.toList

theorem flatMap_eq_filter (chosen : Path → Bool) (ps : List Path) :
    (ps.flatMap fun q => if chosen q then [q] else []) = ps.filter chosen := by
  induction ps with
  | nil => rfl
  | cons q rest ih =>
    rw [List.flatMap_cons, List.filter_cons, ih]
    split <;> rfl

/-- A star finds the names in a folder that are texts. -/
theorem expand_anyName {t : FileTree} {p : Path} {l : Location} (leads : t.locate p = .ok l)
    (folder : t.entryAt? l = some .folder) (named : p.names.head? ≠ some Path.dot)
    (legal : ∀ name ∈ t.namesIn l, Path.IsName name) :
    expand t [anyName] p =
      ((t.namesIn l).filter fun name => (Utf8.decode? name).isSome).map p.join := by
  have filled := FileTree.ne_nil_of_locate leads
  have inside : t.list p = t.namesIn l := by
    simp [FileTree.list, leads, FileTree.isFolderAt_iff.mpr folder]
  have joins : (t.namesIn l).map (under p) = (t.namesIn l).map p.join :=
    List.map_congr_left fun name _ => by rw [under, if_neg (by simp [isHome_of_named named])]
  calc expand t [anyName] p
      = if !t.isFolder p then [] else
          ((t.list p).map (under p)).flatMap fun q => if nameMatches anyName q then [q] else [] := rfl
    _ = ((t.namesIn l).map p.join).filter (nameMatches anyName) := by
        rw [FileTree.isFolder_iff.mpr ⟨l, leads, folder⟩, flatMap_eq_filter, inside, joins]
        rfl
    _ = _ := by
        rw [List.filter_map]
        exact congrArg _ (List.filter_congr fun name hname =>
          nameMatches_anyName filled (legal name hname))

/-! ## The path of a folder and a star -/

theorem leads_name {t : FileTree} {name : Bytes} (plain : Path.slash ∉ name)
    (screened : FileTree.screen name = .ok ()) {l : Location} {left : Nat}
    (walks : FileTree.Walks t FileTree.linkLimit t.home [name] l left) : t.Leads name l left := by
  have start : t.start name = t.home := by
    simp [FileTree.start, FileTree.startFrom, Path.isAbsolute_of_slash_not_mem plain]
  unfold FileTree.Leads
  rw [start, Pieces.split_of_not_mem plain]
  exact ⟨screened, walks⟩

theorem isFolder_dot {t : FileTree} (folder : t.entryAt? t.home = some .folder) :
    t.isFolder Path.dot = true := by
  have here : t.child t.home Path.dot = .ok (.place t.home) := by
    simp [FileTree.child, FileTree.isFolderAt_iff.mpr folder]
  have leads : t.Leads Path.dot t.home FileTree.linkLimit :=
    leads_name (by decide) (by decide) (.singleton here)
  exact FileTree.isFolder_iff.mpr ⟨_, FileTree.locate_eq_ok_iff_leads.mpr ⟨_, leads⟩, folder⟩

section

variable {t : FileTree} {p : Path} {first : List Char} {rest : List (List Char)}
  (hs : (first :: rest).map bytesOf = Pieces.split Path.slash p.stem)

include hs

theorem stem_of_pieces : bytesOf first ++ (rest.map bytesOf).flatMap (Path.slash :: ·) = p.stem := by
  rw [← Pieces.join_split Path.slash p.stem, ← hs, List.map_cons, Pieces.join_cons]

theorem names_of_pieces : p.names = (if (bytesOf first).isEmpty then [] else [bytesOf first]) ++
    (rest.map bytesOf).filter Path.isCounted := by
  rw [← Path.names_stem, Path.names_of_split (hs.symm.trans (List.map_cons ..))]

theorem slash_not_mem_piece : ∀ cs ∈ first :: rest, Path.slash ∉ bytesOf cs := fun _ hcs =>
  Pieces.not_mem_of_mem_split (hs ▸ List.mem_map_of_mem hcs)

theorem isAbsolute_iff_piece (filled : p ≠ []) : p.isAbsolute = true ↔ bytesOf first = [] := by
  rw [Path.isAbsolute_iff filled, ← hs, List.map_cons, List.head?_cons, Option.some_inj]

variable {l : Location} {left : Nat} (leads : t.Leads p l left)

include leads

/-- A search from the root goes down the parts that are looked up. -/
theorem expand_from_root (root : bytesOf first = []) (last : Component) :
    ∃ q, Path.Same q p ∧ q.names.head? ≠ some Path.dot ∧ t.Leads q l left ∧
      expand t (rest.map lookedUp ++ [last]) [Path.slash] = expand t [last] q := by
  obtain ⟨screened, walks⟩ := leads
  have absolute := (isAbsolute_iff_piece hs (FileTree.screen_eq_ok_iff.mp screened).2.1).mpr root
  have walks : FileTree.Walks t FileTree.linkLimit [] (rest.map bytesOf) l left := by
    have h := FileTree.walks_stem walks
    rw [FileTree.start, FileTree.startFrom, if_pos absolute, ← hs, List.map_cons, root] at h
    cases h with
    | on child walks =>
      obtain ⟨-, same⟩ := FileTree.child_nil.mp child
      obtain rfl := FileTree.Lead.place.inj same
      exact walks
    | follow child _ => cases (FileTree.child_nil.mp child).2
  have top : t.Leads [Path.slash] [] FileTree.linkLimit := by
    have here : t.child [] [] = .ok (.place []) := FileTree.child_nil.mpr ⟨rfl, rfl⟩
    exact ⟨by decide, .on here (.on here .here)⟩
  have part : (Path.stem [Path.slash] ++
      (rest.map bytesOf).flatMap (Path.slash :: ·)).Sublist p := by
    have hstem := stem_of_pieces hs
    rw [root] at hstem
    exact hstem ▸ p.stem_sublist
  have parted := slash_not_mem_piece hs
  obtain ⟨q, hq, habs, hnamed, hleads, hexpand⟩ :=
    expand_walk screened (fun cs hcs => parted cs (List.mem_cons_of_mem first hcs)) (by decide)
      top walks part
  refine ⟨q, ⟨habs.trans absolute.symm, ?_⟩, hnamed, hleads, hexpand⟩
  rw [hq, names_of_pieces hs, root]
  rfl

/-- A search from the working folder goes down the parts that are looked up, and does not name it. -/
theorem expand_from_home (relative : bytesOf first ≠ []) (named : p.names.head? ≠ some Path.dot)
    (last : Component) :
    ∃ q, Path.Same q p ∧ q.names.head? ≠ some Path.dot ∧ t.Leads q l left ∧
      expand t (lookedUp first :: (rest.map lookedUp ++ [last])) Path.dot = expand t [last] q := by
  obtain ⟨screened, walks⟩ := leads
  have notAbsolute : p.isAbsolute = false := by
    rw [Bool.eq_false_iff, ne_eq, isAbsolute_iff_piece hs (FileTree.screen_eq_ok_iff.mp screened).2.1]
    exact relative
  have walks := FileTree.walks_stem walks
  rw [FileTree.start, FileTree.startFrom, notAbsolute, ← hs] at walks
  have walks : FileTree.Walks t FileTree.linkLimit t.home ([bytesOf first] ++ rest.map bytesOf) l
      left := walks
  obtain ⟨k, links, head, walks⟩ := walks.of_append
  have parted := slash_not_mem_piece hs
  have plain := parted first List.mem_cons_self
  have part : (bytesOf first ++ (rest.map bytesOf).flatMap (Path.slash :: ·)).Sublist p :=
    stem_of_pieces hs ▸ p.stem_sublist
  have leadsFirst : t.Leads (bytesOf first) k links := by
    refine leads_name plain (FileTree.screen_of_sublist screened relative ?_) head
    exact (List.sublist_append_left ..).trans part
  have isFirst : Path.names (bytesOf first) = [bytesOf first] := by
    rw [Path.names_of_split (Pieces.split_of_not_mem plain), if_neg (by rwa [List.isEmpty_iff])]
    rfl
  have hnames :
      p.names = Path.names (bytesOf first) ++ (rest.map bytesOf).filter Path.isCounted := by
    rw [isFirst, names_of_pieces hs, if_neg (by rwa [List.isEmpty_iff])]
  have namedFirst : (Path.names (bytesOf first)).head? ≠ some Path.dot := by
    rw [hnames, isFirst] at named
    rw [isFirst]
    exact named
  obtain ⟨q, hq, habs, hnamed, hleads, hexpand⟩ :=
    expand_walk screened (fun cs hcs => parted cs (List.mem_cons_of_mem first hcs)) namedFirst
      leadsFirst walks (((Path.stem_sublist _).append_right _).trans part)
  refine ⟨q, ⟨habs.trans ?_, hq.trans hnames.symm⟩, hnamed, hleads, hexpand ▸ ?_⟩
  · rw [notAbsolute, Path.isAbsolute_of_slash_not_mem plain]
  · exact expand_lookedUp rfl (isFolder_dot head.folder_of_name)
      (FileTree.has_of_locate (FileTree.locate_eq_ok_iff_leads.mpr ⟨links, leadsFirst⟩))

end

/-- The path of a folder that is a text is one without the slash at its end. -/
theorem stem_ofString (dir : String) : ∃ front : String,
    (Path.ofString dir).stem = Path.ofString front ∧ front.toList.Sublist dir.toList := by
  by_cases ended : (Path.ofString dir).getLast? = some Path.slash
  · obtain ⟨init, c, hdir⟩ : ∃ init c, dir.toList = init ++ [c] := by
      refine List.eq_nil_or_concat' dir.toList |>.resolve_left fun hnil => ?_
      simp [Path.ofString, Utf8.encode, hnil] at ended
    have hbytes : Path.ofString dir = bytesOf init ++ String.utf8EncodeChar c := by
      simp [Path.ofString, Utf8.encode, hdir]
    have hc : c = '/' := by
      have hmem : Path.slash ∈ String.utf8EncodeChar c := by
        rw [hbytes, List.getLast?_append_of_ne_nil _ (String.utf8EncodeChar_ne_nil)] at ended
        exact List.mem_of_getLast? ended
      exact Path.slash_mem_encodeChar.mp hmem
    refine ⟨String.ofList init, ?_, ?_⟩
    · have hslash : String.utf8EncodeChar '/' = [Path.slash] := by decide
      rw [Path.stem, if_pos ended, hbytes, hc, hslash, List.dropLast_concat, Path.ofString,
        Utf8.encode_ofList]
    · rw [hdir, String.toList_ofList]
      exact List.sublist_append_left ..
  · exact ⟨dir, if_neg ended, .refl _⟩

theorem search_parts {t : FileTree} {pattern : String} {ts : List Token}
    (right : tokens pattern.toList = .ok ts) (star : pattern.toList.getLast? = some '*')
    {rooted : Bool} (start : (pattern.toList.head? == some '/') = rooted)
    {pieces : List (List Char)} (plain : ∀ cs ∈ pieces, ∀ c ∈ cs, IsPlain c)
    (hpieces : Pieces.split '/' (if rooted then pattern.toList.tail else pattern.toList) =
      pieces ++ [['*']]) :
    search t pattern = .ok (expand t (pieces.map lookedUp ++ [anyName])
      (if rooted then [Path.slash] else Path.dot)) := by
  have hparts : parts (if rooted then pattern.toList.tail else pattern.toList) =
      pieces ++ [['*']] := by
    unfold parts
    simp [hpieces]
  unfold search
  simp only [right, star, start, hparts, mapM_tokens plain, collapse_lookedUp, bind, Except.bind]
  rfl

theorem tokens_folder {front : List Char} (plain : ∀ c ∈ front, IsPlain c) :
    ∃ ts, tokens (front ++ ['/', '*']) = .ok ts := by
  have h : ∀ c ∈ front ++ ['/'], IsPlain c := fun c hc =>
    (List.mem_append.mp hc).elim (plain c) fun hc => List.mem_singleton.mp hc ▸ by decide
  have whole := tokens_star h
  rw [List.append_assoc] at whole
  exact ⟨_, whole⟩

/-- A search for what is in a folder comes to the folder. -/
theorem search_folder {t : FileTree} {p : Path} {l : Location} {left : Nat} (leads : t.Leads p l left)
    (named : p.names.head? ≠ some Path.dot) {front : String} (hs : p.stem = Path.ofString front)
    (plain : ∀ c ∈ front.toList, IsPlain c) :
    ∃ q, Path.Same q p ∧ q.names.head? ≠ some Path.dot ∧ t.Leads q l left ∧
      search t (front ++ "/*") = .ok (expand t [anyName] q) := by
  obtain ⟨first, rest, hpieces⟩ := List.exists_cons_of_ne_nil (Pieces.split_ne_nil '/' front.toList)
  have hbytes : (first :: rest).map bytesOf = Pieces.split Path.slash p.stem := by
    rw [← hpieces, hs]
    exact (Path.split_encode front.toList).symm
  have hplain : ∀ cs ∈ first :: rest, ∀ c ∈ cs, IsPlain c := fun cs hcs c hc =>
    plain c ((Pieces.sublist_of_mem_split (hpieces ▸ hcs)).subset hc)
  have pattern : (front ++ "/*").toList = front.toList ++ ['/', '*'] := by simp
  obtain ⟨ts, right⟩ := tokens_folder plain
  rw [← pattern] at right
  have star : (front ++ "/*").toList.getLast? = some '*' := by simp
  have whole : Pieces.split '/' (front ++ "/*").toList = first :: rest ++ [['*']] := by
    rw [pattern, Pieces.split_concat, hpieces]
    rfl
  obtain ⟨c, tail, hcs⟩ : ∃ c tail, (front ++ "/*").toList = c :: tail :=
    List.exists_cons_of_ne_nil (by simp)
  -- Nothing stands before the first slash exactly if the pattern begins with it.
  have head := Pieces.split_head '/' c tail
  rw [← hcs, whole, List.cons_append, List.head?_cons, Option.some_inj] at head
  by_cases root : c = '/'
  · obtain rfl := head.mpr root
    have rooted : ((front ++ "/*").toList.head? == some '/') = true := by simp [hcs, root]
    have below : Pieces.split '/' (front ++ "/*").toList.tail = rest ++ [['*']] := by
      have h := Pieces.split_append (List.not_mem_nil (a := '/')) tail
      rw [hcs, root] at whole
      rw [List.nil_append, whole] at h
      rw [hcs]
      exact (List.cons.inj h).2.symm
    obtain ⟨q, hsame, hnamed, hleads, hexpand⟩ := expand_from_root hbytes leads rfl anyName
    refine ⟨q, hsame, hnamed, hleads, hexpand ▸ ?_⟩
    exact search_parts right star rooted (fun cs hcs => hplain cs (List.mem_cons_of_mem _ hcs)) below
  · have relative : bytesOf first ≠ [] := by
      have h := mt head.mp root
      cases first with
      | nil => exact absurd rfl h
      | cons d more => simp
    have notRooted : ((front ++ "/*").toList.head? == some '/') = false := by simp [hcs, root]
    obtain ⟨q, hsame, hnamed, hleads, hexpand⟩ :=
      expand_from_home hbytes leads relative named anyName
    exact ⟨q, hsame, hnamed, hleads, hexpand ▸ search_parts right star notRooted hplain whole⟩

end HostAccess.Glob
