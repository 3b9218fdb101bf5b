import MenuHost.Proofs.Files.Search
import MenuHost.Proofs.Files.Sibling
import MenuHost.Proofs.Http.Form

/-!
# Which file a target gets

A target names one path (`Named`): that of a file below the root, or of the
index file of a directory. It gets the file there or its compressed sibling, or
what stands at a path that is looked at besides (`serves_or_stray_of_find`); and
nothing only if there is neither (`unserved_of_find`).

`Stray` lists those other paths. Whatever stands at one of them is served for the path
that was named, be it a directory. There are none where identity is not
accepted and the root is a directory (`clear_of_not_accepts`), and `find_stem` is the
plainest case of what happens otherwise.
-/

namespace MenuHost.Files

open MenuHost.Http

namespace Node

theorem openAt_eq_ok_iff {node : Node} {path : Path} {opened : Opened} :
    node.openAt path = .ok opened ↔ ∃ found, node.walk path = .ok found ∧ found.opened = opened :=
  map_eq_ok_iff

/-- What is opened and is no directory is a file. -/
theorem exists_file_of_openAt {node : Node} {path : Path} {opened : Opened}
    (h : node.openAt path = .ok opened) (hdirectory : node.isDirectory path = false) :
    ∃ content modified, node.walk path = .ok (file content modified)
      ∧ opened = .file content modified := by
  obtain ⟨found, hwalk, rfl⟩ := openAt_eq_ok_iff.mp h
  cases found with
  | file content modified => exact ⟨content, modified, hwalk, rfl⟩
  | directory stat entries =>
      rw [isDirectory, hwalk] at hdirectory
      cases hdirectory

/-- A sibling is no directory. -/
theorem isDirectory_codedPath {tree : Node} (htree : Regular tree) {path : Path}
    (h : tree.isDirectory path = false) :
    tree.isDirectory (Site.codedPath .gzip path) = false := by
  rcases Path.cases path with ⟨above, name, blanks, rfl, hname, hblanks⟩
    | ⟨above, blanks, rfl, hblanks⟩ | hblanks
  · rw [codedPath_gzip_name hname hblanks]
    exact isDirectory_of_isFileName htree (isFileName_append_gzipEnding name)
  · rw [codedPath_gzip_up hblanks]
    exact isDirectory_of_isFileName htree (.inr (List.suffix_refl _))
  · rw [codedPath_gzip_blanks hblanks]
    exact h

end Node

namespace Site

/-! ## The path that is named -/

/-- A path that goes down from a root, and at least one step. -/
def Below (root path : Path) : Prop :=
  ∃ names, names ≠ [] ∧ (∀ n ∈ names, IsName n) ∧ path = root ++ names

/-- The path of the file that a target names. -/
inductive Named (site : Site) (uri : Uri) : Path → Prop
  /-- Names that lead to no directory stand for themselves. -/
  | file {names : Path} (hnames : names? uri.path = some names)
      (hfile : site.tree.isDirectory (site.root ++ names) = false) :
      Named site uri (site.root ++ names)
  /-- A directory stands for its index file, if the target ends in a slash. -/
  | index {names : Path} (hnames : names? uri.path = some names)
      (hdirectory : site.tree.isDirectory (site.root ++ names) = true)
      (hslash : uri.path.toList.getLast? = some '/') :
      Named site uri (site.root ++ names ++ [indexName])

/-- Without escapes the names are those of the text as it is written. -/
theorem names?_of_notMem {path : String}
    (h : Form.percentSign ∉
      Text.Utf8.encode (String.ofList (path.toList.dropWhile (· == '/')))) :
    names? path = safeNames? (String.ofList (path.toList.dropWhile (· == '/'))) := by
  rw [names?, Form.decode_of_notMem h, Text.Utf8.decode?_encode]
  rfl

section Named

variable {site : Site} {uri : Uri} {accepted : List Weighted} {path : Path}

/-- A target names one path at most. -/
theorem Named.eq {other : Path} (h : Named site uri path) (hother : Named site uri other) :
    path = other := by
  cases h with
  | file hnames hfile =>
      cases hother with
      | file hnames' hfile' => rw [Option.some.inj (hnames.symm.trans hnames')]
      | index hnames' hdirectory' hslash' =>
          obtain rfl := Option.some.inj (hnames.symm.trans hnames')
          exact absurd (hfile.symm.trans hdirectory') Bool.false_ne_true
  | index hnames hdirectory hslash =>
      cases hother with
      | file hnames' hfile' =>
          obtain rfl := Option.some.inj (hnames.symm.trans hnames')
          exact absurd (hfile'.symm.trans hdirectory) Bool.false_ne_true
      | index hnames' hdirectory' hslash' => rw [Option.some.inj (hnames.symm.trans hnames')]

/-- What is named lies below the root, unless the root itself is no directory. -/
theorem Named.cases (h : Named site uri path) :
    (path = site.root ∧ site.tree.isDirectory site.root = false)
      ∨ ∃ init name, path = site.root ++ init ++ [name] ∧ (∀ n ∈ init, IsName n)
        ∧ IsName name := by
  cases h with
  | @file names hnames hfile =>
      have hall := isName_of_names? hnames
      rcases List.eq_nil_or_concat names with rfl | ⟨init, name, rfl⟩
      · rw [List.append_nil] at hfile ⊢
        exact .inl ⟨rfl, hfile⟩
      · rw [List.concat_eq_append] at hall ⊢
        obtain ⟨hinit, hname⟩ := List.forall_mem_append.mp hall
        exact .inr ⟨init, name, (List.append_assoc ..).symm, hinit,
          hname name (List.mem_singleton_self name)⟩
  | @index names hnames hdirectory hslash =>
      exact .inr ⟨names, indexName, rfl, isName_of_names? hnames, by decide, by decide⟩

theorem Named.isDirectory_eq_false (htree : site.tree.Regular) (h : Named site uri path) :
    site.tree.isDirectory path = false := by
  cases h with
  | file hnames hfile => exact hfile
  | index hnames hdirectory hslash => exact Node.isDirectory_of_isFileName htree (.inl rfl)

/-- What is found for a target is what is opened at the path that it names. -/
theorem find_of_named (h : Named site uri path) :
    site.find uri accepted =
      match openBest site.tree accepted path with
      | .ok (opened, coding) => .ok { opened, mediaType := mediaTypeOf path, coding }
      | .error e => .error (failureStatus e) := by
  cases hopen : openBest site.tree accepted path <;> cases h with
  | file hnames hfile =>
      simp only [find, hnames, hfile, Bool.false_eq_true, false_and, if_false, hopen]
  | index hnames hdirectory hslash =>
      simp only [find, hnames, hdirectory, hslash, ne_eq, not_true_eq_false, and_false, if_false,
        if_true, hopen]

theorem find_cases (site : Site) (uri : Uri) (accepted : List Weighted) :
    (∃ path, Named site uri path) ∨ ∃ status, site.find uri accepted = .error status := by
  cases hnames : names? uri.path with
  | none => exact .inr ⟨Status.notFound, by simp only [find, hnames]⟩
  | some names =>
      cases hdirectory : site.tree.isDirectory (site.root ++ names) with
      | false => exact .inl ⟨_, .file hnames hdirectory⟩
      | true =>
          by_cases hslash : uri.path.toList.getLast? = some '/'
          · exact .inl ⟨_, .index hnames hdirectory hslash⟩
          · refine .inr ?_
            simp only [find, hnames, hdirectory, ne_eq, hslash, not_false_eq_true, and_self,
              if_true]
            split
            · exact ⟨_, rfl⟩
            · exact ⟨_, rfl⟩

/-- What is found has been opened at the path that is named. -/
theorem exists_open_of_find {file : ServedFile} (h : site.find uri accepted = .ok file) :
    ∃ path, Named site uri path ∧ file.mediaType = mediaTypeOf path
      ∧ openBest site.tree accepted path = .ok (file.opened, file.coding) := by
  rcases find_cases site uri accepted with ⟨path, hnamed⟩ | ⟨status, hnone⟩
  · rw [find_of_named hnamed] at h
    split at h
    · next opened coding hopen =>
        obtain rfl := Except.ok.inj h
        exact ⟨path, hnamed, rfl, hopen⟩
    · cases h
  · rw [hnone] at h
    cases h

end Named

/-! ## Strays -/

/-- Where else than at a path and its sibling something is opened for this path. -/
inductive Stray (site : Site) (accepted : List Weighted) (path : Path) : Path → Prop
  /-- Where the search goes on when it has gone astray. -/
  | stem {q : Path} (hastray : GoesAstray site.tree accepted path)
      (hq : q ∈ tried (afterIdentity accepted) (dropExtension path)) :
      Stray site accepted path q
  /-- Where the root itself is looked for, if nothing below it is named. -/
  | root {q : Path} (hpath : path = site.root) (hq : q ∈ tried (order accepted) site.root) :
      Stray site accepted path q

/-- Nothing is at the strays of a target. -/
def Clear (site : Site) (uri : Uri) (accepted : List Weighted) : Prop :=
  ∀ path q, Named site uri path → Stray site accepted path q →
    ∀ node, site.tree.walk q ≠ .ok node

section Strays

variable {site : Site} {uri : Uri} {accepted : List Weighted}

/-- Without identity there are no strays from a root that is a directory. -/
theorem clear_of_not_accepts (hroot : site.tree.isDirectory site.root = true)
    (hidentity : ¬Coding.Accepts accepted .identity) : Clear site uri accepted := by
  rintro path q h (⟨hastray, -⟩ | ⟨hpath, -⟩)
  · exact absurd hastray.identity hidentity
  · rcases h.cases with ⟨-, hfile⟩ | ⟨init, name, hname, -, -⟩
    · rw [hroot] at hfile
      cases hfile
    · rw [hname, List.append_assoc] at hpath
      simp at hpath

/-- Strays are really opened. Who accepts identity only, and asks for a file that is
missing, gets what has its name without the extension. -/
theorem find_stem {path : Path} {opened : Opened} (h : Named site uri path)
    (horder : order accepted = [.identity]) (hmissing : site.tree.openAt path = .error .missing)
    (hstem : site.tree.openAt (dropExtension path) = .ok opened) :
    site.find uri accepted = .ok
      { opened, mediaType := mediaTypeOf path, coding := .identity } := by
  have hopen : openBest site.tree accepted path = .ok (opened, .identity) := by
    rw [openBest_eq, horder, openIn, codedPath_identity, hmissing]
    exact openIn_nil_eq_ok_iff.mpr ⟨rfl, hstem⟩
  rw [find_of_named h, hopen]

end Strays

/-! ## What is served -/

/-- What is to be served for a path: the file there or its sibling, as a whole. -/
inductive Serves (site : Site) (accepted : List Weighted) (path : Path) (file : ServedFile) : Prop
  /-- The file itself, if gzip is not preferred or there is no sibling. -/
  | named {content : List UInt8} {modified : FileTime} (hbelow : Below site.root path)
      (hcoding : file.coding = .identity) (hopened : file.opened = .file content modified)
      (hwalk : site.tree.walk path = .ok (.file content modified))
      (hsibling : Coding.preferred? accepted = some .gzip →
        site.tree.openAt (codedPath .gzip path) = .error .missing)
  /-- The compressed sibling, if gzip is accepted. -/
  | sibling {content : List UInt8} {modified : FileTime}
      (hbelow : Below site.root (codedPath .gzip path)) (hcoding : file.coding = .gzip)
      (hopened : file.opened = .file content modified)
      (hwalk : site.tree.walk (codedPath .gzip path) = .ok (.file content modified))
      (hgzip : Coding.Accepts accepted .gzip)

/-- Something else is served for a path: what stands at one of its strays. -/
def ServesStray (site : Site) (accepted : List Weighted) (path : Path) (file : ServedFile) : Prop :=
  ∃ q, Stray site accepted path q ∧ site.tree.openAt q = .ok file.opened

/-- There is nothing to be served for a path: neither the file nor, if gzip is preferred,
its sibling. Only a sibling that cannot be looked up may hide the file. -/
structure Unserved (site : Site) (accepted : List Weighted) (path : Path) : Prop where
  named : ∀ node, site.tree.walk path = .ok node →
    Coding.preferred? accepted = some .gzip ∧ Node.TooLong (codedPath .gzip path)
  sibling : Coding.preferred? accepted = some .gzip →
    ∀ node, site.tree.walk (codedPath .gzip path) ≠ .ok node

section Served

variable {site : Site} {uri : Uri} {accepted : List Weighted} {path : Path} {file : ServedFile}

theorem Serves.exists_file (h : Serves site accepted path file) :
    ∃ q content modified, site.tree.walk q = .ok (.file content modified)
      ∧ file.opened = .file content modified := by
  cases h with
  | named hbelow hcoding hopened hwalk hsibling => exact ⟨_, _, _, hwalk, hopened⟩
  | sibling hbelow hcoding hopened hwalk hgzip => exact ⟨_, _, _, hwalk, hopened⟩

theorem not_servesStray_of_clear (hclear : Clear site uri accepted) (hnamed : Named site uri path) :
    ¬ServesStray site accepted path file := by
  rintro ⟨q, hstray, hopen⟩
  obtain ⟨found, hwalk, -⟩ := Node.openAt_eq_ok_iff.mp hopen
  exact hclear path q hnamed hstray found hwalk

/-- **What is served.** In a regular tree it is the file at the path that is named or its
sibling, unless something stands at a stray. -/
theorem serves_or_stray_of_find (htree : site.tree.Regular)
    (h : site.find uri accepted = .ok file) :
    ∃ path, Named site uri path ∧ file.mediaType = mediaTypeOf path
      ∧ (Serves site accepted path file ∨ ServesStray site accepted path file) := by
  obtain ⟨path, hnamed, hmedia, hopen⟩ := exists_open_of_find h
  refine ⟨path, hnamed, hmedia, ?_⟩
  rcases hnamed.cases with ⟨hroot, -⟩ | ⟨init, name, hpath, hinit, hname⟩
  · rw [openBest_eq] at hopen
    obtain ⟨q, hq, hhere⟩ := exists_openAt_of_openIn hopen
    exact .inr ⟨q, .root hroot (hroot ▸ hq), hhere⟩
  · have hfile := hnamed.isDirectory_eq_false htree
    have hcoded : codedPath .gzip path = site.root ++ init ++ [name ++ gzipEnding] :=
      hpath ▸ codedPath_gzip_name hname allBlank_nil
    have hback : dropExtension (codedPath .gzip path) = path :=
      hpath ▸ dropExtension_codedPath_name hname allBlank_nil
    have hbelow : ∀ {last}, IsName last → Below site.root (site.root ++ init ++ [last]) :=
      fun {last} hlast => ⟨init ++ [last], by simp,
        List.forall_mem_append.mpr ⟨hinit, fun n hn => List.mem_singleton.mp hn ▸ hlast⟩,
        List.append_assoc ..⟩
    generalize hcoding : file.coding = coding at hopen
    cases found_of_openBest hback hopen with
    | named hhere hsibling =>
        obtain ⟨content, modified, hwalk, hopened⟩ := Node.exists_file_of_openAt hhere hfile
        exact .inl (.named (hpath ▸ hbelow hname) hcoding hopened hwalk hsibling)
    | sibling hgzip hhere =>
        obtain ⟨content, modified, hwalk, hopened⟩ :=
          Node.exists_file_of_openAt hhere (Node.isDirectory_codedPath htree hfile)
        exact .inl (.sibling (hcoded ▸ hbelow isName_append_gzipEnding) hcoding hopened hwalk hgzip)
    | stem hastray hq hhere => exact .inr ⟨_, .stem hastray hq, hhere⟩

/-- **When nothing is served.** In a regular tree there is nothing to be served then. -/
theorem unserved_of_find (htree : site.tree.Regular) {status : Status}
    (h : site.find uri accepted = .error status) (hnamed : Named site uri path) :
    Unserved site accepted path := by
  have hfile := hnamed.isDirectory_eq_false htree
  have hlost : ∃ e, openBest site.tree accepted path = .error e := by
    rw [find_of_named hnamed] at h
    split at h
    · cases h
    · next e hopen => exact ⟨e, hopen⟩
  obtain ⟨e, hopen⟩ := hlost
  have hopened : ∀ {q node}, site.tree.walk q = .ok node →
      site.tree.openAt q = .ok node.opened := fun hwalk =>
    Node.openAt_eq_ok_iff.mpr ⟨_, hwalk, rfl⟩
  have hsibling : Coding.preferred? accepted = some .gzip →
      ∀ node, site.tree.walk (codedPath .gzip path) ≠ .ok node := fun hgzip node hwalk =>
    lost_sibling hopen hgzip (hopened hwalk)
  refine ⟨fun node hwalk => ?_, hsibling⟩
  obtain ⟨content, modified, hwalk, -⟩ := Node.exists_file_of_openAt (hopened hwalk) hfile
  rcases Node.exists_name_of_walk hwalk with ⟨above, name, rfl, hname⟩ | hblanks
  · have hback : dropExtension (codedPath .gzip (above ++ [name])) = above ++ [name] :=
      dropExtension_codedPath_name hname allBlank_nil
    have hcoded : codedPath .gzip (above ++ [name]) = above ++ [name ++ gzipEnding] :=
      codedPath_gzip_name hname allBlank_nil
    obtain ⟨hgzip, hwrong⟩ := lost_of_openBest hback hopen (hopened hwalk)
    refine ⟨hgzip, ?_⟩
    rw [hcoded] at hsibling hwrong ⊢
    rcases Node.walk_sibling hname hwalk with ⟨found, hfound⟩ | hmissing | hlong
    · exact absurd hfound (hsibling hgzip found)
    · exact absurd (by rw [Node.openAt, hmissing]; rfl) hwrong
    · exact hlong
  · have hcoded : codedPath .gzip path = path := codedPath_gzip_blanks hblanks
    have hback : dropExtension (codedPath .gzip path) = path := by
      rw [hcoded]
      exact mapLastName_blanks hblanks
    have hgzip := (lost_of_openBest hback hopen (hopened hwalk)).1
    exact absurd (hcoded ▸ hwalk) (hsibling hgzip _)

end Served

end Site

end MenuHost.Files
