import MenuHost.Proofs.Files.Walk

/-!
# What is opened to answer a target

The names of a target are safe: none is blank and none goes up
(`isName_of_names?`), so the file they name lies below the root. But a file
is also looked for in other codings, and its extension may be dropped on the
way. `tried` lists the paths at which that happens, `openBest_congr` that
nothing else is opened.

Almost all of them lie at or below the root. Not so where dropping the extension
leaves a dot or two: a dot is passed over when the ending for gzip is added,
so that it is the root itself that gets the ending, and two dots lead to the
parent, which is a directory but can be opened as well. `covered_of_tried`
sorts the paths out: those below the root, the root itself, and the three that
are `beside` it.
-/

namespace MenuHost.Files

open MenuHost.Http MenuHost.Time

namespace Site

/-! ## The order of codings -/

/-- The codings in the order in which they are tried. -/
def order (accepted : List Weighted) : List Coding :=
  match _h : Coding.preferred? accepted with
  | none => []
  | some coding => coding :: order (without coding accepted)
termination_by accepted.length
decreasing_by exact length_without _h

theorem order_of_none {accepted : List Weighted} (h : Coding.preferred? accepted = none) :
    order accepted = [] := by
  rw [order]
  split
  · rfl
  · next coding hsome => rw [h] at hsome; cases hsome

theorem order_of_some {accepted : List Weighted} {coding : Coding}
    (h : Coding.preferred? accepted = some coding) :
    order accepted = coding :: order (without coding accepted) := by
  rw [order]
  split
  · next hnone => rw [h] at hnone; cases hnone
  · next other hsome => rw [h] at hsome; obtain rfl := Option.some.inj hsome; rfl

theorem preferred?_of_order {accepted : List Weighted} {coding : Coding} {rest : List Coding}
    (h : order accepted = coding :: rest) :
    Coding.preferred? accepted = some coding ∧ order (without coding accepted) = rest := by
  cases hpreferred : Coding.preferred? accepted with
  | none =>
      rw [order_of_none hpreferred] at h
      cases h
  | some first =>
      rw [order_of_some hpreferred] at h
      obtain ⟨rfl, hrest⟩ := List.cons.inj h
      exact ⟨rfl, hrest⟩

theorem coding_of_mem_order {accepted : List Weighted} {coding : Coding}
    (h : coding ∈ order accepted) : ∃ w ∈ accepted, w.coding = coding := by
  induction accepted using order.induct with
  | case1 accepted hnone =>
      rw [order_of_none hnone] at h
      cases h
  | case2 accepted first hsome ih =>
      rw [order_of_some hsome] at h
      rcases List.mem_cons.mp h with rfl | h
      · exact Coding.preferred?_mem hsome
      · obtain ⟨w, hw, hcoding⟩ := ih h
        exact ⟨w, (List.mem_filter.mp hw).1, hcoding⟩

/-- No coding is tried twice. -/
theorem nodup_order (accepted : List Weighted) : (order accepted).Nodup := by
  induction accepted using order.induct with
  | case1 accepted hnone =>
      rw [order_of_none hnone]
      exact List.nodup_nil
  | case2 accepted first hsome ih =>
      rw [order_of_some hsome]
      refine List.nodup_cons.mpr ⟨fun hagain => ?_, ih⟩
      obtain ⟨w, hw, hcoding⟩ := coding_of_mem_order hagain
      exact absurd hcoding (of_decide_eq_true (List.mem_filter.mp hw).2)

/-- All orders that there are. -/
def orders : List (List Coding) :=
  [[], [.gzip], [.identity], [.gzip, .identity], [.identity, .gzip]]

theorem mem_orders_of_nodup {codings : List Coding} (h : codings.Nodup) : codings ∈ orders := by
  cases codings with
  | nil => decide
  | cons first rest =>
      cases rest with
      | nil => cases first <;> decide
      | cons second rest =>
          obtain ⟨hfirst, hrest⟩ := List.nodup_cons.mp h
          have hsecond := (List.nodup_cons.mp hrest).1
          -- the two codings leave nothing for a third
          cases rest with
          | nil => cases first <;> cases second <;> simp_all [orders]
          | cons third rest => cases first <;> cases second <;> cases third <;> simp_all

theorem order_mem_orders (accepted : List Weighted) : order accepted ∈ orders :=
  mem_orders_of_nodup (nodup_order accepted)

/-! ## The paths that are tried -/

/-- The paths at which a file is looked for, with the codings in this order. -/
def tried : List Coding → Path → List Path
  | [], path => [path]
  | coding :: rest, path =>
    codedPath coding path :: tried rest (dropExtension (codedPath coding path))

theorem openBest_of_none {tree : Node} {accepted : List Weighted} {path : Path}
    (h : Coding.preferred? accepted = none) :
    openBest tree accepted path =
      (tree.openAt path).map fun opened => (opened, .identity) := by
  rw [openBest]
  split
  · rfl
  · next coding hsome => rw [h] at hsome; cases hsome

theorem openBest_of_some {tree : Node} {accepted : List Weighted} {path : Path} {coding : Coding}
    (h : Coding.preferred? accepted = some coding) :
    openBest tree accepted path =
      match tree.openAt (codedPath coding path) with
      | .ok opened => .ok (opened, coding)
      | .error .missing =>
        openBest tree (without coding accepted) (dropExtension (codedPath coding path))
      | .error e => .error e := by
  rw [openBest]
  split
  · next hnone => rw [h] at hnone; cases hnone
  · next other hsome =>
      rw [h] at hsome
      obtain rfl := Option.some.inj hsome
      rfl

/-- What is found depends on what is opened at these paths only. -/
theorem openBest_congr {a b : Node} {accepted : List Weighted} {path : Path}
    (h : ∀ p ∈ tried (order accepted) path, a.openAt p = b.openAt p) :
    openBest a accepted path = openBest b accepted path := by
  induction accepted using order.induct generalizing path with
  | case1 accepted hnone =>
      rw [order_of_none hnone] at h
      rw [openBest_of_none hnone, openBest_of_none hnone, h path (List.mem_singleton_self path)]
  | case2 accepted coding hsome ih =>
      rw [order_of_some hsome] at h
      obtain ⟨hopen, hrest⟩ := List.forall_mem_cons.mp h
      rw [openBest_of_some hsome, openBest_of_some hsome, hopen, ih hrest]

/-! ## Where these paths lie -/

/-- The paths beside a root that are opened like paths below it: its compressed sibling,
the file of its parent that is named like the ending for gzip, and the parent. -/
def beside (root : Path) : List Path :=
  [codedPath .gzip root, root ++ ["..", gzipEnding], root ++ [".."]]

/-- The paths at which a target below a root is looked for. -/
inductive Covered (root : Path) : Path → Prop where
  /-- It lies below the root. -/
  | inside {below : Path} (h : Within 0 below) : Covered root (root ++ below)
  /-- It is the root itself, without the blanks at its end. -/
  | root {above blanks : Path} {name : String} (h : root = above ++ name :: blanks)
      (hname : IsName name) (hblanks : AllBlank blanks) : Covered root (above ++ [name])
  | beside {path : Path} (h : path ∈ beside root) : Covered root path

section Covered

variable {root init : Path} {name : String}

theorem covered_names {names : Path} (h : ∀ n ∈ names, IsName n) : Covered root (root ++ names) :=
  .inside (within_names h)

theorem covered_append_name (hinit : ∀ n ∈ init, IsName n) (hname : IsName name) :
    Covered root (root ++ (init ++ [name])) :=
  covered_names fun n hn => by
    rcases List.mem_append.mp hn with hn | hn
    · exact hinit n hn
    · exact List.mem_singleton.mp hn ▸ hname

/-- Once one has gone down, going up once is safe, whatever follows below. -/
theorem covered_append_up {rest : Path} (hinit : ∀ n ∈ init, IsName n) (hne : init ≠ [])
    (hrest : ∀ n ∈ rest, IsName n) : Covered root (root ++ (init ++ ".." :: rest)) := by
  have hlength : 0 + init.length = (init.length - 1) + 1 := by
    have hpos := List.length_pos_iff.mpr hne
    omega
  refine .inside ((within_append hinit).mpr ?_)
  rw [hlength, within_cons_up]
  exact within_names hrest

/-- Where the search goes on when the extension has been dropped. -/
theorem covered_stem (hinit : ∀ n ∈ init, IsName n) (hname : IsName name) :
    Covered root (root ++ (init ++ [(splitExtension name).1])) := by
  rcases isName_stem hname with hstem | hdot | hup
  · exact covered_append_name hinit hstem
  · rw [hdot]
    exact .inside ((within_append hinit).mpr ((within_cons_blank (by decide)).mpr trivial))
  · rw [hup]
    by_cases hne : init = []
    · subst hne
      exact .beside (List.mem_cons_of_mem _ (List.mem_cons_of_mem _ (List.mem_singleton_self _)))
    · exact covered_append_up hinit hne (by simp)

/-- A dot is passed over: right below the root the ending for gzip goes to the last
name of the root. -/
theorem covered_gzip_root :
    Covered root (codedPath .gzip (root ++ ["."]))
      ∧ Covered root (dropExtension (codedPath .gzip (root ++ ["."]))) := by
  rcases Path.cases root with ⟨above, r, blanks, hroot, hr, hblanks⟩
    | ⟨above, blanks, hroot, hblanks⟩ | hblanks
  · have hpath : root ++ ["."] = above ++ r :: (blanks ++ ["."]) := by simp [hroot]
    have hall : AllBlank (blanks ++ ["."]) := hblanks.append allBlank_dot
    have hsame : codedPath .gzip (root ++ ["."]) = codedPath .gzip root := by
      rw [hpath, codedPath_gzip_name hr hall, hroot, codedPath_gzip_name hr hblanks]
    have hdrop : dropExtension (codedPath .gzip root) = above ++ [r] := by
      rw [hroot, dropExtension_codedPath_name hr hblanks]
    rw [hsame, hdrop]
    exact ⟨.beside (List.mem_cons_self ..), .root hroot hr hblanks⟩
  · have hpath : root ++ ["."] = above ++ ".." :: (blanks ++ ["."]) := by simp [hroot]
    have hall : AllBlank (blanks ++ ["."]) := hblanks.append allBlank_dot
    have hbelow : Covered root (root ++ ["."] ++ [gzipEnding]) := by
      rw [List.append_assoc]
      exact .inside trivial
    rw [hpath, codedPath_gzip_up hall, dropExtension_append_gzipEnding, ← hpath]
    exact ⟨hbelow, hbelow⟩
  · have hall : AllBlank (root ++ ["."]) := hblanks.append allBlank_dot
    have hdrop : dropExtension (root ++ ["."]) = root ++ ["."] := mapLastName_blanks hall
    rw [codedPath_gzip_blanks hall, hdrop]
    exact ⟨.inside trivial, .inside trivial⟩

theorem covered_gzip_dot (hinit : ∀ n ∈ init, IsName n) :
    Covered root (codedPath .gzip (root ++ (init ++ ["."])))
      ∧ Covered root (dropExtension (codedPath .gzip (root ++ (init ++ ["."])))) := by
  rcases List.eq_nil_or_concat init with rfl | ⟨before, last, rfl⟩
  · exact covered_gzip_root
  · rw [List.concat_eq_append] at hinit ⊢
    obtain ⟨hbefore, hlast⟩ := List.forall_mem_append.mp hinit
    have hname : IsName last := hlast last (List.mem_singleton_self last)
    have hpath : root ++ (before ++ [last] ++ ["."]) = (root ++ before) ++ last :: ["."] := by simp
    rw [hpath, dropExtension_codedPath_name hname allBlank_dot,
      codedPath_gzip_name hname allBlank_dot, List.append_assoc, List.append_assoc]
    exact ⟨covered_append_name hbefore isName_append_gzipEnding,
      covered_append_name hbefore hname⟩

/-- After two dots the ending for gzip is a name of its own. Right below the root that
is a name beside the root. -/
theorem covered_gzip_up (hinit : ∀ n ∈ init, IsName n) :
    Covered root (codedPath .gzip (root ++ (init ++ [".."])))
      ∧ Covered root (dropExtension (codedPath .gzip (root ++ (init ++ [".."])))) := by
  have hcovered : Covered root (root ++ (init ++ ["..", gzipEnding])) := by
    by_cases hne : init = []
    · subst hne
      exact .beside (List.mem_cons_of_mem _ (List.mem_cons_self ..))
    · exact covered_append_up hinit hne fun n hn => List.mem_singleton.mp hn ▸ isName_gzipEnding
  have hpath : root ++ (init ++ [".."]) = (root ++ init) ++ ".." :: [] := by simp
  have hcoded : codedPath .gzip (root ++ (init ++ [".."]))
      = root ++ (init ++ ["..", gzipEnding]) := by
    rw [hpath, codedPath_gzip_up allBlank_nil]
    simp
  have hdrop : dropExtension (codedPath .gzip (root ++ (init ++ [".."])))
      = root ++ (init ++ ["..", gzipEnding]) := by
    rw [hpath, codedPath_gzip_up allBlank_nil, dropExtension_append_gzipEnding]
    simp
  rw [hdrop, hcoded]
  exact ⟨hcovered, hcovered⟩

theorem covered_gzip_name (hinit : ∀ n ∈ init, IsName n) (hname : IsName name) :
    Covered root (codedPath .gzip (root ++ (init ++ [name])))
      ∧ Covered root (dropExtension (codedPath .gzip (root ++ (init ++ [name])))) := by
  have hpath : root ++ (init ++ [name]) = (root ++ init) ++ name :: [] := by simp
  rw [hpath, dropExtension_codedPath_name hname allBlank_nil,
    codedPath_gzip_name hname allBlank_nil, List.append_assoc, List.append_assoc]
  exact ⟨covered_append_name hinit isName_append_gzipEnding, covered_append_name hinit hname⟩

theorem covered_gzip_stem (hinit : ∀ n ∈ init, IsName n) (hname : IsName name) :
    Covered root (codedPath .gzip (root ++ (init ++ [(splitExtension name).1])))
      ∧ Covered root
        (dropExtension (codedPath .gzip (root ++ (init ++ [(splitExtension name).1])))) := by
  rcases isName_stem hname with hstem | hdot | hup
  · exact covered_gzip_name hinit hstem
  · exact hdot ▸ covered_gzip_dot hinit
  · exact hup ▸ covered_gzip_up hinit

/-- Every path at which a target below the root is looked for is covered. -/
theorem covered_of_tried {codings : List Coding} {path : Path} (hcodings : codings ∈ orders)
    (hinit : ∀ n ∈ init, IsName n) (hname : IsName name)
    (hpath : path ∈ tried codings (root ++ (init ++ [name]))) : Covered root path := by
  have hplain : Covered root (root ++ (init ++ [name])) := covered_append_name hinit hname
  have hdrop : dropExtension (root ++ (init ++ [name]))
      = root ++ (init ++ [(splitExtension name).1]) := by
    rw [← List.append_assoc, dropExtension_name hname allBlank_nil, List.append_assoc]
  have hback : dropExtension (codedPath .gzip (root ++ (init ++ [name])))
      = root ++ (init ++ [name]) := by
    rw [← List.append_assoc, dropExtension_codedPath_name hname allBlank_nil]
  have hgzip : Covered root (codedPath .gzip (root ++ (init ++ [name]))) :=
    (covered_gzip_name hinit hname).1
  have hstem : Covered root (root ++ (init ++ [(splitExtension name).1])) :=
    covered_stem hinit hname
  have hlast : Covered root (codedPath .gzip (root ++ (init ++ [(splitExtension name).1]))) ∧ _ :=
    covered_gzip_stem hinit hname
  simp only [orders, List.mem_cons, List.not_mem_nil, or_false] at hcodings
  rcases hcodings with rfl | rfl | rfl | rfl | rfl
  all_goals
    simp only [tried, codedPath_identity, hback, hdrop, List.mem_cons, List.not_mem_nil,
      or_false] at hpath
  · exact hpath ▸ hplain
  · rcases hpath with rfl | rfl
    · exact hgzip
    · exact hplain
  · rcases hpath with rfl | rfl
    · exact hplain
    · exact hstem
  · rcases hpath with rfl | rfl | rfl
    · exact hgzip
    · exact hplain
    · exact hstem
  · rcases hpath with rfl | rfl | rfl
    · exact hplain
    · exact hlast.1
    · exact hlast.2

end Covered

/-! ## What is found -/

/-- The paths outside the root at which something may be opened for a target. Where the
root is no directory, that is wherever the root itself would be looked for. -/
def strays (tree : Node) (root : Path) : List Path :=
  if tree.isDirectory root then beside root
  else orders.flatMap fun codings => tried codings root

section Found

variable {a b : Node} {root : Path}

theorem mem_strays_of_tried {codings : List Coding} {path : Path}
    (hdirectory : a.isDirectory root = false) (hcodings : codings ∈ orders)
    (hpath : path ∈ tried codings root) : path ∈ strays a root := by
  rw [strays, hdirectory]
  exact List.mem_flatMap.mpr ⟨codings, hcodings, hpath⟩

/-- In trees that agree at the root and at the strays the same is opened. -/
theorem openAt_of_covered {path : Path} (hroot : a.walk root = b.walk root)
    (hstrays : ∀ p ∈ strays a root, a.openAt p = b.openAt p) (h : Covered root path) :
    a.openAt path = b.openAt path := by
  cases hdirectory : a.isDirectory root with
  | true =>
      have hdirectory' : b.isDirectory root = true := Node.isDirectory_congr hroot ▸ hdirectory
      cases h with
      | inside hbelow => exact Node.openAt_congr (Node.walk_append hroot hbelow)
      | beside hbeside =>
          rw [strays, hdirectory] at hstrays
          exact hstrays path hbeside
      | @root above blanks name hpath hname hblanks =>
          have hsplit : above ++ [name] ++ blanks = root := by simp [hpath]
          calc a.openAt (above ++ [name])
              = a.openAt root :=
                hsplit ▸ Node.openAt_of_isDirectory_append hblanks (hsplit.symm ▸ hdirectory)
            _ = b.openAt root := Node.openAt_congr hroot
            _ = b.openAt (above ++ [name]) :=
                hsplit ▸
                  (Node.openAt_of_isDirectory_append hblanks (hsplit.symm ▸ hdirectory')).symm
  | false =>
      have hbelow : ∀ below, a.openAt (root ++ below) = b.openAt (root ++ below) := fun below =>
        Node.openAt_congr (Node.walk_append_of_not_isDirectory hroot hdirectory)
      have htried : ∀ p ∈ tried [.gzip] root, a.openAt p = b.openAt p := fun p hp =>
        hstrays p (mem_strays_of_tried hdirectory (by decide) hp)
      cases h with
      | inside => exact hbelow _
      | beside hbeside =>
          rcases List.mem_cons.mp hbeside with rfl | hbeside
          · exact htried _ (List.mem_cons_self ..)
          · rcases List.mem_cons.mp hbeside with rfl | hbeside
            · exact hbelow _
            · exact List.mem_singleton.mp hbeside ▸ hbelow _
      | @root above blanks name hpath hname hblanks =>
          have hdrop : dropExtension (codedPath .gzip root) = above ++ [name] := by
            rw [hpath, dropExtension_codedPath_name hname hblanks]
          exact htried _ (hdrop ▸ List.mem_cons_of_mem _ (List.mem_singleton_self _))

theorem isName_of_safeNames? {path : String} {names : Path} (h : safeNames? path = some names) :
    ∀ n ∈ names, IsName n := by
  obtain ⟨hsafe, hnames⟩ := Option.ite_none_left_eq_some.mp h
  obtain rfl := Option.some.inj hnames
  intro n hn
  refine ⟨by simpa using (List.mem_filter.mp hn).2, ?_⟩
  rintro rfl
  exact hsafe (.inr hn)

/-- No name of a target goes up. -/
theorem isName_of_names? {path : String} {names : Path} (h : names? path = some names) :
    ∀ n ∈ names, IsName n := by
  obtain ⟨decoded, -, hsafe⟩ := Option.bind_eq_some_iff.mp h
  exact isName_of_safeNames? hsafe

theorem openBest_below {accepted : List Weighted} {init : Path} {name : String}
    (hroot : a.walk root = b.walk root) (hstrays : ∀ p ∈ strays a root, a.openAt p = b.openAt p)
    (hinit : ∀ n ∈ init, IsName n) (hname : IsName name) :
    openBest a accepted (root ++ (init ++ [name])) =
      openBest b accepted (root ++ (init ++ [name])) :=
  openBest_congr fun _ hp =>
    openAt_of_covered hroot hstrays (covered_of_tried (order_mem_orders accepted) hinit hname hp)

/-- The file of a target is opened alike. -/
theorem openBest_target {accepted : List Weighted} {names : Path}
    (hroot : a.walk root = b.walk root) (hstrays : ∀ p ∈ strays a root, a.openAt p = b.openAt p)
    (hnames : ∀ n ∈ names, IsName n) (hfile : a.isDirectory (root ++ names) = false) :
    openBest a accepted (root ++ names) = openBest b accepted (root ++ names) := by
  rcases List.eq_nil_or_concat names with rfl | ⟨init, name, rfl⟩
  · rw [List.append_nil] at hfile ⊢
    exact openBest_congr fun p hp =>
      hstrays p (mem_strays_of_tried hfile (order_mem_orders accepted) hp)
  · rw [List.concat_eq_append] at hnames ⊢
    obtain ⟨hinit, hname⟩ := List.forall_mem_append.mp hnames
    exact openBest_below hroot hstrays hinit (hname name (List.mem_singleton_self name))

end Found

/-- Two sites have the same root, the same below it, and the same at the strays. -/
structure Alike (site site' : Site) : Prop where
  root : site.root = site'.root
  below : site.tree.walk site.root = site'.tree.walk site'.root
  strays : ∀ path ∈ strays site.tree site.root, site.tree.openAt path = site'.tree.openAt path

/-- **What is found.** For every target and all codings, the same is found in sites
that are alike. -/
theorem find_of_alike {site site' : Site} (h : Alike site site') (uri : Uri)
    (accepted : List Weighted) : site.find uri accepted = site'.find uri accepted := by
  obtain ⟨a, root⟩ := site
  obtain ⟨b, root'⟩ := site'
  obtain ⟨hsame, hroot, hstrays⟩ := h
  dsimp only at hsame hroot hstrays
  subst hsame
  cases hnames : names? uri.path with
  | none => simp only [find, hnames]
  | some names =>
      have hall := isName_of_names? hnames
      have hdirectory : a.isDirectory (root ++ names) = b.isDirectory (root ++ names) :=
        Node.isDirectory_congr (Node.walk_append hroot (within_names hall))
      have hopen : openBest a accepted
            (if b.isDirectory (root ++ names) = true then root ++ names ++ [indexName]
              else root ++ names) =
          openBest b accepted
            (if b.isDirectory (root ++ names) = true then root ++ names ++ [indexName]
              else root ++ names) := by
        split
        · rw [List.append_assoc]
          exact openBest_below hroot hstrays hall ⟨by decide, by decide⟩
        · next hfile =>
            rw [Bool.not_eq_true, ← hdirectory] at hfile
            exact openBest_target hroot hstrays hall hfile
      simp only [find, hnames, hdirectory, hopen]

/-! ## What lies beside the root -/

/-- The strays are really opened. Where the root has a name, a target of which only a dot
is left without its extension gets the compressed sibling of the root: the file of that
name has to be missing, and gzip accepted as the second choice. -/
theorem find_sibling {site : Site} {uri : Uri} {accepted : List Weighted} {name r : String}
    {above blanks : Path} {opened : Opened} (hroot : site.root = above ++ r :: blanks)
    (hr : IsName r) (hblanks : AllBlank blanks) (hnames : names? uri.path = some [name])
    (hdot : (splitExtension name).1 = ".") (horder : order accepted = [.identity, .gzip])
    (hmissing : site.tree.walk (site.root ++ [name]) = .error .missing)
    (hsibling : site.tree.openAt (above ++ [r ++ gzipEnding]) = .ok opened) :
    site.find uri accepted = .ok
      { opened, mediaType := mediaTypeOf (site.root ++ [name]), coding := .gzip } := by
  have hname : IsName name := isName_of_names? hnames name (List.mem_singleton_self name)
  have hdrop : dropExtension (site.root ++ [name]) = above ++ r :: (blanks ++ ["."]) := by
    rw [dropExtension_name hname allBlank_nil, hdot, hroot]
    simp
  obtain ⟨hfirst, hrest⟩ := preferred?_of_order horder
  obtain ⟨hsecond, -⟩ := preferred?_of_order hrest
  have hnofile : site.tree.openAt (site.root ++ [name]) = .error .missing := by
    rw [Node.openAt, hmissing]
    rfl
  have hopen : openBest site.tree accepted (site.root ++ [name]) = .ok (opened, .gzip) := by
    rw [openBest_of_some hfirst, codedPath_identity, hnofile]
    dsimp only
    rw [openBest_of_some hsecond, hdrop,
      codedPath_gzip_name hr (hblanks.append allBlank_dot), hsibling]
  have hnodirectory : site.tree.isDirectory (site.root ++ [name]) = false := by
    rw [Node.isDirectory, hmissing]
  simp [find, hnames, hnodirectory, hopen]

end Site

end MenuHost.Files
