import MenuHost.Proofs.Files.Path

/-!
# Walks below a directory

Two trees that have the same node at a path have the same nodes below
it: `walk_append`. What lies elsewhere plays a part only when a walk goes
up, and the trail tells how far it may go. `Within` counts that on the path
alone. The step is `foldlM_enter_congr`: after the same names two walks
have the same parents as far as those names go, whatever lies above.

A directory may be opened too. Blanks behind its path change nothing
(`openAt_of_isDirectory_append`): they lead from a directory to itself, and from
nothing else to anywhere.
-/

namespace MenuHost.Files

/-- A path that never goes up more often than it has gone down, with so many steps
to spare. -/
def Within : Nat → Path → Prop
  | _, [] => True
  | depth, name :: rest =>
    if isBlankName name = true then Within depth rest
    else if name = ".." then ∃ spare, depth = spare + 1 ∧ Within spare rest
    else Within (depth + 1) rest

theorem within_cons_name {depth : Nat} {name : String} (h : IsName name) {rest : Path} :
    Within depth (name :: rest) ↔ Within (depth + 1) rest := by
  rw [Within, if_neg (by simp [h.1]), if_neg h.2]

theorem within_cons_blank {depth : Nat} {name : String} (h : isBlankName name = true)
    {rest : Path} : Within depth (name :: rest) ↔ Within depth rest := by
  rw [Within, if_pos h]

theorem within_up_iff {depth : Nat} {rest : Path} :
    Within depth (".." :: rest) ↔ ∃ spare, depth = spare + 1 ∧ Within spare rest := by
  rw [Within, if_neg (by simp [isBlankName_up]), if_pos rfl]

theorem within_cons_up {depth : Nat} {rest : Path} :
    Within (depth + 1) (".." :: rest) ↔ Within depth rest := by
  simp [within_up_iff]

theorem within_append {depth : Nat} {names rest : Path} (h : ∀ name ∈ names, IsName name) :
    Within depth (names ++ rest) ↔ Within (depth + names.length) rest := by
  induction names generalizing depth with
  | nil => rfl
  | cons name names ih =>
      obtain ⟨hname, hnames⟩ := List.forall_mem_cons.mp h
      rw [List.cons_append, within_cons_name hname, ih hnames, List.length_cons,
        Nat.add_assoc, Nat.add_comm 1]

theorem within_names {depth : Nat} {names : Path} (h : ∀ name ∈ names, IsName name) :
    Within depth names := by
  have hnil : Within depth (names ++ []) := (within_append h).mpr trivial
  rwa [List.append_nil] at hnil

namespace Node

/-! ## Single steps -/

theorem enter_directory (above : List Node) (stat : Stat) (entries : List (String × Node))
    (name : String) :
    enter (above, directory stat entries) name =
      if name = "" ∨ name = "." then .ok (above, directory stat entries)
      else if name = ".." then .ok (above.tail, above.headD (directory stat entries))
      else if maxNameLength < name.utf8ByteSize then .error .unusable
      else
        match entries.lookup name with
        | some node => .ok (directory stat entries :: above, node)
        | none => .error .missing := by
  cases above <;> rfl

/-- What a step from a directory can be. Where it leads does not depend on what lies
above, unless it goes up. -/
theorem enter_cases (stat : Stat) (entries : List (String × Node)) (name : String) :
    (isBlankName name = true
        ∧ ∀ above, enter (above, directory stat entries) name = .ok (above, directory stat entries))
      ∨ (name = ".." ∧ ∀ above, enter (above, directory stat entries) name
        = .ok (above.tail, above.headD (directory stat entries)))
      ∨ (∃ e, ∀ above, enter (above, directory stat entries) name = .error e)
      ∨ (IsName name ∧ ∃ node, ∀ above, enter (above, directory stat entries) name
        = .ok (directory stat entries :: above, node)) := by
  simp only [enter_directory]
  by_cases hblank : name = "" ∨ name = "."
  · exact .inl ⟨isBlankName_iff.mpr hblank, fun above => if_pos hblank⟩
  · simp only [if_neg hblank]
    by_cases hup : name = ".."
    · exact .inr (.inl ⟨hup, fun above => if_pos hup⟩)
    · simp only [if_neg hup]
      have hname : IsName name := ⟨Bool.not_eq_true _ ▸ mt isBlankName_iff.mp hblank, hup⟩
      by_cases hlong : maxNameLength < name.utf8ByteSize
      · exact .inr (.inr (.inl ⟨.unusable, fun above => if_pos hlong⟩))
      · simp only [if_neg hlong]
        cases entries.lookup name with
        | none => exact .inr (.inr (.inl ⟨.missing, fun above => rfl⟩))
        | some node => exact .inr (.inr (.inr ⟨hname, node, fun above => rfl⟩))

/-! ## Along a path -/

theorem foldlM_enter_cons (t : Trail) (name : String) (rest : Path) :
    (name :: rest).foldlM enter t = (enter t name).bind (rest.foldlM enter ·) := by
  rw [List.foldlM_cons]
  rfl

/-- The walk along a path that stays within what is shared of the trail does not
depend on the rest of the trail. -/
theorem foldlM_enter_congr {path : Path} {shared : List Node} {node : Node}
    (h : Within shared.length path) (above above' : List Node) :
    (path.foldlM enter (shared ++ above, node)).map (·.2) =
      (path.foldlM enter (shared ++ above', node)).map (·.2) := by
  induction path generalizing shared node with
  | nil => rfl
  | cons name rest ih =>
      rw [foldlM_enter_cons, foldlM_enter_cons]
      cases node with
      | file content modified => rfl
      | directory stat entries =>
          rcases enter_cases stat entries name with
            ⟨hblank, henter⟩ | ⟨rfl, henter⟩ | ⟨e, henter⟩ | ⟨hname, next, henter⟩
          · rw [henter, henter]
            exact ih ((within_cons_blank hblank).mp h)
          · obtain ⟨spare, hspare, hrest⟩ := within_up_iff.mp h
            obtain ⟨parent, others, rfl⟩ := List.exists_cons_of_length_eq_add_one hspare
            rw [henter, henter]
            exact ih (Nat.succ.inj hspare ▸ hrest)
          · rw [henter, henter]
          · have hdeeper : Within (directory stat entries :: shared).length rest :=
              (within_cons_name hname).mp h
            rw [henter, henter]
            exact ih hdeeper

/-- What one has come through are directories. -/
theorem parents_of_foldlM {path : Path} {t u : Trail}
    (ht : ∀ parent ∈ t.1, ∃ stat entries, parent = directory stat entries)
    (h : path.foldlM enter t = .ok u) :
    ∀ parent ∈ u.1, ∃ stat entries, parent = directory stat entries := by
  induction path generalizing t with
  | nil =>
      obtain rfl := Except.ok.inj h
      exact ht
  | cons name rest ih =>
      obtain ⟨above, node⟩ := t
      rw [foldlM_enter_cons] at h
      cases node with
      | file content modified => cases h
      | directory stat entries =>
          rcases enter_cases stat entries name with
            ⟨-, henter⟩ | ⟨-, henter⟩ | ⟨e, henter⟩ | ⟨-, next, henter⟩
          · rw [henter] at h
            exact ih ht h
          · rw [henter] at h
            exact ih (fun parent hparent => ht parent (List.mem_of_mem_tail hparent)) h
          · rw [henter] at h
            cases h
          · rw [henter] at h
            exact ih (List.forall_mem_cons.mpr ⟨⟨stat, entries, rfl⟩, ht⟩) h

/-! ## Whole walks -/

theorem foldl_pathLength (path : Path) (n : Nat) :
    path.foldl (fun n name => n + 1 + name.utf8ByteSize) n = n + pathLength path := by
  induction path generalizing n with
  | nil => rfl
  | cons name rest ih =>
      rw [pathLength, List.foldl_cons, List.foldl_cons, ih, ih]
      omega

theorem pathLength_append (path more : Path) :
    pathLength (path ++ more) = pathLength path + pathLength more := by
  rw [pathLength, List.foldl_append, foldl_pathLength more]
  rfl

/-- What a path itself is refused for, before anything is looked up. -/
def refusal? (path : Path) : Option WalkError :=
  if path.any (·.toList.contains '\x00') then some .noName
  else if maxPathLength < pathLength path then some .unusable
  else none

theorem walk_eq (node : Node) (path : Path) :
    node.walk path = match refusal? path with
      | some e => .error e
      | none => (path.foldlM enter ([], node)).map (·.2) := by
  unfold walk refusal?
  split
  · rfl
  · split <;> rfl

theorem refusal?_of_append {path more : Path} (h : refusal? (path ++ more) = none) :
    refusal? path = none := by
  unfold refusal? at h ⊢
  rw [List.any_append, pathLength_append] at h
  split at h
  · cases h
  · next hnul =>
      split at h
      · cases h
      · next hlong =>
          rw [if_neg fun hany => hnul (by rw [hany]; rfl), if_neg (by omega)]

theorem walk_of_refusal? {node : Node} {path : Path} (h : refusal? path = none) :
    node.walk path = (path.foldlM enter ([], node)).map (·.2) := by
  rw [walk_eq, h]

theorem walk_append_eq {node : Node} {path more : Path} (h : refusal? (path ++ more) = none) :
    node.walk (path ++ more) =
      (path.foldlM enter ([], node)).bind fun t => (more.foldlM enter t).map (·.2) := by
  rw [walk_of_refusal? h, List.foldlM_append]
  cases path.foldlM enter ([], node) <;> rfl

variable {a b : Node} {root : Path}

/-- To go on from a node one need not know how one came there. -/
theorem walk_append_of {below : Path} (hroot : a.walk root = b.walk root)
    (hgoesOn : ∀ t u : Trail, a.walk root = .ok t.2 → t.2 = u.2 →
      (below.foldlM enter t).map (·.2) = (below.foldlM enter u).map (·.2)) :
    a.walk (root ++ below) = b.walk (root ++ below) := by
  cases hrefusal : refusal? (root ++ below) with
  | some e => rw [walk_eq, walk_eq, hrefusal]
  | none =>
      have hpath := refusal?_of_append hrefusal
      have hfirst : a.walk root = _ := walk_of_refusal? hpath
      rw [walk_append_eq hrefusal, walk_append_eq hrefusal]
      rw [walk_of_refusal? hpath, walk_of_refusal? hpath] at hroot
      cases hta : root.foldlM enter ([], a) with
      | error e =>
          cases htb : root.foldlM enter ([], b) with
          | error e' =>
              rw [hta, htb] at hroot
              exact congrArg Except.error (Except.error.inj hroot)
          | ok u =>
              rw [hta, htb] at hroot
              cases hroot
      | ok t =>
          cases htb : root.foldlM enter ([], b) with
          | error e' =>
              rw [hta, htb] at hroot
              cases hroot
          | ok u =>
              rw [hta, htb] at hroot
              rw [hta] at hfirst
              exact hgoesOn t u hfirst (Except.ok.inj hroot)

/-- **What lies below.** Trees that agree at a path agree below it. -/
theorem walk_append {below : Path} (hroot : a.walk root = b.walk root) (h : Within 0 below) :
    a.walk (root ++ below) = b.walk (root ++ below) := by
  refine walk_append_of hroot fun t u _ hnode => ?_
  obtain ⟨above, node⟩ := t
  obtain ⟨above', node'⟩ := u
  obtain rfl : node = node' := hnode
  have hbelow : Within ([] : List Node).length below := h
  exact foldlM_enter_congr hbelow above above'

theorem openAt_congr {path : Path} (h : a.walk path = b.walk path) :
    a.openAt path = b.openAt path := by
  rw [openAt, openAt, h]

theorem isDirectory_congr {path : Path} (h : a.walk path = b.walk path) :
    a.isDirectory path = b.isDirectory path := by
  rw [isDirectory, isDirectory, h]

/-- A path through something that is no directory leads nowhere, up or down. -/
theorem walk_append_of_not_isDirectory {below : Path} (hroot : a.walk root = b.walk root)
    (hdirectory : a.isDirectory root = false) :
    a.walk (root ++ below) = b.walk (root ++ below) := by
  refine walk_append_of hroot fun t u hfound hnode => ?_
  obtain ⟨above, node⟩ := t
  obtain ⟨above', node'⟩ := u
  obtain rfl : node = node' := hnode
  cases node with
  | directory stat entries =>
      rw [isDirectory, hfound] at hdirectory
      cases hdirectory
  | file content modified =>
      cases below with
      | nil => rfl
      | cons name rest => rfl

theorem foldlM_of_isDirectory {node : Node} {path : Path} (h : node.isDirectory path = true) :
    refusal? path = none ∧ ∃ above stat entries,
      path.foldlM enter ([], node) = .ok (above, directory stat entries) := by
  rw [isDirectory, walk_eq] at h
  cases hrefusal : refusal? path with
  | some e =>
      rw [hrefusal] at h
      cases h
  | none =>
      rw [hrefusal] at h
      cases hwalk : path.foldlM enter ([], node) with
      | error e =>
          rw [hwalk] at h
          cases h
      | ok t =>
          obtain ⟨above, found⟩ := t
          rw [hwalk] at h
          cases found with
          | file content modified => cases h
          | directory stat entries => exact ⟨rfl, above, stat, entries, rfl⟩

/-! ## Blanks at the end -/

theorem foldlM_blanks {blanks : Path} {t u : Trail} (hblanks : AllBlank blanks)
    (h : blanks.foldlM enter t = .ok u) : t = u := by
  induction blanks with
  | nil => exact Except.ok.inj h
  | cons name rest ih =>
      obtain ⟨hname, hrest⟩ := List.forall_mem_cons.mp hblanks
      obtain ⟨above, node⟩ := t
      rw [foldlM_enter_cons] at h
      cases node with
      | file content modified => cases h
      | directory stat entries =>
          rw [enter_directory, if_pos (isBlankName_iff.mp hname)] at h
          exact ih hrest h

/-- Blanks behind the path of a directory make no difference. -/
theorem openAt_of_isDirectory_append {node : Node} {path blanks : Path} (hblanks : AllBlank blanks)
    (h : node.isDirectory (path ++ blanks) = true) :
    node.openAt path = node.openAt (path ++ blanks) := by
  obtain ⟨hrefusal, above, stat, entries, hwalk⟩ := foldlM_of_isDirectory h
  rw [openAt, openAt, walk_of_refusal? hrefusal, walk_of_refusal? (refusal?_of_append hrefusal),
    hwalk]
  rw [List.foldlM_append] at hwalk
  cases hpath : path.foldlM enter ([], node) with
  | error e =>
      rw [hpath] at hwalk
      cases hwalk
  | ok t =>
      rw [hpath] at hwalk
      obtain rfl := foldlM_blanks hblanks hwalk
      rfl

end Node

end MenuHost.Files
