import MenuHost.Proofs.Files.Walk
import MenuHost.Proofs.Reading

/-!
# Files and their compressed siblings

What is looked for beside a file that is there: the sibling is found, or it is
missing, or its path is longer than any that can be looked up
(`walk_sibling`). There is no fourth case, for whatever else could stop
the walk would have stopped the one to the file.

Index files and siblings are opened without a look at what they are, and a
directory in their place would be opened as well. In a `Regular` tree there is none
(`isDirectory_of_isFileName`). The invariant behind it is that of a walk, which comes
to regular nodes only (`regular_of_foldlM`): below where it is by the tree, and above
because it has been there.
-/

namespace MenuHost.Files

namespace Node

/-! ## Regular trees -/

/-- A name under which a file is expected. -/
def IsFileName (name : String) : Prop :=
  name = Site.indexName ∨ Site.gzipEnding.toList <:+ name.toList

instance (name : String) : Decidable (IsFileName name) :=
  inferInstanceAs (Decidable (name = Site.indexName ∨ Site.gzipEnding.toList <:+ name.toList))

/-- No directory in the tree has the name of an index file or of a compressed sibling. -/
inductive Regular : Node → Prop
  | file (content : List UInt8) (modified : FileTime) : Regular (file content modified)
  | directory {stat : Stat} {entries : List (String × Node)}
      (hbelow : ∀ entry ∈ entries, Regular entry.2)
      (hfiles : ∀ entry ∈ entries, IsFileName entry.1 →
        ∃ content modified, entry.2 = Node.file content modified) :
      Regular (directory stat entries)

theorem isFileName_append_gzipEnding (name : String) : IsFileName (name ++ Site.gzipEnding) := by
  refine .inr ⟨name.toList, ?_⟩
  rw [String.toList_append]

theorem isName_of_isFileName {name : String} (h : IsFileName name) : IsName name := by
  rcases h with rfl | ⟨stem, hstem⟩
  · exact ⟨by decide, by decide⟩
  · have hname : name = String.ofList stem ++ Site.gzipEnding := by
      rw [← String.toList_inj, String.toList_append, String.toList_ofList, hstem]
    exact hname ▸ isName_append_gzipEnding

theorem mem_of_lookup {entries : List (String × Node)} {name : String} {node : Node}
    (h : entries.lookup name = some node) : (name, node) ∈ entries := by
  obtain ⟨before, after, rfl, -⟩ := List.lookup_eq_some_iff.mp h
  simp

/-! ## The last step of a walk -/

theorem foldlM_concat_eq_ok {path : Path} {name : String} {t u : Trail} :
    (path ++ [name]).foldlM enter t = .ok u ↔
      ∃ v, path.foldlM enter t = .ok v ∧ enter v name = .ok u := by
  rw [List.foldlM_append, bind_eq_ok_iff]
  simp only [foldlM_enter_cons, List.foldlM_nil]
  refine exists_congr fun v => and_congr_right fun _ => ?_
  cases enter v name <;> exact Iff.rfl

/-- A step that goes down finds an entry of a directory. -/
theorem enter_eq_ok_of_isName {t u : Trail} {name : String} (hname : IsName name)
    (h : enter t name = .ok u) :
    ∃ stat entries, t.2 = directory stat entries ∧ u.1 = directory stat entries :: t.1
      ∧ entries.lookup name = some u.2 := by
  obtain ⟨above, node⟩ := t
  cases node with
  | file content modified => cases h
  | directory stat entries =>
      have hblank : ¬(name = "" ∨ name = ".") := fun hblank => by
        rw [← isBlankName_iff, hname.1] at hblank
        cases hblank
      rw [enter_directory, if_neg hblank, if_neg hname.2] at h
      split at h
      · cases h
      · split at h
        · next node hlookup =>
            obtain rfl := Except.ok.inj h
            exact ⟨stat, entries, rfl, rfl, hlookup⟩
        · cases h

theorem walk_eq_ok_iff {node found : Node} {path : Path} :
    node.walk path = .ok found ↔
      refusal? path = none ∧ ∃ above, path.foldlM enter ([], node) = .ok (above, found) := by
  rw [walk_eq]
  cases hrefusal : refusal? path with
  | some e => simp
  | none =>
      simp only [map_eq_ok_iff, true_and]
      constructor
      · rintro ⟨⟨above, found⟩, hwalk, rfl⟩
        exact ⟨above, hwalk⟩
      · rintro ⟨above, hwalk⟩
        exact ⟨_, hwalk, rfl⟩

/-! ## Walks in regular trees -/

theorem regular_of_enter {t u : Trail} {name : String} (ht : ∀ node ∈ t.2 :: t.1, Regular node)
    (h : enter t name = .ok u) : ∀ node ∈ u.2 :: u.1, Regular node := by
  obtain ⟨above, node⟩ := t
  cases node with
  | file content modified => cases h
  | directory stat entries =>
      rw [enter_directory] at h
      split at h
      · obtain rfl := Except.ok.inj h
        exact ht
      split at h
      · obtain rfl := Except.ok.inj h
        cases above with
        | nil => exact ht
        | cons parent above => exact (List.forall_mem_cons.mp ht).2
      split at h
      · cases h
      split at h
      · next node hlookup =>
          obtain rfl := Except.ok.inj h
          have hhere : Regular (directory stat entries) := ht _ (List.mem_cons_self ..)
          cases hhere with
          | directory hbelow hfiles =>
              exact List.forall_mem_cons.mpr ⟨hbelow _ (mem_of_lookup hlookup), ht⟩
      · cases h

theorem regular_of_foldlM {path : Path} {t u : Trail} (ht : ∀ node ∈ t.2 :: t.1, Regular node)
    (h : path.foldlM enter t = .ok u) : ∀ node ∈ u.2 :: u.1, Regular node := by
  induction path generalizing t with
  | nil =>
      obtain rfl := Except.ok.inj h
      exact ht
  | cons name rest ih =>
      rw [foldlM_enter_cons] at h
      cases henter : enter t name with
      | error e =>
          rw [henter] at h
          cases h
      | ok next =>
          rw [henter] at h
          exact ih (regular_of_enter ht henter) h

/-- Where a file is expected there is no directory. -/
theorem isDirectory_of_isFileName {tree : Node} (htree : Regular tree) {above : Path}
    {name : String} (hname : IsFileName name) : tree.isDirectory (above ++ [name]) = false := by
  rw [Bool.eq_false_iff]
  intro hdirectory
  obtain ⟨-, parents, _, others, hwalk⟩ := foldlM_of_isDirectory hdirectory
  obtain ⟨t, ht, henter⟩ := foldlM_concat_eq_ok.mp hwalk
  have hstart : ∀ node ∈ [tree], Regular node := fun node hnode =>
    List.mem_singleton.mp hnode ▸ htree
  have hregular : Regular t.2 := regular_of_foldlM (t := ([], tree)) hstart ht t.2
    (List.mem_cons_self ..)
  obtain ⟨_, entries, hentries, -, hlookup⟩ :=
    enter_eq_ok_of_isName (isName_of_isFileName hname) henter
  rw [hentries] at hregular
  cases hregular with
  | directory hbelow hfiles =>
      obtain ⟨content, modified, hfile⟩ := hfiles _ (mem_of_lookup hlookup) hname
      cases hfile

/-! ## Beside a file -/

/-- A path that cannot be looked up, in any tree, because of its length or that of a
name. -/
def TooLong (path : Path) : Prop :=
  maxPathLength < pathLength path ∨ ∃ name ∈ path, maxNameLength < name.utf8ByteSize

theorem refusal?_sibling {above : Path} {name : String} (h : refusal? (above ++ [name]) = none)
    (hlength : ¬maxPathLength < pathLength (above ++ [name ++ Site.gzipEnding])) :
    refusal? (above ++ [name ++ Site.gzipEnding]) = none := by
  have hnul : ¬(above ++ [name]).any (·.toList.contains '\x00') = true := by
    intro hany
    rw [refusal?, if_pos hany] at h
    cases h
  have hending : '\x00' ∉ Site.gzipEnding.toList := by decide
  rw [refusal?, if_neg, if_neg hlength]
  simpa [hending] using hnul

/-- **Siblings.** Beside something that is there the compressed sibling is there too, or it
is missing, or too long to be looked up. -/
theorem walk_sibling {tree node : Node} {above : Path} {name : String} (hname : IsName name)
    (h : tree.walk (above ++ [name]) = .ok node) :
    (∃ found, tree.walk (above ++ [name ++ Site.gzipEnding]) = .ok found)
      ∨ tree.walk (above ++ [name ++ Site.gzipEnding]) = .error .missing
      ∨ TooLong (above ++ [name ++ Site.gzipEnding]) := by
  by_cases hpath : maxPathLength < pathLength (above ++ [name ++ Site.gzipEnding])
  · exact .inr (.inr (.inl hpath))
  by_cases hlong : maxNameLength < (name ++ Site.gzipEnding).utf8ByteSize
  · exact .inr (.inr (.inr ⟨_, List.mem_append_right _ (List.mem_singleton_self _), hlong⟩))
  obtain ⟨hrefusal, parents, hwalk⟩ := walk_eq_ok_iff.mp h
  obtain ⟨⟨t, here⟩, ht, henter⟩ := foldlM_concat_eq_ok.mp hwalk
  obtain ⟨stat, entries, rfl, -, -⟩ := enter_eq_ok_of_isName hname henter
  have hsibling : tree.walk (above ++ [name ++ Site.gzipEnding]) =
      (enter (t, directory stat entries) (name ++ Site.gzipEnding)).map (·.2) := by
    rw [walk_append_eq (refusal?_sibling hrefusal hpath), ht]
    simp only [Except.bind, foldlM_enter_cons, List.foldlM_nil]
    cases enter (t, directory stat entries) (name ++ Site.gzipEnding) <;> rfl
  have hblank : ¬(name ++ Site.gzipEnding = "" ∨ name ++ Site.gzipEnding = ".") := by
    rw [← isBlankName_iff, isName_append_gzipEnding.1]
    exact Bool.false_ne_true
  rw [hsibling, enter_directory, if_neg hblank, if_neg isName_append_gzipEnding.2, if_neg hlong]
  cases entries.lookup (name ++ Site.gzipEnding) with
  | none => exact .inr (.inl rfl)
  | some found => exact .inl ⟨found, rfl⟩

/-- The path of a file ends in a name. If there is no directory at all it may also be
empty, or go nowhere. -/
theorem exists_name_of_walk {tree : Node} {path : Path} {content : List UInt8}
    {modified : FileTime} (h : tree.walk path = .ok (file content modified)) :
    (∃ above name, path = above ++ [name] ∧ IsName name) ∨ AllBlank path := by
  obtain ⟨-, parents, hwalk⟩ := walk_eq_ok_iff.mp h
  -- a file is where the path ended before its blanks, for nothing follows a file
  have hlast : ∀ {before blanks : Path}, path = before ++ blanks → AllBlank blanks →
      blanks = [] ∧ before.foldlM enter ([], tree) = .ok (parents, file content modified) := by
    rintro before blanks rfl hblanks
    rw [List.foldlM_append, bind_eq_ok_iff] at hwalk
    obtain ⟨t, ht, hrest⟩ := hwalk
    obtain rfl := foldlM_blanks hblanks hrest
    cases blanks with
    | nil => exact ⟨rfl, ht⟩
    | cons first rest => cases hrest
  rcases Path.cases path with ⟨above, name, blanks, hpath, hname, hblanks⟩
    | ⟨above, blanks, hpath, hblanks⟩ | hblanks
  · have hsplit : path = (above ++ [name]) ++ blanks := by simp [hpath]
    obtain ⟨rfl, -⟩ := hlast hsplit hblanks
    exact .inl ⟨above, name, hpath, hname⟩
  · exfalso
    have hsplit : path = (above ++ [".."]) ++ blanks := by simp [hpath]
    obtain ⟨t, ht, hup⟩ := foldlM_concat_eq_ok.mp (hlast hsplit hblanks).2
    have hparents := parents_of_foldlM (t := ([], tree)) (by simp) ht
    obtain ⟨above', node⟩ := t
    cases node with
    | file content modified => cases hup
    | directory stat entries =>
        rw [enter_directory, if_neg (by decide), if_pos rfl] at hup
        obtain ⟨-, hfile⟩ := Prod.mk.inj (Except.ok.inj hup)
        cases above' with
        | nil => cases hfile
        | cons parent others =>
            obtain ⟨_, entries', rfl⟩ := hparents parent (List.mem_cons_self ..)
            cases hfile
  · exact .inr hblanks

end Node

end MenuHost.Files
