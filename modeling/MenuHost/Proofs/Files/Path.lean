import MenuHost.Files.Serve

/-!
# Last names of paths

Where the codings of a file are kept is found by changing the last name
of its path, and the last name is not always the last component: blank
ones after it are passed over. A path therefore has one of three shapes,
by what stands before its trailing blanks (`Path.cases`): a name, a step up, or
nothing at all. Each function on last names is given by one equation for
each shape.

A name loses its ending again when its extension is dropped
(`stem_append_gzipEnding`). But dropping the extension of a name may leave a
dot or two, which are no names (`isName_stem`).
-/

namespace MenuHost.Files

open MenuHost.Http

/-! ## Names -/

/-- A component that goes down. -/
def IsName (name : String) : Prop :=
  isBlankName name = false ∧ name ≠ ".."

theorem isBlankName_iff {name : String} : isBlankName name = true ↔ name = "" ∨ name = "." := by
  simp [isBlankName]

theorem isName_iff {name : String} : IsName name ↔ name ≠ "" ∧ name ≠ "." ∧ name ≠ ".." := by
  rw [IsName, ← Bool.not_eq_true, isBlankName_iff, not_or, and_assoc]

theorem isBlankName_up : isBlankName ".." = false := by decide

def AllBlank (path : Path) : Prop := ∀ name ∈ path, isBlankName name = true

theorem allBlank_nil : AllBlank [] := fun _ h => by cases h

theorem allBlank_dot : AllBlank ["."] := fun _ h => by
  rw [List.mem_singleton.mp h]
  rfl

theorem AllBlank.append {path more : Path} (hpath : AllBlank path) (hmore : AllBlank more) :
    AllBlank (path ++ more) := fun name hname =>
  (List.mem_append.mp hname).elim (hpath name) (hmore name)

/-- What stands before the blanks at the end of a path. -/
theorem Path.cases (path : Path) :
    (∃ above name blanks, path = above ++ name :: blanks ∧ IsName name ∧ AllBlank blanks)
      ∨ (∃ above blanks, path = above ++ ".." :: blanks ∧ AllBlank blanks)
      ∨ AllBlank path := by
  induction path with
  | nil => exact .inr (.inr fun name hname => by cases hname)
  | cons first rest ih =>
      rcases ih with ⟨above, name, blanks, rfl, hname, hblanks⟩ | ⟨above, blanks, rfl, hblanks⟩
        | hblanks
      · exact .inl ⟨first :: above, name, blanks, rfl, hname, hblanks⟩
      · exact .inr (.inl ⟨first :: above, blanks, rfl, hblanks⟩)
      · by_cases hblank : isBlankName first = true
        · exact .inr (.inr (List.forall_mem_cons.mpr ⟨hblank, hblanks⟩))
        · by_cases hup : first = ".."
          · exact .inr (.inl ⟨[], rest, by rw [hup]; rfl, hblanks⟩)
          · exact .inl ⟨[], first, rest, rfl, ⟨Bool.not_eq_true _ ▸ hblank, hup⟩, hblanks⟩

/-! ## Changing the last name -/

section Shapes

variable {f : String → String} {path above blanks : Path} {name : String}

theorem dropWhile_reverse_append (hname : isBlankName name = false) (hblanks : AllBlank blanks) :
    (above ++ name :: blanks).reverse.dropWhile isBlankName = name :: above.reverse := by
  have hreverse : (above ++ name :: blanks).reverse
      = blanks.reverse ++ name :: above.reverse := by simp
  have hpass : ∀ b ∈ blanks.reverse, isBlankName b = true := fun b hb =>
    hblanks b (List.mem_reverse.mp hb)
  have hstop : ¬isBlankName name = true := by simp [hname]
  rw [hreverse, List.dropWhile_append_of_pos hpass, List.dropWhile_cons_of_neg hstop]

theorem dropWhile_reverse_blanks (hpath : AllBlank path) :
    path.reverse.dropWhile isBlankName = [] := by
  have hpass : ∀ b ∈ path.reverse, isBlankName b = true := fun b hb =>
    hpath b (List.mem_reverse.mp hb)
  rw [← List.append_nil path.reverse, List.dropWhile_append_of_pos hpass, List.dropWhile_nil]

theorem mapLastName_name (hname : IsName name) (hblanks : AllBlank blanks) :
    mapLastName f (above ++ name :: blanks) = above ++ [f name] := by
  rw [mapLastName, dropWhile_reverse_append hname.1 hblanks]
  simp [hname.2]

theorem mapLastName_blanks (hpath : AllBlank path) : mapLastName f path = path := by
  rw [mapLastName, dropWhile_reverse_blanks hpath]

theorem dropExtension_name (hname : IsName name) (hblanks : AllBlank blanks) :
    Site.dropExtension (above ++ name :: blanks) = above ++ [(splitExtension name).1] :=
  mapLastName_name hname hblanks

theorem codedPath_identity : Site.codedPath .identity path = path := rfl

theorem codedPath_gzip_name (hname : IsName name) (hblanks : AllBlank blanks) :
    Site.codedPath .gzip (above ++ name :: blanks) = above ++ [name ++ Site.gzipEnding] := by
  have hup : endsUp (above ++ name :: blanks) = false := by
    rw [endsUp, dropWhile_reverse_append hname.1 hblanks]
    simpa using hname.2
  rw [Site.codedPath, hup]
  exact mapLastName_name hname hblanks

theorem codedPath_gzip_up (hblanks : AllBlank blanks) :
    Site.codedPath .gzip (above ++ ".." :: blanks) =
      above ++ ".." :: blanks ++ [Site.gzipEnding] := by
  have hup : endsUp (above ++ ".." :: blanks) = true := by
    rw [endsUp, dropWhile_reverse_append isBlankName_up hblanks]
    rfl
  rw [Site.codedPath, hup]
  rfl

theorem codedPath_gzip_blanks (hpath : AllBlank path) : Site.codedPath .gzip path = path := by
  have hup : endsUp path = false := by
    rw [endsUp, dropWhile_reverse_blanks hpath]
    rfl
  rw [Site.codedPath, hup]
  exact mapLastName_blanks hpath

end Shapes

/-! ## Extensions -/

theorem stem_append_gzipEnding {name : String} (h : name ≠ "") :
    (splitExtension (name ++ Site.gzipEnding)).1 = name := by
  have hcs : name.toList.reverse ≠ [] := fun hnil =>
    h (String.toList_eq_nil_iff.mp (List.reverse_eq_nil_iff.mp hnil))
  obtain ⟨c, rest, hrest⟩ := List.exists_cons_of_ne_nil hcs
  have hreverse : (name ++ Site.gzipEnding).toList.reverse = 'z' :: 'g' :: '.' :: c :: rest := by
    rw [String.toList_append, List.reverse_append, hrest]
    rfl
  have hdrop : ('z' :: 'g' :: '.' :: c :: rest).dropWhile (· != '.') = '.' :: c :: rest := rfl
  simp only [splitExtension, hreverse, hdrop]
  rw [← hrest, List.reverse_reverse, String.ofList_toList]

theorem stem_ne_empty {name : String} (h : name ≠ "") : (splitExtension name).1 ≠ "" := by
  unfold splitExtension
  dsimp only
  split
  · intro hnil
    have hlist := congrArg String.toList hnil
    simp at hlist
  · exact h

/-- Without its extension a name is still a name, unless only dots are left. -/
theorem isName_stem {name : String} (h : IsName name) :
    IsName (splitExtension name).1 ∨ (splitExtension name).1 = "."
      ∨ (splitExtension name).1 = ".." := by
  have hne := stem_ne_empty (isName_iff.mp h).1
  rw [isName_iff]
  by_cases hdot : (splitExtension name).1 = "."
  · exact .inr (.inl hdot)
  · by_cases hup : (splitExtension name).1 = ".."
    · exact .inr (.inr hup)
    · exact .inl ⟨hne, hdot, hup⟩

theorem isName_append_gzipEnding {name : String} : IsName (name ++ Site.gzipEnding) := by
  have hne : ∀ short : String, short.length < 3 → name ++ Site.gzipEnding ≠ short := by
    rintro _ hshort rfl
    rw [String.length_append] at hshort
    have hending : Site.gzipEnding.length = 3 := rfl
    omega
  exact isName_iff.mpr ⟨hne "" (by decide), hne "." (by decide), hne ".." (by decide)⟩

/-! ## The ending for gzip, put on and taken off -/

section Gzip

variable {above blanks : Path} {name : String}

theorem dropExtension_codedPath_name (hname : IsName name) (hblanks : AllBlank blanks) :
    Site.dropExtension (Site.codedPath .gzip (above ++ name :: blanks)) = above ++ [name] := by
  rw [codedPath_gzip_name hname hblanks, dropExtension_name isName_append_gzipEnding allBlank_nil,
    stem_append_gzipEnding (isName_iff.mp hname).1]

theorem isName_gzipEnding : IsName Site.gzipEnding := ⟨by decide, by decide⟩

/-- Where the ending is a name of its own it is not taken off. -/
theorem dropExtension_append_gzipEnding :
    Site.dropExtension (above ++ [Site.gzipEnding]) = above ++ [Site.gzipEnding] := by
  have hstem : (splitExtension Site.gzipEnding).1 = Site.gzipEnding := by decide
  rw [dropExtension_name isName_gzipEnding allBlank_nil, hstem]

end Gzip

end MenuHost.Files
