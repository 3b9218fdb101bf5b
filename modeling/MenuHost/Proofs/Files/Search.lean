import MenuHost.Proofs.Files.Confinement

/-!
# The search for a coding of a file

The codings are tried in an order that lists exactly those that are accepted
(`mem_order_iff`). `openIn` is the search along such an order, by recursion on it;
the search that is run follows the weights, and comes to the same
(`openBest_eq`). So what it finds can be told order by order, and there are
five of them.

Where the path ends in a name, the ending for gzip comes off again when the
sibling is missing, and the search goes on where it began. It goes astray when
identity has been tried: then what is dropped is the extension of the file
that was asked for. `found_of_openBest` and `lost_of_openBest` say what is found
and when nothing is, and `GoesAstray` when that happens.
-/

namespace MenuHost

open Http

namespace Http.Coding

/-- A coding is accepted if it is listed with a weight above zero. -/
def Accepts (accepted : List Weighted) (coding : Coding) : Prop :=
  ∃ w ∈ accepted, w.coding = coding ∧ 0 < w.weight

instance (accepted : List Weighted) (coding : Coding) : Decidable (Accepts accepted coding) :=
  inferInstanceAs (Decidable (∃ w ∈ accepted, w.coding = coding ∧ 0 < w.weight))

theorem accepts_of_preferred? {accepted : List Weighted} {coding : Coding}
    (h : preferred? accepted = some coding) : Accepts accepted coding := by
  rw [preferred?] at h
  split at h
  · cases h
  · next first rest hfilter =>
      obtain rfl := Option.some.inj h
      have hmem := foldl_better_mem first rest
      rw [← hfilter] at hmem
      obtain ⟨hw, hweight⟩ := List.mem_filter.mp hmem
      exact ⟨_, hw, rfl, of_decide_eq_true hweight⟩

theorem not_accepts_of_preferred? {accepted : List Weighted} (h : preferred? accepted = none)
    (coding : Coding) : ¬Accepts accepted coding := by
  rintro ⟨w, hw, -, hweight⟩
  rw [preferred?] at h
  split at h
  · next hfilter => exact List.filter_eq_nil_iff.mp hfilter w hw (decide_eq_true hweight)
  · cases h

end Http.Coding

namespace Files.Site

/-! ## What the order lists -/

theorem accepts_without {first coding : Coding} {accepted : List Weighted} :
    Coding.Accepts (without first accepted) coding ↔
      coding ≠ first ∧ Coding.Accepts accepted coding := by
  constructor
  · rintro ⟨w, hw, rfl, hweight⟩
    obtain ⟨hmem, hne⟩ := List.mem_filter.mp hw
    exact ⟨of_decide_eq_true hne, w, hmem, rfl, hweight⟩
  · rintro ⟨hne, w, hw, rfl, hweight⟩
    exact ⟨w, List.mem_filter.mpr ⟨hw, decide_eq_true hne⟩, rfl, hweight⟩

/-- What is tried is what is accepted. -/
theorem mem_order_iff {accepted : List Weighted} {coding : Coding} :
    coding ∈ order accepted ↔ Coding.Accepts accepted coding := by
  induction accepted using order.induct with
  | case1 accepted hnone =>
      rw [order_of_none hnone]
      exact iff_of_false List.not_mem_nil (Coding.not_accepts_of_preferred? hnone coding)
  | case2 accepted first hsome ih =>
      rw [order_of_some hsome, List.mem_cons, ih, accepts_without]
      by_cases hfirst : coding = first
      · subst hfirst
        exact iff_of_true (.inl rfl) (Coding.accepts_of_preferred? hsome)
      · simp [hfirst]

theorem head?_order (accepted : List Weighted) :
    (order accepted).head? = Coding.preferred? accepted := by
  cases hpreferred : Coding.preferred? accepted with
  | none => rw [order_of_none hpreferred, List.head?_nil]
  | some coding => rw [order_of_some hpreferred, List.head?_cons]

/-! ## The search along an order -/

/-- Opens the file in the first coding that is not missing. -/
def openIn (tree : Node) : List Coding → Path → Except WalkError (Opened × Coding)
  | [], path => (tree.openAt path).map fun opened => (opened, .identity)
  | coding :: rest, path =>
    match tree.openAt (codedPath coding path) with
    | .ok opened => .ok (opened, coding)
    | .error .missing => openIn tree rest (dropExtension (codedPath coding path))
    | .error e => .error e

theorem openBest_eq (tree : Node) (accepted : List Weighted) (path : Path) :
    openBest tree accepted path = openIn tree (order accepted) path := by
  induction accepted using order.induct generalizing path with
  | case1 accepted hnone =>
      rw [openBest_of_none hnone, order_of_none hnone, openIn]
  | case2 accepted coding hsome ih =>
      cases hopen : tree.openAt (codedPath coding path) with
      | ok opened => simp only [openBest_of_some hsome, order_of_some hsome, openIn, hopen]
      | error e =>
          cases e <;> simp only [openBest_of_some hsome, order_of_some hsome, openIn, hopen, ih]

section Step

variable {tree : Node} {rest : List Coding} {path : Path} {opened : Opened} {coding : Coding}

theorem openIn_nil_eq_ok_iff : openIn tree [] path = .ok (opened, coding) ↔
    coding = .identity ∧ tree.openAt path = .ok opened := by
  rw [openIn]
  cases tree.openAt path with
  | error e => simp [Except.map]
  | ok found => simp [Except.map, Prod.ext_iff, and_comm, eq_comm]

/-- One coding leads to what it finds, or where nothing is, to what the others find. -/
theorem openIn_cons_eq_ok_iff {first : Coding} :
    openIn tree (first :: rest) path = .ok (opened, coding) ↔
      coding = first ∧ tree.openAt (codedPath first path) = .ok opened
      ∨ tree.openAt (codedPath first path) = .error .missing
        ∧ openIn tree rest (dropExtension (codedPath first path)) = .ok (opened, coding) := by
  rw [openIn]
  cases tree.openAt (codedPath first path) with
  | ok found => simp [Prod.ext_iff, and_comm, eq_comm]
  | error e => cases e <;> simp

/-- Whatever is found stands at one of the paths that are tried. -/
theorem exists_openAt_of_openIn {codings : List Coding}
    (h : openIn tree codings path = .ok (opened, coding)) :
    ∃ q ∈ tried codings path, tree.openAt q = .ok opened := by
  induction codings generalizing path with
  | nil => exact ⟨path, List.mem_singleton_self path, (openIn_nil_eq_ok_iff.mp h).2⟩
  | cons first rest ih =>
      rcases openIn_cons_eq_ok_iff.mp h with ⟨-, hhere⟩ | ⟨-, hopen⟩
      · exact ⟨_, List.mem_cons_self .., hhere⟩
      · obtain ⟨q, hq, hhere⟩ := ih hopen
        exact ⟨q, List.mem_cons_of_mem _ hq, hhere⟩

/-- What is there is found, unless gzip is tried before it. -/
theorem openIn_of_openAt {codings : List Coding} (hhere : tree.openAt path = .ok opened)
    (hfirst : codings.head? ≠ some .gzip) :
    openIn tree codings path = .ok (opened, .identity) := by
  cases codings with
  | nil => exact openIn_nil_eq_ok_iff.mpr ⟨rfl, hhere⟩
  | cons first rest =>
      cases first with
      | gzip => exact absurd rfl hfirst
      | identity => rw [openIn, codedPath_identity, hhere]

end Step

/-! ## What is found -/

def afterIdentity (accepted : List Weighted) : List Coding :=
  ((order accepted).dropWhile (· ≠ .identity)).tail

/-- The search goes astray: identity is tried as a coding, nothing is there, and there
is an extension to be dropped. -/
structure GoesAstray (tree : Node) (accepted : List Weighted) (path : Path) : Prop where
  identity : Coding.Accepts accepted .identity
  missing : tree.openAt path = .error .missing
  sibling : Coding.preferred? accepted = some .gzip →
    tree.openAt (codedPath .gzip path) = .error .missing
  extension : dropExtension path ≠ path

/-- Where that comes from which is found for a path. -/
inductive Found (tree : Node) (accepted : List Weighted) (path : Path) (opened : Opened) :
    Coding → Prop
  /-- It is the file that was asked for. -/
  | named (hhere : tree.openAt path = .ok opened)
      (hsibling : Coding.preferred? accepted = some .gzip →
        tree.openAt (codedPath .gzip path) = .error .missing) :
      Found tree accepted path opened .identity
  /-- It is the compressed sibling. -/
  | sibling (hgzip : Coding.Accepts accepted .gzip)
      (hhere : tree.openAt (codedPath .gzip path) = .ok opened) :
      Found tree accepted path opened .gzip
  /-- It is something else. -/
  | stem {coding : Coding} {q : Path} (hastray : GoesAstray tree accepted path)
      (hq : q ∈ tried (afterIdentity accepted) (dropExtension path))
      (hhere : tree.openAt q = .ok opened) :
      Found tree accepted path opened coding

section Name

variable {tree : Node} {accepted : List Weighted} {path : Path} {opened : Opened} {coding : Coding}

/-- What is found from where identity is tried. -/
theorem found_of_identity {rest : List Coding}
    (hback : dropExtension (codedPath .gzip path) = path)
    (hidentity : Coding.Accepts accepted .identity)
    (hsibling : Coding.preferred? accepted = some .gzip →
      tree.openAt (codedPath .gzip path) = .error .missing)
    (hafter : afterIdentity accepted = rest)
    (hrest : rest = [] ∨ rest = [.gzip] ∧ Coding.Accepts accepted .gzip)
    (h : openIn tree (.identity :: rest) path = .ok (opened, coding)) :
    Found tree accepted path opened coding := by
  rcases openIn_cons_eq_ok_iff.mp h with ⟨rfl, hhere⟩ | ⟨hmissing, hopen⟩
  · exact .named hhere hsibling
  · rw [codedPath_identity] at hmissing hopen
    by_cases hextension : dropExtension path = path
    · -- the name has no extension, so that nothing is dropped
      rw [hextension] at hopen
      rcases hrest with rfl | ⟨rfl, hgzip⟩
      · rw [(openIn_nil_eq_ok_iff.mp hopen).2] at hmissing
        cases hmissing
      · rcases openIn_cons_eq_ok_iff.mp hopen with ⟨rfl, hhere⟩ | ⟨-, hlast⟩
        · exact .sibling hgzip hhere
        · rw [hback] at hlast
          rw [(openIn_nil_eq_ok_iff.mp hlast).2] at hmissing
          cases hmissing
    · obtain ⟨q, hq, hhere⟩ := exists_openAt_of_openIn hopen
      exact .stem ⟨hidentity, hmissing, hsibling, hextension⟩ (hafter ▸ hq) hhere

/-- What is found from where gzip is tried: where the sibling is missing, the search goes
on from the file itself. -/
theorem found_of_gzip {rest : List Coding}
    (hback : dropExtension (codedPath .gzip path) = path)
    (hgzip : Coding.Accepts accepted .gzip)
    (hrest : tree.openAt (codedPath .gzip path) = .error .missing →
      openIn tree rest path = .ok (opened, coding) → Found tree accepted path opened coding)
    (h : openIn tree (.gzip :: rest) path = .ok (opened, coding)) :
    Found tree accepted path opened coding := by
  rcases openIn_cons_eq_ok_iff.mp h with ⟨rfl, hhere⟩ | ⟨hmissing, hopen⟩
  · exact .sibling hgzip hhere
  · exact hrest hmissing (hback ▸ hopen)

/-- **What is found.** It is the file that was asked for or its sibling, unless the
search goes astray. -/
theorem found_of_openBest (hback : dropExtension (codedPath .gzip path) = path)
    (h : openBest tree accepted path = .ok (opened, coding)) :
    Found tree accepted path opened coding := by
  rw [openBest_eq] at h
  have hhead := head?_order accepted
  have hmem : ∀ {c}, c ∈ order accepted → Coding.Accepts accepted c := mem_order_iff.mp
  have hafter : afterIdentity accepted = ((order accepted).dropWhile (· ≠ .identity)).tail := rfl
  have horders := order_mem_orders accepted
  generalize order accepted = codings at h hhead hmem hafter horders
  have hfirst : codings.head? ≠ some .gzip → Coding.preferred? accepted = some .gzip →
      tree.openAt (codedPath .gzip path) = .error .missing := fun hne hgzip =>
    absurd (hhead.trans hgzip) hne
  simp only [orders, List.mem_cons, List.not_mem_nil, or_false] at horders
  rcases horders with rfl | rfl | rfl | rfl | rfl
  · obtain ⟨rfl, hhere⟩ := openIn_nil_eq_ok_iff.mp h
    exact .named hhere (hfirst (by decide))
  · refine found_of_gzip hback (hmem (by decide)) (fun hmissing hrest => ?_) h
    obtain ⟨rfl, hhere⟩ := openIn_nil_eq_ok_iff.mp hrest
    exact .named hhere fun _ => hmissing
  · exact found_of_identity hback (hmem (by decide)) (hfirst (by decide)) hafter (.inl rfl) h
  · exact found_of_gzip hback (hmem (by decide)) (fun hmissing hrest =>
      found_of_identity hback (hmem (by decide)) (fun _ => hmissing) hafter (.inl rfl) hrest) h
  · exact found_of_identity hback (hmem (by decide)) (hfirst (by decide)) hafter
      (.inr ⟨rfl, hmem (by decide)⟩) h

/-- Where gzip is preferred and there is a sibling, something is found. -/
theorem lost_sibling {e : WalkError} (h : openBest tree accepted path = .error e)
    (hgzip : Coding.preferred? accepted = some .gzip) :
    tree.openAt (codedPath .gzip path) ≠ .ok opened := by
  intro hhere
  rw [openBest_of_some hgzip, hhere] at h
  cases h

/-- **When nothing is found.** If the file itself is there, then gzip is preferred, and
something other than its absence is wrong with the sibling. -/
theorem lost_of_openBest {e : WalkError} (hback : dropExtension (codedPath .gzip path) = path)
    (h : openBest tree accepted path = .error e) (hhere : tree.openAt path = .ok opened) :
    Coding.preferred? accepted = some .gzip
      ∧ tree.openAt (codedPath .gzip path) ≠ .error .missing := by
  rw [openBest_eq] at h
  rw [← head?_order]
  by_cases hfirst : (order accepted).head? = some .gzip
  · refine ⟨hfirst, fun hmissing => ?_⟩
    obtain ⟨rest, hrest⟩ := List.head?_eq_some_iff.mp hfirst
    have hsecond : rest.head? ≠ some .gzip := by
      intro hsecond
      obtain ⟨others, rfl⟩ := List.head?_eq_some_iff.mp hsecond
      have htwice := nodup_order accepted
      rw [hrest] at htwice
      exact (List.nodup_cons.mp htwice).1 (List.mem_cons_self ..)
    rw [hrest, openIn, hmissing] at h
    dsimp only at h
    rw [hback, openIn_of_openAt hhere hsecond] at h
    cases h
  · rw [openIn_of_openAt hhere hfirst] at h
    cases h

end Name

end Files.Site

end MenuHost
