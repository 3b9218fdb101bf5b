import MenuHost.Proofs.Password.Fields

/-!
# The grammar of password records

`Record.parse` is the inverse of writing: `Record.text` puts dollar signs
in front of the fields that a record has, and a text is read as a record
exactly if the record is well-formed and the text is what is written for
it (`parse_eq_ok_iff`). So a record has one text, and a text at most one
record.

Two of the fields are told apart by how they look, and one of them may be
missing: a first field is the version if it is `v=` and no list, and else
the parameters if it holds an equals sign. The salt can be mistaken for
neither. A single parameter called `v` without a version in front of it
would be read as the version, and this is the one exception among
otherwise independent fields (`Record.WellFormed.apart`).
-/

namespace MenuHost.Password

/-! ## Records as written -/

def versionText (n : Nat) : List Char :=
  'v' :: '=' :: Nat.toDigits 10 n

/-- The parameter field, which is left out if there are no parameters. -/
def parameterFields (ps : List (List Char × List Char)) : List (List Char) :=
  if ps = [] then [] else [parametersText ps]

def Record.tail (r : Record) : List (List Char) :=
  r.salt.toList ++ r.output.toList.map Base64.standard.encode

def Record.fields (r : Record) : List (List Char) :=
  r.algorithm :: (r.version.toList.map versionText ++ (parameterFields r.parameters ++ r.tail))

/-- A record as written, each field after a dollar sign. -/
def Record.text (r : Record) : String :=
  String.ofList (['$'].intercalate ([] :: r.fields))

/-- What the fields of a record must be for the record to have a text. -/
structure Record.WellFormed (r : Record) : Prop where
  algorithm : IsName r.algorithm
  version : ∀ n, r.version = some n → n < decimalLimit
  parameters : ∀ p ∈ r.parameters, IsParameter p
  size : (parametersText r.parameters).length ≤ 127
  apart : r.version = none → ∀ value, r.parameters ≠ [(['v'], value)]
  salt : ∀ cs, r.salt = some cs → IsSalt cs
  output : ∀ bytes, r.output = some bytes → IsOutput bytes
  order : r.salt = none → r.output = none

/-! ## The tail -/

theorem readTail_eq_ok_iff {fields : List (List Char)} {salt : Option (List Char)}
    {output : Option (List UInt8)} :
    readTail fields = .ok (salt, output) ↔
      (∀ cs, salt = some cs → IsSalt cs) ∧ (∀ bytes, output = some bytes → IsOutput bytes)
        ∧ (salt = none → output = none)
        ∧ fields = salt.toList ++ output.toList.map Base64.standard.encode := by
  constructor
  · intro h
    match fields with
    | [] =>
        cases h
        exact ⟨nofun, nofun, fun _ => rfl, rfl⟩
    | [cs] =>
        obtain ⟨_, hleft, h⟩ := bind_eq_ok_iff.mp h
        cases h
        obtain ⟨hsalt, rfl⟩ := readSalt_eq_ok_iff.mp hleft
        exact ⟨fun _ hcs => Option.some.inj hcs ▸ hsalt, nofun, nofun, rfl⟩
    | [cs, digits] =>
        obtain ⟨_, hleft, h⟩ := bind_eq_ok_iff.mp h
        obtain ⟨bytes, hright, h⟩ := bind_eq_ok_iff.mp h
        cases h
        obtain ⟨hsalt, rfl⟩ := readSalt_eq_ok_iff.mp hleft
        obtain ⟨rfl, houtput⟩ := readOutput_eq_ok_iff.mp hright
        exact ⟨fun _ hcs => Option.some.inj hcs ▸ hsalt,
          fun _ hbytes => Option.some.inj hbytes ▸ houtput, nofun, rfl⟩
    | _ :: _ :: _ :: _ =>
        obtain ⟨_, -, h⟩ := bind_eq_ok_iff.mp h
        obtain ⟨_, -, h⟩ := bind_eq_ok_iff.mp h
        cases h
  · rintro ⟨hsalt, houtput, horder, rfl⟩
    cases salt with
    | none =>
        rw [horder rfl]
        rfl
    | some cs =>
        have hread := readSalt_eq_ok_iff.mpr ⟨hsalt cs rfl, rfl⟩
        cases output with
        | none => exact bind_eq_ok_iff.mpr ⟨_, hread, rfl⟩
        | some bytes =>
            exact bind_eq_ok_iff.mpr ⟨_, hread,
              bind_eq_ok_iff.mpr ⟨_, readOutput_eq_ok_iff.mpr ⟨rfl, houtput bytes rfl⟩, rfl⟩⟩

/-! ## Version and parameters -/

theorem versionField?_eq_some_iff {field digits : List Char} :
    versionField? field = some digits ↔ field = 'v' :: '=' :: digits ∧ ',' ∉ digits := by
  unfold versionField?
  split
  · next rest =>
      split
      · next hcomma =>
          constructor
          · exact nofun
          · rintro ⟨hfield, hdigits⟩
            cases hfield
            exact absurd hcomma hdigits
      · next hcomma =>
          constructor
          · intro h
            cases h
            exact ⟨rfl, hcomma⟩
          · rintro ⟨hfield, -⟩
            cases hfield
            rfl
  · next hother =>
      constructor
      · exact nofun
      · rintro ⟨hfield, -⟩
        exact absurd hfield (hother digits)

/-- The version is read if the first field is one; a field that looks like one
is not passed over. -/
theorem readVersion_eq_ok_iff {fields rest : List (List Char)} {version : Option Nat} :
    readVersion fields = .ok (version, rest) ↔
      (∀ n, version = some n → n < decimalLimit)
        ∧ fields = version.toList.map versionText ++ rest
        ∧ (version = none → ∀ field, rest.head? = some field → versionField? field = none) := by
  constructor
  · intro h
    cases fields with
    | nil =>
        cases h
        exact ⟨nofun, rfl, fun _ => nofun⟩
    | cons field fields =>
        unfold readVersion at h
        cases hfield : versionField? field with
        | none =>
            simp only [hfield] at h
            cases h
            exact ⟨nofun, rfl, fun _ first hfirst => Option.some.inj hfirst ▸ hfield⟩
        | some digits =>
            simp only [hfield] at h
            obtain ⟨value, hvalue, h⟩ := bind_eq_ok_iff.mp h
            obtain ⟨n, hn, h⟩ := bind_eq_ok_iff.mp h
            cases h
            obtain ⟨-, rfl⟩ := readValue_eq_ok_iff.mp hvalue
            obtain ⟨rfl, hlimit⟩ := readDecimal_eq_ok_iff.mp hn
            rw [(versionField?_eq_some_iff.mp hfield).1]
            exact ⟨fun m hm => Option.some.inj hm ▸ hlimit, rfl, nofun⟩
  · rintro ⟨hlimit, rfl, hrest⟩
    cases version with
    | none =>
        cases rest with
        | nil => rfl
        | cons field rest =>
            have hfield := hrest rfl field rfl
            simp [readVersion, hfield]
    | some n =>
        have hvalue := isValue_toDigits (hlimit n rfl)
        have hfield : versionField? (versionText n) = some (Nat.toDigits 10 n) :=
          versionField?_eq_some_iff.mpr ⟨rfl, hvalue.notMem.2.2⟩
        have hread := readValue_eq_ok_iff.mpr ⟨hvalue, rfl⟩
        have hdecimal := readDecimal_eq_ok_iff.mpr ⟨rfl, hlimit n rfl⟩
        simp only [Option.toList_some, List.map_cons, List.map_nil, List.singleton_append,
          readVersion, hfield]
        exact bind_eq_ok_iff.mpr ⟨_, hread, bind_eq_ok_iff.mpr ⟨n, hdecimal, rfl⟩⟩

theorem mem_parametersText {ps : List (List Char × List Char)} (h : ps ≠ []) :
    '=' ∈ parametersText ps := by
  obtain ⟨p, rest, rfl⟩ := List.exists_cons_of_ne_nil h
  cases rest with
  | nil => simp [parametersText, parameterText]
  | cons q rest => simp [parametersText, parameterText, List.intercalate_cons_cons]

/-- The parameters are read if the first field holds an equals sign. -/
theorem readParameterField_eq_ok_iff {fields rest : List (List Char)}
    {ps : List (List Char × List Char)} :
    readParameterField fields = .ok (ps, rest) ↔
      (∀ p ∈ ps, IsParameter p) ∧ (parametersText ps).length ≤ 127
        ∧ fields = parameterFields ps ++ rest
        ∧ (ps = [] → ∀ field, rest.head? = some field → '=' ∉ field) := by
  constructor
  · intro h
    cases fields with
    | nil =>
        cases h
        exact ⟨nofun, Nat.zero_le _, rfl, fun _ => nofun⟩
    | cons field fields =>
        unfold readParameterField at h
        by_cases hfield : '=' ∈ field
        · simp only [if_pos hfield] at h
          obtain ⟨_, hread, h⟩ := bind_eq_ok_iff.mp h
          cases h
          obtain ⟨hne, hparameters, hmost, rfl⟩ := readParameters_eq_ok_iff.mp hread
          refine ⟨hparameters, hmost, ?_, fun hnil => absurd hnil hne⟩
          rw [parameterFields, if_neg hne]
          rfl
        · simp only [if_neg hfield] at h
          cases h
          exact ⟨nofun, Nat.zero_le _, rfl, fun _ first hfirst => Option.some.inj hfirst ▸ hfield⟩
  · rintro ⟨hparameters, hmost, rfl, hrest⟩
    by_cases hne : ps = []
    · subst hne
      rw [parameterFields, if_pos rfl, List.nil_append]
      cases rest with
      | nil => rfl
      | cons field rest => rw [readParameterField, if_neg (hrest rfl field rfl)]
    · rw [parameterFields, if_neg hne, List.singleton_append, readParameterField,
        if_pos (mem_parametersText hne)]
      exact bind_eq_ok_iff.mpr
        ⟨_, readParameters_eq_ok_iff.mpr ⟨hne, hparameters, hmost, rfl⟩, rfl⟩

theorem versionField?_parametersText_v {value : List Char} (h : IsValue value) :
    versionField? (parametersText [(['v'], value)]) = some value := by
  rw [parametersText, List.map_singleton, List.intercalate_singleton]
  exact versionField?_eq_some_iff.mpr ⟨rfl, h.notMem.2.2⟩

/-- No other parameters can be mistaken for a version. -/
theorem versionField?_parametersText {ps : List (List Char × List Char)}
    (h : ∀ p ∈ ps, IsParameter p) (hapart : ∀ value, ps ≠ [(['v'], value)]) :
    versionField? (parametersText ps) = none := by
  refine Option.eq_none_iff_forall_ne_some.mpr fun digits hdigits => ?_
  obtain ⟨htext, hcomma⟩ := versionField?_eq_some_iff.mp hdigits
  rcases ps with _ | ⟨⟨name, value⟩, _ | ⟨next, rest⟩⟩
  · cases htext
  · have hname := (h _ (List.mem_singleton_self _)).1
    rw [parametersText, List.map_singleton, List.intercalate_singleton, parameterText] at htext
    rcases name with _ | ⟨c, _ | ⟨d, name⟩⟩
    · exact absurd hname.least (by simp)
    · cases htext
      exact hapart _ rfl
    · cases htext
      exact hname.isValue.notMem.2.1 (by simp)
  · rw [parametersText, List.map_cons, List.map_cons, List.intercalate_cons_cons] at htext
    have hmem : ',' ∈ 'v' :: '=' :: digits := htext ▸ by simp
    simp [hcomma] at hmem

/-! ## Whole records -/

/-- The first field of a tail is a salt, and looks like no field before it. -/
theorem notMem_head?_tail {r : Record} (h : r.WellFormed) {field : List Char}
    (hfield : r.tail.head? = some field) : '=' ∉ field := by
  unfold Record.tail at hfield
  cases hsalt : r.salt with
  | none => simp [hsalt, h.order hsalt] at hfield
  | some cs =>
      rw [hsalt] at hfield
      obtain rfl := Option.some.inj hfield
      exact (h.salt _ hsalt).toIsValue.notMem.2.1

/-- Where no version is written, none is read. -/
theorem versionField?_head? {r : Record} (h : r.WellFormed) (hversion : r.version = none)
    {field : List Char} (hfield : (parameterFields r.parameters ++ r.tail).head? = some field) :
    versionField? field = none := by
  by_cases hps : r.parameters = []
  · rw [parameterFields, if_pos hps, List.nil_append] at hfield
    refine Option.eq_none_iff_forall_ne_some.mpr fun digits hdigits => ?_
    rw [(versionField?_eq_some_iff.mp hdigits).1] at hfield
    exact notMem_head?_tail h hfield (by simp)
  · rw [parameterFields, if_neg hps, List.singleton_append] at hfield
    rw [← Option.some.inj hfield]
    exact versionField?_parametersText h.parameters (h.apart hversion)

theorem notMem_fields {r : Record} (h : r.WellFormed) : ∀ field ∈ r.fields, '$' ∉ field := by
  intro field hfield
  simp only [Record.fields, Record.tail, List.mem_cons, List.mem_append, List.mem_map,
    Option.mem_toList] at hfield
  rcases hfield with rfl | ⟨n, hn, rfl⟩ | hfield | hsalt | ⟨bytes, -, rfl⟩
  · exact h.algorithm.isValue.notMem.1
  · simp [versionText, (isValue_toDigits (h.version n hn)).notMem.1]
  · unfold parameterFields at hfield
    split at hfield
    · cases hfield
    · obtain rfl := List.mem_singleton.mp hfield
      exact fun hc => (parametersText_spec h.parameters _ hc).2 rfl
  · exact (h.salt field hsalt).toIsValue.notMem.1
  · exact fun hc => (digit_spec hc).2.2 rfl

/-- A text is read as a record exactly if the record is well-formed and the text is
what is written for it. -/
theorem parse_eq_ok_iff {text : String} {r : Record} :
    Record.parse text = .ok r ↔ r.WellFormed ∧ text = r.text := by
  constructor
  · intro h
    unfold Record.parse at h
    split at h
    · next algorithm fields hsplit =>
        obtain ⟨_, hname, h⟩ := bind_eq_ok_iff.mp h
        obtain ⟨⟨version, rest⟩, hfirst, h⟩ := bind_eq_ok_iff.mp h
        obtain ⟨⟨parameters, tail⟩, hsecond, h⟩ := bind_eq_ok_iff.mp h
        obtain ⟨⟨salt, output⟩, htail, h⟩ := bind_eq_ok_iff.mp h
        cases h
        -- every field is what is written for what was read from it
        obtain ⟨halgorithm, rfl⟩ := readName_eq_ok_iff.mp hname
        obtain ⟨hlimit, rfl, hnone⟩ := readVersion_eq_ok_iff.mp hfirst
        obtain ⟨hparameters, hmost, rfl, -⟩ := readParameterField_eq_ok_iff.mp hsecond
        obtain ⟨hsalt, houtput, horder, rfl⟩ := readTail_eq_ok_iff.mp htail
        have hapart : version = none → ∀ value, parameters ≠ [(['v'], value)] := by
          rintro hversion value rfl
          have hvalue := (hparameters _ (List.mem_singleton_self _)).2
          have hfield := hnone hversion _ rfl
          rw [versionField?_parametersText_v hvalue] at hfield
          cases hfield
        refine ⟨⟨halgorithm, hlimit, hparameters, hmost, hapart, hsalt, houtput, horder⟩, ?_⟩
        refine String.toList_injective ((Text.splitOn_eq_cons_iff.mp hsplit).2.trans ?_)
        exact String.toList_ofList.symm
    · cases h
  · rintro ⟨h, rfl⟩
    have hsplit : r.text.toList.splitOn '$' = [] :: r.fields := by
      rw [Record.text, String.toList_ofList]
      exact List.splitOn_intercalate '$'
        (List.forall_mem_cons.mpr ⟨List.not_mem_nil, notMem_fields h⟩) (List.cons_ne_nil _ _)
    rw [Record.parse, hsplit, Record.fields]
    refine bind_eq_ok_iff.mpr ⟨_, readName_eq_ok_iff.mpr ⟨h.algorithm, rfl⟩, ?_⟩
    refine bind_eq_ok_iff.mpr ⟨_, readVersion_eq_ok_iff.mpr
      ⟨h.version, rfl, fun hversion _ => versionField?_head? h hversion⟩, ?_⟩
    refine bind_eq_ok_iff.mpr ⟨_, readParameterField_eq_ok_iff.mpr
      ⟨h.parameters, h.size, rfl, fun _ _ => notMem_head?_tail h⟩, ?_⟩
    exact bind_eq_ok_iff.mpr
      ⟨_, readTail_eq_ok_iff.mpr ⟨h.salt, h.output, h.order, rfl⟩, rfl⟩

end MenuHost.Password
