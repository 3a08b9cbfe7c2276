import StyledCode.Toml.Reader

/-!
# The keys of a document

A line of a document adds a key, or nothing but a header, and no later line takes it away.

* `Entries.Holds` : a path of names leads to a value
* `Entries.alter_cons` : what a change of a table inside a table comes to
* `Document.perform_keeps` : a line keeps every path, and adds those that it writes
* `Document.holds_of_writes` : a document holds whatever its lines write
-/

namespace StyledCode.Toml

/-- The tables that a value consists of. -/
def Value.tablesOf : Value → List Entries
  | .table _ entries => [entries]
  | .tables reversed => reversed
  | _ => []

/-- A path of names leads to a value, through tables or through one of those that share a header. -/
def Entries.Holds : Entries → List String → Prop
  | _, [] => True
  | entries, name :: path =>
    ∃ value, entries.find? name = some value ∧ (path = [] ∨ ∃ inner ∈ value.tablesOf, Entries.Holds inner path)

/-- A path of names leads to a value inside another one. -/
def Value.Holds (value : Value) (path : List String) : Prop :=
  path = [] ∨ ∃ inner ∈ value.tablesOf, Entries.Holds inner path

namespace Entries

/-- Every path of some entries is one of others. -/
def Grows (before after : Entries) : Prop := ∀ path, before.Holds path → after.Holds path

theorem find?_put (entries : Entries) (name other : String) (value : Value) :
    (entries.put name value).find? other = if other = name then some value else entries.find? other := by
  induction entries with
  | nil =>
    rw [put, find?, List.lookup_cons]
    by_cases h : other = name
    · simp [h]
    · simp [h, beq_eq_false_iff_ne.2 h, find?]
  | cons entry entries ih =>
    obtain ⟨first, old⟩ := entry
    unfold find? at ih ⊢
    by_cases hname : first = name
    · rw [put, if_pos (beq_iff_eq.2 hname), List.lookup_cons, List.lookup_cons, hname]
      by_cases h : other = name
      · simp [h]
      · simp [h, beq_eq_false_iff_ne.2 h]
    · rw [put, if_neg (mt beq_iff_eq.1 hname), List.lookup_cons, List.lookup_cons, ih]
      by_cases h : other = first
      · simp [h, hname]
      · simp [beq_eq_false_iff_ne.2 h]

/-- A name gets a value that keeps the paths of the one that it had. -/
def Sets (name : String) (value : Value) (before after : Entries) : Prop :=
  after = before.put name value ∧ ∀ old, before.find? name = some old → ∀ path, old.Holds path → value.Holds path

variable {name : String} {value : Value} {before after : Entries}

theorem Sets.grows (h : Sets name value before after) : before.Grows after := by
  obtain ⟨rfl, hold⟩ := h
  intro path hpath
  cases path with
  | nil => trivial
  | cons other path =>
    obtain ⟨found, hfound, hinside⟩ := hpath
    by_cases hother : other = name
    · subst hother
      exact ⟨value, by rw [find?_put, if_pos rfl], hold found hfound path hinside⟩
    · exact ⟨found, by rw [find?_put, if_neg hother, hfound], hinside⟩

theorem Sets.holds (h : Sets name value before after) {path : List String} (hpath : value.Holds path) :
    after.Holds (name :: path) := by
  obtain ⟨rfl, -⟩ := h
  exact ⟨value, by rw [find?_put, if_pos rfl], hpath⟩

/-! ### Changes inside tables -/

variable {byKey : Bool} {change : Standing → Entries → Option Entries} {path : List String} {standing : Standing}

/-- A change at the end of a path changes one of the tables that the first name leads to, and keeps the others. -/
theorem alter_cons (h : alter byKey change (name :: path) standing before = some after) :
    ∃ value standing' inner inner', after = before.put name value ∧
      alter byKey change path standing' inner = some inner' ∧ inner' ∈ value.tablesOf ∧
      ∀ old, before.find? name = some old → ∀ table ∈ old.tablesOf, table = inner ∨ table ∈ value.tablesOf := by
  rw [alter] at h
  -- the first name is new, leads to a table, leads to tables that share a header, or to a plain value
  split at h
  · rename_i hnone
    simp only [Option.bind_eq_bind, Option.bind_eq_some_iff, Option.pure_def, Option.some.injEq] at h
    obtain ⟨inner', hinner, rfl⟩ := h
    refine ⟨_, _, _, inner', rfl, hinner, List.mem_singleton_self _, fun old hold => ?_⟩
    rw [hnone] at hold
    contradiction
  · rename_i inner htable
    split at h
    · contradiction
    · simp only [Option.bind_eq_bind, Option.bind_eq_some_iff, Option.pure_def, Option.some.injEq] at h
      obtain ⟨inner', hinner, rfl⟩ := h
      refine ⟨_, _, inner, inner', rfl, hinner, List.mem_singleton_self _, fun old hold table hmem => ?_⟩
      obtain rfl := Option.some.inj (htable.symm.trans hold)
      exact .inl (List.mem_singleton.1 hmem)
  · rename_i last earlier htables
    simp only [Option.bind_eq_bind, Option.bind_eq_some_iff, Option.pure_def, Option.some.injEq] at h
    obtain ⟨inner', hinner, rfl⟩ := h
    refine ⟨_, _, last, inner', rfl, hinner, List.mem_cons_self, fun old hold table hmem => ?_⟩
    obtain rfl := Option.some.inj (htables.symm.trans hold)
    exact (List.mem_cons.1 hmem).imp_right (List.mem_cons_of_mem _)
  · contradiction

theorem grows_of_alter
    (hchange : ∀ standing before after, change standing before = some after → before.Grows after)
    (h : alter byKey change path standing before = some after) : before.Grows after := by
  induction path generalizing standing before after with
  | nil => exact hchange _ _ _ h
  | cons name path ih =>
    obtain ⟨value, standing', inner, inner', hafter, hinner, hmem, hkept⟩ := alter_cons h
    -- a path of the old value goes through the table that is changed, or through one that stays
    refine Sets.grows ⟨hafter, fun old hold inside hinside => ?_⟩
    rcases hinside with rfl | ⟨table, htable, hinside⟩
    · exact .inl rfl
    · rcases hkept old hold table htable with rfl | hvalue
      · exact .inr ⟨inner', hmem, ih hinner inside hinside⟩
      · exact .inr ⟨table, hvalue, hinside⟩

theorem holds_of_alter {inside : List String}
    (hchange : ∀ standing before after, change standing before = some after → after.Holds inside)
    (h : alter byKey change path standing before = some after) : after.Holds (path ++ inside) := by
  induction path generalizing standing before after with
  | nil => exact hchange _ _ _ h
  | cons name path ih =>
    obtain ⟨value, standing', inner, inner', rfl, hinner, hmem, -⟩ := alter_cons h
    exact ⟨value, by rw [find?_put, if_pos rfl], .inr ⟨inner', hmem, ih hinner⟩⟩

/-! ### What a line changes -/

private theorem sets_of_define? (h : define? name value before = some after) : Sets name value before after := by
  rw [define?] at h
  split at h
  · rename_i hnone
    rw [Option.isNone_iff_eq_none] at hnone
    refine ⟨(Option.some.inj h).symm, fun old hold => ?_⟩
    rw [hnone] at hold
    contradiction
  · contradiction

private theorem sets_of_declareTable (h : declareTable name standing before = some after) :
    ∃ value, Sets name value before after := by
  rw [declareTable] at h
  split at h
  · rename_i hnone
    refine ⟨_, (Option.some.inj h).symm, fun old hold => ?_⟩
    rw [hnone] at hold
    contradiction
  · rename_i inner himplied
    refine ⟨_, (Option.some.inj h).symm, fun old hold path hpath => ?_⟩
    obtain rfl := Option.some.inj (himplied.symm.trans hold)
    exact hpath
  · contradiction

private theorem sets_of_appendTable (h : appendTable name standing before = some after) :
    ∃ value, Sets name value before after := by
  rw [appendTable] at h
  split at h
  · rename_i hnone
    refine ⟨_, (Option.some.inj h).symm, fun old hold => ?_⟩
    rw [hnone] at hold
    contradiction
  · rename_i reversed htables
    refine ⟨_, (Option.some.inj h).symm, fun old hold path hpath => ?_⟩
    obtain rfl := Option.some.inj (htables.symm.trans hold)
    exact hpath.imp_right fun ⟨inner, hmem, hinside⟩ => ⟨inner, List.mem_cons_of_mem _ hmem, hinside⟩
  · contradiction

private theorem sets_of_change {path : List String}
    (h : (if path.isEmpty || standing = .dotted then define? name value before else none) = some after) :
    Sets name value before after := by
  split at h
  · exact sets_of_define? h
  · contradiction

private theorem keeps_header
    (hchange : ∀ standing before after, change standing before = some after → ∃ value, Sets name value before after)
    (h : alter byKey change path standing before = some after) : before.Grows after ∧ after.Holds (path ++ [name]) := by
  refine ⟨grows_of_alter (fun standing before after hafter => ?_) h,
    holds_of_alter (fun standing before after hafter => ?_) h⟩
  · obtain ⟨value, hsets⟩ := hchange standing before after hafter
    exact hsets.grows
  · obtain ⟨value, hsets⟩ := hchange standing before after hafter
    exact hsets.holds (.inl rfl)

private theorem keeps_assign (h : assign path name value standing before = some after) :
    before.Grows after ∧ ∀ inside, value.Holds inside → after.Holds (path ++ name :: inside) :=
  ⟨grows_of_alter (fun _ _ _ hchange => (sets_of_change hchange).grows) h,
    fun _ hinside => holds_of_alter (fun _ _ _ hchange => (sets_of_change hchange).holds hinside) h⟩

end Entries

/-- The path of the table that takes the values behind a line. -/
def Statement.opened (current : List String) : Statement → List String
  | .table path name | .element path name => path ++ [name]
  | .assignment .. => current

/-- A line writes a path, where the values go to a table: that of its header, or that of its key and whatever the value
holds. -/
def Statement.Writes (current : List String) : Statement → List String → Prop
  | .table path name, written | .element path name, written => written = path ++ [name]
  | .assignment path name value, written => ∃ inside, value.Holds inside ∧ written = current ++ (path ++ name :: inside)

namespace Document

/-- One of some lines writes a path. -/
def Writes (current : List String) : List Statement → List String → Prop
  | [], _ => False
  | statement :: statements, written =>
    statement.Writes current written ∨ Writes (statement.opened current) statements written

variable {document after : Document}

theorem perform_keeps {statement : Statement} (h : document.perform statement = some after) :
    after.current = statement.opened document.current ∧ document.entries.Grows after.entries ∧
      ∀ written, statement.Writes document.current written → after.entries.Holds written := by
  cases statement with
  | table path name =>
    obtain ⟨entries, hentries, heq⟩ := Option.bind_eq_some_iff.1 h
    obtain rfl := Option.some.inj heq
    obtain ⟨hgrows, hholds⟩ := Entries.keeps_header (fun _ _ _ => Entries.sets_of_declareTable) hentries
    exact ⟨rfl, hgrows, fun written hwritten => hwritten ▸ hholds⟩
  | element path name =>
    obtain ⟨entries, hentries, heq⟩ := Option.bind_eq_some_iff.1 h
    obtain rfl := Option.some.inj heq
    obtain ⟨hgrows, hholds⟩ := Entries.keeps_header (fun _ _ _ => Entries.sets_of_appendTable) hentries
    exact ⟨rfl, hgrows, fun written hwritten => hwritten ▸ hholds⟩
  | assignment path name value =>
    obtain ⟨entries, hentries, heq⟩ := Option.bind_eq_some_iff.1 h
    obtain rfl := Option.some.inj heq
    refine ⟨rfl, Entries.grows_of_alter (fun _ _ _ hchange => (Entries.keeps_assign hchange).1) hentries, ?_⟩
    rintro written ⟨inside, hinside, rfl⟩
    exact Entries.holds_of_alter (fun _ _ _ hchange => (Entries.keeps_assign hchange).2 inside hinside) hentries

theorem foldlM_keeps {statements : List Statement} (h : statements.foldlM perform document = some after) :
    document.entries.Grows after.entries ∧
      ∀ written, Writes document.current statements written → after.entries.Holds written := by
  induction statements generalizing document with
  | nil =>
    obtain rfl := Option.some.inj h
    exact ⟨fun _ hpath => hpath, fun _ hwritten => hwritten.elim⟩
  | cons statement statements ih =>
    rw [List.foldlM_cons] at h
    obtain ⟨next, hnext, hrest⟩ := Option.bind_eq_some_iff.1 h
    obtain ⟨hcurrent, hgrows, hholds⟩ := perform_keeps hnext
    obtain ⟨hlater, hwrites⟩ := ih hrest
    -- what the first line writes has to survive the lines behind it
    refine ⟨fun path hpath => hlater path (hgrows path hpath), fun written hwritten => ?_⟩
    rcases hwritten with hwritten | hwritten
    · exact hlater written (hholds written hwritten)
    · exact hwrites written (hcurrent ▸ hwritten)

/-- The lines of a document, as a text writes them down. -/
def lines? (text : String) : Option (List Statement) :=
  let characters := match text.toList with
    | '\ufeff' :: rest => rest
    | characters => characters
  statements? (characters.length + 1) [] (characters.length + 1) characters

theorem read?_eq_some_iff {text : String} :
    read? text = some document ↔ ∃ statements, lines? text = some statements ∧ ofStatements? statements = some document :=
  Option.bind_eq_some_iff

theorem holds_of_writes {statements : List Statement} (h : ofStatements? statements = some document)
    {written : List String} (hwritten : Writes [] statements written) : document.entries.Holds written :=
  (foldlM_keeps h).2 written hwritten

end Document

end StyledCode.Toml
