import StyledCode.Proofs.Text.Distinct
import StyledCode.Theme.Source

/-!
# Layers of themes

Sources searched in order are one source again, so that layers may consist of layers.

* `ThemeSource.Consistent` : a source lists a name exactly if it can load it
* `ThemeSource.layered_layered` : layers among layers may take the place of their source
* `ThemeStack.layered_flattenAll` : a stack is the layers of its leaves, whatever their nesting
* `ThemeStack.flatten_layers` : what a stack of consistent leaves lists and loads
-/

namespace StyledCode

open Text

namespace ThemeSource

/-- A source lists a name exactly if it can load it. -/
def Consistent (source : ThemeSource) : Prop := ∀ name, name ∈ source.names ↔ (source.load? name).isSome

private theorem consistent_entries (entries : List (String × String)) :
    Consistent ⟨entries.map (·.1), fun name => entries.lookup name⟩ := by
  intro name
  simp only [List.lookup_isSome_iff, List.mem_map, beq_iff_eq]
  exact exists_congr fun entry => and_congr_right fun _ => eq_comm

theorem consistent_ofList (themes : List (String × String)) : (ofList themes).Consistent := consistent_entries _

theorem consistent_builtin : builtin.Consistent := consistent_entries _

/-! ### Layers -/

theorem mem_names_layered {sources : List ThemeSource} {name : String} :
    name ∈ (layered sources).names ↔ ∃ source ∈ sources, name ∈ source.names := by
  rw [layered, List.mem_eraseDups, List.mem_flatMap]

theorem load?_layered {sources : List ThemeSource} {name text : String} :
    (layered sources).load? name = some text ↔ ∃ before source after, sources = before ++ source :: after ∧
      source.load? name = some text ∧ ∀ earlier ∈ before, earlier.load? name = none :=
  List.findSome?_eq_some_iff

theorem consistent_layered {sources : List ThemeSource} (h : ∀ source ∈ sources, source.Consistent) :
    (layered sources).Consistent := by
  intro name
  rw [mem_names_layered, layered, List.findSome?_isSome_iff]
  exact exists_congr fun source => and_congr_right fun hsource => h source hsource name

theorem layered_layered (before group after : List ThemeSource) :
    layered (before ++ layered group :: after) = layered (before ++ group ++ after) := by
  -- repetitions that an inner source has left out would be left out by the outer one anyway
  have hnames : ∀ front names rest : List String,
      (front ++ (names.eraseDups ++ rest)).eraseDups = (front ++ (names ++ rest)).eraseDups := by
    intro front names rest
    rw [← eraseDups_append_eraseDups, eraseDups_eraseDups_append, eraseDups_append_eraseDups]
  simp only [layered, List.flatMap_append, List.flatMap_cons, List.findSome?_append, List.findSome?_cons,
    List.append_assoc, hnames]
  congr 1
  funext name
  cases group.findSome? (·.load? name) <;> rfl

theorem layered_append_congr (before : List ThemeSource) {sources sources' : List ThemeSource}
    (h : layered sources = layered sources') : layered (before ++ sources) = layered (before ++ sources') := by
  have hgroup := fun group => layered_layered before group []
  simp only [List.append_nil] at hgroup
  rw [← hgroup, h, hgroup]

end ThemeSource

namespace ThemeStack

open ThemeSource

/-- A property of stacks holds if it passes from the stacks behind a source, and from the stacks in and behind
layers. -/
@[elab_as_elim]
theorem layers_induction {motive : List ThemeStack → Prop} (nil : motive [])
    (source : ∀ leaf rest, motive rest → motive (.source leaf :: rest))
    (layers : ∀ inner rest, motive inner → motive rest → motive (.layers inner :: rest)) :
    ∀ nested, motive nested
  | [] => nil
  | .source leaf :: rest => source leaf rest (layers_induction nil source layers rest)
  | .layers inner :: rest =>
    layers inner rest (layers_induction nil source layers inner) (layers_induction nil source layers rest)

theorem layered_flattenAll (nested : List ThemeStack) : layered (flattenAll nested) = layered (leavesAll nested) := by
  induction nested using layers_induction with
  | nil => rfl
  | source leaf rest ih => exact layered_append_congr [leaf] ih
  | layers inner rest ihi ih =>
    have hinner : (layers inner).flatten = layered (leavesAll inner) := ihi
    -- the inner source gives its place to its leaves, and the rest behind it to its own
    calc layered (flattenAll (layers inner :: rest))
        = layered ([] ++ layered (leavesAll inner) :: flattenAll rest) := by rw [← hinner]; rfl
      _ = layered (leavesAll inner ++ flattenAll rest) := layered_layered [] _ _
      _ = layered (leavesAll inner ++ leavesAll rest) := layered_append_congr _ ih

private theorem leavesAll_append (nested behind : List ThemeStack) :
    leavesAll (nested ++ behind) = leavesAll nested ++ leavesAll behind := by
  induction nested with
  | nil => rfl
  | cons stack rest ih => rw [List.cons_append, leavesAll, leavesAll, ih, List.append_assoc]

/-- Layers among others may be taken out of their nesting. -/
theorem flatten_layers_layers (before group after : List ThemeStack) :
    (layers (before ++ layers group :: after)).flatten = (layers (before ++ group ++ after)).flatten := by
  have hleaves : leavesAll (before ++ layers group :: after) = leavesAll (before ++ group ++ after) := by
    simp only [leavesAll_append, List.append_assoc]
    rfl
  rw [flatten, flatten, layered_flattenAll, layered_flattenAll, hleaves]

/-- A stack of leaves of which each lists what it can load is the same source as its leaves in a row.  It lists what it
can load, each name once, in the order in which the names first occur in the leaves, and it loads a name from the
leftmost leaf that has it.  Nested layers may be taken out of their nesting, and empty ones left out. -/
theorem flatten_layers {inner : List ThemeStack} (h : ∀ leaf ∈ leavesAll inner, leaf.Consistent) :
    let source := (layers inner).flatten
    let leaves := leavesAll inner
    let listed := leaves.flatMap (·.names)
    source = layered leaves ∧
      source.Consistent ∧
      source.names.Nodup ∧
      (∀ name, name ∈ source.names ↔ ∃ leaf ∈ leaves, name ∈ leaf.names) ∧
      source.names.Pairwise (fun name other => listed.idxOf name < listed.idxOf other) ∧
      (∀ name text, source.load? name = some text ↔ ∃ before leaf after, leaves = before ++ leaf :: after ∧
        name ∈ leaf.names ∧ leaf.load? name = some text ∧ ∀ earlier ∈ before, name ∉ earlier.names) ∧
      (∀ before after, (layers (before ++ layers inner :: after)).flatten =
        (layers (before ++ inner ++ after)).flatten) ∧
      ∀ before after, (layers (before ++ layers [] :: after)).flatten = (layers (before ++ after)).flatten := by
  intro source leaves listed
  have hsource : source = layered leaves := layered_flattenAll inner
  have hload : ∀ name text, source.load? name = some text ↔ ∃ before leaf after, leaves = before ++ leaf :: after ∧
      name ∈ leaf.names ∧ leaf.load? name = some text ∧ ∀ earlier ∈ before, name ∉ earlier.names := by
    intro name text
    have hmiss : ∀ leaf ∈ leaves, leaf.load? name = none ↔ name ∉ leaf.names := fun leaf hleaf => by
      rw [h leaf hleaf name, Option.not_isSome_iff_eq_none]
    rw [hsource, load?_layered]
    constructor
    · rintro ⟨before, leaf, after, hleaves, htext, hbefore⟩
      refine ⟨before, leaf, after, hleaves, ?_, htext, fun earlier hearlier => ?_⟩
      · rw [h leaf (by simp [leaves, hleaves]) name, htext]
        rfl
      · exact (hmiss earlier (by simp [hleaves, hearlier])).1 (hbefore earlier hearlier)
    · rintro ⟨before, leaf, after, hleaves, -, htext, hbefore⟩
      refine ⟨before, leaf, after, hleaves, htext, fun earlier hearlier => ?_⟩
      exact (hmiss earlier (by simp [hleaves, hearlier])).2 (hbefore earlier hearlier)
  have hempty : ∀ before after,
      (layers (before ++ layers [] :: after)).flatten = (layers (before ++ after)).flatten := by
    intro before after
    rw [flatten_layers_layers, List.append_nil]
  refine ⟨hsource, ?_, ?_, fun name => ?_, ?_, hload, fun before after => flatten_layers_layers before inner after,
    hempty⟩
  · rw [hsource]
    exact consistent_layered h
  · rw [hsource]
    exact nodup_eraseDups _
  · rw [hsource, mem_names_layered]
  · rw [hsource]
    exact pairwise_idxOf_eraseDups _

/-- Two leaves with a name in common, one of them nested, and an empty layer between them. -/
theorem flatten_layers_overlap :
    let mine := ThemeSource.ofList [("dark", "x"), ("mine", "y")]
    let inner : List ThemeStack := [layers [source mine], layers [], source .builtin]
    (∀ leaf ∈ leavesAll inner, leaf.Consistent) ∧
      (layers inner).flatten.names = ["dark", "mine", "default"] ∧
      (layers inner).flatten.load? "dark" = some "x" ∧
      (layers inner).flatten.load? "default" = ThemeSource.builtin.load? "default" := by
  intro mine inner
  have hleaves : leavesAll inner = [mine, .builtin] := rfl
  have hconsistent : ∀ leaf ∈ leavesAll inner, leaf.Consistent := by
    rw [hleaves]
    simp only [List.forall_mem_cons]
    exact ⟨consistent_ofList _, consistent_builtin, List.forall_mem_nil _⟩
  obtain ⟨hsource, -, -, -, -, hload, -, -⟩ := flatten_layers hconsistent
  refine ⟨hconsistent, ?_, (hload _ _).2 ⟨[], mine, [.builtin], hleaves, ?_, ?_, List.forall_mem_nil _⟩, ?_⟩
  · rw [hsource, hleaves]
    decide
  · decide
  · decide
  · rw [hsource, hleaves]
    rfl

end ThemeStack

end StyledCode
