import StyledCode.Proofs.Text.Search
import StyledCode.Theme.Source

/-!
# Themes in a directory

The themes that a directory lists are told by the names of its entries alone, and those that can be loaded by what the
entries are as well.

* `splitExtension_append`, `themeName?_eq_some_iff` : the names of theme files
* `mem_names_ofDirectory`, `load?_ofDirectory` : what a directory lists, and what can be loaded from it
* `ofDirectory_listing` : what is loaded is listed, and the directories where what is listed can be loaded
-/

namespace StyledCode

open Text

/-! ### Names of theme files -/

private theorem ne_dot_of_mem_reverse {text : List Char} (h : '.' ∉ text) :
    ∀ c ∈ text.reverse, (c != '.') = true := by
  intro c hc
  rw [bne_iff_ne]
  rintro rfl
  exact h (List.mem_reverse.1 hc)

/-- The last dot of a name, unless it is its first character, splits off the extension. -/
theorem splitExtension_append {stem extension : List Char} (h : '.' ∉ extension) :
    splitExtension (String.ofList (stem ++ '.' :: extension)) =
      if stem = [] then (String.ofList (stem ++ '.' :: extension), none)
      else (String.ofList stem, some (String.ofList extension)) := by
  have htake : ((stem ++ '.' :: extension).reverse.takeWhile (· != '.')).reverse = extension := by
    have hreverse : (stem ++ '.' :: extension).reverse = extension.reverse ++ '.' :: stem.reverse := by simp
    rw [hreverse, (span_append (ne_dot_of_mem_reverse h) (by simp)).1, List.reverse_reverse]
  have hlength : (stem ++ '.' :: extension).length - extension.length - 1 = stem.length := by
    rw [List.length_append, List.length_cons]
    omega
  rw [splitExtension]
  simp only [String.toList_ofList, htake, hlength, List.take_left, List.isEmpty_iff]

theorem splitExtension_of_not_mem {name : String} (h : '.' ∉ name.toList) : splitExtension name = (name, none) := by
  have hend : ∀ c ∈ ([] : List Char).head?, (c != '.') = false := by simp
  have htake := (span_append (ne_dot_of_mem_reverse h) hend).1
  rw [List.append_nil] at htake
  rw [splitExtension]
  simp [htake]

namespace ThemeSource

private theorem extension_eq_css {name : String} :
    name ++ ".css" = String.ofList (name.toList ++ '.' :: "css".toList) := by
  rw [String.ofList_append, String.ofList_toList]
  rfl

/-- A theme file is named after its theme. -/
theorem themeName?_eq_some_iff {fileName name : String} :
    themeName? fileName = some name ↔ name ≠ "" ∧ fileName = name ++ ".css" := by
  constructor
  · intro h
    by_cases hdot : '.' ∈ fileName.toList
    · obtain ⟨extension, stem, hreverse, hextension⟩ := List.eq_append_cons_of_mem (List.mem_reverse.2 hdot)
      have hname : fileName = String.ofList (stem.reverse ++ '.' :: extension.reverse) := by
        rw [← String.toList_inj, String.toList_ofList, ← List.reverse_inj, hreverse]
        simp
      rw [hname, themeName?, splitExtension_append (by simpa using hextension)] at h
      by_cases hnil : stem.reverse = []
      · rw [if_pos hnil] at h
        contradiction
      · rw [if_neg hnil] at h
        dsimp only at h
        split at h
        · rename_i hcss
          obtain rfl := Option.some.inj h
          have hcss : extension.reverse = "css".toList :=
            String.toList_ofList.symm.trans (congrArg String.toList (Option.some.inj hcss))
          refine ⟨mt String.ofList_eq_empty_iff.1 hnil, ?_⟩
          rw [hname, hcss, extension_eq_css, @String.toList_ofList stem.reverse]
        · contradiction
    · rw [themeName?, splitExtension_of_not_mem hdot] at h
      contradiction
  · rintro ⟨hne, rfl⟩
    have hstem : name.toList ≠ [] := fun hnil => hne (String.toList_eq_nil_iff.1 hnil)
    rw [themeName?, extension_eq_css, splitExtension_append (by decide), if_neg hstem]
    simp [extension]

/-! ### What a directory lists and loads -/

variable {entries : List (String × FileTree)}

/-- A directory lists every entry with the right extension, whatever it is. -/
theorem mem_names_ofDirectory {name : String} :
    name ∈ (ofDirectory entries).names ↔ name ≠ "" ∧ ∃ tree, (name ++ ".css", tree) ∈ entries := by
  have hnames : name ∈ (ofDirectory entries).names ↔ name ∈ (entries.map (·.1)).filterMap themeName? :=
    List.mem_mergeSort
  rw [hnames, List.mem_filterMap]
  constructor
  · rintro ⟨fileName, hmem, hname⟩
    obtain ⟨hne, rfl⟩ := themeName?_eq_some_iff.1 hname
    obtain ⟨⟨_, tree⟩, hentry, rfl⟩ := List.mem_map.1 hmem
    exact ⟨hne, tree, hentry⟩
  · rintro ⟨hne, tree, hentry⟩
    exact ⟨_, List.mem_map.2 ⟨_, hentry, rfl⟩, themeName?_eq_some_iff.2 ⟨hne, rfl⟩⟩

private theorem lookup_eq_some_iff {β : Type} {entries : List (String × β)} (h : (entries.map (·.1)).Nodup)
    {key : String} {value : β} : entries.lookup key = some value ↔ (key, value) ∈ entries := by
  induction entries with
  | nil => simp
  | cons entry entries ih =>
    obtain ⟨other, value'⟩ := entry
    obtain ⟨hother, h⟩ := List.nodup_cons.1 h
    have ih := ih h
    by_cases hkey : key = other
    · subst hkey
      have hnot : (key, value) ∉ entries := fun hmem => hother (List.mem_map.2 ⟨_, hmem, rfl⟩)
      simp [hnot, eq_comm]
    · have hne : (key == other) = false := beq_eq_false_iff_ne.2 hkey
      rw [List.lookup_cons, hne, ih, List.mem_cons, Prod.mk.injEq]
      simp [hkey]

private theorem text_eq_some_iff {tree : FileTree} {text : String} :
    tree.text.toOption = some text ↔ ∃ bytes, tree = .file bytes ∧ textOf bytes = .ok text := by
  cases tree with
  | directory entries => exact ⟨fun h => by contradiction, fun ⟨_, h, _⟩ => by contradiction⟩
  | file bytes =>
    have htext : (FileTree.file bytes).text = textOf bytes := rfl
    rw [htext]
    constructor
    · intro h
      cases hbytes : textOf bytes with
      | error e =>
        rw [hbytes] at h
        contradiction
      | ok text' =>
        rw [hbytes] at h
        exact ⟨bytes, rfl, hbytes.trans (congrArg Except.ok (Option.some.inj h))⟩
    · rintro ⟨_, hfile, hbytes⟩
      obtain rfl := FileTree.file.inj hfile
      rw [hbytes]
      rfl

/-- A directory loads a file with a plain name that is text. -/
theorem load?_ofDirectory (h : (entries.map (·.1)).Nodup) {name text : String} :
    (ofDirectory entries).load? name = some text ↔
      isPlainName name = true ∧ ∃ bytes, (name ++ ".css", .file bytes) ∈ entries ∧ textOf bytes = .ok text := by
  have hfile : name ++ "." ++ extension = name ++ ".css" := by
    rw [String.append_assoc]
    rfl
  have hload : (ofDirectory entries).load? name =
      if isPlainName name then (entries.lookup (name ++ "." ++ extension)).bind fun tree => tree.text.toOption
      else none := rfl
  rw [hload, hfile]
  split
  · rename_i hplain
    rw [Option.bind_eq_some_iff]
    constructor
    · rintro ⟨tree, htree, htext⟩
      obtain ⟨bytes, rfl, hbytes⟩ := text_eq_some_iff.1 htext
      exact ⟨hplain, bytes, (lookup_eq_some_iff h).1 htree, hbytes⟩
    · rintro ⟨-, bytes, hmem, hbytes⟩
      exact ⟨_, (lookup_eq_some_iff h).2 hmem, text_eq_some_iff.2 ⟨bytes, rfl, hbytes⟩⟩
  · rename_i hplain
    exact ⟨fun hnone => by contradiction, fun hload => absurd hload.1 hplain⟩

/-- The names are in order, none of them twice. -/
theorem names_ofDirectory_pairwise (h : (entries.map (·.1)).Nodup) :
    (ofDirectory entries).names.Pairwise (· < ·) := by
  have hnodup : (ofDirectory entries).names.Nodup := by
    refine (List.mergeSort_perm _ _).nodup_iff.2 (List.Pairwise.filterMap _ ?_ h)
    intro fileName fileName' hne name hname name' hname'
    rintro rfl
    exact hne ((themeName?_eq_some_iff.1 hname).2.trans (themeName?_eq_some_iff.1 hname').2.symm)
  have hle (a b : String) : (!decide (b < a)) = true ↔ a ≤ b := by
    rw [Bool.not_eq_true', decide_eq_false_iff_not, String.not_lt]
  have hsorted : (ofDirectory entries).names.Pairwise fun a b => (!decide (b < a)) = true := by
    refine List.pairwise_mergeSort (fun a b c hab hbc => ?_) (fun a b => ?_) _
    · rw [hle] at hab hbc ⊢
      exact String.le_trans hab hbc
    · rw [Bool.or_eq_true, hle, hle]
      exact String.le_total a b
  refine (hsorted.and hnodup).imp fun {a b} hab => ?_
  exact Decidable.not_not.1 fun hlt => hab.2 (String.le_antisymm ((hle a b).1 hab.1) (String.not_lt.1 hlt))

/-- In a directory no two entries have the same name.  Then it lists, in order and once, the names of all entries with
the right extension, and loads those of plain files that are text.  So what it loads it lists as well, and it can load
what it lists only where no entry with the right extension is hidden, has a backslash in its name, is a directory or
no text. -/
theorem ofDirectory_listing (h : (entries.map (·.1)).Nodup) :
    (∀ name, name ∈ (ofDirectory entries).names ↔ name ≠ "" ∧ ∃ tree, (name ++ ".css", tree) ∈ entries) ∧
      (∀ name text, (ofDirectory entries).load? name = some text ↔
        isPlainName name = true ∧ ∃ bytes, (name ++ ".css", .file bytes) ∈ entries ∧ textOf bytes = .ok text) ∧
      (ofDirectory entries).names.Pairwise (· < ·) ∧
      (∀ name, ((ofDirectory entries).load? name).isSome → name ∈ (ofDirectory entries).names) ∧
      ((∀ name, name ∈ (ofDirectory entries).names ↔ ((ofDirectory entries).load? name).isSome) ↔
        ∀ name ∈ (ofDirectory entries).names, isPlainName name = true ∧
          ∃ bytes text, (name ++ ".css", .file bytes) ∈ entries ∧ textOf bytes = .ok text) := by
  have hlisted : ∀ name, ((ofDirectory entries).load? name).isSome → name ∈ (ofDirectory entries).names := by
    intro name hload
    obtain ⟨text, htext⟩ := Option.isSome_iff_exists.1 hload
    obtain ⟨hplain, bytes, hmem, -⟩ := (load?_ofDirectory h).1 htext
    refine mem_names_ofDirectory.2 ⟨?_, _, hmem⟩
    rintro rfl
    contradiction
  refine ⟨fun name => mem_names_ofDirectory, fun name text => load?_ofDirectory h, names_ofDirectory_pairwise h,
    hlisted, ?_⟩
  constructor
  · intro hagree name hname
    obtain ⟨text, htext⟩ := Option.isSome_iff_exists.1 ((hagree name).1 hname)
    obtain ⟨hplain, bytes, hmem, hbytes⟩ := (load?_ofDirectory h).1 htext
    exact ⟨hplain, bytes, text, hmem, hbytes⟩
  · intro hgood name
    refine ⟨fun hname => ?_, hlisted name⟩
    obtain ⟨hplain, bytes, text, hmem, hbytes⟩ := hgood name hname
    exact Option.isSome_iff_exists.2 ⟨text, (load?_ofDirectory h).2 ⟨hplain, bytes, hmem, hbytes⟩⟩

/-- A theme in a directory with a hidden file, a directory and a file that is no text, each with the extension. -/
theorem ofDirectory_listing_mixed :
    let entries : List (String × FileTree) :=
      [("light.css", .file ⟨#[46, 97]⟩), (".hidden.css", .file ⟨#[46, 98]⟩), ("sub.css", .directory []),
        ("bad.css", .file ⟨#[0xff]⟩)]
    (entries.map (·.1)).Nodup ∧ (ofDirectory entries).load? "light" = some ".a" ∧
      "light" ∈ (ofDirectory entries).names ∧ (ofDirectory entries).names.Pairwise (· < ·) := by
  intro entries
  have hnodup : (entries.map (·.1)).Nodup := by decide
  obtain ⟨-, hload, hsorted, hlisted, -⟩ := ofDirectory_listing hnodup
  have hlight := (hload "light" ".a").2 ⟨by decide, ⟨#[46, 97]⟩, by simp [entries], by rfl⟩
  exact ⟨hnodup, hlight, hlisted "light" (Option.isSome_iff_exists.2 ⟨_, hlight⟩), hsorted⟩

/-- What a directory lists it need not be able to load. -/
theorem listed_not_loaded :
    let entries : List (String × FileTree) :=
      [("light.css", .file ⟨#[46, 97]⟩), (".hidden.css", .file ⟨#[46, 98]⟩), ("sub.css", .directory []),
        ("bad.css", .file ⟨#[0xff]⟩)]
    (∀ name ∈ [".hidden", "sub", "bad"],
        name ∈ (ofDirectory entries).names ∧ (ofDirectory entries).load? name = none) ∧
      ¬ ∀ name, name ∈ (ofDirectory entries).names ↔ ((ofDirectory entries).load? name).isSome := by
  intro entries
  have hbad : ∀ name ∈ [".hidden", "sub", "bad"],
      name ∈ (ofDirectory entries).names ∧ (ofDirectory entries).load? name = none := by
    simp only [List.forall_mem_cons, mem_names_ofDirectory]
    refine ⟨⟨⟨by decide, ?_⟩, by rfl⟩, ⟨⟨by decide, ?_⟩, by rfl⟩, ⟨⟨by decide, ?_⟩, by rfl⟩,
      List.forall_mem_nil _⟩ <;> simp [entries]
  refine ⟨hbad, fun hagree => ?_⟩
  obtain ⟨hlisted, hload⟩ := hbad ".hidden" (by simp)
  have hloads := (hagree ".hidden").1 hlisted
  rw [hload] at hloads
  contradiction

end ThemeSource

end StyledCode
