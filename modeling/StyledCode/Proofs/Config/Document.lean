import StyledCode.Config.Load
import StyledCode.Proofs.Numbering.Settings
import StyledCode.Proofs.Toml.Keys

/-!
# Configurations read from documents

* `Entries.Tells`, `Entries.TellsSection` : what entries tell of a field, and of a section of fields
* `Config.ToldBy` : the configuration that entries tell, and the keys that they may have
* `Config.ofEntries?_eq_some_iff` : exactly that configuration is read
* `Config.load_document` : a document with a key that no field has is refused, except within its font
-/

namespace StyledCode

open Toml

namespace Toml.Entries

/-- Entries tell the default of a field where they do not have its name, and else the value of the name, which must be
of the type of the field. -/
inductive Tells {α : Type} (entries : Entries) (read? : Value → Option α) (name : String) (default : α) :
    α → Prop
  | absent (h : entries.find? name = none) : Tells entries read? name default default
  | present {value : Value} {result : α} (h : entries.find? name = some value) (hread : read? value = some result) :
      Tells entries read? name default result

/-- Entries tell nothing of a section where they do not have its name, and else what its own entries tell. -/
inductive TellsSection {α : Type} (entries : Entries) (name : String) (fields : List String)
    (told : α → Entries → Prop) : Option α → Prop
  | absent (h : entries.find? name = none) : TellsSection entries name fields told none
  | present {value : Value} {inner : Entries} {result : α} (h : entries.find? name = some value)
      (hinner : value.toSection? fields = some inner) (htold : told result inner) :
      TellsSection entries name fields told (some result)

variable {α : Type} {entries : Entries} {read? : Value → Option α} {name : String}

theorem field_eq_some_iff {default result : α} :
    entries.field read? name default = some result ↔ entries.Tells read? name default result := by
  rw [field]
  constructor
  · intro h
    split at h
    · rename_i hnone
      obtain rfl := Option.some.inj h
      exact .absent hnone
    · rename_i value hvalue
      exact .present hvalue h
  · intro h
    cases h with
    | absent hnone => rw [hnone]
    | present hvalue hread =>
      rw [hvalue]
      exact hread

theorem field_section_eq_some_iff {fields : List String} {told : α → Entries → Prop} {result : Option α}
    (hread : ∀ value result, read? value = some result ↔
      ∃ inner, value.toSection? fields = some inner ∧ told result inner) :
    entries.field (fun value => (read? value).map some) name none = some result ↔
      entries.TellsSection name fields told result := by
  rw [field_eq_some_iff]
  constructor
  · intro h
    cases h with
    | absent hnone => exact .absent hnone
    | present hvalue hmap =>
      obtain ⟨request, hrequest, rfl⟩ := Option.map_eq_some_iff.1 hmap
      obtain ⟨inner, hinner, htold⟩ := (hread _ _).1 hrequest
      exact .present hvalue hinner htold
  · intro h
    cases h with
    | absent hnone => exact .absent hnone
    | present hvalue hinner htold =>
      exact .present hvalue (Option.map_eq_some_iff.2 ⟨_, (hread _ _).2 ⟨_, hinner, htold⟩, rfl⟩)

theorem holds_singleton {key : String} : entries.Holds [key] ↔ (entries.find? key).isSome := by
  rw [Option.isSome_iff_exists, Holds]
  exact exists_congr fun value => and_iff_left (.inl rfl)

theorem within_iff {fields : List String} :
    entries.within fields = true ↔ ∀ key, entries.Holds [key] → key ∈ fields := by
  simp only [within, List.all_eq_true, List.contains_iff_mem, holds_singleton, find?, List.lookup_isSome_iff,
    beq_iff_eq]
  constructor
  · rintro h key ⟨entry, hentry, rfl⟩
    exact h entry hentry
  · intro h entry hentry
    exact h entry.1 ⟨entry, hentry, rfl⟩

end Toml.Entries

/-! ### Sections -/

/-- The font that entries tell; other keys than its fields tell nothing. -/
structure FontRequest.ToldBy (request : FontRequest) (entries : Entries) : Prop where
  family : entries.Tells Value.toText? "family" "courier" request.family
  size : entries.Tells Value.toSingle? "size" 14 request.size

/-- The numbering that entries tell, whose keys are all among its fields. -/
structure Numbering.ToldBy (numbering : Numbering) (entries : Entries) : Prop where
  known : ∀ key, entries.Holds [key] → key ∈ fields
  start : ∃ n : Int64, entries.Tells Value.toInteger? "start" 1 n ∧ numbering.start.toNat = max n.toInt.toNat 1
  minWidth : ∃ width : UInt64, entries.Tells Value.toUnsigned? "min_width" 2 width ∧
    numbering.minWidth.toNat = max width.toNat 2
  separator : ∃ text, entries.Tells Value.toText? "separator" "  " text ∧
    numbering.separator = if text = "" then "  " else text
  lineBreak : ∃ text, entries.Tells Value.toText? "line_break" "\n" text ∧
    numbering.lineBreak = if text = "" then "\n" else text
  dark : entries.Tells Value.toBoolean? "dark" false numbering.dark
  fontSize : entries.Tells Value.toSingle? "font_size" 16 numbering.fontSize

theorem FontRequest.ofValue?_eq_some_iff {value : Value} {request : FontRequest} :
    ofValue? value = some request ↔ ∃ inner, value.toSection? fields = some inner ∧ request.ToldBy inner := by
  simp only [ofValue?, Option.bind_eq_bind, Option.bind_eq_some_iff, Option.pure_def, Option.some.injEq,
    Entries.field_eq_some_iff]
  refine exists_congr fun inner => and_congr_right fun _ => ?_
  constructor
  · rintro ⟨family, hfamily, size, hsize, rfl⟩
    exact ⟨hfamily, hsize⟩
  · rintro ⟨hfamily, hsize⟩
    exact ⟨_, hfamily, _, hsize, rfl⟩

theorem Numbering.ofValue?_eq_some_iff {value : Value} {numbering : Numbering} :
    ofValue? value = some numbering ↔ ∃ inner, value.toSection? fields = some inner ∧ numbering.ToldBy inner := by
  simp only [ofValue?, Option.bind_eq_bind, Option.bind_eq_some_iff, Option.ite_none_right_eq_some, Option.pure_def,
    Option.some.injEq, Entries.field_eq_some_iff, Entries.within_iff, settings_eq_iff]
  refine exists_congr fun inner => and_congr_right fun _ => ?_
  constructor
  · rintro ⟨hknown, n, hn, width, hwidth, separator, hseparator, lineBreak, hlineBreak, dark, hdark, fontSize,
      hfontSize, hstart, hminWidth, htext, hbreak, rfl, rfl⟩
    exact ⟨hknown, ⟨n, hn, hstart⟩, ⟨width, hwidth, hminWidth⟩, ⟨separator, hseparator, htext⟩,
      ⟨lineBreak, hlineBreak, hbreak⟩, hdark, hfontSize⟩
  · rintro ⟨hknown, ⟨n, hn, hstart⟩, ⟨width, hwidth, hminWidth⟩, ⟨separator, hseparator, htext⟩,
      ⟨lineBreak, hlineBreak, hbreak⟩, hdark, hfontSize⟩
    exact ⟨hknown, n, hn, width, hwidth, separator, hseparator, lineBreak, hlineBreak, _, hdark, _, hfontSize,
      hstart, hminWidth, htext, hbreak, rfl, rfl⟩

private theorem Numbering.not_toldBy_tables {numbering : Numbering} {reversed : List Entries} {inner : Entries}
    (hne : reversed ≠ []) (hinner : (Value.tables reversed).toSection? fields = some inner) :
    ¬ numbering.ToldBy inner := by
  intro h
  obtain ⟨first, rest, hreverse⟩ := List.exists_cons_of_ne_nil (mt List.reverse_eq_nil_iff.1 hne)
  have hfirst : inner.find? "start" = some (.table .declared first) := by
    obtain rfl := Option.some.inj hinner
    rw [hreverse]
    rfl
  obtain ⟨n, hn, -⟩ := h.start
  cases hn with
  | absent hnone =>
    rw [hfirst] at hnone
    contradiction
  | present hvalue hread =>
    obtain rfl := Option.some.inj (hfirst.symm.trans hvalue)
    contradiction

theorem Numbering.ToldBy.mem_fields {numbering : Numbering} {value : Value} {inner : Entries}
    (h : numbering.ToldBy inner) (hinner : value.toSection? fields = some inner) {key : String}
    (hkey : value.Holds [key]) : key ∈ fields := by
  obtain hnil | ⟨table, htable, hinside⟩ := hkey
  · contradiction
  · cases value with
    | table standing entries =>
      obtain rfl := Option.some.inj hinner
      obtain rfl := List.mem_singleton.1 htable
      exact h.known key hinside
    | tables reversed =>
      -- the first of the tables would be the first number
      exact absurd h (not_toldBy_tables (List.ne_nil_of_mem htable) hinner)
    | _ => contradiction

namespace Config

/-- The configuration that entries tell, whose keys are all among its fields. -/
structure ToldBy (config : Config) (entries : Entries) : Prop where
  known : ∀ key, entries.Holds [key] → key ∈ fields
  theme : entries.Tells Value.toText? "theme" "default" config.theme
  fastRender : entries.Tells Value.toBoolean? "fast_render" true config.fastRender
  ignoreIllegals : entries.Tells Value.toBoolean? "ignore_illegals" false config.ignoreIllegals
  font : entries.TellsSection "font" FontRequest.fields FontRequest.ToldBy config.font
  numbering : entries.TellsSection "line_numbers" Numbering.fields Numbering.ToldBy config.numbering

theorem ofEntries?_eq_some_iff {entries : Entries} {config : Config} :
    ofEntries? entries = some config ↔ config.ToldBy entries := by
  simp only [ofEntries?, Option.bind_eq_bind, Option.bind_eq_some_iff, Option.ite_none_right_eq_some, Option.pure_def,
    Option.some.injEq, Entries.field_section_eq_some_iff fun _ _ => FontRequest.ofValue?_eq_some_iff,
    Entries.field_section_eq_some_iff fun _ _ => Numbering.ofValue?_eq_some_iff, Entries.field_eq_some_iff,
    Entries.within_iff]
  constructor
  · rintro ⟨hknown, theme, htheme, fast, hfast, ignore, hignore, font, hfont, numbering, hnumbering, rfl⟩
    exact ⟨hknown, htheme, hfast, hignore, hfont, hnumbering⟩
  · rintro ⟨hknown, htheme, hfast, hignore, hfont, hnumbering⟩
    exact ⟨hknown, _, htheme, _, hfast, _, hignore, _, hfont, _, hnumbering, rfl⟩

theorem ToldBy.numbering_mem_fields {config : Config} {entries : Entries} (h : config.ToldBy entries) {key : String}
    (hkey : entries.Holds ["line_numbers", key]) : key ∈ Numbering.fields := by
  obtain ⟨value, hvalue, hinside⟩ := hkey
  have hnumbering := h.numbering
  generalize config.numbering = numbering at hnumbering
  cases hnumbering with
  | absent hnone =>
    rw [hvalue] at hnone
    contradiction
  | present hfound hinner htold =>
    obtain rfl := Option.some.inj (hfound.symm.trans hvalue)
    exact htold.mem_fields hinner hinside

theorem ofEntries?_put_font {entries inner other : Entries} {standing : Standing}
    (h : entries.find? "font" = some (.table standing inner))
    (hsame : ∀ key ∈ FontRequest.fields, other.find? key = inner.find? key) :
    ofEntries? (entries.put "font" (.table standing other)) = ofEntries? entries := by
  have hfont : FontRequest.ofValue? (.table standing other) = FontRequest.ofValue? (.table standing inner) := by
    simp only [FontRequest.ofValue?, Value.toSection?, Entries.field, Option.bind_eq_bind, Option.bind_some,
      hsame "family" (by decide), hsame "size" (by decide)]
  have hwithin : (entries.put "font" (.table standing other)).within fields = entries.within fields := by
    rw [Bool.eq_iff_iff, Entries.within_iff, Entries.within_iff]
    simp only [Entries.holds_singleton, Entries.find?_put]
    refine forall_congr' fun key => ?_
    by_cases hkey : key = "font"
    · simp [hkey, h]
    · simp [hkey]
  have hfield : ∀ {α : Type} (read? : Value → Option α) (name : String) (default : α), name ≠ "font" →
      (entries.put "font" (.table standing other)).field read? name default = entries.field read? name default := by
    intro α read? name default hname
    rw [Entries.field, Entries.field, Entries.find?_put, if_neg hname]
  have hsection : (entries.put "font" (.table standing other)).field
      (fun value => (FontRequest.ofValue? value).map some) "font" none =
        entries.field (fun value => (FontRequest.ofValue? value).map some) "font" none := by
    rw [Entries.field, Entries.field, Entries.find?_put, if_pos rfl, h]
    exact congrArg (Option.map some) hfont
  simp only [ofEntries?, hwithin, hsection, hfield _ "theme" _ (by decide), hfield _ "fast_render" _ (by decide),
    hfield _ "ignore_illegals" _ (by decide), hfield _ "line_numbers" _ (by decide)]

/-- A text that is a document gives the configuration that its entries tell, and is refused where there is none.  So it
is refused with a key that is no field, at the top or in the section of the numbering.  Of a font only the two fields
are read, whatever other keys it has.  What the lines of the text write is in the document. -/
theorem load_document {text : String} {document : Document} (h : Document.read? text = some document) :
    (∀ config, Config.load (.ok text) = .ok config ↔ config.ToldBy document.entries) ∧
      (∀ key, key ∉ fields → document.entries.Holds [key] → Config.load (.ok text) = .error .configuration) ∧
      (∀ key, key ∉ Numbering.fields → document.entries.Holds ["line_numbers", key] →
        Config.load (.ok text) = .error .configuration) ∧
      (∀ (standing : Standing) (inner other : Entries),
        document.entries.find? "font" = some (.table standing inner) →
        (∀ key ∈ FontRequest.fields, other.find? key = inner.find? key) →
        ofEntries? (document.entries.put "font" (.table standing other)) = ofEntries? document.entries) ∧
      ∀ lines, Document.lines? text = some lines → ∀ path, Document.Writes [] lines path →
        document.entries.Holds path := by
  have hload : Config.load (.ok text) = (ofEntries? document.entries).elim (.error .configuration) .ok := by
    rw [Config.load, ofText?, h]
    rfl
  have htold : ∀ config, Config.load (.ok text) = .ok config ↔ config.ToldBy document.entries := by
    intro config
    rw [hload, ← ofEntries?_eq_some_iff]
    cases ofEntries? document.entries with
    | none => exact iff_of_false (by simp) (by simp)
    | some other => simp
  have hrefused : (∀ config : Config, ¬ config.ToldBy document.entries) →
      Config.load (.ok text) = .error .configuration := by
    intro hnone
    rw [hload]
    cases hentries : ofEntries? document.entries with
    | none => rfl
    | some config => exact absurd (ofEntries?_eq_some_iff.1 hentries) (hnone config)
  refine ⟨htold, fun key hkey hholds => hrefused fun config hconfig => hkey (hconfig.known key hholds),
    fun key hkey hholds => hrefused fun config hconfig => hkey (hconfig.numbering_mem_fields hholds),
    fun standing inner other hfont hsame => ofEntries?_put_font hfont hsame, fun lines hlines path hpath => ?_⟩
  obtain ⟨lines', hlines', hdocument⟩ := Document.read?_eq_some_iff.1 h
  obtain rfl := Option.some.inj (hlines.symm.trans hlines')
  exact Document.holds_of_writes hdocument hpath

/-- A key of the numbering that is misspelt, by a dotted key. -/
theorem load_document_misspelt :
    let document : Document :=
      ⟨[("theme", .text "dark"), ("line_numbers", .table .dotted [("strat", .integer 5)])], []⟩
    Document.read? "theme = 'dark'\nline_numbers.strat = 5\n" = some document ∧
      Config.load (.ok "theme = 'dark'\nline_numbers.strat = 5\n") = .error .configuration := by
  intro document
  have hread : Document.read? "theme = 'dark'\nline_numbers.strat = 5\n" = some document := by with_unfolding_all rfl
  obtain ⟨-, -, hnumbering, -⟩ := load_document hread
  refine ⟨hread, hnumbering "strat" (by decide) ?_⟩
  exact ⟨_, rfl, .inr ⟨_, List.mem_singleton_self _, _, rfl, .inl rfl⟩⟩

/-- A key of the font that is misspelt goes unnoticed. -/
theorem misspelt_font_loaded :
    ¬ ∀ (text : String) (document : Document) (key : String), Document.read? text = some document →
      key ∉ FontRequest.fields → document.entries.Holds ["font", key] →
        Config.load (.ok text) = .error .configuration := by
  intro h
  have hread : Document.read? "[font]\nfamliy = \"Menlo\"\n" =
      some ⟨[("font", .table .declared [("famliy", .text "Menlo")])], ["font"]⟩ := by with_unfolding_all rfl
  have hload : Config.load (.ok "[font]\nfamliy = \"Menlo\"\n") = .ok { font := some {} } := by
    rw [Config.load, ofText?, hread]
    rfl
  have hrefused := h _ _ "famliy" hread (by decide)
    ⟨_, rfl, .inr ⟨_, List.mem_singleton_self _, _, rfl, .inl rfl⟩⟩
  rw [hload] at hrefused
  contradiction

end Config

end StyledCode
