import StyledCode.Proofs.Stylesheet.ReadBack

/-!
# Backgrounds left to the host

A written stylesheet leaves out the background of its base class, because the host paints it.  It leaves out every
spelling of it, while a stylesheet reports only the spellings in small letters.

* `find?_withoutBaseBackground` : what is left of each class
* `Omits`, `omits_iff` : the declarations that are left out
* `baseBackground?_eq_none_iff` : when no background is reported
* `omitted_background_reported` : when what is left out is reported
-/

namespace StyledCode.Stylesheet

/-! ### What is left of a class -/

/-- Where every key stands once, what becomes of the others does not matter to its entry. -/
theorem lookup_filterMap_entries {β γ : Type} (value? : String → β → Option γ) {entries : List (String × β)}
    (h : (entries.map (·.1)).Nodup) (c : String) :
    (entries.filterMap fun entry => (value? entry.1 entry.2).map (entry.1, ·)).lookup c =
      (entries.lookup c).bind (value? c) := by
  induction entries with
  | nil => rfl
  | cons entry entries ih =>
    obtain ⟨n, b⟩ := entry
    obtain ⟨hn, h⟩ := List.nodup_cons.1 h
    have ih := ih h
    by_cases hc : c = n
    · subst hc
      cases hvalue : value? c b with
      | some value => simp [hvalue]
      | none =>
        -- no other entry is of this class
        have hnone : entries.lookup c = none := by
          rw [List.lookup_eq_none_iff]
          intro entry hentry
          rw [bne_iff_ne]
          intro heq
          exact hn (List.mem_map.2 ⟨entry, hentry, heq.symm⟩)
        simp [hvalue, ih, hnone]
    · have hne : (c == n) = false := beq_eq_false_iff_ne.2 hc
      cases hvalue : value? n b <;> simp [hvalue, ih, List.lookup_cons, hne]

theorem find?_withoutBaseBackground {sheet : Stylesheet} (h : sheet.WellFormed) (c : String) :
    sheet.withoutBaseBackground.find? c = (sheet.find? c).bind (remaining? c) :=
  lookup_filterMap_entries remaining? h.names_nodup c

/-- The declarations of a class; a class that is not there has none. -/
def declared (sheet : Stylesheet) (name : String) : List Declaration := (sheet.find? name).getD []

private theorem declared_withoutBaseBackground {sheet : Stylesheet} (h : sheet.WellFormed) :
    sheet.withoutBaseBackground.declared baseClass =
      withoutBackgrounds (sheet.declared baseClass) := by
  rw [declared, declared, find?_withoutBaseBackground h]
  cases sheet.find? baseClass with
  | none => rfl
  | some declarations =>
    rw [Option.bind_some, Option.getD_some, remaining?, if_pos rfl]
    split
    · rename_i hnil
      exact hnil.symm
    · rfl

/-! ### What is left out, and what is reported -/

/-- Whether a declaration of the base class is left out where the stylesheet is written, so that it is not read back
from there. -/
def Omits (sheet : Stylesheet) (d : Declaration) : Prop :=
  d ∈ sheet.declared baseClass ∧ d ∉ (ofText sheet.toCss).declared baseClass

theorem omits_iff {sheet : Stylesheet} (h : sheet.WellFormed) {d : Declaration} :
    sheet.Omits d ↔ d ∈ sheet.declared baseClass ∧ d.property.toLower ∈ ["background", "background-color"] := by
  rw [Omits, ofText_toCss h, declared_withoutBaseBackground h, withoutBackgrounds, List.mem_filter,
    decide_eq_true_iff, not_and, not_not]
  exact and_congr_right fun hd => forall_prop_of_true hd

private theorem valueOf?_eq_none_iff {declarations : List Declaration} {property : String} :
    valueOf? declarations property = none ↔ ∀ d ∈ declarations, d.property ≠ property := by
  simp [valueOf?]

private theorem mem_of_valueOf? {declarations : List Declaration} {property value : String}
    (h : valueOf? declarations property = some value) : ⟨property, value⟩ ∈ declarations := by
  obtain ⟨d, hd, rfl⟩ := Option.map_eq_some_iff.1 h
  have hproperty := List.find?_some hd
  rw [beq_iff_eq] at hproperty
  subst hproperty
  exact List.mem_of_find?_eq_some hd

private theorem baseBackground?_eq (sheet : Stylesheet) :
    sheet.baseBackground? =
      (valueOf? (sheet.declared baseClass) "background").or
        (valueOf? (sheet.declared baseClass) "background-color") := by
  rw [baseBackground?, declared]
  cases sheet.find? baseClass with
  | none => rfl
  | some declarations => exact Option.orElse_eq_or

theorem baseBackground?_eq_none_iff {sheet : Stylesheet} :
    sheet.baseBackground? = none ↔
      ∀ d ∈ sheet.declared baseClass, d.property ∉ ["background", "background-color"] := by
  rw [baseBackground?_eq, Option.or_eq_none_iff, valueOf?_eq_none_iff, valueOf?_eq_none_iff, ← forall₂_and]
  simp

/-- A background that is reported is declared. -/
theorem mem_declared_of_baseBackground? {sheet : Stylesheet} {value : String} (h : sheet.baseBackground? = some value) :
    ∃ property ∈ ["background", "background-color"], ⟨property, value⟩ ∈ sheet.declared baseClass := by
  rw [baseBackground?_eq, Option.or_eq_some_iff] at h
  rcases h with h | ⟨-, h⟩
  · exact ⟨"background", by simp, mem_of_valueOf? h⟩
  · exact ⟨"background-color", by simp, mem_of_valueOf? h⟩

private theorem toLower_background {property : String} (h : property ∈ ["background", "background-color"]) :
    property.toLower ∈ ["background", "background-color"] := by
  have hlower : ∀ p ∈ ["background", "background-color"], p.toLower ∈ ["background", "background-color"] := by
    decide +kernel
  exact hlower property h

/-- Every background that is reported is left out where the stylesheet is written.  What is left out is reported unless
the base class declares its backgrounds with capital letters only. -/
theorem omitted_background_reported (source : String) :
    let sheet := ofText source
    (∀ value, sheet.baseBackground? = some value → ∃ d, sheet.Omits d ∧ d.value = value) ∧
      (((∃ d, sheet.Omits d) ↔ sheet.baseBackground?.isSome) ↔
        ((∃ d ∈ sheet.declared baseClass, d.property.toLower ∈ ["background", "background-color"]) →
          ∃ d ∈ sheet.declared baseClass, d.property ∈ ["background", "background-color"])) := by
  intro sheet
  have hsheet : sheet.WellFormed := wellFormed_ofText source
  have hreported : ∀ value, sheet.baseBackground? = some value → ∃ d, sheet.Omits d ∧ d.value = value := by
    intro value hvalue
    obtain ⟨property, hproperty, hmem⟩ := mem_declared_of_baseBackground? hvalue
    exact ⟨⟨property, value⟩, (omits_iff hsheet).2 ⟨hmem, toLower_background hproperty⟩, rfl⟩
  have homitted : (∃ d, sheet.Omits d) ↔
      ∃ d ∈ sheet.declared baseClass, d.property.toLower ∈ ["background", "background-color"] :=
    exists_congr fun d => omits_iff hsheet
  have hknown : sheet.baseBackground?.isSome ↔
      ∃ d ∈ sheet.declared baseClass, d.property ∈ ["background", "background-color"] := by
    rw [Option.isSome_iff_ne_none, ne_eq, baseBackground?_eq_none_iff]
    push Not
    rfl
  have hspelled : (∃ d ∈ sheet.declared baseClass, d.property ∈ ["background", "background-color"]) →
      ∃ d ∈ sheet.declared baseClass, d.property.toLower ∈ ["background", "background-color"] :=
    fun ⟨d, hd, hproperty⟩ => ⟨d, hd, toLower_background hproperty⟩
  rw [homitted, hknown]
  exact ⟨hreported, ⟨Iff.mp, fun h => ⟨h, hspelled⟩⟩⟩

/-- Of two spellings the one in small letters is reported, and both are left out. -/
theorem omitted_background_reported_mixed :
    let sheet := ofText ".hljs\x7bBackground:#111;background-color:#222\x7d"
    sheet.baseBackground? = some "#222" ∧ (∃ d, sheet.Omits d ∧ d.value = "#222") ∧
      ((∃ d, sheet.Omits d) ↔ sheet.baseBackground?.isSome) := by
  intro sheet
  have hread : sheet = ⟨[("hljs", [⟨"Background", "#111"⟩, ⟨"background-color", "#222"⟩])]⟩ := by decide +kernel
  have hvalue : sheet.baseBackground? = some "#222" := by
    rw [hread]
    decide
  obtain ⟨hreported, hiff⟩ := omitted_background_reported ".hljs\x7bBackground:#111;background-color:#222\x7d"
  have hsmall : ∃ d ∈ sheet.declared baseClass, d.property ∈ ["background", "background-color"] := by
    rw [hread]
    exact ⟨⟨"background-color", "#222"⟩, by decide, by decide⟩
  exact ⟨hvalue, hreported _ hvalue, hiff.2 fun _ => hsmall⟩

/-- A background in capital letters is left out, and nothing reports it. -/
theorem capital_background_lost :
    ¬ ∀ source : String, let sheet := ofText source; (∃ d, sheet.Omits d) ↔ sheet.baseBackground?.isSome := by
  intro h
  have hread : ofText ".hljs\x7bBackground:#111\x7d" = ⟨[("hljs", [⟨"Background", "#111"⟩])]⟩ := by decide +kernel
  have hiff := h ".hljs\x7bBackground:#111\x7d"
  have homits : (ofText ".hljs\x7bBackground:#111\x7d").Omits ⟨"Background", "#111"⟩ := by
    rw [omits_iff (wellFormed_ofText _), hread]
    decide +kernel
  have hreported := hiff.1 ⟨_, homits⟩
  rw [hread] at hreported
  exact absurd hreported (by decide)

end StyledCode.Stylesheet
