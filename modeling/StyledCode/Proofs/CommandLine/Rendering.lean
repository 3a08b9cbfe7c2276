import StyledCode.CommandLine.Program
import StyledCode.Proofs.Highlighter.Changes
import StyledCode.Proofs.Numbering.Settings

/-!
# Rendering on the command line

What a call of `render` prints is what the library makes of the markup under the configuration that the flags and
the file ask for together.

* `RenderRequest.Adjusts` : a numbering in which every flag that is given counts, and else the file
* `RenderRequest.rendered_eq_pipeline` : markup is decoded, numbered and laid out, or the theme is unknown
-/

namespace StyledCode

namespace CommandLine.RenderRequest

open Markup Terminal

/-! ### What flags and a file ask for together -/

/-- A numbering made of another one by the flags of a call: a flag that is given counts, moved to the nearest value
that makes sense, and what has no flag stays. -/
structure Adjusts (request : RenderRequest) (before after : Numbering) : Prop where
  start : after.start.toNat = request.start.elim before.start.toNat fun n => max n.toInt.toNat 1
  minWidth : after.minWidth.toNat = request.minWidth.elim before.minWidth.toNat fun width => max width.toNat 2
  separator : after.separator = request.separator.elim before.separator fun text => if text = "" then "  " else text
  dark : after.dark = (request.dark || before.dark)
  lineBreak : after.lineBreak = before.lineBreak
  fontSize : after.fontSize = before.fontSize

private theorem start_elim (flag : Option Int64) (numbering : Numbering) :
    ∃ start one_le_start start_lt,
      flag.elim numbering numbering.withStart = { numbering with start, one_le_start, start_lt } ∧
        start.toNat = flag.elim numbering.start.toNat fun n => max n.toInt.toNat 1 := by
  cases flag with
  | none => exact ⟨_, _, _, rfl, rfl⟩
  | some n => exact numbering.withStart_eq n

private theorem minWidth_elim (flag : Option UInt64) (numbering : Numbering) :
    ∃ minWidth two_le_minWidth,
      flag.elim numbering numbering.withMinWidth = { numbering with minWidth, two_le_minWidth } ∧
        minWidth.toNat = flag.elim numbering.minWidth.toNat fun width => max width.toNat 2 := by
  cases flag with
  | none => exact ⟨_, _, rfl, rfl⟩
  | some width => exact numbering.withMinWidth_eq width

private theorem adjusts_adjust (request : RenderRequest) (numbering : Numbering) :
    request.Adjusts numbering (request.adjust numbering) := by
  obtain ⟨start, one_le_start, start_lt, hstart, hfirst⟩ := start_elim request.start numbering
  -- the least width is set after the first number, and is looked up in the numbering that has it
  obtain ⟨minWidth, two_le, hminWidth, hwidth⟩ :=
    minWidth_elim request.minWidth { numbering with start, one_le_start, start_lt }
  simp only [adjust, hstart, hminWidth]
  cases hseparator : request.separator <;> cases hdark : request.dark <;>
    exact ⟨hfirst, hwidth, by rw [hseparator]; rfl, by rw [hdark]; rfl, rfl, rfl⟩

private theorem adjust_eq_self {request : RenderRequest} (h : ¬ request.wantsNumbers = true) (numbering : Numbering) :
    request.adjust numbering = numbering := by
  simp only [wantsNumbers, Bool.or_eq_true, not_or, Option.not_isSome_iff_eq_none] at h
  obtain ⟨⟨⟨⟨-, hstart⟩, hminWidth⟩, hseparator⟩, hdark⟩ := h
  rw [adjust, hstart, hminWidth, hseparator]
  exact if_neg hdark

/-- Lines are numbered if the file has a section for it or a flag asks for it, and then as both ask for. -/
private theorem numbering_configure (request : RenderRequest) (config : Config) :
    ((request.configure config).numbering.isSome ↔
      config.numbering.isSome ∨ request.lineNumbers ∨ request.start.isSome ∨ request.minWidth.isSome ∨
        request.separator.isSome ∨ request.dark) ∧
      ∀ numbering ∈ (request.configure config).numbering,
        request.Adjusts (config.numbering.getD .standard) numbering := by
  have hwants : request.wantsNumbers = true ↔ request.lineNumbers ∨ request.start.isSome ∨
      request.minWidth.isSome ∨ request.separator.isSome ∨ request.dark := by
    simp [wantsNumbers, or_assoc]
  rw [← hwants]
  by_cases h : request.wantsNumbers = true
  · simp only [configure, if_pos h]
    refine ⟨iff_of_true rfl (.inr h), fun numbering hnumbering => ?_⟩
    obtain rfl := Option.some.inj hnumbering
    exact request.adjusts_adjust _
  · simp only [configure, if_neg h]
    refine ⟨(or_iff_left h).symm, fun numbering hnumbering => ?_⟩
    have hadjusts := request.adjusts_adjust numbering
    rw [adjust_eq_self h] at hadjusts
    rwa [show config.numbering = some numbering from hnumbering, Option.getD_some]

/-! ### The way from the markup to the terminal -/

private theorem build_generic (name source : String) (font : Option FontRequest) :
    ∃ theme, Theme.build name source font .generic = .ok theme := by
  cases font <;> exact ⟨_, rfl⟩

private theorem highlight_identity (themes : ThemeSource) {config : Config} (hfast : config.fastRender = true)
    (theme : Theme) {html : String} (houtput : html ≠ Tokenizer.noOutput) :
    (Highlighter.highlight { tokenizer := .identity, themes, fonts := .generic, config, theme } html none).1 =
      .ok (decode theme html) := by
  have hchecked : Tokenizer.identity.checked html none config.ignoreIllegals = .ok html := if_neg houtput
  simp only [Highlighter.highlight, hchecked, Highlighter.decode, hfast, if_true]

private theorem rendered_of_load {request : RenderRequest} {config : Config} {themes : ThemeSource} {source : String}
    (hload : themes.load? (request.theme.getD config.theme) = some source) (options : Options) {html : String}
    (houtput : html ≠ Tokenizer.noOutput) :
    ∃ theme, Theme.build (request.theme.getD config.theme) source config.font .generic = .ok theme ∧
      request.rendered config themes options html =
        .ok (render
          { options with background := if request.background then some theme.background else options.background }
          ((request.configure config).numbering.elim (decode theme html) (·.number (decode theme html)))) := by
  obtain ⟨theme, hbuild⟩ := build_generic (request.theme.getD config.theme) source config.font
  refine ⟨theme, hbuild, ?_⟩
  have htheme : themes.build .generic (request.configure config).theme (request.configure config).font = .ok theme :=
    ThemeSource.build_eq_ok_iff.2 ⟨source, hload, hbuild⟩
  have hcreate : Highlighter.create .identity themes .generic (request.configure config) =
      .ok { tokenizer := .identity, themes, fonts := .generic, config := request.configure config, theme } := by
    rw [Highlighter.create, htheme]
    rfl
  have hrun := highlight_identity themes (show (request.configure config).fastRender = true from rfl) theme houtput
  have hpaper : (request.paper theme <|> options.background) =
      if request.background then some theme.background else options.background := by
    rw [paper]
    cases request.background <;> rfl
  rw [← hpaper, rendered, hcreate]
  simp only [bind, Except.bind, hrun]
  rfl

private theorem rendered_of_not_load {request : RenderRequest} {config : Config} {themes : ThemeSource}
    (hload : themes.load? (request.theme.getD config.theme) = none) (options : Options) (html : String) :
    request.rendered config themes options html = .error (.unknownTheme (request.theme.getD config.theme)) := by
  have htheme : themes.build .generic (request.configure config).theme (request.configure config).font =
      .error (.unknownTheme (request.theme.getD config.theme)) := by
    rw [ThemeSource.build, configure, hload]
  rw [rendered, Highlighter.create, htheme]
  rfl

/-- A call fails when the theme that it asks for is not there, and at nothing else.  Otherwise the markup is decoded
under that theme, its lines are numbered if the file or a flag asks for it, and it is laid out, on the background of
the theme if that is asked for and else on the one of the options. -/
theorem rendered_eq_pipeline (request : RenderRequest) (config : Config) (themes : ThemeSource) (options : Options)
    {html : String} (houtput : html ≠ "undefined") :
    let name := request.theme.getD config.theme
    ∃ numbering : Option Numbering,
      (numbering.isSome ↔ config.numbering.isSome ∨ request.lineNumbers ∨ request.start.isSome ∨
        request.minWidth.isSome ∨ request.separator.isSome ∨ request.dark) ∧
      (∀ n ∈ numbering, request.Adjusts (config.numbering.getD .standard) n) ∧
      (request.rendered config themes options html = .error (.unknownTheme name) ↔ themes.load? name = none) ∧
      ∀ source, themes.load? name = some source → ∃ theme, Theme.build name source config.font .generic = .ok theme ∧
        request.rendered config themes options html =
          .ok (render
            { options with background := if request.background then some theme.background else options.background }
            (numbering.elim (decode theme html) (·.number (decode theme html)))) := by
  intro name
  obtain ⟨hnumbered, hadjusts⟩ := request.numbering_configure config
  refine ⟨(request.configure config).numbering, hnumbered, hadjusts, ⟨fun herror => ?_, fun hload => ?_⟩,
    fun source hload => rendered_of_load hload options houtput⟩
  · cases hload : themes.load? name with
    | none => rfl
    | some source =>
      obtain ⟨theme, -, hrendered⟩ := rendered_of_load hload options houtput
      rw [hrendered] at herror
      contradiction
  · exact rendered_of_not_load hload options html

/-- Flags that make no sense are moved, the file has the say where there is no flag, and the theme named by the flag
counts. -/
theorem rendered_eq_pipeline_flags :
    let request : RenderRequest :=
      { theme := some "dark", minWidth := some 1, separator := some "", background := true }
    let config : Config :=
      { theme := "light", numbering := some ((Numbering.standard.withStart 5).withLineBreak "|") }
    let themes : ThemeSource := .ofList [("dark", ".hljs{background:#102030}")]
    ∃ (numbering : Numbering) (theme : Theme), numbering.start.toNat = 5 ∧ numbering.minWidth.toNat = 2 ∧
      numbering.separator = "  " ∧ numbering.dark = false ∧ numbering.lineBreak = "|" ∧
      Theme.build "dark" ".hljs{background:#102030}" none .generic = .ok theme ∧
      request.rendered config themes {} "a|b" =
        .ok (render { background := some theme.background } (numbering.number (decode theme "a|b"))) := by
  intro request config themes
  obtain ⟨numbering, hnumbered, hadjusts, -, hok⟩ :=
    rendered_eq_pipeline request config themes {} (show "a|b" ≠ "undefined" by decide)
  obtain ⟨theme, hbuild, hrendered⟩ := hok ".hljs{background:#102030}" rfl
  obtain ⟨n, rfl⟩ := Option.isSome_iff_exists.1 (hnumbered.2 (.inl rfl))
  obtain ⟨hstart, hminWidth, hseparator, hdark, hlineBreak, -⟩ := hadjusts n rfl
  exact ⟨n, theme, hstart, hminWidth, hseparator, hdark, hlineBreak, hbuild, hrendered⟩

end CommandLine.RenderRequest

end StyledCode
