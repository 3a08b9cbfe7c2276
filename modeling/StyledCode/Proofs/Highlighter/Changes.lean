import StyledCode.Highlighter.Basic

/-!
# Changes of the theme

What becomes of the theme, the configuration and the observers of a highlighter over any operations, of which some
may fail.

* `Highlighter.history` : operations with the steps in which they are carried out
* `Highlighter.perform_change`, `Highlighter.perform_other` : a change of the theme takes effect as a whole and is
  announced, or leaves everything as it is; no other operation touches the theme or speaks to an observer
* `Highlighter.theme_after` : the theme is the one that the configuration asks for, however it was reached
* `Highlighter.told_run` : what the observers are told over all operations
-/

namespace StyledCode

/-! ### What operations ask for -/

namespace Operation

/-- Whether an operation asks for another theme or another font. -/
def changesTheme : Operation → Bool
  | setTheme _ => true
  | setThemeWithFont _ _ => true
  | setFont _ => true
  | _ => false

def theme? : Operation → Option String
  | setTheme name => some name
  | setThemeWithFont name _ => some name
  | _ => none

def font? : Operation → Option FontRequest
  | setThemeWithFont _ font => some font
  | setFont font => some font
  | _ => none

def isObserve : Operation → Bool
  | observe => true
  | _ => false

end Operation

def Answer.theme? : Answer → Option Theme
  | .theme answered => some answered
  | _ => none

/-- Whether an operation was carried out. -/
def Step.succeeded (step : Step) : Bool :=
  match step.answer with
  | .failure _ => false
  | _ => true

/-- The observer and the theme of a message to an observer. -/
def Event.message? : Event → Option (Nat × Theme)
  | observed observer theme => some (observer, theme)
  | _ => none

/-- What the observers are told in a step. -/
def Step.told (step : Step) : List (Nat × Theme) := step.events.filterMap Event.message?

/-- One message with a theme to each of some observers, in the order in which they were added. -/
def messages (observers : Nat) (theme : Theme) : List (Nat × Theme) :=
  (List.range observers).map fun n => (n + 1, theme)

/-! ### Themes built again -/

private theorem CodeFonts.resolve_none (request : Option FontRequest) :
    CodeFonts.resolve FontProvider.none request = .error ⟨request.elim defaultFamily (·.family)⟩ := by
  cases request <;> rfl

/-- A built theme in the fonts of another request is the theme built for that request. -/
theorem Theme.withFont_of_build {name source : String} {request : Option FontRequest} {provider : FontProvider}
    {theme : Theme} (h : Theme.build name source request provider = .ok theme) (request' : Option FontRequest)
    (provider' : FontProvider) : theme.withFont request' provider' = Theme.build name source request' provider' := by
  obtain ⟨fonts, -, rfl⟩ := Theme.build_eq_ok_iff.1 h
  rfl

private theorem mapError_eq_ok {ε ε' α : Type} {f : ε → ε'} {result : Except ε α} {a : α}
    (h : result.mapError f = .ok a) : result = .ok a := by
  cases result with
  | error e => contradiction
  | ok b => exact congrArg Except.ok (Except.ok.inj h)

/-- A source builds a theme when it has the text of the name and there are fonts for the request. -/
theorem ThemeSource.build_eq_ok_iff {themes : ThemeSource} {fonts : FontProvider} {name : String}
    {font : Option FontRequest} {theme : Theme} :
    themes.build fonts name font = .ok theme ↔
      ∃ source, themes.load? name = some source ∧ Theme.build name source font fonts = .ok theme := by
  unfold ThemeSource.build
  cases themes.load? name with
  | none => simp
  | some source =>
    constructor
    · intro h
      exact ⟨source, rfl, mapError_eq_ok h⟩
    · rintro ⟨_, hsource, h⟩
      obtain rfl := Option.some.inj hsource
      exact congrArg (Except.mapError _) h

namespace Highlighter

/-! ### One operation -/

/-- The configuration after an operation has been carried out as far as it concerns the theme. -/
def requested (h : Highlighter) (operation : Operation) : Config :=
  { h.config with theme := operation.theme?.getD h.config.theme, font := operation.font?.or h.config.font }

private theorem resolve_provider {h : Highlighter} {request : Option FontRequest} {fonts : CodeFonts}
    (hfonts : CodeFonts.resolve h.provider request = .ok fonts) : CodeFonts.resolve h.fonts request = .ok fonts := by
  unfold provider at hfonts
  split at hfonts
  · exact hfonts
  · -- a provider that does not answer has no fonts for any request
    rw [CodeFonts.resolve_none] at hfonts
    contradiction

private theorem build_provider {h : Highlighter} {name source : String} {request : Option FontRequest} {theme : Theme}
    (hbuild : Theme.build name source request h.provider = .ok theme) :
    Theme.build name source request h.fonts = .ok theme := by
  unfold Theme.build at hbuild ⊢
  cases hfonts : CodeFonts.resolve h.provider request with
  | error e => rw [hfonts] at hbuild; contradiction
  | ok fonts => rwa [resolve_provider hfonts, ← hfonts]

/-- A theme is put in force with its configuration and announced, or nothing happens. -/
private theorem adopt_cases (h : Highlighter) (config : Config) (result : Except Error Theme) :
    (∃ e, result = .error e ∧ h.adopt config result = ⟨.failure e, [], h⟩) ∨
      ∃ theme, result = .ok theme ∧ h.adopt config result =
        ⟨.theme theme, (messages h.observers theme).map fun m => .observed m.1 m.2, { h with config, theme }⟩ := by
  cases result with
  | error e => exact .inl ⟨e, rfl, rfl⟩
  | ok theme =>
    refine .inr ⟨theme, rfl, ?_⟩
    simp only [adopt, announce, messages, List.map_map]
    rfl

/-- A change of the theme that fails leaves everything as it is; one that succeeds takes effect with all that it asks
for, and every observer is told the new theme once. -/
theorem perform_change {h : Highlighter} {operation : Operation} (hop : operation.changesTheme = true) :
    (∃ e, h.perform operation = ⟨.failure e, [], h⟩) ∨
      ∃ theme, h.perform operation =
        ⟨.theme theme, (messages h.observers theme).map fun m => .observed m.1 m.2,
          { h with config := h.requested operation, theme }⟩ := by
  -- the three changes differ in the theme that they try to build, and hand it on alike
  have hadopt : ∃ result, h.perform operation = h.adopt (h.requested operation) result := by
    cases operation with
    | setTheme name => exact ⟨_, rfl⟩
    | setThemeWithFont name font => exact ⟨_, rfl⟩
    | setFont font => exact ⟨_, rfl⟩
    | _ => contradiction
  obtain ⟨result, hresult⟩ := hadopt
  rw [hresult]
  rcases h.adopt_cases (h.requested operation) result with ⟨e, -, hstep⟩ | ⟨theme, -, hstep⟩
  · exact .inl ⟨e, hstep⟩
  · exact .inr ⟨theme, hstep⟩

private theorem messages_highlight (h : Highlighter) (code : String) (language : Option String) :
    (h.highlight code language).2.filterMap Event.message? = [] := by
  unfold highlight decode
  cases h.tokenizer.checked code language h.config.ignoreIllegals with
  | error e => rfl
  | ok html =>
    cases h.config.fastRender with
    | true => rfl
    | false => cases h.renderer <;> rfl

theorem highlightNumbered_cases (h : Highlighter) (code : String) (language : Option String)
    (numbering : Option Numbering) :
    (h.highlightNumbered code language numbering).after = h ∧
      (h.highlightNumbered code language numbering).told = [] := by
  have hmessages := h.messages_highlight code language
  unfold highlightNumbered Step.told
  cases hresult : h.highlight code language with
  | mk result events =>
    rw [hresult] at hmessages
    cases result with
    | error e => exact ⟨rfl, hmessages⟩
    | ok runs => exact ⟨rfl, hmessages⟩

/-- Every other operation leaves the theme and what it was asked for as they are, speaks to no observer, and adds at
most one. -/
theorem perform_other {h : Highlighter} {operation : Operation} (hop : operation.changesTheme = false) :
    (h.perform operation).told = [] ∧ (h.perform operation).after.theme = h.theme ∧
      (h.perform operation).after.config.theme = h.config.theme ∧
      (h.perform operation).after.config.font = h.config.font ∧
      (h.perform operation).after.observers = h.observers + if operation.isObserve then 1 else 0 := by
  cases operation with
  | setTheme name => contradiction
  | setThemeWithFont name font => contradiction
  | setFont font => contradiction
  | highlight code language =>
    obtain ⟨hafter, htold⟩ := h.highlightNumbered_cases code language h.config.numbering
    rw [perform, hafter]
    exact ⟨htold, rfl, rfl, rfl, rfl⟩
  | highlightNumbered code language numbering =>
    obtain ⟨hafter, htold⟩ := h.highlightNumbered_cases code language numbering
    rw [perform, hafter]
    exact ⟨htold, rfl, rfl, rfl, rfl⟩
  | _ => exact ⟨rfl, rfl, rfl, rfl, rfl⟩

private theorem sources_adopt (h : Highlighter) (config : Config) (result : Except Error Theme) :
    (h.adopt config result).after.themes = h.themes ∧ (h.adopt config result).after.fonts = h.fonts := by
  cases result <;> exact ⟨rfl, rfl⟩

theorem sources_perform (h : Highlighter) (operation : Operation) :
    (h.perform operation).after.themes = h.themes ∧ (h.perform operation).after.fonts = h.fonts := by
  cases operation with
  | setTheme name => exact h.sources_adopt _ _
  | setThemeWithFont name font => exact h.sources_adopt _ _
  | setFont font => exact h.sources_adopt _ _
  | highlight code language =>
    rw [perform, (h.highlightNumbered_cases code language h.config.numbering).1]
    exact ⟨rfl, rfl⟩
  | highlightNumbered code language numbering =>
    rw [perform, (h.highlightNumbered_cases code language numbering).1]
    exact ⟨rfl, rfl⟩
  | _ => exact ⟨rfl, rfl⟩

/-! ### The theme and the configuration -/

/-- The theme in force is the one that the configuration asks for, in the fonts that the provider has when it
answers. -/
def InSync (h : Highlighter) : Prop := h.themes.build h.fonts h.config.theme h.config.font = .ok h.theme

private theorem build_of_provider {h : Highlighter} {name : String} {font : Option FontRequest} {theme : Theme}
    (hbuild : h.themes.build h.provider name font = .ok theme) : h.themes.build h.fonts name font = .ok theme := by
  rw [ThemeSource.build_eq_ok_iff] at hbuild ⊢
  obtain ⟨source, hsource, htheme⟩ := hbuild
  exact ⟨source, hsource, build_provider htheme⟩

private theorem build_of_withFont {h : Highlighter} (hsync : h.InSync) {font : Option FontRequest} {theme : Theme}
    (htheme : h.theme.withFont font h.provider = .ok theme) :
    h.themes.build h.fonts h.config.theme font = .ok theme := by
  obtain ⟨source, hsource, hbuild⟩ := ThemeSource.build_eq_ok_iff.1 hsync
  -- the theme in force was built from that source, so other fonts make it the one built for them
  rw [Theme.withFont_of_build hbuild] at htheme
  exact ThemeSource.build_eq_ok_iff.2 ⟨source, hsource, build_provider htheme⟩

private theorem inSync_adopt {h : Highlighter} (hsync : h.InSync) {config : Config} {result : Except Error Theme}
    (hresult : ∀ theme, result = .ok theme → h.themes.build h.fonts config.theme config.font = .ok theme) :
    (h.adopt config result).after.InSync := by
  rcases h.adopt_cases config result with ⟨e, -, hstep⟩ | ⟨theme, htheme, hstep⟩
  · rw [hstep]
    exact hsync
  · rw [hstep]
    exact hresult theme htheme

/-- Every operation keeps the theme in step with the configuration, whether it is carried out or not. -/
theorem inSync_perform {h : Highlighter} (hsync : h.InSync) (operation : Operation) :
    (h.perform operation).after.InSync := by
  cases hop : operation.changesTheme with
  | true =>
    cases operation with
    | setTheme name => exact inSync_adopt hsync fun theme htheme => build_of_provider htheme
    | setThemeWithFont name font => exact inSync_adopt hsync fun theme htheme => build_of_provider htheme
    | setFont font =>
      exact inSync_adopt hsync fun theme htheme => build_of_withFont hsync (mapError_eq_ok htheme)
    | _ => contradiction
  | false =>
    obtain ⟨-, htheme, hname, hfont, -⟩ := perform_other (h := h) hop
    obtain ⟨hthemes, hfonts⟩ := h.sources_perform operation
    unfold InSync at hsync ⊢
    rw [hthemes, hfonts, htheme, hname, hfont]
    exact hsync

/-- An operation that is carried out leaves behind the name and the font that it asks for, and one that fails those
before it. -/
theorem config_perform (h : Highlighter) (operation : Operation) :
    (h.perform operation).after.config.theme =
        (if (h.perform operation).succeeded then operation.theme? else none).getD h.config.theme ∧
      (h.perform operation).after.config.font =
        (if (h.perform operation).succeeded then operation.font? else none).or h.config.font := by
  cases hop : operation.changesTheme with
  | true =>
    rcases perform_change (h := h) hop with ⟨e, hstep⟩ | ⟨theme, hstep⟩ <;> rw [hstep] <;> exact ⟨rfl, rfl⟩
  | false =>
    have hnone : operation.theme? = none ∧ operation.font? = none := by
      cases operation with
      | setTheme name => contradiction
      | setThemeWithFont name font => contradiction
      | setFont font => contradiction
      | _ => exact ⟨rfl, rfl⟩
    obtain ⟨-, -, hname, hfont, -⟩ := perform_other (h := h) hop
    rw [hname, hfont, hnone.1, hnone.2, ite_self, ite_self]
    exact ⟨rfl, rfl⟩

/-! ### Many operations -/

/-- Operations, each with the step in which it is carried out behind those before it. -/
def history (h : Highlighter) (operations : List Operation) : List (Operation × Step) :=
  operations.zip (h.run operations)

/-- The last value that an operation of a history gives, of those that were carried out. -/
def lastOf? {α : Type} (value? : Operation → Option α) (history : List (Operation × Step)) : Option α :=
  history.reverse.findSome? fun (operation, step) => if step.succeeded then value? operation else none

theorem after_cons (h : Highlighter) (operation : Operation) (operations : List Operation) :
    h.after (operation :: operations) = (h.perform operation).after.after operations := rfl

theorem history_cons (h : Highlighter) (operation : Operation) (operations : List Operation) :
    h.history (operation :: operations) =
      (operation, h.perform operation) :: (h.perform operation).after.history operations := rfl

theorem lastOf?_cons {α : Type} (value? : Operation → Option α) (operation : Operation) (step : Step)
    (history : List (Operation × Step)) :
    lastOf? value? ((operation, step) :: history) =
      (lastOf? value? history).or (if step.succeeded then value? operation else none) := by
  rw [lastOf?, List.reverse_cons, List.findSome?_append, List.findSome?_singleton]
  rfl

theorem sources_after (h : Highlighter) (operations : List Operation) :
    (h.after operations).themes = h.themes ∧ (h.after operations).fonts = h.fonts := by
  induction operations generalizing h with
  | nil => exact ⟨rfl, rfl⟩
  | cons operation operations ih =>
    obtain ⟨hthemes, hfonts⟩ := h.sources_perform operation
    rw [after_cons, (ih _).1, (ih _).2]
    exact ⟨hthemes, hfonts⟩

theorem inSync_after {h : Highlighter} (hsync : h.InSync) (operations : List Operation) :
    (h.after operations).InSync := by
  induction operations generalizing h with
  | nil => exact hsync
  | cons operation operations ih => exact ih (inSync_perform hsync operation)

theorem config_after (h : Highlighter) (operations : List Operation) :
    (h.after operations).config.theme = (lastOf? Operation.theme? (h.history operations)).getD h.config.theme ∧
      (h.after operations).config.font = (lastOf? Operation.font? (h.history operations)).or h.config.font := by
  induction operations generalizing h with
  | nil => exact ⟨rfl, rfl⟩
  | cons operation operations ih =>
    obtain ⟨hname, hfont⟩ := ih (h.perform operation).after
    obtain ⟨hname', hfont'⟩ := h.config_perform operation
    rw [after_cons, history_cons, lastOf?_cons, lastOf?_cons, hname, hfont, hname', hfont', Option.or_assoc,
      Option.getD_or]
    exact ⟨rfl, rfl⟩

private theorem of_create {tokenizer : Tokenizer} {themes : ThemeSource} {fonts : FontProvider} {config : Config}
    {h : Highlighter} (hcreate : create tokenizer themes fonts config = .ok h) :
    h.InSync ∧ h.themes = themes ∧ h.fonts = fonts ∧ h.config = config := by
  unfold create at hcreate
  cases hbuild : themes.build fonts config.theme config.font with
  | error e => rw [hbuild] at hcreate; contradiction
  | ok theme =>
    rw [hbuild] at hcreate
    obtain rfl := Except.ok.inj hcreate
    exact ⟨hbuild, rfl, rfl, rfl⟩

/-- However many operations are carried out or fail, and whenever the font provider answers, the theme in force is
the one built for the name and the font of the configuration with all the fonts of the provider.  They are the last
ones that an operation was carried out with, or else those of the beginning.  So two highlighters with the same
sources that end with the same name and font have the same theme. -/
theorem theme_after {tokenizer : Tokenizer} {themes : ThemeSource} {fonts : FontProvider} {config : Config}
    {h : Highlighter} (hcreate : create tokenizer themes fonts config = .ok h) (operations : List Operation) :
    (∃ source, themes.load? (h.after operations).config.theme = some source ∧
        Theme.build (h.after operations).config.theme source (h.after operations).config.font fonts =
          .ok (h.after operations).theme) ∧
      (h.after operations).config.theme = (lastOf? Operation.theme? (h.history operations)).getD config.theme ∧
      (h.after operations).config.font = (lastOf? Operation.font? (h.history operations)).or config.font ∧
      ∀ (tokenizer' : Tokenizer) (config' : Config) (h' : Highlighter) (operations' : List Operation),
        create tokenizer' themes fonts config' = .ok h' →
        (h'.after operations').config.theme = (h.after operations).config.theme →
        (h'.after operations').config.font = (h.after operations).config.font →
        (h'.after operations').theme = (h.after operations).theme := by
  obtain ⟨hsync, rfl, rfl, rfl⟩ := of_create hcreate
  obtain ⟨hthemes, hfonts⟩ := h.sources_after operations
  have hafter := inSync_after hsync operations
  unfold InSync at hafter
  rw [hthemes, hfonts] at hafter
  obtain ⟨hname, hfont⟩ := h.config_after operations
  refine ⟨ThemeSource.build_eq_ok_iff.1 hafter, hname, hfont, ?_⟩
  intro tokenizer' config' h' operations' hcreate' hname' hfont'
  obtain ⟨hsync', hthemes', hfonts', -⟩ := of_create hcreate'
  have hafter' := inSync_after hsync' operations'
  unfold InSync at hafter'
  rw [(h'.sources_after operations').1, (h'.sources_after operations').2, hthemes', hfonts', hname', hfont',
    hafter] at hafter'
  exact (Except.ok.inj hafter').symm

/-- A theme that is not there and a font asked for while the provider is silent leave nothing behind; the last name
and the last font that could be had decide the theme. -/
theorem theme_after_failures :
    let themes : ThemeSource := .ofList [("light", ".hljs\x7bcolor:black\x7d"), ("dark", ".hljs\x7bcolor:white\x7d")]
    let fonts : FontProvider := .installed [(("mono", .regular), "mono"), (("mono", .bold), "mono")] none
    let operations : List Operation :=
      [.setTheme "missing", .switchFonts false, .setFont ⟨"mono", 9⟩, .setTheme "light", .switchFonts true,
        .setFont ⟨"mono", 20⟩, .setFont ⟨"serif", 7⟩, .setTheme "dark", .highlight "x" none]
    ∃ h, create .identity themes fonts { theme := "light", font := some ⟨"mono", 12⟩ } = .ok h ∧
      (h.after operations).config.theme = "dark" ∧ (h.after operations).config.font = some ⟨"mono", 20⟩ ∧
      Theme.build "dark" ".hljs\x7bcolor:white\x7d" (some ⟨"mono", 20⟩) fonts = .ok (h.after operations).theme := by
  intro themes fonts operations
  refine ⟨_, rfl, ?_⟩
  obtain ⟨⟨source, hsource, hbuild⟩, hname, hfont, -⟩ :=
    @theme_after .identity themes fonts { theme := "light", font := some ⟨"mono", 12⟩ } _ rfl operations
  have hdark := hname.trans (show _ = "dark" from rfl)
  have hlarge := hfont.trans (show _ = some (⟨"mono", 20⟩ : FontRequest) from rfl)
  rw [hdark] at hsource hbuild
  rw [hlarge] at hbuild
  obtain rfl : ".hljs\x7bcolor:white\x7d" = source := Option.some.inj hsource
  exact ⟨hdark, hlarge, hbuild⟩

/-! ### What the observers are told -/

/-- The messages that an operation gives rise to while there are some observers: those of the theme that it answers
with, if it asks for another theme or font. -/
def messagesOf (observers : Nat) (operation : Operation) (answer : Answer) : List (Nat × Theme) :=
  if operation.changesTheme then answer.theme?.elim [] (messages observers) else []

private theorem told_perform (h : Highlighter) (operation : Operation) :
    (h.perform operation).told = messagesOf h.observers operation (h.perform operation).answer ∧
      (h.perform operation).after.observers = h.observers + if operation.isObserve then 1 else 0 := by
  unfold messagesOf
  cases hop : operation.changesTheme with
  | true =>
    have hobserve : operation.isObserve = false := by
      cases operation with
      | observe => contradiction
      | _ => rfl
    rw [hobserve]
    rcases perform_change (h := h) hop with ⟨e, hstep⟩ | ⟨theme, hstep⟩
    · rw [hstep]
      exact ⟨rfl, rfl⟩
    · rw [hstep]
      refine ⟨?_, rfl⟩
      rw [if_pos rfl, Step.told, List.filterMap_map]
      exact List.filterMap_some
  | false =>
    obtain ⟨htold, -, -, -, hobservers⟩ := perform_other (h := h) hop
    exact ⟨htold, hobservers⟩

private theorem flatMap_told_run (h : Highlighter) (operations : List Operation) :
    (h.run operations).flatMap Step.told =
      (h.history operations).zipIdx.flatMap fun ((operation, step), index) =>
        messagesOf (h.observers + (operations.take index).countP Operation.isObserve) operation step.answer := by
  induction operations generalizing h with
  | nil => rfl
  | cons operation operations ih =>
    obtain ⟨htold, hobservers⟩ := h.told_perform operation
    have hadded : ∀ index, h.observers + ((operation :: operations).take (index + 1)).countP Operation.isObserve =
        (h.perform operation).after.observers + (operations.take index).countP Operation.isObserve := by
      intro index
      rw [List.take_succ_cons, List.countP_cons, hobservers]
      omega
    rw [run, List.flatMap_cons, ih, htold, history_cons, List.zipIdx_cons, List.flatMap_cons, List.zipIdx_succ,
      List.flatMap_map]
    simp only [hadded]
    rfl

/-- A change of the theme either fails, and everything is as before and nobody is told, or it takes effect with all
that it asks for and nothing else, and each observer is told the new theme once.  Over all operations the observers
are told the themes of the changes that took effect, in their order, each as many times as observers had been added
before. -/
theorem told_run (h : Highlighter) :
    (∀ operation : Operation, operation.changesTheme = true →
      (∃ e, h.perform operation = ⟨.failure e, [], h⟩) ∨
        ∃ theme, h.perform operation =
          ⟨.theme theme, (messages h.observers theme).map fun m => .observed m.1 m.2,
            { h with config := h.requested operation, theme }⟩) ∧
      ∀ operations : List Operation,
        (h.run operations).flatMap Step.told =
          (h.history operations).zipIdx.flatMap fun ((operation, step), index) =>
            messagesOf (h.observers + (operations.take index).countP Operation.isObserve) operation step.answer := by
  constructor
  · intro operation hop
    exact perform_change hop
  · exact h.flatMap_told_run

end Highlighter

end StyledCode
