import StyledCode.Proofs.Highlighter.Changes

/-!
# Calls of the collaborators

What a highlighter asks of its tokenizer and its renderer over any operations, under which settings, and what it
answers when one of them fails.

* `Highlighter.InForce` : the settings in force, each the last one that was made
* `Highlighter.inForce_after` : the settings behind any operations
* `Highlighter.documents`, `Highlighter.perform_request` : what the renderer is given when code is highlighted, and
  everything else that comes of it
* `Highlighter.Answers` : the answers to code that is highlighted, in the order in which it fails
* `Highlighter.calls_run` : the calls and answers over any operations
-/

namespace StyledCode

/-! ### What operations ask for, and what is asked of others -/

namespace Operation

def ignoreIllegals? : Operation → Option Bool
  | setIgnoreIllegals on => some on
  | _ => none

def fastRender? : Operation → Option Bool
  | setFastRender on => some on
  | _ => none

def numbering? : Operation → Option (Option Numbering)
  | setNumbering numbering => some numbering
  | _ => none

def renderer? : Operation → Option (Option Renderer)
  | install renderer => some (some renderer)
  | _ => none

/-- The code to be highlighted and its language, if an operation asks for that. -/
def request? : Operation → Option (String × Option String)
  | highlight code language => some (code, language)
  | highlightNumbered code language _ => some (code, language)
  | _ => none

/-- How the lines of the code are numbered that an operation asks to highlight. -/
def numberingOr (configured : Option Numbering) : Operation → Option Numbering
  | highlight _ _ => configured
  | highlightNumbered _ _ numbering => numbering
  | _ => none

end Operation

/-- A call of the tokenizer: the code, the language, and the wish to go on behind text it cannot understand. -/
def Event.call? : Event → Option (String × Option String × Bool)
  | tokenized code language ignoreIllegals => some (code, language, ignoreIllegals)
  | _ => none

/-- The document of a call of the renderer. -/
def Event.document? : Event → Option String
  | rendered document => some document
  | _ => none

def Step.calls (step : Step) : List (String × Option String × Bool) := step.events.filterMap Event.call?

def Step.documents (step : Step) : List String := step.events.filterMap Event.document?

/-- The markup that a tokenizer answers, if it is not the signal for no output. -/
def Tokenizer.produced? (tokenizer : Tokenizer) (code : String) (language : Option String) (ignoreIllegals : Bool) :
    Option String :=
  (tokenizer.tokenize code language ignoreIllegals).toOption.filter (· != noOutput)

namespace Highlighter

/-! ### Settings in force -/

/-- The last value that the steps of a history give. -/
def latest? {α : Type} (value? : Operation × Step → Option α) (history : List (Operation × Step)) : Option α :=
  history.reverse.findSome? value?

private theorem get_after {α : Type} (get : Highlighter → α) (value? : Operation × Step → Option α)
    (hstep : ∀ h operation, get (h.perform operation).after = (value? (operation, h.perform operation)).getD (get h))
    (h : Highlighter) (operations : List Operation) :
    get (h.after operations) = (latest? value? (h.history operations)).getD (get h) := by
  induction operations generalizing h with
  | nil => rfl
  | cons operation operations ih =>
    rw [after_cons, history_cons, ih, hstep, latest?, latest?, List.reverse_cons, List.findSome?_append,
      List.findSome?_singleton, Option.getD_or]

/-- The settings of a highlighter after others have been made: of each kind the last one, or else the first. -/
structure InForce (first : Highlighter) (history : List (Operation × Step)) (h : Highlighter) : Prop where
  tokenizer : h.tokenizer = first.tokenizer
  ignoreIllegals : h.config.ignoreIllegals =
    (latest? (fun step => step.1.ignoreIllegals?) history).getD first.config.ignoreIllegals
  fastRender : h.config.fastRender = (latest? (fun step => step.1.fastRender?) history).getD first.config.fastRender
  numbering : h.config.numbering = (latest? (fun step => step.1.numbering?) history).getD first.config.numbering
  renderer : h.renderer = (latest? (fun step => step.1.renderer?) history).getD first.renderer
  theme : h.theme = (latest? (fun step => step.2.answer.theme?) history).getD first.theme

/-! ### One request -/

/-- The documents that the renderer is given when code is highlighted: one if the tokenizer has produced markup which
is to be rendered, and there is a renderer. -/
def documents (h : Highlighter) (code : String) (language : Option String) : List String :=
  if h.config.fastRender = false ∧ h.renderer.isSome then
    ((h.tokenizer.produced? code language h.config.ignoreIllegals).map (Markup.document h.theme)).toList
  else []

private theorem checked_of_produced? {tokenizer : Tokenizer} {code : String} {language : Option String} {on : Bool}
    {html : String} (h : tokenizer.produced? code language on = some html) :
    tokenizer.checked code language on = .ok html := by
  unfold Tokenizer.produced? at h
  unfold Tokenizer.checked
  cases htokenize : tokenizer.tokenize code language on with
  | error e =>
    rw [htokenize] at h
    contradiction
  | ok html' =>
    rw [htokenize] at h
    obtain ⟨hhtml, hne⟩ := Option.filter_eq_some_iff.1 h
    obtain rfl := Option.some.inj hhtml
    have hne : html' ≠ Tokenizer.noOutput := by simpa using hne
    exact if_neg hne

private theorem checked_of_produced?_eq_none {tokenizer : Tokenizer} {code : String} {language : Option String}
    {on : Bool} (h : tokenizer.produced? code language on = none) :
    (∃ e, tokenizer.tokenize code language on = .error e ∧ tokenizer.checked code language on = .error e) ∨
      tokenizer.tokenize code language on = .ok Tokenizer.noOutput ∧
        tokenizer.checked code language on =
          .error (.failed ("no output for language " ++ language.getD "(auto)")) := by
  unfold Tokenizer.produced? at h
  unfold Tokenizer.checked
  cases htokenize : tokenizer.tokenize code language on with
  | error e => exact .inl ⟨e, rfl, rfl⟩
  | ok html =>
    rw [htokenize] at h
    obtain rfl : html = Tokenizer.noOutput := by simpa [Except.toOption] using h
    exact .inr ⟨rfl, rfl⟩

private theorem events_highlight (h : Highlighter) (code : String) (language : Option String) :
    (h.highlight code language).2 =
      .tokenized code language h.config.ignoreIllegals :: (h.documents code language).map .rendered := by
  unfold highlight documents
  cases hproduced : h.tokenizer.produced? code language h.config.ignoreIllegals with
  | none =>
    rcases checked_of_produced?_eq_none hproduced with ⟨e, -, hchecked⟩ | ⟨-, hchecked⟩ <;>
    · rw [hchecked]
      simp
  | some html =>
    rw [checked_of_produced? hproduced]
    unfold decode
    cases h.config.fastRender with
    | true => rfl
    | false => cases h.renderer <;> rfl

/-- What is answered when code is highlighted: the failure of the tokenizer, whatever there is to render with, and
only where it has produced markup, that of the renderer, or else runs. -/
inductive Answers (h : Highlighter) (code : String) (language : Option String) (numbering : Option Numbering) :
    Answer → Prop
  | refused {e : TokenizeError} : h.tokenizer.tokenize code language h.config.ignoreIllegals = .error e →
      Answers h code language numbering (.failure (.ofTokenize language e))
  | noOutput : h.tokenizer.tokenize code language h.config.ignoreIllegals = .ok Tokenizer.noOutput →
      Answers h code language numbering
        (.failure (.tokenizer (language.getD "auto") ("no output for language " ++ language.getD "(auto)")))
  | decoded {html : String} : h.tokenizer.produced? code language h.config.ignoreIllegals = some html →
      h.config.fastRender = true →
      Answers h code language numbering
        (.runs (numbering.elim (Markup.decode h.theme html) (·.number (Markup.decode h.theme html))))
  | noRenderer {html : String} : h.tokenizer.produced? code language h.config.ignoreIllegals = some html →
      h.config.fastRender = false → h.renderer = none →
      Answers h code language numbering (.failure .rendererUnavailable)
  | notRendered {html : String} {render : Renderer} :
      h.tokenizer.produced? code language h.config.ignoreIllegals = some html →
      h.config.fastRender = false → h.renderer = some render → render (Markup.document h.theme html) = none →
      Answers h code language numbering (.failure .renderFailed)
  | rendered {html : String} {render : Renderer} {runs : List Run} :
      h.tokenizer.produced? code language h.config.ignoreIllegals = some html →
      h.config.fastRender = false → h.renderer = some render → render (Markup.document h.theme html) = some runs →
      Answers h code language numbering (.runs (numbering.elim runs (·.number runs)))

/-- The answer that a result gives. -/
def answerOf (numbering : Option Numbering) : Except Error (List Run) → Answer
  | .error e => .failure e
  | .ok runs => .runs (numbering.elim runs (·.number runs))

theorem highlightNumbered_eq (h : Highlighter) (code : String) (language : Option String)
    (numbering : Option Numbering) :
    h.highlightNumbered code language numbering =
      ⟨answerOf numbering (h.highlight code language).1, (h.highlight code language).2, h⟩ := by
  rw [highlightNumbered]
  split
  rename_i result events hresult
  rw [hresult]
  cases result <;> rfl

private theorem highlight_of_produced? {h : Highlighter} {code : String} {language : Option String} {html : String}
    (hproduced : h.tokenizer.produced? code language h.config.ignoreIllegals = some html) :
    (h.highlight code language).1 = (h.decode html).1 := by
  unfold highlight
  rw [checked_of_produced? hproduced]

private theorem highlight_of_checked {h : Highlighter} {code : String} {language : Option String} {e : TokenizeError}
    (hchecked : h.tokenizer.checked code language h.config.ignoreIllegals = .error e) :
    (h.highlight code language).1 = .error (.ofTokenize language e) := by
  unfold highlight
  rw [hchecked]

private theorem answers_highlight (h : Highlighter) (code : String) (language : Option String)
    (numbering : Option Numbering) :
    Answers h code language numbering (answerOf numbering (h.highlight code language).1) := by
  cases hproduced : h.tokenizer.produced? code language h.config.ignoreIllegals with
  | none =>
    rcases checked_of_produced?_eq_none hproduced with ⟨e, htokenize, hchecked⟩ | ⟨htokenize, hchecked⟩
    · rw [highlight_of_checked hchecked]
      exact .refused htokenize
    · rw [highlight_of_checked hchecked]
      exact .noOutput htokenize
  | some html =>
    rw [highlight_of_produced? hproduced, decode]
    cases hfast : h.config.fastRender with
    | true => exact .decoded hproduced hfast
    | false =>
      cases hrenderer : h.renderer with
      | none => exact .noRenderer hproduced hfast hrenderer
      | some render =>
        cases hrender : render (Markup.document h.theme html) with
        | none =>
          simp only [hrender]
          exact .notRendered hproduced hfast hrenderer hrender
        | some runs =>
          simp only [hrender]
          exact .rendered hproduced hfast hrenderer hrender

/-- An operation that asks to highlight leaves the highlighter as it is, and calls the tokenizer once. -/
theorem perform_request {h : Highlighter} {operation : Operation} {code : String} {language : Option String}
    (hrequest : operation.request? = some (code, language)) :
    (h.perform operation).after = h ∧
      (h.perform operation).calls = [(code, language, h.config.ignoreIllegals)] ∧
      (h.perform operation).documents = h.documents code language ∧
      Answers h code language (operation.numberingOr h.config.numbering) (h.perform operation).answer := by
  have hstep : h.perform operation =
      h.highlightNumbered code language (operation.numberingOr h.config.numbering) := by
    cases operation with
    | highlight code' language' =>
      obtain ⟨rfl, rfl⟩ := Prod.mk.inj (Option.some.inj hrequest)
      rfl
    | highlightNumbered code' language' numbering =>
      obtain ⟨rfl, rfl⟩ := Prod.mk.inj (Option.some.inj hrequest)
      rfl
    | _ => contradiction
  have hcalls : ∀ documents : List String, (documents.map Event.rendered).filterMap Event.call? = [] := by
    intro documents
    rw [List.filterMap_map, List.filterMap_eq_nil_iff]
    exact fun document _ => rfl
  have hdocuments : ∀ documents : List String,
      (documents.map Event.rendered).filterMap Event.document? = documents := by
    intro documents
    rw [List.filterMap_map]
    exact List.filterMap_some
  rw [hstep, highlightNumbered_eq]
  refine ⟨rfl, ?_, ?_, h.answers_highlight code language _⟩
  · rw [Step.calls, events_highlight, List.filterMap_cons, hcalls]
    rfl
  · rw [Step.documents, events_highlight, List.filterMap_cons, hdocuments]
    rfl

/-- No other operation calls the tokenizer or the renderer. -/
theorem perform_no_request {h : Highlighter} {operation : Operation} (hrequest : operation.request? = none) :
    (h.perform operation).calls = [] ∧ (h.perform operation).documents = [] := by
  cases hop : operation.changesTheme with
  | true =>
    rcases perform_change (h := h) hop with ⟨e, hstep⟩ | ⟨theme, hstep⟩
    · rw [hstep]
      exact ⟨rfl, rfl⟩
    · rw [hstep, Step.calls, Step.documents, List.filterMap_map, List.filterMap_map, List.filterMap_eq_nil_iff,
        List.filterMap_eq_nil_iff]
      exact ⟨fun _ _ => rfl, fun _ _ => rfl⟩
  | false =>
    cases operation with
    | setTheme name => contradiction
    | setThemeWithFont name font => contradiction
    | setFont font => contradiction
    | highlight code language => contradiction
    | highlightNumbered code language numbering => contradiction
    | _ => exact ⟨rfl, rfl⟩

/-! ### Many operations -/

private theorem settings_perform (h : Highlighter) (operation : Operation) :
    (h.perform operation).after.tokenizer = h.tokenizer ∧
      (h.perform operation).after.config.ignoreIllegals = operation.ignoreIllegals?.getD h.config.ignoreIllegals ∧
      (h.perform operation).after.config.fastRender = operation.fastRender?.getD h.config.fastRender ∧
      (h.perform operation).after.config.numbering = operation.numbering?.getD h.config.numbering ∧
      (h.perform operation).after.renderer = operation.renderer?.getD h.renderer ∧
      (h.perform operation).after.theme = (h.perform operation).answer.theme?.getD h.theme := by
  cases hop : operation.changesTheme with
  | true =>
    -- changes of the theme are no other settings
    have hnone : operation.ignoreIllegals? = none ∧ operation.fastRender? = none ∧ operation.numbering? = none ∧
        operation.renderer? = none := by
      cases operation with
      | setTheme name => exact ⟨rfl, rfl, rfl, rfl⟩
      | setThemeWithFont name font => exact ⟨rfl, rfl, rfl, rfl⟩
      | setFont font => exact ⟨rfl, rfl, rfl, rfl⟩
      | _ => contradiction
    obtain ⟨hignore, hfast, hnumbering, hrenderer⟩ := hnone
    rw [hignore, hfast, hnumbering, hrenderer]
    rcases perform_change (h := h) hop with ⟨e, hstep⟩ | ⟨theme, hstep⟩ <;> rw [hstep] <;>
      exact ⟨rfl, rfl, rfl, rfl, rfl, rfl⟩
  | false =>
    -- code that is highlighted changes nothing, and its answer is no theme
    have hrequest : ∀ code language, operation.request? = some (code, language) →
        (h.perform operation).after = h ∧ (h.perform operation).answer.theme? = none := by
      intro code language hrequest
      obtain ⟨hafter, -, -, hanswers⟩ := perform_request (h := h) hrequest
      refine ⟨hafter, ?_⟩
      generalize (h.perform operation).answer = answer at hanswers
      cases hanswers <;> rfl
    cases operation with
    | setTheme name => contradiction
    | setThemeWithFont name font => contradiction
    | setFont font => contradiction
    | highlight code language =>
      obtain ⟨hafter, htheme⟩ := hrequest code language rfl
      rw [hafter, htheme]
      exact ⟨rfl, rfl, rfl, rfl, rfl, rfl⟩
    | highlightNumbered code language numbering =>
      obtain ⟨hafter, htheme⟩ := hrequest code language rfl
      rw [hafter, htheme]
      exact ⟨rfl, rfl, rfl, rfl, rfl, rfl⟩
    | _ => exact ⟨rfl, rfl, rfl, rfl, rfl, rfl⟩

/-- The settings behind any operations are the last ones that were made. -/
theorem inForce_after (h : Highlighter) (operations : List Operation) :
    InForce h (h.history operations) (h.after operations) where
  tokenizer := by
    induction operations generalizing h with
    | nil => rfl
    | cons operation operations ih => rw [after_cons, ih, (h.settings_perform operation).1]
  ignoreIllegals := get_after (·.config.ignoreIllegals) (fun step => step.1.ignoreIllegals?)
    (fun h operation => (h.settings_perform operation).2.1) h operations
  fastRender := get_after (·.config.fastRender) (fun step => step.1.fastRender?)
    (fun h operation => (h.settings_perform operation).2.2.1) h operations
  numbering := get_after (·.config.numbering) (fun step => step.1.numbering?)
    (fun h operation => (h.settings_perform operation).2.2.2.1) h operations
  renderer := get_after (·.renderer) (fun step => step.1.renderer?)
    (fun h operation => (h.settings_perform operation).2.2.2.2.1) h operations
  theme := get_after (·.theme) (fun step => step.2.answer.theme?)
    (fun h operation => (h.settings_perform operation).2.2.2.2.2) h operations

private theorem getElem?_run (h : Highlighter) (operations : List Operation) (index : Nat) :
    (h.run operations)[index]? = operations[index]?.map (h.after (operations.take index)).perform := by
  induction operations generalizing h index with
  | nil => rfl
  | cons operation operations ih =>
    cases index with
    | zero => rfl
    | succ index =>
      rw [run, List.getElem?_cons_succ, List.getElem?_cons_succ, ih]
      rfl

/-- Numbers are put in front of the lines of a result, and of nothing else. -/
private theorem answerOf_some (numbering : Numbering) (result : Except Error (List Run)) :
    (∀ e, answerOf (some numbering) result = .failure e ↔ answerOf none result = .failure e) ∧
      ∀ runs, answerOf none result = .runs runs →
        answerOf (some numbering) result = .runs (numbering.number runs) := by
  cases result with
  | error e => exact ⟨fun e' => Iff.rfl, fun runs hruns => by contradiction⟩
  | ok runs =>
    refine ⟨fun e => ⟨fun he => by contradiction, fun he => by contradiction⟩, fun runs' hruns => ?_⟩
    obtain rfl := Answer.runs.inj hruns
    rfl

/-- Over any operations, each one that asks to highlight changes nothing.  It calls the tokenizer once, with its own
code and language, and the renderer at most once, with a document in the theme in force; no other operation calls
either.  The settings in force are the last ones made before.  With numbering the answer is the one without, a failure
or else runs of which the lines are numbered, and the configured numbering is used as one that is given. -/
theorem calls_run (h : Highlighter) :
    (∀ operations index operation, operations[index]? = some operation →
      ∃ state step, state = h.after (operations.take index) ∧ InForce h (h.history (operations.take index)) state ∧
        (h.run operations)[index]? = some step ∧ step = state.perform operation ∧
        (operation.request? = none → step.calls = [] ∧ step.documents = []) ∧
        ∀ code language, operation.request? = some (code, language) →
          step.after = state ∧ step.calls = [(code, language, state.config.ignoreIllegals)] ∧
          step.documents = (if state.config.fastRender = false ∧ state.renderer.isSome then
            ((state.tokenizer.produced? code language state.config.ignoreIllegals).map
              (Markup.document state.theme)).toList else []) ∧
          Answers state code language (operation.numberingOr state.config.numbering) step.answer) ∧
      ∀ (code : String) (language : Option String) (numbering : Numbering),
        (∀ e, (h.perform (.highlightNumbered code language (some numbering))).answer = .failure e ↔
          (h.perform (.highlightNumbered code language none)).answer = .failure e) ∧
        (∀ runs, (h.perform (.highlightNumbered code language none)).answer = .runs runs →
          (h.perform (.highlightNumbered code language (some numbering))).answer = .runs (numbering.number runs)) ∧
        h.perform (.highlight code language) =
          h.perform (.highlightNumbered code language h.config.numbering) := by
  refine ⟨fun operations index operation hoperation => ?_, fun code language numbering => ?_⟩
  · have hstep := h.getElem?_run operations index
    rw [hoperation] at hstep
    exact ⟨_, _, rfl, h.inForce_after _, hstep, rfl, perform_no_request, fun code language => perform_request⟩
  · obtain ⟨hfailure, hruns⟩ := answerOf_some numbering (h.highlight code language).1
    rw [perform, perform, perform, highlightNumbered_eq, highlightNumbered_eq]
    exact ⟨hfailure, hruns, rfl⟩

end Highlighter

end StyledCode
