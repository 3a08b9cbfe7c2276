import StyledCode.Markup.Token
import StyledCode.Proofs.Text.Search

/-!
# The grammar of the markup

Every text is written by exactly one row of tokens that fit one after the other, and the scan finds it.

* `Token.Fits` : the texts in front of which a token may stand
* `Token.Chain` : tokens that fit one after the other
* `Token.next?_iff` : the first token of a text is the one that fits
* `Token.scan_eq_iff` : the tokens of a text are those that fit
-/

namespace StyledCode.Markup.Token

open Text

/-- The text that tokens are written as. -/
def sourceOf (tokens : List Token) : List Char := tokens.flatMap source

theorem sourceOf_cons (token : Token) (tokens : List Token) :
    sourceOf (token :: tokens) = token.source ++ sourceOf tokens := List.flatMap_cons

theorem sourceOf_append (tokens tokens' : List Token) :
    sourceOf (tokens ++ tokens') = sourceOf tokens ++ sourceOf tokens' := List.flatMap_append

/-- Whether a token may stand in front of a text. -/
def Fits (rest : List Char) : Token → Prop
  | text characters => characters ≠ [] ∧ '<' ∉ characters ∧ ∀ c ∈ rest.head?, c = '<'
  | opening classes => FirstCut openEnd (classes ++ openEnd ++ rest) classes rest
  | closing => True
  | bracket => ¬ openMark <+: rest ∧ ¬ closeMark <+: rest
  | unfinished classes => ¬ openEnd <:+: classes ∧ rest = []

/-- Whether tokens fit one after the other, the last of them in front of a text. -/
def Chain (rest : List Char) : List Token → Prop
  | [] => True
  | token :: tokens => token.Fits (sourceOf tokens ++ rest) ∧ Chain rest tokens

theorem chain_append {rest : List Char} {tokens tokens' : List Token} :
    Chain rest (tokens ++ tokens') ↔ Chain (sourceOf tokens' ++ rest) tokens ∧ Chain rest tokens' := by
  induction tokens with
  | nil => simp [Chain]
  | cons token tokens ih =>
    simp only [List.cons_append, Chain, ih, sourceOf_append, List.append_assoc, and_assoc]

/-! ### The first token -/

private theorem not_openMark_prefix_closeMark (rest : List Char) : ¬ openMark <+: closeMark ++ rest := by
  rintro ⟨more, hmore⟩
  have h : 's' = '/' := (List.cons.inj hmore).1
  exact absurd h (by decide)

private theorem afterBracket_opening {classes rest : List Char}
    (h : FirstCut openEnd (classes ++ openEnd ++ rest) classes rest) :
    afterBracket (openMark ++ classes ++ openEnd ++ rest) = (opening classes, rest) := by
  have hmark : behind? id openMark (openMark ++ classes ++ openEnd ++ rest) = some (classes ++ openEnd ++ rest) :=
    behind?_id_iff.2 (by simp only [List.append_assoc])
  simp only [afterBracket, hmark, cut?_id_iff.2 h]

private theorem afterBracket_unfinished {classes : List Char} (h : ¬ openEnd <:+: classes) :
    afterBracket (openMark ++ classes) = (unfinished classes, []) := by
  have hmark : behind? id openMark (openMark ++ classes) = some classes := behind?_id_iff.2 rfl
  have hcut : cut? id openEnd classes = none := cut?_eq_none_iff.2 (by rwa [List.map_id])
  simp only [afterBracket, hmark, hcut]

private theorem afterBracket_closing (rest : List Char) : afterBracket (closeMark ++ rest) = (closing, rest) := by
  have hopen : behind? id openMark (closeMark ++ rest) = none :=
    behind?_eq_none_iff.2 (by rw [List.map_id]; exact not_openMark_prefix_closeMark rest)
  have hclose : behind? id closeMark (closeMark ++ rest) = some rest := behind?_id_iff.2 rfl
  simp only [afterBracket, hopen, hclose]

private theorem afterBracket_bracket {rest : List Char} (hopen : ¬ openMark <+: rest)
    (hclose : ¬ closeMark <+: rest) : afterBracket rest = (bracket, rest) := by
  have hopen : behind? id openMark rest = none := behind?_eq_none_iff.2 (by rwa [List.map_id])
  have hclose : behind? id closeMark rest = none := behind?_eq_none_iff.2 (by rwa [List.map_id])
  simp only [afterBracket, hopen, hclose]

private theorem next?_text {characters rest : List Char} (hne : characters ≠ []) (hfree : '<' ∉ characters)
    (hrest : ∀ c ∈ rest.head?, c = '<') : next? (characters ++ rest) = some (text characters, rest) := by
  have hfront : ∀ c ∈ characters, (c != '<') = true := by
    intro c hc
    rw [bne_iff_ne]
    rintro rfl
    exact hfree hc
  have hstop : ∀ c ∈ rest.head?, (c != '<') = false := by
    intro c hc
    rw [hrest c hc, bne_self_eq_false]
  have hspan := span_append hfront hstop
  unfold next?
  split
  · rename_i h
    exact absurd (List.append_eq_nil_iff.1 h).1 hne
  · rename_i more h
    cases characters with
    | nil => exact absurd rfl hne
    | cons c characters =>
      obtain ⟨rfl, -⟩ := List.cons.inj h
      exact absurd List.mem_cons_self hfree
  · rw [hspan.1, hspan.2]

/-- A token that fits is the first token of the text. -/
theorem next?_of_fits {token : Token} {rest : List Char} (h : token.Fits rest) :
    next? (token.source ++ rest) = some (token, rest) := by
  cases token with
  | text characters => exact next?_text h.1 h.2.1 h.2.2
  | opening classes => exact congrArg some (afterBracket_opening h)
  | closing => exact congrArg some (afterBracket_closing rest)
  | bracket => exact congrArg some (afterBracket_bracket h.1 h.2)
  | unfinished classes =>
    obtain ⟨hclasses, rfl⟩ := h
    rw [List.append_nil]
    exact congrArg some (afterBracket_unfinished hclasses)

private theorem fits_afterBracket (rest : List Char) :
    (afterBracket rest).1.Fits (afterBracket rest).2 ∧
      '<' :: rest = (afterBracket rest).1.source ++ (afterBracket rest).2 := by
  unfold afterBracket
  split
  · rename_i tag hmark
    rw [behind?_id_iff] at hmark
    subst hmark
    split
    · rename_i classes rest hcut
      have hfirst := cut?_id_iff.1 hcut
      have htag := hfirst.eq
      subst htag
      exact ⟨hfirst, by simp [source]⟩
    · rename_i hcut
      rw [cut?_eq_none_iff, List.map_id] at hcut
      exact ⟨⟨hcut, rfl⟩, by simp [source]⟩
  · rename_i hopen
    rw [behind?_eq_none_iff, List.map_id] at hopen
    split
    · rename_i rest' hclose
      rw [behind?_id_iff] at hclose
      subst hclose
      exact ⟨trivial, rfl⟩
    · rename_i hclose
      rw [behind?_eq_none_iff, List.map_id] at hclose
      exact ⟨⟨hopen, hclose⟩, rfl⟩

private theorem fits_text {c : Char} {characters : List Char} (hc : c ≠ '<') :
    (text ((c :: characters).takeWhile (· != '<'))).Fits ((c :: characters).dropWhile (· != '<')) := by
  refine ⟨?_, ?_, ?_⟩
  · rw [List.takeWhile_cons_of_pos (by simpa using hc)]
    exact List.cons_ne_nil _ _
  · intro hmem
    simpa using List.all_eq_true.1 List.all_takeWhile _ hmem
  · intro d hd
    have hnot := List.head?_dropWhile_not (· != '<') (c :: characters)
    rw [Option.mem_def.1 hd] at hnot
    simpa using hnot

/-- The first token of a text is the one that fits in front of the rest. -/
theorem next?_iff {text rest : List Char} {token : Token} :
    next? text = some (token, rest) ↔ text = token.source ++ rest ∧ token.Fits rest := by
  constructor
  · intro h
    unfold next? at h
    split at h
    · contradiction
    · rename_i more
      obtain ⟨hfits, hsource⟩ := fits_afterBracket more
      rw [Option.some.injEq] at h
      rw [h] at hfits hsource
      exact ⟨hsource, hfits⟩
    · rename_i hempty hbracket
      simp only [Option.some.injEq, Prod.mk.injEq] at h
      obtain ⟨rfl, rfl⟩ := h
      cases text with
      | nil => exact absurd rfl hempty
      | cons c characters =>
        have hc : c ≠ '<' := by
          rintro rfl
          exact hbracket characters rfl
        exact ⟨by rw [source, List.takeWhile_append_dropWhile], fits_text hc⟩
  · rintro ⟨rfl, h⟩
    exact next?_of_fits h

/-! ### All tokens -/

private theorem scanFrom_done (done : List Token) (text : List Char) :
    scanFrom done text = done.reverse ++ scan text := by
  unfold scan
  cases hnext : next? text with
  | none =>
    rw [scanFrom, scanFrom]
    split
    · simp
    · simp_all
  | some next =>
    have := length_lt_of_next? hnext
    rw [scanFrom, scanFrom]
    split
    · simp_all
    · rename_i token rest hsome
      obtain rfl : next = (token, rest) := Option.some.inj (hnext.symm.trans hsome)
      rw [scanFrom_done, scanFrom_done [token]]
      simp
termination_by text.length

theorem scan_of_some {text rest : List Char} {token : Token} (h : next? text = some (token, rest)) :
    scan text = token :: scan rest := by
  rw [scan, scanFrom]
  split
  · simp_all
  · rename_i token' rest' h'
    obtain ⟨rfl, rfl⟩ := Prod.mk.inj (Option.some.inj (h.symm.trans h'))
    exact scanFrom_done [token] rest

theorem scan_nil : scan [] = [] := by
  rw [scan, scanFrom]
  rfl

private theorem next?_eq_none {text : List Char} (h : next? text = none) : text = [] := by
  unfold next? at h
  split at h
  · rfl
  · contradiction
  · contradiction

/-- The scan finds tokens that fit and that write the text. -/
theorem scan_spec (text : List Char) : sourceOf (scan text) = text ∧ Chain [] (scan text) := by
  cases hnext : next? text with
  | none =>
    rw [next?_eq_none hnext, scan_nil]
    exact ⟨rfl, trivial⟩
  | some next =>
    obtain ⟨token, rest⟩ := next
    have := length_lt_of_next? hnext
    obtain ⟨hsource, hchain⟩ := scan_spec rest
    obtain ⟨htext, hfits⟩ := next?_iff.1 hnext
    rw [scan_of_some hnext, sourceOf_cons, hsource]
    refine ⟨htext.symm, ?_, hchain⟩
    rwa [hsource, List.append_nil]
termination_by text.length

/-- Tokens that fit are found again in the text they write. -/
theorem scan_sourceOf {tokens : List Token} (h : Chain [] tokens) : scan (sourceOf tokens) = tokens := by
  induction tokens with
  | nil => exact scan_nil
  | cons token tokens ih =>
    obtain ⟨hfits, hchain⟩ := h
    rw [List.append_nil] at hfits
    rw [sourceOf_cons, scan_of_some (next?_of_fits hfits), ih hchain]

end StyledCode.Markup.Token
