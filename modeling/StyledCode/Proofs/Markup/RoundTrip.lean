import StyledCode.Proofs.Markup.Escape
import StyledCode.Proofs.Markup.TaggedRuns

/-!
# Trees through the markup

What a tokenizer writes for a tree is decoded into the texts of the tree.

* `Node.labelledList` : the texts of nodes, each with the names of the classes around it
* `Node.WellFormedList` : the nodes that markup can carry
* `Node.tokensList` : the tokens that nodes are written as
* `decode_htmlList` : decoding gives the texts of the nodes, each in the style of the classes around it
-/

namespace StyledCode.Markup

open Text

namespace Node

mutual

/-- The texts of a node inside classes, each with the names of all classes around it, outermost first. -/
def labelled (names : List String) : Node → List (String × List String)
  | text content => [(content, names)]
  | span classes children => labelledList (names ++ Scopes.classNames classes) children

/-- The texts of nodes inside classes, each with the names of all classes around it, outermost first. -/
def labelledList (names : List String) : List Node → List (String × List String)
  | [] => []
  | node :: nodes => node.labelled names ++ labelledList names nodes

end

/-- Whether a node is a text. -/
def isText : Node → Bool
  | text _ => true
  | span _ _ => false

mutual

/-- Whether markup can carry a node: its texts are not empty and do not stand side by side, and no class attribute
contains the characters that end it. -/
def WellFormed : Node → Prop
  | text content => content ≠ ""
  | span classes children => ¬ Token.openEnd <:+: classes.toList ∧ WellFormedList children

/-- Whether markup can carry nodes. -/
def WellFormedList : List Node → Prop
  | [] => True
  | node :: nodes =>
    node.WellFormed ∧ (node.isText = true → ∀ next ∈ nodes.head?, next.isText = false) ∧ WellFormedList nodes

end

mutual

instance decidableWellFormed : (node : Node) → Decidable node.WellFormed
  | text content => inferInstanceAs (Decidable (content ≠ ""))
  | span classes children =>
    letI := decidableWellFormedList children
    inferInstanceAs (Decidable (¬ Token.openEnd <:+: classes.toList ∧ WellFormedList children))

instance decidableWellFormedList : (nodes : List Node) → Decidable (WellFormedList nodes)
  | [] => .isTrue trivial
  | node :: nodes =>
    letI := node.decidableWellFormed
    letI := decidableWellFormedList nodes
    inferInstanceAs (Decidable (node.WellFormed ∧
      (node.isText = true → ∀ next ∈ nodes.head?, next.isText = false) ∧ WellFormedList nodes))

end

mutual

/-- The tokens that a node is written as. -/
def tokens : Node → List Token
  | text content => [.text (content.toList.flatMap escapeChar)]
  | span classes children => .opening classes.toList :: (tokensList children ++ [.closing])

/-- The tokens that nodes are written as. -/
def tokensList : List Node → List Token
  | [] => []
  | node :: nodes => node.tokens ++ tokensList nodes

end

/-- A property of nodes holds if it passes from the nodes behind a text, and from the nodes in and behind a span. -/
@[elab_as_elim]
theorem list_induction {motive : List Node → Prop} (nil : motive [])
    (text : ∀ content nodes, motive nodes → motive (.text content :: nodes))
    (span : ∀ classes children nodes, motive children → motive nodes → motive (.span classes children :: nodes)) :
    ∀ nodes, motive nodes
  | [] => nil
  | .text content :: nodes => text content nodes (list_induction nil text span nodes)
  | .span classes children :: nodes =>
    span classes children nodes (list_induction nil text span children) (list_induction nil text span nodes)

/-! ### The tokens of nodes -/

private theorem tokensList_span (classes : String) (children nodes : List Node) :
    tokensList (span classes children :: nodes) =
      .opening classes.toList :: (tokensList children ++ .closing :: tokensList nodes) := by
  rw [tokensList, tokens, List.cons_append, List.append_assoc]
  rfl

private theorem html_span (classes : String) (children : List Node) :
    (span classes children).html = "<span class=\"" ++ classes ++ "\">" ++ htmlList children ++ "</span>" := rfl

/-- Nodes are written as their tokens. -/
theorem toList_htmlList (nodes : List Node) : (htmlList nodes).toList = Token.sourceOf (tokensList nodes) := by
  induction nodes using list_induction with
  | nil => rfl
  | text content nodes ih =>
    have htext : (text content).html.toList = content.toList.flatMap escapeChar := String.toList_ofList
    rw [htmlList, String.toList_append, ih, htext]
    rfl
  | span classes children nodes ihc ih =>
    rw [tokensList_span, Token.sourceOf_cons, Token.sourceOf_append, Token.sourceOf_cons, htmlList, html_span]
    have hopening : (Token.opening classes.toList).source =
        "<span class=\"".toList ++ classes.toList ++ "\">".toList := rfl
    have hclosing : Token.closing.source = "</span>".toList := rfl
    simp only [hopening, hclosing, String.toList_append, ih, ihc, List.append_assoc]

/-- A class attribute that does not contain the characters that end it reaches up to them. -/
private theorem firstCut_openEnd {classes : List Char} (h : ¬ Token.openEnd <:+: classes) (rest : List Char) :
    FirstCut Token.openEnd (classes ++ Token.openEnd ++ rest) classes rest :=
  firstCut_pair (by decide) h rest

private theorem head?_sourceOf_tokensList {nodes : List Node} {rest : List Char}
    (h : ∀ next ∈ nodes.head?, next.isText = false) (hrest : ∀ c ∈ rest.head?, c = '<') :
    ∀ c ∈ (Token.sourceOf (tokensList nodes) ++ rest).head?, c = '<' := by
  cases nodes with
  | nil => exact hrest
  | cons node nodes =>
    cases node with
    | text content => exact Bool.noConfusion (h _ rfl : true = false)
    | span classes children =>
      intro c hc
      exact (Option.some.inj hc).symm

/-- The tokens of nodes fit one after the other, in front of markup or of nothing. -/
theorem chain_tokensList {nodes : List Node} (h : WellFormedList nodes) {rest : List Char}
    (hrest : ∀ c ∈ rest.head?, c = '<') : Token.Chain rest (tokensList nodes) := by
  induction nodes using list_induction generalizing rest with
  | nil => trivial
  | text content nodes ih =>
    obtain ⟨hne, hnext, h⟩ := h
    refine ⟨⟨?_, bracket_not_mem_escaped _, ?_⟩, ih h hrest⟩
    · exact escaped_ne_nil (mt String.toList_eq_nil_iff.1 hne)
    · exact head?_sourceOf_tokensList (hnext rfl) hrest
  | span classes children nodes ihc ih =>
    obtain ⟨⟨hclasses, hchildren⟩, -, h⟩ := h
    rw [tokensList_span]
    refine ⟨firstCut_openEnd hclasses _, Token.chain_append.2 ⟨ihc hchildren ?_, trivial, ih h hrest⟩⟩
    intro c hc
    exact (Option.some.inj hc).symm

/-! ### The runs of nodes -/

private theorem foldl_tagsAfter_tokensList (nodes : List Node) (tags : List String) :
    (tokensList nodes).foldl Token.tagsAfter tags = tags := by
  induction nodes using list_induction generalizing tags with
  | nil => rfl
  | text content nodes ih => exact ih tags
  | span classes children nodes ihc ih =>
    rw [tokensList_span, List.foldl_cons, List.foldl_append, ihc, List.foldl_cons]
    exact ih tags

/-- Behind nodes the same tags are open as in front of them. -/
theorem openTags_append_tokensList (before : List Token) (nodes : List Node) :
    openTags (before ++ tokensList nodes) = openTags before := by
  rw [openTags_append, foldl_tagsAfter_tokensList]

/-- The runs of nodes are their texts, escaped, each in the style of the classes around it. -/
theorem taggedRuns_tokensList (theme : Theme) (before : List Token) (nodes : List Node) :
    taggedRuns theme before (tokensList nodes) =
      ((labelledList (namesInside (openTags before)) nodes).map fun (content, names) =>
        ⟨content, theme.styleFor names⟩).map escapedRun := by
  induction nodes using list_induction generalizing before with
  | nil => rfl
  | text content nodes ih =>
    have hopen : ∀ characters, openTags (before ++ [.text characters]) = openTags before :=
      fun characters => openTags_append_singleton before _
    have ih := ih (before ++ [.text (content.toList.flatMap escapeChar)])
    rw [hopen] at ih
    rw [tokensList, tokens, List.singleton_append, taggedRuns, ih]
    rfl
  | span classes children nodes ihc ih =>
    have hopen : openTags (before ++ [.opening classes.toList]) = classes :: openTags before := by
      rw [openTags_append_singleton, Token.tagsAfter, String.ofList_toList]
    -- the children close every tag they open, so the closing tag closes this one
    have hclose : openTags (before ++ [.opening classes.toList] ++ tokensList children ++ [.closing]) =
        openTags before := by
      rw [openTags_append_singleton, openTags_append_tokensList, hopen]
      rfl
    rw [tokensList_span, taggedRuns, taggedRuns_append, ihc, hopen, taggedRuns, ih, hclose, namesInside_cons,
      labelledList, labelled, List.map_append, List.map_append]
    rfl

private theorem content_ne_of_mem_labelledList {nodes : List Node} (h : WellFormedList nodes)
    {names : List String} : ∀ entry ∈ labelledList names nodes, entry.1 ≠ "" := by
  induction nodes using list_induction generalizing names with
  | nil => intro entry hentry; contradiction
  | text content nodes ih =>
    obtain ⟨hne, -, h⟩ := h
    rw [labelledList, labelled, List.singleton_append, List.forall_mem_cons]
    exact ⟨hne, ih h⟩
  | span classes children nodes ihc ih =>
    obtain ⟨⟨-, hchildren⟩, -, h⟩ := h
    rw [labelledList, labelled, List.forall_mem_append]
    exact ⟨ihc hchildren, ih h⟩

end Node

/-- Decoding what a tokenizer writes for nodes gives one run for each text, in the order of the nodes: the text as it
was before it was escaped, in the style of the base class and of the classes around it, outermost first. -/
theorem decode_htmlList (theme : Theme) {nodes : List Node} (h : Node.WellFormedList nodes) :
    decode theme (Node.htmlList nodes) =
      (Node.labelledList [baseClass] nodes).map fun (content, names) => ⟨content, theme.styleFor names⟩ := by
  have hchain : Token.Chain [] (Node.tokensList nodes) :=
    Node.chain_tokensList h fun c hc => nomatch hc
  have hne : ∀ run ∈ (Node.labelledList [baseClass] nodes).map fun (content, names) =>
      (⟨content, theme.styleFor names⟩ : Run), run.text ≠ "" := by
    intro run hrun
    obtain ⟨entry, hentry, rfl⟩ := List.mem_map.1 hrun
    exact Node.content_ne_of_mem_labelledList h entry hentry
  rw [decode, Node.toList_htmlList, Token.scan_sourceOf hchain, rawRuns_eq_taggedRuns theme hchain,
    Node.taggedRuns_tokensList]
  exact expand_map_escapedRun hne

/-- Text that looks like a reference or a tag comes back as it was, also where two texts would make a reference
together, and so do class attributes that end in a quotation mark. -/
theorem decode_htmlList_nested :
    let regular : Font := ⟨"courier", .regular, 14⟩
    let bold : Font := ⟨"courier", .bold, 14⟩
    let theme : Theme := ⟨"plain", ⟨regular, bold, regular⟩, .white,
      [("hljs", { foreground := some .black }), ("keyword", { variant := some .bold }),
        ("a\"", { foreground := some .gray })], ""⟩
    let nodes : List Node :=
      [.span "keyword x" [.text "&lt;", .span "" [], .span "a\"" [.text "'</span>\""], .text "&"], .text "amp;"]
    Node.WellFormedList nodes ∧ decode theme (Node.htmlList nodes) =
      [⟨"&lt;", ⟨bold, some .black, none⟩⟩, ⟨"'</span>\"", ⟨bold, some .gray, none⟩⟩,
        ⟨"&", ⟨bold, some .black, none⟩⟩, ⟨"amp;", ⟨regular, some .black, none⟩⟩] :=
  ⟨by decide, (decode_htmlList _ (by decide)).trans rfl⟩

end StyledCode.Markup
