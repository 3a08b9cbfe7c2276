import StyledCode.Proofs.Stylesheet.WellFormed
import StyledCode.Proofs.Text.Offsets

/-!
# Stylesheets by byte offsets

A stylesheet can be scanned by offsets: from one brace to the next, and from each opening brace back over the bytes
of the class list in front of it, which are looked for in all that stands in front of the brace.

* `backOver?`, `Selector.trailing?` : the offset in front of bytes of a kind, and the class list at the end of a text
* `withoutComments?`, `Rule.scan?`, `ofTextAt?` : a stylesheet without its comments, its rules, and itself
* `Selector.trailing_append_cons` : no class list reaches over a brace
* `ofTextAt?_eq`, `ofTextAt?_wellFormed` : every part and byte that is asked for is there, and the stylesheet is right
-/

namespace StyledCode

open Text

/-! ### Walking back -/

/-- The offset in front of the bytes of a kind that stand in front of an offset. -/
def Text.backOver? (p : Char → Bool) (text : String) : Nat → Option Nat
  | 0 => some 0
  | offset + 1 => do if p (← byteAt? text offset) then backOver? p text offset else return offset + 1

theorem Text.le_of_backOver? {p : Char → Bool} {text : String} {offset start : Nat}
    (h : backOver? p text offset = some start) : start ≤ offset := by
  induction offset with
  | zero => exact Nat.le_of_eq (Option.some.inj h).symm
  | succ offset ih =>
    obtain ⟨c, -, h⟩ := Option.bind_eq_some_iff.1 h
    split at h
    · exact Nat.le_succ_of_le (ih h)
    · exact Nat.le_of_eq (Option.some.inj h).symm

/-- The last byte of a character is of a kind of ASCII characters exactly if the character is. -/
private theorem exists_lastByteAt? {text : String} {reversed rest : List Char} {c : Char}
    (h : text.toList = reversed.reverse ++ c :: rest) :
    ∃ i, byteSize (c :: reversed) = byteSize reversed + i + 1 ∧
      ∃ d, byteAt? text (byteSize reversed + i) = some d ∧ ∀ p : Char → Bool, IsAscii p → p d = p c := by
  have hpos := c.utf8Size_pos
  have hlast := exists_byteAt? h (i := c.utf8Size - 1) (by omega)
  rw [byteSize_reverse] at hlast
  refine ⟨c.utf8Size - 1, ?_, hlast⟩
  rw [byteSize_cons]
  omega

/-- The bytes of a kind are those of the characters of this kind. -/
theorem Text.backOver?_eq {p : Char → Bool} (hp : IsAscii p) {text : String} {reversed rest : List Char}
    (h : text.toList = reversed.reverse ++ rest) :
    backOver? p text (byteSize reversed) = some (byteSize (reversed.dropWhile p)) := by
  induction reversed generalizing rest with
  | nil => rfl
  | cons c reversed ih =>
    rw [List.reverse_cons, List.append_assoc] at h
    obtain ⟨i, hsize, d, hd, hkind⟩ := exists_lastByteAt? h
    rw [hsize, backOver?, hd, Option.bind_eq_bind, Option.bind_some, hkind p hp, List.dropWhile_cons]
    split
    · rename_i hc
      -- a character of the kind is a single byte
      have hone := hp.utf8Size_eq hc
      have hzero : i = 0 := by rw [byteSize_cons] at hsize; omega
      rw [hzero, Nat.add_zero]
      exact ih h
    · rw [hsize]
      rfl

/-! ### Class lists -/

namespace Selector

private theorem isAscii_isNameChar : IsAscii isNameChar := by
  intro c h
  rw [isNameChar, Bool.or_eq_true, Bool.or_eq_true, beq_iff_eq, beq_iff_eq] at h
  rcases h with (h | rfl) | rfl
  · exact isAscii_isAlphanum c h
  · decide
  · decide

private theorem isAscii_isSpace : IsAscii isSpace := by
  intro c h
  simp only [isSpace, Bool.or_eq_true, beq_iff_eq] at h
  rcases h with (((rfl | rfl) | rfl) | rfl) | rfl <;> decide

private theorem isAscii_isSeparator : IsAscii isSeparator := by
  intro c h
  rw [isSeparator, Bool.or_eq_true, beq_iff_eq] at h
  rcases h with rfl | h
  · decide
  · exact isAscii_isSpace c h

/-- The offset of the class list in front of an offset, unless there is none, or else the one found before. -/
def listStart? (text : String) (cursor : Nat) (found : Option Nat) : Option (Option Nat) :=
  match h : backOver? isNameChar text cursor with
  | none => none
  | some 0 => some found
  | some (dot + 1) =>
    if dot + 1 = cursor then some found
    else
      match byteAt? text dot with
      | none => none
      | some c =>
        if c = '.' then
          match h' : backOver? isSeparator text dot with
          | none => none
          | some gap =>
            have : gap < cursor := Nat.lt_of_le_of_lt (le_of_backOver? h') (le_of_backOver? h)
            if gap = dot then some (some dot) else listStart? text gap (some dot)
        else some found
termination_by cursor

/-- The class list at the end of a text, once white space of ASCII at its end is dropped. -/
def trailing? (text : String) : Option (Option String) := do
  let stop ← backOver? isSpace text text.utf8ByteSize
  match ← listStart? text stop none with
  | none => return none
  | some start => return some (← slice? text start stop)

private theorem listStart?_unfold (text : String) (cursor : Nat) (found : Option Nat) :
    listStart? text cursor found = (backOver? isNameChar text cursor).bind fun
      | 0 => some found
      | dot + 1 =>
        if dot + 1 = cursor then some found
        else (byteAt? text dot).bind fun c =>
          if c = '.' then (backOver? isSeparator text dot).bind fun gap =>
            if gap = dot then some (some dot) else listStart? text gap (some dot)
          else some found := by
  rw [listStart?]
  split
  · simp_all
  · simp_all
  · rename_i dot hname
    simp only [hname, Option.bind_some]
    split
    · rfl
    · split
      · simp_all
      · rename_i c hc
        rw [hc, Option.bind_some]
        split
        · split <;> simp_all
        · rfl

private theorem byteSize_span (p : Char → Bool) (text : List Char) :
    byteSize text = byteSize (text.takeWhile p) + byteSize (text.dropWhile p) := by
  rw [← byteSize_append, List.takeWhile_append_dropWhile]

private theorem byteSize_dropWhile_eq_iff (p : Char → Bool) (text : List Char) :
    byteSize (text.dropWhile p) = byteSize text ↔ text.takeWhile p = [] := by
  rw [byteSize_span p text]
  constructor
  · intro h
    by_contra hne
    have := byteSize_pos hne
    omega
  · intro h
    rw [h, byteSize_nil, Nat.zero_add]

private theorem listStart?_name {text : String} {name rest back : List Char} (hname : IsName name)
    (h : text.toList = (name ++ '.' :: rest).reverse ++ back) (found : Option Nat) :
    listStart? text (byteSize (name ++ '.' :: rest)) found =
      if rest.takeWhile isSeparator = [] then some (some (byteSize rest))
      else listStart? text (byteSize (rest.dropWhile isSeparator)) (some (byteSize rest)) := by
  have hdot : '.'.utf8Size = 1 := rfl
  have hstart : backOver? isNameChar text (byteSize (name ++ '.' :: rest)) = some (byteSize rest + 1) := by
    have hhead : ∀ c ∈ ('.' :: rest).head?, isNameChar c = false := by
      intro c hc
      obtain rfl := Option.some.inj hc
      rfl
    rw [backOver?_eq isAscii_isNameChar h, (span_append hname.2 hhead).2, byteSize_cons, hdot, Nat.add_comm]
  have hne : byteSize rest + 1 ≠ byteSize (name ++ '.' :: rest) := by
    have := byteSize_pos hname.1
    rw [byteSize_append, byteSize_cons, hdot]
    omega
  have hrest : text.toList = rest.reverse ++ '.' :: (name.reverse ++ back) := by simp [h]
  have hbyte : byteAt? text (byteSize rest) = some '.' := by
    rw [← byteSize_reverse]
    exact (byteAt?_eq_some_iff hrest (by decide)).2 rfl
  rw [listStart?_unfold, hstart, Option.bind_some]
  dsimp only
  rw [if_neg hne, hbyte, Option.bind_some, if_pos rfl, backOver?_eq isAscii_isSeparator hrest, Option.bind_some]
  simp only [byteSize_dropWhile_eq_iff]

private theorem listStart?_other {text : String} {reversed back : List Char}
    (h : text.toList = reversed.reverse ++ back)
    (hother : ∀ name rest, IsName name → reversed ≠ name ++ '.' :: rest) (found : Option Nat) :
    listStart? text (byteSize reversed) found = some found := by
  rw [listStart?_unfold, backOver?_eq isAscii_isNameChar h, Option.bind_some]
  cases hdrop : reversed.dropWhile isNameChar with
  | nil => rfl
  | cons c rest =>
    have hspan := List.takeWhile_append_dropWhile (p := isNameChar) (l := reversed)
    rw [hdrop] at hspan
    have hrest : text.toList = rest.reverse ++ c :: ((reversed.takeWhile isNameChar).reverse ++ back) := by
      rw [h, ← congrArg List.reverse hspan]
      simp
    obtain ⟨i, hsize, d, hd, hkind⟩ := exists_lastByteAt? hrest
    -- either there is no name behind `c`, or `c` is no dot
    rw [hsize]
    dsimp only
    split
    · rfl
    · rename_i hne
      have hname : reversed.takeWhile isNameChar ≠ [] := by
        intro hnil
        rw [hnil, List.nil_append] at hspan
        exact hne (by rw [← hsize, hspan])
      have hdot : c ≠ '.' := by
        rintro rfl
        exact hother _ rest ⟨hname, fun c hc => List.mem_takeWhile_imp hc⟩ hspan.symm
      have hascii : IsAscii (· == '.') := fun c hc => beq_iff_eq.1 hc ▸ (by decide)
      have hbyte : d ≠ '.' := by simpa [hdot] using hkind (· == '.') hascii
      rw [hd, Option.bind_some, if_neg hbyte]

/-- What is found by offsets is the class list that the characters give. -/
private theorem listStart?_eq (found gap reversed : List Char) {text : String} {back : List Char}
    (h : text.toList = reversed.reverse ++ (gap ++ (found ++ back))) {start : Option Nat}
    (hstart : start = if found = [] then none else some (byteSize reversed + byteSize gap)) :
    ∃ front, text.toList = front ++ (trailingFrom found gap reversed ++ back) ∧
      listStart? text (byteSize reversed) start =
        some (if trailingFrom found gap reversed = [] then none else some (byteSize front)) := by
  induction reversed using reversed_induction generalizing found gap start with
  | other reversed hother =>
    rw [trailingFrom_other hother, listStart?_other h hother]
    refine ⟨reversed.reverse ++ gap, by simp [h], ?_⟩
    rw [hstart, byteSize_append, byteSize_reverse]
  | named name rest hname ih =>
    rw [trailingFrom_name hname, listStart?_name hname h]
    by_cases hgap : rest.takeWhile isSeparator = []
    · rw [if_pos hgap, if_pos hgap]
      refine ⟨rest.reverse, by simp [h], ?_⟩
      rw [if_neg (List.cons_ne_nil _ _), byteSize_reverse]
    · have hspan : rest.reverse =
          (rest.dropWhile isSeparator).reverse ++ (rest.takeWhile isSeparator).reverse := by
        rw [← List.reverse_append, List.takeWhile_append_dropWhile]
      rw [if_neg hgap, if_neg hgap]
      apply ih
      · simp [h, hspan]
      · rw [if_neg (List.cons_ne_nil _ _), byteSize_reverse, Nat.add_comm, ← byteSize_span]

theorem trailing?_eq (text : String) :
    trailing? text =
      some (if trailing text.toList = [] then none else some (String.ofList (trailing text.toList))) := by
  have hwhole : text.toList = text.toList.reverse.reverse ++ [] := by simp
  have hstop := backOver?_eq isAscii_isSpace hwhole
  rw [byteSize_reverse, byteSize_toList] at hstop
  have hspan := List.takeWhile_append_dropWhile (p := isSpace) (l := text.toList.reverse)
  have htrailing : trailing text.toList = trailingFrom [] [] (text.toList.reverse.dropWhile isSpace) := rfl
  generalize text.toList.reverse.dropWhile isSpace = reversed at hstop hspan htrailing
  generalize text.toList.reverse.takeWhile isSpace = spaces at hspan
  have htext : text.toList = reversed.reverse ++ ([] ++ ([] ++ spaces.reverse)) := by
    rw [hwhole, ← hspan]
    simp
  obtain ⟨front, hfront, hstart⟩ := @listStart?_eq [] [] reversed text _ htext none rfl
  rw [← htrailing] at hfront hstart
  have hsize : byteSize reversed = byteSize front + byteSize (trailing text.toList) := by
    have := congrArg byteSize (htext.symm.trans hfront)
    simp only [byteSize_append, byteSize_reverse, byteSize_nil] at this
    omega
  have hslice : slice? text (byteSize front) (byteSize reversed) = some (String.ofList (trailing text.toList)) :=
    slice?_of_toList (by rw [List.append_assoc]; exact hfront) rfl hsize
  rw [trailing?, hstop, Option.bind_eq_bind, Option.bind_some, hstart, Option.bind_eq_bind, Option.bind_some]
  by_cases hnil : trailing text.toList = []
  · rw [if_pos hnil, if_pos hnil]
    rfl
  · rw [if_neg hnil, if_neg hnil]
    simp only [hslice]
    rfl

/-! ### Texts behind a brace -/

private theorem span_append_cons {p : Char → Bool} {c : Char} (hc : p c = false) (text rest : List Char) :
    (text ++ c :: rest).takeWhile p = text.takeWhile p ∧
      (text ++ c :: rest).dropWhile p = text.dropWhile p ++ c :: rest := by
  induction text with
  | nil => simp [hc]
  | cons d text ih =>
    rw [List.cons_append, List.takeWhile_cons, List.takeWhile_cons, List.dropWhile_cons, List.dropWhile_cons, ih.1,
      ih.2]
    split <;> simp

private theorem trailingFrom_append_cons {c : Char} (hname : isNameChar c = false) (hgap : isSeparator c = false)
    (hdot : c ≠ '.') (found gap reversed rest : List Char) :
    trailingFrom found gap (reversed ++ c :: rest) = trailingFrom found gap reversed := by
  induction reversed using reversed_induction generalizing found gap with
  | other reversed hother =>
    have hother' : ∀ name more, IsName name → reversed ++ c :: rest ≠ name ++ '.' :: more := by
      intro name more hmore heq
      rcases List.append_eq_append_iff.1 heq with ⟨between, rfl, hrest⟩ | ⟨between, rfl, hrest⟩
      · cases between with
        | nil => exact hdot (List.cons.inj hrest).1
        | cons d between =>
          obtain ⟨rfl, -⟩ := List.cons.inj hrest
          rw [hmore.2 c (by simp)] at hname
          contradiction
      · cases between with
        | nil => exact hdot (List.cons.inj hrest).1.symm
        | cons d between =>
          obtain ⟨rfl, -⟩ := List.cons.inj hrest
          exact hother name between hmore rfl
    rw [trailingFrom_other hother, trailingFrom_other hother']
  | named name more hends ih =>
    obtain ⟨htake, hdrop⟩ := span_append_cons hgap more rest
    rw [List.append_assoc, List.cons_append, trailingFrom_name hends, trailingFrom_name hends, htake, hdrop, ih]

/-- No class list reaches over a character that cannot stand in one. -/
theorem trailing_append_cons {c : Char} (hname : isNameChar c = false) (hgap : isSeparator c = false)
    (hdot : c ≠ '.') (before text : List Char) : trailing (before ++ c :: text) = trailing text := by
  have hspace : isSpace c = false := by
    rw [isSeparator, Bool.or_eq_false_iff] at hgap
    exact hgap.2
  rw [trailing, List.reverse_append, List.reverse_cons, List.append_assoc, List.singleton_append,
    (span_append_cons hspace text.reverse before.reverse).2, trailingFrom_append_cons hname hgap hdot]
  rfl

end Selector

/-! ### Rules -/

/-- The rules of a text without comments from an offset on.  The class list in front of a brace is looked for in all
that stands in front of it. -/
def Rule.scan? (text : String) (offset : Nat) : Option (List Rule) :=
  match h : slice? text offset text.utf8ByteSize with
  | none => none
  | some rest =>
    have := (le_of_slice? h).1
    match find? "\x7b" rest with
    | none => some []
    | some passed =>
      let opening := offset + passed
      match (slice? text 0 opening).bind Selector.trailing? with
      | none => none
      | some none => scan? text (opening + 1)
      | some (some selectors) =>
        (slice? text (opening + 1) text.utf8ByteSize).bind fun block =>
          match find? "\x7d" block with
          | none => some []
          | some length =>
            let closing := opening + 1 + length
            (slice? text (opening + 1) closing).bind fun block =>
              (scan? text (closing + 1)).map
                (⟨Selector.classNames selectors.toList, Declaration.list block.toList⟩ :: ·)
termination_by text.utf8ByteSize + 1 - offset

/-- A text with nothing at its end that a class list behind it could reach into. -/
private def Bounded (front : List Char) : Prop :=
  ∀ text, Selector.trailing (front ++ text) = Selector.trailing text

private theorem bounded_nil : Bounded [] := fun _ => rfl

private theorem bounded_concat {c : Char} (hc : c = '\x7b' ∨ c = '\x7d') (front : List Char) :
    Bounded (front ++ [c]) := by
  intro text
  rw [List.append_assoc, List.singleton_append]
  rcases hc with rfl | rfl
  · exact Selector.trailing_append_cons (by decide) (by decide) (by decide) front text
  · exact Selector.trailing_append_cons (by decide) (by decide) (by decide) front text

private theorem Rule.scan?_of_not_mem {text : String} {front rest : List Char} (h : text.toList = front ++ rest)
    (hrest : '\x7b' ∉ rest) : Rule.scan? text (byteSize front) = some [] := by
  have hslice := slice?_rest h rfl
  have hfind : find? "\x7b" (String.ofList rest) = none := find?_of_cut?_eq_none (cut?_char_of_not_mem hrest)
  rw [Rule.scan?]
  split <;> simp_all

private theorem Rule.scan?_of_mem {text : String} {front before block : List Char}
    (h : text.toList = front ++ (before ++ '\x7b' :: block)) (hfront : Bounded front) (hbefore : '\x7b' ∉ before) :
    Rule.scan? text (byteSize front) =
      if Selector.trailing before = [] then Rule.scan? text (byteSize (front ++ before ++ ['\x7b']))
      else
        match find? "\x7d" (String.ofList block) with
        | none => some []
        | some length =>
          (slice? text (byteSize (front ++ before ++ ['\x7b']))
              (byteSize (front ++ before ++ ['\x7b']) + length)).bind
            fun block =>
              (Rule.scan? text (byteSize (front ++ before ++ ['\x7b']) + length + 1)).map
                (⟨Selector.classNames (Selector.trailing before), Declaration.list block.toList⟩ :: ·) := by
  have hslice := slice?_rest h rfl
  have hfind : find? "\x7b" (String.ofList (before ++ '\x7b' :: block)) = some (byteSize before) :=
    find?_of_cut? (cut?_char_append hbefore block)
  have hprefix : slice? text 0 (byteSize front + byteSize before) = some (String.ofList (front ++ before)) :=
    slice?_front (by rw [h, List.append_assoc]) (byteSize_append front before).symm
  have htrailing := Selector.trailing?_eq (String.ofList (front ++ before))
  rw [String.toList_ofList, hfront before] at htrailing
  have hopening : byteSize front + byteSize before + 1 = byteSize (front ++ before ++ ['\x7b']) := by
    have hbrace : '\x7b'.utf8Size = 1 := rfl
    simp [hbrace, Nat.add_assoc]
  have hrest : text.toList = front ++ before ++ ['\x7b'] ++ block := by rw [h]; simp
  have hblock := slice?_rest hrest rfl
  rw [Rule.scan?]
  split
  · simp_all
  · rename_i rest hrest'
    obtain rfl := Option.some.inj (hslice.symm.trans hrest')
    simp only [hfind, hprefix, Option.bind_some, htrailing, hopening, hblock]
    by_cases hnil : Selector.trailing before = []
    · simp only [if_pos hnil]
    · simp only [if_neg hnil, String.toList_ofList]

/-- The rules found by offsets are those that the characters give. -/
private theorem Rule.scan?_eq {text : String} {front rest : List Char} (h : text.toList = front ++ rest)
    (hfront : Bounded front) : Rule.scan? text (byteSize front) = some (Rule.scan rest) := by
  induction rest using scan_induction generalizing front with
  | plain rest hrest =>
    rw [scan_of_not_mem hrest]
    exact scan?_of_not_mem h hrest
  | skip before block hbefore hnil ih =>
    have hnext : text.toList = front ++ before ++ ['\x7b'] ++ block := by rw [h]; simp
    rw [scan?_of_mem h hfront hbefore, if_pos hnil, scan_skip hbefore hnil]
    exact ih hnext (bounded_concat (.inl rfl) _)
  | rule before content after hbefore hne hcontent ih =>
    have hfind : find? "\x7d" (String.ofList (content ++ '\x7d' :: after)) = some (byteSize content) :=
      find?_of_cut? (cut?_char_append hcontent after)
    have hafter : text.toList = front ++ before ++ ['\x7b'] ++ content ++ ['\x7d'] ++ after := by
      rw [h]
      simp
    have hslice : slice? text (byteSize (front ++ before ++ ['\x7b']))
        (byteSize (front ++ before ++ ['\x7b']) + byteSize content) = some (String.ofList content) :=
      slice?_of_toList (hafter.trans (List.append_assoc _ ['\x7d'] after)) rfl rfl
    have hclosing : byteSize (front ++ before ++ ['\x7b']) + byteSize content + 1 =
        byteSize (front ++ before ++ ['\x7b'] ++ content ++ ['\x7d']) := by
      have hbrace : '\x7d'.utf8Size = 1 := rfl
      rw [byteSize_append _ ['\x7d'], byteSize_append _ content, byteSize_cons, byteSize_nil, hbrace]
    rw [scan?_of_mem h hfront hbefore, if_neg hne, scan_rule hbefore hne hcontent, hfind]
    dsimp only
    rw [hslice, Option.bind_some, hclosing, ih hafter (bounded_concat (.inr rfl) _), String.toList_ofList]
    rfl
  | unclosed before block hbefore hne hblock =>
    have hfind : find? "\x7d" (String.ofList block) = none := find?_of_cut?_eq_none (cut?_char_of_not_mem hblock)
    rw [scan?_of_mem h hfront hbefore, if_neg hne, scan_unclosed hbefore hne hblock, hfind]

/-! ### Stylesheets -/

namespace Stylesheet

/-- The text with a space in place of every comment, where the comments are found by offsets. -/
def withoutComments? (text : String) : Option String :=
  match Text.find? "/*" text with
  | none => some text
  | some start =>
    match slice? text 0 start, slice? text (start + 2) text.utf8ByteSize with
    | some before, some inside =>
      match Text.find? "*/" inside with
      | none => some (before ++ " ")
      | some stop =>
        match h : slice? text (start + 2 + stop + 2) text.utf8ByteSize with
        | some after =>
          have := le_of_slice? h
          (withoutComments? after).map (before ++ " " ++ ·)
        | none => none
    | _, _ => none
termination_by text.utf8ByteSize

/-- The stylesheet written by a text, scanned by offsets. -/
def ofTextAt? (source : String) : Option Stylesheet := do
  let text ← withoutComments? source
  return ofRules (← Rule.scan? text 0)

private theorem withoutComments?_eq (text : List Char) :
    withoutComments? (String.ofList text) = some (String.ofList (withoutComments text)) := by
  cases hopen : cut? id "/*".toList text with
  | none =>
    rw [withoutComments?, withoutComments_of_none hopen, find?_of_cut?_eq_none hopen]
  | some cut =>
    obtain ⟨before, inside⟩ := cut
    have hfind := find?_of_cut? hopen
    have htext : (String.ofList text).toList = before ++ "/*".toList ++ inside := by
      rw [String.toList_ofList]
      exact (cut?_id_iff.1 hopen).eq
    have hlt : inside.length < text.length := length_lt_of_cut? id hopen (by simp)
    have hbefore : slice? (String.ofList text) 0 (byteSize before) = some (String.ofList before) :=
      slice?_front (htext.trans (List.append_assoc ..)) rfl
    have hinside : slice? (String.ofList text) (byteSize before + 2) (String.ofList text).utf8ByteSize =
        some (String.ofList inside) := slice?_rest htext (by rw [byteSize_append]; rfl)
    cases hclose : cut? id "*/".toList inside with
    | none =>
      have hfind' := find?_of_cut?_eq_none hclose
      rw [withoutComments?, withoutComments_of_unclosed hopen hclose, hfind]
      simp only [hbefore, hinside, hfind', String.ofList_append]
    | some cut =>
      obtain ⟨content, after⟩ := cut
      have hfind' := find?_of_cut? hclose
      have hrest : (String.ofList text).toList = before ++ "/*".toList ++ content ++ "*/".toList ++ after := by
        rw [htext, (cut?_id_iff.1 hclose).eq]
        simp
      have hlt' : after.length < inside.length := length_lt_of_cut? id hclose (by simp)
      have hafter : slice? (String.ofList text) (byteSize before + 2 + byteSize content + 2)
          (String.ofList text).utf8ByteSize = some (String.ofList after) := by
        refine slice?_rest hrest ?_
        simp only [byteSize_append]
        rfl
      have ih := withoutComments?_eq after
      rw [withoutComments?, withoutComments_of_closed hopen hclose, hfind]
      simp only [hbefore, hinside, hfind']
      split
      · rename_i after' hafter'
        obtain rfl := Option.some.inj (hafter.symm.trans hafter')
        rw [ih, Option.map_some, List.append_cons, String.ofList_append, String.ofList_append]
      · simp_all
termination_by text.length

theorem ofTextAt?_eq (source : String) : ofTextAt? source = some (ofText source) := by
  have htext : (String.ofList (withoutComments source.toList)).toList = [] ++ withoutComments source.toList :=
    String.toList_ofList
  have hcomments := withoutComments?_eq source.toList
  have hscan := Rule.scan?_eq htext bounded_nil
  rw [String.ofList_toList] at hcomments
  rw [byteSize_nil] at hscan
  rw [ofTextAt?, hcomments, Option.bind_eq_bind, Option.bind_some, hscan]
  rfl

private theorem IsWord.spelled {text : List Char} (h : IsWord text) :
    trim text = text ∧ ';' ∉ text ∧ ':' ∉ text ∧ '\x7d' ∉ text ∧ ¬ ['/', '*'] <:+: text :=
  ⟨h.trim_eq, h.not_mem _ (by simp), h.not_mem _ (by simp), h.not_mem _ (by simp), h.no_comment⟩

/-- Whatever a text is, all of its parts and bytes that are asked for to scan it are there.  The stylesheet it gives
has distinct classes with names of letters, digits, `-` and `_`, and each class some declarations, of distinct
properties; no property is empty, and no word of a declaration can be trimmed, ends one or begins a comment. -/
theorem ofTextAt?_wellFormed (source : String) :
    ∃ sheet, ofTextAt? source = some sheet ∧ sheet = ofText source ∧ (sheet.classes.map (·.1)).Nodup ∧
      ∀ name declarations, (name, declarations) ∈ sheet.classes →
        name ≠ "" ∧ (∀ c ∈ name.toList, c.isAlphanum = true ∨ c = '-' ∨ c = '_') ∧
        declarations ≠ [] ∧ (declarations.map (·.property)).Nodup ∧
        ∀ d ∈ declarations, d.property ≠ "" ∧ ∀ word ∈ [d.property, d.value],
          trim word.toList = word.toList ∧ ';' ∉ word.toList ∧ ':' ∉ word.toList ∧ '\x7d' ∉ word.toList ∧
            ¬ ['/', '*'] <:+: word.toList := by
  obtain ⟨hnames, hname, hdeclarations, hproperties, hwords⟩ := wellFormed_ofText source
  refine ⟨_, ofTextAt?_eq source, rfl, hnames, fun name declarations hentry => ⟨?_, ?_, ?_, ?_, ?_⟩⟩
  · exact fun hempty => (hname _ hentry).1 (String.toList_eq_nil_iff.2 hempty)
  · intro c hc
    have hkind := (hname _ hentry).2 c hc
    rw [Selector.isNameChar, Bool.or_eq_true, Bool.or_eq_true, beq_iff_eq, beq_iff_eq, or_assoc] at hkind
    exact hkind
  · exact hdeclarations _ hentry
  · rw [List.nodup_iff_pairwise_ne, List.pairwise_map]
    exact hproperties _ hentry
  · intro d hd
    obtain ⟨hproperty, hvalue, hne⟩ := hwords _ hentry d hd
    refine ⟨fun hempty => hne (String.toList_eq_nil_iff.2 hempty), fun word hword => ?_⟩
    simp only [List.mem_cons, List.not_mem_nil, or_false] at hword
    rcases hword with rfl | rfl
    · exact hproperty.spelled
    · exact hvalue.spelled

end Stylesheet

end StyledCode
