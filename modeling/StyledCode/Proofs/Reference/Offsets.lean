import StyledCode.Proofs.Markup.Cursor
import StyledCode.Proofs.Markup.Restyling
import StyledCode.Proofs.Text.Offsets

/-!
# References by byte offsets

References can be found in the joined text by their offsets, and the runs be put together from parts of that text.
What was read already may reach into the next run, or over several of them.

* `endOf?`, `references?` : the end of a reference, and all references that are replaced, by their offsets
* `Marks` : what the characters of a text show between and in the references that were found
* `fill?`, `expandAt?` : what one run shows, and all runs, put together by offsets
* `expandAt?_eq` : there is a part of the text for every pair of offsets that is asked for, and the runs are right
* `Markup.decodeAt?` : a tokenizer's output read by offsets
-/

namespace StyledCode.Reference

open Text

/-- A reference between two offsets of a text, and the text that takes its place. -/
structure Found where
  start : Nat
  stop : Nat
  text : String

/-- The offset behind the letters and digits that stand at an offset. -/
def nameEnd (text : String) (offset : Nat) : Nat :=
  match h : byteAt? text offset with
  | none => offset
  | some c =>
    have := lt_of_byteAt? h
    if c.isAlphanum then nameEnd text (offset + 1) else offset
termination_by text.utf8ByteSize - offset

/-- The offset behind the `&` at an offset, and behind the `#` that may follow. -/
def nameStart (text : String) (start : Nat) : Nat :=
  if byteAt? text (start + 1) = some '#' then start + 1 + 1 else start + 1

/-- The offset behind the reference that begins with the `&` at an offset, if there is one. -/
def endOf? (text : String) (start : Nat) : Option Nat :=
  let stop := nameEnd text (nameStart text start)
  if nameStart text start < stop ∧ byteAt? text stop = some ';' then some (stop + 1) else none

/-- The text that takes the place of a reference: what it stands for, unless that is the reference itself. -/
def replacement? (reference : String) : Option String :=
  ((decode? reference.toList).map String.singleton).filter (· != reference)

/-! ### Ends of references -/

private theorem nameEnd_of_byteAt? {text : String} {offset : Nat} {c : Char} (h : byteAt? text offset = some c) :
    nameEnd text offset = if c.isAlphanum then nameEnd text (offset + 1) else offset := by
  rw [nameEnd]
  split
  · simp_all
  · rename_i d hd
    obtain rfl := Option.some.inj (h.symm.trans hd)
    rfl

private theorem nameEnd_of_not {text : String} {front rest : List Char} (h : text.toList = front ++ rest)
    (hrest : ∀ c ∈ rest.head?, c.isAlphanum = false) : nameEnd text (byteSize front) = byteSize front := by
  cases rest with
  | nil =>
    have hnone := byteAt?_eq_none (h.trans (List.append_nil front))
    rw [nameEnd]
    split
    · rfl
    · simp_all
  | cons c rest =>
    obtain ⟨d, hd, hkind⟩ := exists_firstByteAt? h
    rw [nameEnd_of_byteAt? hd, hkind _ isAscii_isAlphanum, hrest c rfl]
    rfl

/-- The letters and digits end where the characters do that are letters and digits. -/
private theorem nameEnd_eq {text : String} {front name rest : List Char} (h : text.toList = front ++ (name ++ rest))
    (hname : ∀ c ∈ name, c.isAlphanum = true) (hrest : ∀ c ∈ rest.head?, c.isAlphanum = false) :
    nameEnd text (byteSize front) = byteSize (front ++ name) := by
  induction name generalizing front with
  | nil => rw [nameEnd_of_not h hrest, List.append_nil]
  | cons c name ih =>
    rw [List.forall_mem_cons] at hname
    obtain ⟨d, hd, hkind⟩ := exists_firstByteAt? h
    have hnext : byteSize front + 1 = byteSize (front ++ [c]) := by
      simp [isAscii_isAlphanum.utf8Size_eq hname.1]
    rw [nameEnd_of_byteAt? hd, hkind _ isAscii_isAlphanum, if_pos hname.1, hnext, ih (by rw [h]; simp) hname.2,
      List.append_assoc]
    rfl

private theorem nameStart_eq {text : String} {front rest : List Char} (h : text.toList = front ++ '&' :: rest) :
    nameStart text (byteSize front) = byteSize (front ++ '&' :: (takeMark id rest).1) := by
  have hamp : '&'.utf8Size = 1 := rfl
  have hsign : '#'.utf8Size = 1 := rfl
  have hmark : byteAt? text (byteSize front + 1) = some '#' ↔ rest.head? = some '#' := by
    have hnext : byteSize front + 1 = byteSize (front ++ ['&']) := by simp [hamp]
    rw [hnext]
    exact byteAt?_eq_some_iff (by rw [h, List.append_assoc]; rfl) (by decide)
  rw [nameStart]
  simp only [hmark]
  cases rest with
  | nil => simp [takeMark, hamp]
  | cons c rest => by_cases hc : c = '#' <;> simp [takeMark, hc, hamp, hsign, Nat.add_assoc]

private theorem endOf?_append {text : String} {front mark name after : List Char}
    (h : text.toList = front ++ '&' :: mark ++ (name ++ after))
    (hstart : nameStart text (byteSize front) = byteSize (front ++ '&' :: mark))
    (hname : ∀ c ∈ name, c.isAlphanum = true) (hafter : ∀ c ∈ after.head?, c.isAlphanum = false) :
    endOf? text (byteSize front) =
      if name ≠ [] ∧ after.head? = some ';' then some (byteSize front + byteSize ('&' :: mark ++ name ++ [';']))
      else none := by
  have hsemi : ';'.utf8Size = 1 := rfl
  have hend : byteAt? text (byteSize (front ++ '&' :: mark ++ name)) = some ';' ↔ after.head? = some ';' :=
    byteAt?_eq_some_iff (by rw [h, ← List.append_assoc]) (by decide)
  have hsome : byteSize (front ++ '&' :: mark) < byteSize (front ++ '&' :: mark ++ name) ↔ name ≠ [] := by
    rw [byteSize_append (front ++ '&' :: mark)]
    refine ⟨?_, fun hne => Nat.lt_add_of_pos_right (byteSize_pos hne)⟩
    rintro hlt rfl
    exact absurd hlt (Nat.lt_irrefl _)
  rw [endOf?, hstart, nameEnd_eq h hname hafter]
  simp only [hend, hsome]
  congr 2
  simp only [byteSize_append, byteSize_cons, byteSize_nil, hsemi, List.cons_append]
  omega

private theorem endOf?_eq {text : String} {front rest : List Char} (h : text.toList = front ++ '&' :: rest) :
    endOf? text (byteSize front) =
      (take? id ('&' :: rest)).map fun (reference, _) => byteSize front + byteSize reference := by
  have hstart := nameStart_eq h
  have hmark := takeMark_append id rest
  simp only [take?, id_eq, if_true]
  generalize takeMark id rest = taken at hstart hmark
  obtain ⟨mark, body⟩ := taken
  have hbody : (body.takeWhile fun c => c.isAlphanum) ++ (body.dropWhile fun c => c.isAlphanum) = body :=
    List.takeWhile_append_dropWhile
  have htext : text.toList = front ++ '&' :: mark ++
      ((body.takeWhile fun c => c.isAlphanum) ++ (body.dropWhile fun c => c.isAlphanum)) := by
    rw [hbody, h, ← hmark]
    simp
  have hname : ∀ c ∈ body.takeWhile fun c => c.isAlphanum, c.isAlphanum = true :=
    List.all_eq_true.1 List.all_takeWhile
  have hafter : ∀ c ∈ (body.dropWhile fun c => c.isAlphanum).head?, c.isAlphanum = false := by
    intro c hc
    have hnot := List.head?_dropWhile_not (fun c : Char => c.isAlphanum) body
    rw [Option.mem_def] at hc
    rw [hc] at hnot
    simpa using hnot
  rw [endOf?_append htext hstart hname hafter]
  clear htext hname hafter hbody
  generalize (body.takeWhile fun c => c.isAlphanum) = name
  cases body.dropWhile fun c => c.isAlphanum with
  | nil => simp
  | cons stop rest =>
    by_cases hfound : name ≠ [] ∧ stop = ';'
    · obtain ⟨hne, rfl⟩ := hfound
      simp [hne]
    · simp [hfound]

/-! ### References found -/

private theorem le_nameEnd (text : String) (offset : Nat) : offset ≤ nameEnd text offset := by
  fun_induction nameEnd with
  | case1 => exact Nat.le_refl _
  | case2 offset c h hlt hc ih => omega
  | case3 => exact Nat.le_refl _

theorem lt_of_endOf? {text : String} {start stop : Nat} (h : endOf? text start = some stop) : start < stop := by
  unfold endOf? at h
  dsimp only at h
  split at h
  · have hstart : start < nameStart text start := by
      unfold nameStart
      split <;> omega
    have hend := le_nameEnd text (nameStart text start)
    have := Option.some.inj h
    omega
  · contradiction

/-- The references from an offset on that are replaced. -/
def references? (text : String) (offset : Nat) : Option (List Found) :=
  match h : slice? text offset text.utf8ByteSize with
  | none => none
  | some rest =>
    have := (le_of_slice? h).1
    match find? "&" rest with
    | none => some []
    | some passed =>
      match hstop : endOf? text (offset + passed) with
      | none => references? text (offset + passed + 1)
      | some stop =>
        have := lt_of_endOf? hstop
        (slice? text (offset + passed) stop).bind fun reference =>
          (references? text stop).map (((replacement? reference).map (Found.mk (offset + passed) stop)).toList ++ ·)
termination_by text.utf8ByteSize + 1 - offset

/-- What the characters of a text show from an offset on, with the references found there: a reference that is
replaced shows its text in place of its first character, and all characters between these show themselves. -/
inductive Marks : Nat → List Char → List Found → List (List Char) → Prop
  | none (offset : Nat) (rest : List Char) : Marks offset rest [] (rest.map fun c => [c])
  | next {offset : Nat} (before : List Char) {reference : List Char} (text : String) {after : List Char}
      {pending : List Found} {outs : List (List Char)} (hlength : 1 < reference.length)
      (h : Marks (offset + byteSize before + byteSize reference) after pending outs) :
      Marks offset (before ++ (reference ++ after))
        (⟨offset + byteSize before, offset + byteSize before + byteSize reference, text⟩ :: pending)
        ((before.map fun c => [c]) ++ (text.toList :: List.replicate (reference.length - 1) [] ++ outs))

private theorem Marks.kept {offset : Nat} {rest : List Char} {pending : List Found} {outs : List (List Char)}
    (kept : List Char) (h : Marks (offset + byteSize kept) rest pending outs) :
    Marks offset (kept ++ rest) pending ((kept.map fun c => [c]) ++ outs) := by
  cases h with
  | none =>
    rw [← List.map_append]
    exact .none offset (kept ++ rest)
  | next before text hlength h =>
    rw [Nat.add_assoc offset, ← byteSize_append] at h ⊢
    rw [← List.append_assoc, ← List.append_assoc (kept.map _), ← List.map_append]
    exact .next (kept ++ before) text hlength h

private theorem shown_of_free {kept : List Char} (h : '&' ∉ kept) (rest : List Char) :
    shown id (kept ++ rest) = (kept.map fun c => [c]) ++ shown id rest := by
  induction kept with
  | nil => rfl
  | cons c kept ih =>
    rw [List.mem_cons, not_or] at h
    have htake : take? id (c :: (kept ++ rest)) = none := if_neg (Ne.symm h.1)
    rw [List.cons_append, shown_kept htake, ih h.2]
    rfl

/-- The text that takes the place of a reference is its character. -/
private theorem replacement?_eq {reference : List Char} (h : IsReference reference) :
    replacement? (String.ofList reference) = (decode? reference).map String.singleton := by
  rw [replacement?, String.toList_ofList]
  cases decode? reference with
  | none => rfl
  | some c =>
    have hne : String.singleton c ≠ String.ofList reference := by
      intro heq
      have hlength := congrArg String.length heq
      have := h.three_le_length
      simp at hlength
      omega
    simp [hne]

private theorem references?_of_none {text : String} {front rest : List Char} (h : text.toList = front ++ rest)
    (hcut : cut? id "&".toList rest = none) : references? text (byteSize front) = some [] := by
  have hslice := slice?_rest h rfl
  have hfind := find?_of_cut?_eq_none hcut
  rw [references?]
  split <;> simp_all

private theorem references?_of_some {text : String} {front rest before after : List Char}
    (h : text.toList = front ++ rest) (hcut : cut? id "&".toList rest = some (before, after)) :
    references? text (byteSize front) =
      (endOf? text (byteSize (front ++ before))).elim (references? text (byteSize (front ++ before) + 1)) fun stop =>
        (slice? text (byteSize (front ++ before)) stop).bind fun reference =>
          (references? text stop).map
            (((replacement? reference).map (Found.mk (byteSize (front ++ before)) stop)).toList ++ ·) := by
  have hslice := slice?_rest h rfl
  have hfind := find?_of_cut? hcut
  rw [references?, byteSize_append]
  split
  · simp_all
  · rename_i rest' hrest
    obtain rfl := Option.some.inj (hslice.symm.trans hrest)
    rw [hfind]
    dsimp only
    split
    · rename_i hstop
      rw [hstop]
      rfl
    · rename_i hstop
      rw [hstop]
      rfl

/-- The references that are found show what the pieces of the text show. -/
private theorem references?_eq {text : String} {front rest : List Char} (h : text.toList = front ++ rest) :
    ∃ pending, references? text (byteSize front) = some pending ∧
      Marks (byteSize front) rest pending (shown id rest) := by
  have hfree : ∀ kept : List Char, ¬ "&".toList <:+: kept → '&' ∉ kept := fun kept hnot hmem =>
    hnot ((List.singleton_infix_iff '&' kept).2 hmem)
  cases hcut : cut? id "&".toList rest with
  | none =>
    have hrest := hfree rest (by rwa [cut?_eq_none_iff, List.map_id] at hcut)
    refine ⟨[], references?_of_none h hcut, ?_⟩
    have hshown := shown_of_free hrest []
    rw [List.append_nil, shown_nil, List.append_nil] at hshown
    rw [hshown]
    exact .none _ rest
  | some cut =>
    obtain ⟨before, after⟩ := cut
    have hfirst := cut?_id_iff.1 hcut
    have hbefore := hfree before (hfirst.not_infix_before (by simp))
    have hrest : rest = before ++ '&' :: after := by rw [hfirst.eq, List.append_assoc]; rfl
    have hamp : text.toList = (front ++ before) ++ '&' :: after := by rw [h, hrest, List.append_assoc]
    have hshorter : after.length < rest.length := length_lt_of_cut? id hcut (by simp)
    -- what stands in front of the `&` shows itself, whether or not a reference begins there
    rw [references?_of_some h hcut, endOf?_eq hamp, hrest, shown_of_free hbefore]
    cases htake : take? id ('&' :: after) with
    | none =>
      have hnext : text.toList = (front ++ before ++ ['&']) ++ after := by rw [hamp]; simp
      obtain ⟨pending, hpending, hmarks⟩ := references?_eq hnext
      rw [byteSize_append] at hpending hmarks
      refine ⟨pending, hpending, ?_⟩
      rw [shown_kept htake]
      exact .kept before (.kept ['&'] (by rwa [byteSize_append] at hmarks))
    | some taken =>
      obtain ⟨reference, after'⟩ := taken
      obtain ⟨hafter, hreference⟩ := take?_iff.1 htake
      have : after'.length < after.length + 1 := length_lt_of_take? id htake
      have hnext : text.toList = (front ++ before ++ reference) ++ after' := by
        rw [hamp, hafter, List.append_assoc, List.append_assoc, List.append_assoc]
      obtain ⟨pending, hpending, hmarks⟩ := references?_eq hnext
      have hslice : slice? text (byteSize (front ++ before)) (byteSize (front ++ before) + byteSize reference) =
          some (String.ofList reference) := slice?_of_toList hnext rfl rfl
      rw [List.map_id] at hreference
      rw [byteSize_append _ reference] at hpending hmarks
      refine ⟨_, by simp only [Option.map_some, Option.elim_some, hslice, hpending, Option.bind_some]; rfl, ?_⟩
      rw [replacement?_eq hreference, hafter]
      cases hdecode : decode? reference with
      | none =>
        rw [shown_unknown (by rwa [List.map_id]) (by rwa [List.map_id])]
        exact .kept before (.kept reference (by rwa [byteSize_append] at hmarks))
      | some c =>
        rw [shown_replaced (by rwa [List.map_id]) (by rwa [List.map_id])]
        have := hreference.three_le_length
        have hmarks : Marks (byteSize front + byteSize before + byteSize reference) after' pending
            (shown id after') := by
          rwa [byteSize_append] at hmarks
        have hnext := Marks.next before (String.singleton c) (by omega) hmarks
        rw [String.toList_singleton] at hnext
        rw [byteSize_append]
        exact hnext
termination_by rest.length

/-! ### Runs filled -/

/-- What a run shows that ends at an offset: the text from another offset on, with the references in place that begin
before the end.  With it come the offset up to which the text is read then, and the references that are left. -/
def fill? (text : String) (stop offset : Nat) : List Found → Option (String × Nat × List Found)
  | [] => if offset < stop then (slice? text offset stop).map (·, stop, []) else some ("", offset, [])
  | found :: pending =>
    if offset < stop then
      if found.start < stop then do
        let part ← slice? text offset found.start
        let (shown, consumed, pending) ← fill? text stop found.stop pending
        return (part ++ found.text ++ shown, consumed, pending)
      else (slice? text offset stop).map (·, stop, found :: pending)
    else some ("", offset, found :: pending)

/-- The runs from an offset on, with the references in place of which the text is read up to another offset. -/
def expandFrom? (text : String) (start consumed : Nat) (pending : List Found) : List Run → Option (List Run)
  | [] => some []
  | run :: runs => do
    let stop := start + run.text.utf8ByteSize
    let (shown, consumed, pending) ← fill? text stop (max consumed start) pending
    let runs ← expandFrom? text stop consumed pending runs
    return (run.showing? shown.toList).toList ++ runs

/-- Runs with their references replaced, found and put together by their offsets. -/
def expandAt? (runs : List Run) : Option (List Run) :=
  if runs.any fun run => run.text.toList.contains '&' then do
    let found ← references? (Run.plainText runs) 0
    if found.isEmpty then return runs else expandFrom? (Run.plainText runs) 0 0 found runs
  else some runs

private theorem fill?_of_le {stop offset : Nat} (h : stop ≤ offset) (text : String) (pending : List Found) :
    fill? text stop offset pending = some ("", offset, pending) := by
  cases pending <;> rw [fill?, if_neg (Nat.not_lt.2 h)]

/-- What is known where some characters stand in front of a run and the text is read up to an offset in the run or
behind it: of the characters that follow, those that are read already show nothing more, and the references are marked
for the others. -/
def Reading (front later : List Char) (offset : Nat) (pending : List Found) (outs : List (List Char)) : Prop :=
  ∃ swallowed rest shown, later = swallowed ++ rest ∧ offset = byteSize (front ++ swallowed) ∧
    outs = List.replicate swallowed.length [] ++ shown ∧ Marks offset rest pending shown

/-- What a run shows, and what is known behind it. -/
def Fills (text : String) (front part later : List Char) (offset : Nat) (pending : List Found)
    (outs : List (List Char)) : Prop :=
  ∃ shown consumed pending', fill? text (byteSize (front ++ part)) offset pending = some (shown, consumed, pending') ∧
    shown.toList = (outs.take part.length).flatten ∧
    Reading (front ++ part) later consumed pending' (outs.drop part.length)

variable {text : String} {front part later : List Char} {pending : List Found} {outs : List (List Char)}

private theorem fills_swallowed (swallowed rest : List Char) {shown : List (List Char)}
    (hmarks : Marks (byteSize (front ++ part ++ swallowed)) rest pending shown) :
    Fills text front part (swallowed ++ rest) (byteSize (front ++ part ++ swallowed)) pending
      (List.replicate (part ++ swallowed).length [] ++ shown) := by
  have hle := byteSize_le_append (front ++ part) swallowed
  have houts : List.replicate (part ++ swallowed).length ([] : List Char) ++ shown =
      List.replicate part.length [] ++ (List.replicate swallowed.length [] ++ shown) := by
    rw [List.length_append, List.replicate_add, List.append_assoc]
  refine ⟨_, _, _, fill?_of_le hle text pending, ?_, swallowed, rest, shown, rfl, rfl, ?_, hmarks⟩
  · rw [houts, List.take_left' List.length_replicate]
    simp
  · rw [houts, List.drop_left' List.length_replicate]

/-- A run in which no further reference begins shows its own text. -/
private theorem fills_kept (h : text.toList = front ++ part ++ later)
    (hstart : ∀ found ∈ pending.head?, byteSize (front ++ part) ≤ found.start)
    (hmarks : Marks (byteSize (front ++ part)) later pending outs) :
    Fills text front part later (byteSize front) pending ((part.map fun c => [c]) ++ outs) := by
  have hslice : slice? text (byteSize front) (byteSize (front ++ part)) = some (String.ofList part) :=
    slice?_of_toList h rfl (byteSize_append _ _)
  have hfill : fill? text (byteSize (front ++ part)) (byteSize front) pending =
      some (String.ofList part, byteSize (front ++ part), pending) := by
    by_cases hpart : part = []
    · rw [hpart, List.append_nil, fill?_of_le (Nat.le_refl _)]
    · have hlt : byteSize front < byteSize (front ++ part) := by
        rw [byteSize_append]
        exact Nat.lt_add_of_pos_right (byteSize_pos hpart)
      cases pending with
      | nil => rw [fill?, if_pos hlt, hslice]; rfl
      | cons found pending => rw [fill?, if_pos hlt, if_neg (Nat.not_lt.2 (hstart found rfl)), hslice]; rfl
  refine ⟨_, _, _, hfill, ?_, [], later, outs, rfl, by rw [List.append_nil], ?_, hmarks⟩
  · rw [String.toList_ofList, List.take_left' (List.length_map _), ← List.flatMap_def, List.flatMap_singleton']
  · rw [List.drop_left' (List.length_map _)]
    rfl

/-- A run in which a reference begins shows what stands in front of it, its text, and what is shown behind its first
character. -/
private theorem Fills.next {before visible : List Char} {a : Char} {stop : Nat} {replacement : String}
    (h : text.toList = front ++ (before ++ a :: visible) ++ later)
    (hfills : Fills text (front ++ before ++ [a]) visible later stop pending outs) :
    Fills text front (before ++ a :: visible) later (byteSize front)
      (⟨byteSize front + byteSize before, stop, replacement⟩ :: pending)
      ((before.map fun c => [c]) ++ replacement.toList :: outs) := by
  obtain ⟨shown, consumed, pending', hfill, hshown, hreading⟩ := hfills
  have hfront : front ++ before ++ [a] ++ visible = front ++ (before ++ a :: visible) := by simp
  have hsize : byteSize (front ++ (before ++ a :: visible)) =
      byteSize front + byteSize before + byteSize (a :: visible) := by
    rw [byteSize_append, byteSize_append before, Nat.add_assoc]
  have hpos := byteSize_pos (List.cons_ne_nil a visible)
  have hslice : slice? text (byteSize front) (byteSize front + byteSize before) = some (String.ofList before) := by
    have hcut : text.toList = front ++ before ++ (a :: visible ++ later) := by rw [h]; simp
    exact slice?_of_toList hcut rfl rfl
  have hlength : (before ++ a :: visible).length = (before.map fun c => [c]).length + (visible.length + 1) := by
    rw [List.length_append, List.length_cons, List.length_map]
  rw [hfront] at hfill hreading
  refine ⟨String.ofList before ++ replacement ++ shown, consumed, pending', ?_, ?_, ?_⟩
  · rw [fill?, if_pos (by omega), if_pos (by dsimp only; omega), hslice]
    simp only [Option.bind_eq_bind, Option.bind_some, hfill]
    rfl
  · rw [hlength, List.take_length_add_append, List.take_succ_cons, List.flatten_append, List.flatten_cons, ← hshown,
      String.toList_append, String.toList_append, String.toList_ofList, ← List.flatMap_def, List.flatMap_singleton',
      List.append_assoc]
  · rwa [hlength, List.drop_length_add_append, List.drop_succ_cons]

/-- A run of which the beginning is read already shows what the rest of it shows. -/
private theorem Fills.swallow {swallowed : List Char} {offset : Nat}
    (hfills : Fills text (front ++ swallowed) part later offset pending outs) :
    Fills text front (swallowed ++ part) later offset pending (List.replicate swallowed.length [] ++ outs) := by
  obtain ⟨shown, consumed, pending', hfill, hshown, hreading⟩ := hfills
  have hlength : (swallowed ++ part).length =
      (List.replicate swallowed.length ([] : List Char)).length + part.length := by
    rw [List.length_append, List.length_replicate]
  rw [List.append_assoc] at hfill hreading
  refine ⟨shown, consumed, pending', hfill, ?_, ?_⟩
  · rw [hlength, List.take_length_add_append, hshown]
    simp
  · rwa [hlength, List.drop_length_add_append]

private theorem Reading.fills_of {offset : Nat}
    (hvisible : ∀ {front part : List Char} {outs : List (List Char)}, text.toList = front ++ part ++ later →
      Marks (byteSize front) (part ++ later) pending outs →
        Fills text front part later (byteSize front) pending outs)
    (h : text.toList = front ++ part ++ later) (hreading : Reading front (part ++ later) offset pending outs) :
    Fills text front part later offset pending outs := by
  obtain ⟨swallowed, rest, shown, hlater, rfl, rfl, hmarks⟩ := hreading
  rcases List.append_eq_append_iff.1 hlater with ⟨behind, rfl, rfl⟩ | ⟨visible, rfl, rfl⟩
  · rw [← List.append_assoc] at hmarks ⊢
    exact fills_swallowed behind rest hmarks
  · exact (hvisible (by rw [h]; simp) hmarks).swallow

/-- What is marked from the beginning of a run on is what fills it. -/
private theorem Marks.fills (h : text.toList = front ++ part ++ later)
    (hmarks : Marks (byteSize front) (part ++ later) pending outs) :
    Fills text front part later (byteSize front) pending outs := by
  induction pending generalizing front part outs with
  | nil =>
    generalize hrest : part ++ later = rest at hmarks
    cases hmarks
    rw [← hrest, List.map_append]
    exact fills_kept h (by simp) (.none _ later)
  | cons found pending ih =>
    generalize hrest : part ++ later = rest at hmarks
    cases hmarks with
    | @next _ before reference replacement after _ outs hlength hmarks =>
    have hbegins : (∃ between, before = part ++ between ∧ later = between ++ (reference ++ after)) ∨
        ∃ c visible, part = before ++ c :: visible ∧ reference ++ after = c :: visible ++ later := by
      rcases List.append_eq_append_iff.1 hrest with hbehind | ⟨visible, hpart, hvisible⟩
      · exact .inl hbehind
      · cases visible with
        | nil => exact .inl ⟨[], by rw [hpart, List.append_nil, List.append_nil], hvisible.symm⟩
        | cons c visible => exact .inr ⟨c, visible, hpart, hvisible⟩
    rcases hbegins with ⟨between, rfl, rfl⟩ | ⟨c, visible, rfl, hvisible⟩
    · have hsize : byteSize front + byteSize (part ++ between) = byteSize (front ++ part) + byteSize between := by
        simp only [byteSize_append, Nat.add_assoc]
      rw [hsize] at hmarks ⊢
      rw [List.map_append, List.append_assoc]
      exact fills_kept h (by simp) (.next between replacement hlength hmarks)
    · -- the reference may end in this run or in one behind it
      cases reference with
      | nil => exact absurd hlength (Nat.not_lt_zero 1)
      | cons d reference =>
        obtain ⟨rfl, hbehind⟩ := List.cons.inj hvisible
        have hsize : byteSize front + byteSize before + byteSize (d :: reference) =
            byteSize (front ++ before ++ [d] ++ reference) := by simp [Nat.add_assoc]
        rw [hsize] at hmarks ⊢
        have hnext : text.toList = (front ++ before ++ [d]) ++ visible ++ later := by rw [h]; simp
        exact Fills.next h (Reading.fills_of ih hnext ⟨reference, after, outs, hbehind.symm, rfl, rfl, hmarks⟩)

/-- Every run is filled with what its characters show. -/
private theorem Reading.fills {offset : Nat} (hreading : Reading front (part ++ later) offset pending outs)
    (h : text.toList = front ++ part ++ later) : Fills text front part later offset pending outs :=
  hreading.fills_of Marks.fills h

/-! ### All runs -/

private theorem le_of_reading {offset : Nat} (h : Reading front later offset pending outs) :
    byteSize front ≤ offset := by
  obtain ⟨swallowed, rest, shown, -, rfl, -, -⟩ := h
  exact byteSize_le_append front swallowed

private theorem expandFrom?_eq {runs : List Run} {consumed : Nat}
    (h : text.toList = front ++ (Run.plainText runs).toList)
    (hreading : Reading front (Run.plainText runs).toList (max consumed (byteSize front)) pending outs) :
    expandFrom? text (byteSize front) consumed pending runs = some (Run.substitute runs outs) := by
  induction runs generalizing front consumed pending outs with
  | nil => rfl
  | cons run runs ih =>
    rw [Run.toList_plainText_cons] at h hreading
    rw [← List.append_assoc] at h
    obtain ⟨shown, consumed', pending', hfill, hshown, hreading'⟩ := hreading.fills h
    have hmax : max consumed' (byteSize (front ++ run.text.toList)) = consumed' :=
      Nat.max_eq_left (le_of_reading hreading')
    have hruns := ih h (by rwa [hmax])
    rw [expandFrom?, ← byteSize_append_toList, hfill, Run.substitute, ← String.length_toList, ← hshown]
    simp only [Option.bind_eq_bind, Option.bind_some, hruns]
    rfl

private theorem Marks.pending_eq_nil_iff {offset : Nat} {rest : List Char} (h : Marks offset rest pending outs) :
    pending = [] ↔ [] ∉ outs := by
  cases h with
  | none => simp
  | next before replacement hlength h =>
    have hne : ∀ n, 1 < n → n - 1 ≠ 0 := by omega
    simp [List.mem_replicate, hne _ hlength]

/-- The runs are put together by offsets as they are told from the pieces of their joined text. -/
theorem expandAt?_eq (runs : List Run) : expandAt? runs = some (expand runs) := by
  rw [expandAt?, expand_eq_substitute]
  split
  · obtain ⟨found, hfound, hmarks⟩ := references?_eq (List.nil_append (Run.plainText runs).toList).symm
    have hempty := hmarks.pending_eq_nil_iff
    rw [byteSize_nil] at hfound
    rw [hfound, Option.bind_eq_bind, Option.bind_some]
    by_cases hnil : found = []
    · rw [if_neg (hempty.1 hnil), hnil]
      rfl
    · rw [if_pos (not_not.1 (mt hempty.2 hnil)), if_neg (mt List.isEmpty_iff.1 hnil)]
      exact expandFrom?_eq (List.nil_append _).symm ⟨[], _, _, rfl, rfl, rfl, hmarks⟩
  · rename_i hnone
    have hfree : '&' ∉ (Run.plainText runs).toList := by simpa [Run.mem_plainText_iff] using hnone
    have hshown := shown_of_free hfree []
    rw [List.append_nil, shown_nil, List.append_nil] at hshown
    rw [if_neg (by simp [hshown])]

end StyledCode.Reference

namespace StyledCode.Markup

/-- The runs of a tokenizer's output, which is read by a cursor, and of which the references are found by offsets. -/
def decodeAt? (theme : Theme) (html : String) : Option (List Run) := do
  Reference.expandAt? (rawRuns theme (← Cursor.scan? ⟨html, 0⟩))

theorem decodeAt?_eq (theme : Theme) (html : String) : decodeAt? theme html = some (decode theme html) := by
  have hstart : Cursor.At ⟨html, 0⟩ html.toList := ⟨[], rfl, rfl⟩
  rw [decodeAt?, Cursor.scan?_eq hstart, Option.bind_eq_bind, Option.bind_some, Reference.expandAt?_eq, decode]

end StyledCode.Markup
