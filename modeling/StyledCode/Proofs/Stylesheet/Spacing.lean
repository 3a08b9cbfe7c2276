import StyledCode.Proofs.Stylesheet.Comment
import StyledCode.Proofs.Stylesheet.Scan
import StyledCode.Stylesheet.Basic

/-!
# Comments as space

A stylesheet with a comment is read as the one with a space in its place, whatever stands around the comment and in
it.  A comment that is never closed takes the rest of the stylesheet with it, and nothing else.

* `withoutComments_around` : a comment and a space between the same texts
* `ofText_comment` : the stylesheets of such texts
-/

namespace StyledCode.Stylesheet

/-- The first comment of a text can be a space instead, before it is known what other comments there are. -/
theorem withoutComments_around {front content : List Char} (hfront : ¬ ['/', '*'] <:+: front)
    (hcontent : ¬ ['*', '/'] <:+: content) (back : List Char) :
    withoutComments (front ++ '/' :: '*' :: (content ++ '*' :: '/' :: back)) =
      withoutComments (front ++ ' ' :: back) := by
  -- the last character of `front` begins no comment, neither with the mark behind it nor with the space
  have hmark : ∀ c ∈ ('/' :: '*' :: (content ++ '*' :: '/' :: back)).head?, c ≠ '*' := by simp
  have hspace : ∀ c ∈ (' ' :: back).head?, c ≠ '*' := by simp
  calc withoutComments (front ++ '/' :: '*' :: (content ++ '*' :: '/' :: back))
      = front ++ withoutComments ('/' :: '*' :: (content ++ '*' :: '/' :: back)) := withoutComments_append hfront hmark
    _ = front ++ ' ' :: withoutComments back := by rw [withoutComments_comment hcontent]
    _ = front ++ withoutComments (' ' :: back) := by rw [withoutComments_cons_of_ne (by decide)]
    _ = withoutComments (front ++ ' ' :: back) := (withoutComments_append hfront hspace).symm

theorem withoutComments_front {front content : List Char} (hfront : ¬ ['/', '*'] <:+: front)
    (hcontent : ¬ ['*', '/'] <:+: content) :
    withoutComments (front ++ '/' :: '*' :: content) = front ++ [' '] := by
  rw [withoutComments_append hfront (by simp), withoutComments_unclosed hcontent]

theorem ofText_eq_of_no_comment {text : String} (h : ¬ ['/', '*'] <:+: text.toList) :
    ofText text = ofRules (Rule.scan text.toList) := by
  rw [ofText, withoutComments_eq_self h]

/-- Behind a text in which no comment begins, a comment is worth a space, whatever it contains before its end and
whatever follows it.  A comment that is not closed drops the rest, so that the rules in front of it are all there
are. -/
theorem ofText_comment {front content : String} (hfront : ¬ ['/', '*'] <:+: front.toList)
    (hcontent : ¬ ['*', '/'] <:+: content.toList) :
    (∀ back : String, ofText (front ++ "/*" ++ content ++ "*/" ++ back) = ofText (front ++ " " ++ back)) ∧
      ofText (front ++ "/*" ++ content) = ofText front ∧ ofText front = ofRules (Rule.scan front.toList) := by
  have hbare := ofText_eq_of_no_comment hfront
  refine ⟨fun back => ?_, ?_, hbare⟩
  · have hclosed : (front ++ "/*" ++ content ++ "*/" ++ back).toList =
        front.toList ++ '/' :: '*' :: (content.toList ++ '*' :: '/' :: back.toList) := by
      simp [String.toList_append]
    have hspaced : (front ++ " " ++ back).toList = front.toList ++ ' ' :: back.toList := by
      simp [String.toList_append]
    rw [ofText, ofText, hclosed, hspaced, withoutComments_around hfront hcontent]
  · have hopen : (front ++ "/*" ++ content).toList = front.toList ++ '/' :: '*' :: content.toList := by
      simp [String.toList_append]
    have hrules : Rule.scan (front.toList ++ [' ']) = Rule.scan front.toList :=
      Rule.scan_append_of_not_mem (by decide) (by decide) front.toList
    rw [ofText, hopen, withoutComments_front hfront hcontent, hrules, hbare]

/-- Marks on both sides of the delimiters of a comment, and marks and braces in it: the rules around it are read, and
only the first of them if it is not closed. -/
theorem ofText_comment_overlapping :
    let front := ".k\x7bp:q\x7d/"
    let content := "/\x7b;\x7d/*\x7b*"
    let back := "/*x*/.l\x7br:s\x7d"
    ¬ ['/', '*'] <:+: front.toList ∧ ¬ ['*', '/'] <:+: content.toList ∧
      ofText (front ++ "/*" ++ content ++ "*/" ++ back) = ⟨[("k", [⟨"p", "q"⟩]), ("l", [⟨"r", "s"⟩])]⟩ ∧
      ofText (front ++ "/*" ++ content) = ⟨[("k", [⟨"p", "q"⟩])]⟩ := by
  intro front content back
  have hfront : ¬ ['/', '*'] <:+: front.toList := by decide +kernel
  have hcontent : ¬ ['*', '/'] <:+: content.toList := by decide +kernel
  obtain ⟨hclosed, hopen, -⟩ := ofText_comment hfront hcontent
  refine ⟨hfront, hcontent, ?_, ?_⟩
  · rw [hclosed]
    decide +kernel
  · rw [hopen]
    decide +kernel

end StyledCode.Stylesheet
