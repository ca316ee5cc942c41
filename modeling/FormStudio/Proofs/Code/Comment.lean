import FormStudio.Proofs.Code.Tabs
import FormStudio.Proofs.Form.Names
import Mathlib.Data.List.Chain

/-!
# Comments end where they are meant to

A comment between tags ends at the first mark that ends comments, whatever its text was meant to
say. Of a text that is put into one all such marks are taken apart, and none comes about anew: not
from the pieces that are left (`Markup.hasNoEnd_breakEnds`), and not where the text meets the marks
of the comment itself (`Markup.isComment_comment`). So what is read behind a comment is what was
written behind it (`Markup.IsComment.afterComment?_append`), also for the comment in the place of a
field without code, whose variant may be any text (`Markup.comment_isClosed`).
-/
namespace FormStudio

namespace Markup

/-! ## Comments -/

/-- Whether no end of a comment occurs in a text. -/
def HasNoEnd (cs : List Char) : Prop := ∀ before after, cs ≠ before ++ '*' :: '/' :: after

/-- A comment between tags. The mark that ends it occurs in it only as its end. -/
structure IsComment (source : String) : Prop where
  exists_body : ∃ body, source.toList = ['\x7b', '/', '*'] ++ body ++ ['*', '/', '\x7d']
  after_eq : ∀ before after, source.toList = before ++ '*' :: '/' :: after → after = ['\x7d']

/-- What stands behind the first end of a comment. -/
def afterEnd? : List Char → Option (List Char)
  | '*' :: '/' :: rest => some rest
  | _ :: rest => afterEnd? rest
  | [] => none

/-- What stands behind the comment between tags that a text begins with. -/
def afterComment? : List Char → Option (List Char)
  | '\x7b' :: '/' :: '*' :: rest =>
    match afterEnd? rest with
    | some ('\x7d' :: more) => some more
    | _ => none
  | _ => none

/-! ## Texts without ends -/

section Ends

variable {first last before after : List Char}

/-- Two characters next to each other make no end. -/
def IsApart (c next : Char) : Prop := ¬ (c = '*' ∧ next = '/')

theorem hasNoEnd_iff {cs : List Char} : HasNoEnd cs ↔ cs.IsChain IsApart := by
  rw [List.isChain_iff_forall_rel_of_append_cons_cons]
  constructor
  · rintro h c next before after heq ⟨rfl, rfl⟩
    exact h before after heq
  · intro h before after heq
    exact h heq ⟨rfl, rfl⟩

/-- Texts are joined without a new end where no star meets a slash. -/
theorem HasNoEnd.append (hfirst : HasNoEnd first) (hlast : HasNoEnd last)
    (h : ∀ c ∈ first.getLast?, ∀ next ∈ last.head?, IsApart c next) : HasNoEnd (first ++ last) :=
  hasNoEnd_iff.2 (List.isChain_append.2 ⟨hasNoEnd_iff.1 hfirst, hasNoEnd_iff.1 hlast, h⟩)

/-- The end behind a text without ends is the first one. -/
theorem afterEnd?_append (h : HasNoEnd before) (after : List Char) :
    afterEnd? (before ++ '*' :: '/' :: after) = some after := by
  induction before with
  | nil => rfl
  | cons c rest ih =>
    have hrest : HasNoEnd rest := fun pre post heq => h (c :: pre) post (congrArg (c :: ·) heq)
    have hopen : ∀ more, c = '*' → rest ++ '*' :: '/' :: after = '/' :: more → False := by
      rintro more rfl heq
      cases rest with
      | nil => cases heq
      | cons next rest =>
        obtain rfl : next = '/' := (List.cons.inj heq).1
        exact h [] rest rfl
    rw [List.cons_append, afterEnd?.eq_2 _ _ hopen, ih hrest]

/-- Where an end stands behind a text without ends, and a brace behind it, there is no other end. -/
theorem eq_brace_of_append (h : HasNoEnd first)
    (heq : first ++ ['*', '/', '\x7d'] = before ++ '*' :: '/' :: after) : after = ['\x7d'] := by
  rcases List.append_eq_append_iff.1 heq with ⟨more, -, hlater⟩ | ⟨more, hfirst, hearlier⟩
  · match more with
    | [] => simpa using hlater.symm
    | [_] => simp at hlater
    | _ :: _ :: more =>
      have hlength := congrArg List.length hlater
      simp only [List.length_cons, List.length_append, List.length_nil] at hlength
      omega
  · match more with
    | [] => simpa using hearlier
    | [_] => simp at hearlier
    | _ :: _ :: more =>
      obtain ⟨rfl, rfl, -⟩ : '*' = _ ∧ '/' = _ ∧ _ := by simpa using hearlier
      exact absurd hfirst (h before more)

end Ends

/-! ## Comments that are written -/

theorem head?_breakEnds (cs : List Char) : (breakEnds cs).head? = cs.head? := by
  fun_cases breakEnds cs <;> rfl

/-- **No end is left** in a text whose ends are taken apart, and the pieces make no new one. -/
theorem hasNoEnd_breakEnds (cs : List Char) : HasNoEnd (breakEnds cs) := by
  rw [hasNoEnd_iff]
  fun_induction breakEnds cs with
  | case1 rest ih =>
    have hslash : ∀ next ∈ (breakEnds rest).head?, IsApart '/' next :=
      fun next _ h => absurd h.1 (by decide)
    exact .cons_cons (by simp [IsApart]) (.cons_cons (by simp [IsApart]) (ih.cons hslash))
  | case2 c rest hc ih =>
    refine ih.cons fun next hnext => ?_
    rintro ⟨rfl, rfl⟩
    rw [head?_breakEnds] at hnext
    obtain ⟨more, rfl⟩ := List.head?_eq_some_iff.1 hnext
    exact hc more rfl rfl
  | case3 => exact .nil

/-- The text of a comment, with the blanks around it. -/
def commentBody (s : String) : List Char := ' ' :: (breakEnds s.toList ++ [' '])

theorem toList_comment (s : String) :
    (comment s).toList = ['\x7b', '/', '*'] ++ commentBody s ++ ['*', '/', '\x7d'] := by
  simp [comment, commentBody]

/-- The blanks keep the text of a comment apart from its marks. -/
theorem hasNoEnd_commentBody (s : String) : HasNoEnd ('\x7b' :: '/' :: '*' :: commentBody s) := by
  have hbody : HasNoEnd (breakEnds s.toList ++ [' ']) := by
    refine (hasNoEnd_breakEnds _).append (hasNoEnd_iff.2 (.singleton ' ')) ?_
    rintro c - next hnext ⟨-, rfl⟩
    cases hnext
  have hopening : HasNoEnd ['\x7b', '/', '*', ' '] := hasNoEnd_iff.2 (by simp [IsApart])
  refine hopening.append hbody ?_
  rintro c hc next - ⟨rfl, -⟩
  cases hc

theorem isComment_comment (s : String) : IsComment (comment s) where
  exists_body := ⟨commentBody s, toList_comment s⟩
  after_eq before after heq := by
    rw [toList_comment] at heq
    exact eq_brace_of_append (hasNoEnd_commentBody s) heq

/-- **What is read behind a comment** is what was written behind it. -/
theorem IsComment.afterComment?_append {source : String} (h : IsComment source)
    (more : List Char) : afterComment? (source.toList ++ more) = some more := by
  obtain ⟨body, hbody⟩ := h.exists_body
  have hnone : HasNoEnd body := by
    rintro before after rfl
    have hafter := h.after_eq ('\x7b' :: '/' :: '*' :: before) (after ++ ['*', '/', '\x7d'])
      (by simp [hbody])
    simpa using congrArg List.length hafter
  have htext : source.toList ++ more =
      '\x7b' :: '/' :: '*' :: (body ++ '*' :: '/' :: '\x7d' :: more) := by
    simp [hbody]
  rw [htext, afterComment?, afterEnd?_append hnone]
  rfl

/-- **A comment cannot be broken out of.** Its end occurs nowhere in it but where it ends, for any
text that is put into it. So the line that stands for a field without code is a comment, whatever
the variant and the name of the field are, and what follows is read as it was written. -/
theorem comment_isClosed :
    (∀ text, IsComment (comment text)) ∧
    ∀ (variants : VariantTable) (wiring : Wiring) (f : Field),
      f.snippet? variants wiring = none →
        ∃ line, Form.controlLines variants wiring f = [line] ∧ IsComment line ∧
          ∀ more, afterComment? (line.toList ++ more) = some more := by
  refine ⟨isComment_comment, fun variants wiring f h => ?_⟩
  have hline := isComment_comment
    ("Unsupported field type: \"" ++ f.variant ++ "\" (" ++ f.name ++ ")")
  exact ⟨_, Form.controlLines_of_none h, hline, hline.afterComment?_append⟩

/-- A variant that ends a comment right away, and again around what is taken apart. -/
theorem comment_isClosed_of_ends :
    let f : Field := { Field.named "a" with variant := "*/\x7d**//*/" }
    let wiring := Library.reactHookForm.wiring
    let line := "\x7b/* Unsupported field type: \"* /\x7d** //* /\" (a) */\x7d"
    f.snippet? Handler.builtin wiring = none ∧
      Form.controlLines Handler.builtin wiring f = [line] ∧ IsComment line ∧
        afterComment? (line.toList ++ ['<']) = some ['<'] := by
  intro f wiring line
  have hnone : f.snippet? Handler.builtin wiring = none := by decide
  have hline : Form.controlLines Handler.builtin wiring f = [line] := by decide +kernel
  obtain ⟨other, hother, hcomment, hafter⟩ := comment_isClosed.2 Handler.builtin wiring f hnone
  obtain rfl : other = line := List.singleton_inj.1 (hother.symm.trans hline)
  exact ⟨hnone, hline, hcomment, hafter ['<']⟩

end Markup

end FormStudio
