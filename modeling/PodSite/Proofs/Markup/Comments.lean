import Mathlib.Data.List.Infix
import PodSite.Proofs.Markup.Regions

/-!
Markup in block comments. A source is program code with comments in between, the last of which may
be left open. What is read of it is the bodies of the comments, however their marks meet the text
beside them, so sources with the same bodies have the same markup. Every source is laid out so.
-/
namespace PodSite.Markup

def mark (inside : Bool) : Text := if inside then "*/".toList else "/*".toList

/-- A part of a source that its mark does not end. -/
structure Stretch (inside : Bool) where
  text : Text
  unmarked : ¬mark inside <:+: text

abbrev Code := Stretch false

abbrev CommentBody := Stretch true

/-- A source as code and comments by turns. -/
structure Commented where
  code : Code
  /-- The comments that end, each with the code after it. -/
  comments : List (CommentBody × Code)
  /-- A last comment that is left open. -/
  unclosed : Option CommentBody

namespace Commented

def commentSource (comment : CommentBody × Code) : Text :=
  "/*".toList ++ comment.1.text ++ "*/".toList ++ comment.2.text

def unclosedSource (body : CommentBody) : Text := "/*".toList ++ body.text

def source (s : Commented) : Text :=
  s.code.text ++ s.comments.flatMap commentSource ++ s.unclosed.toList.flatMap unclosedSource

def bodies (s : Commented) : List Text :=
  s.comments.map (fun comment => comment.1.text) ++ s.unclosed.toList.map Stretch.text

end Commented

def joinBodies (bodies : List Text) : Text := bodies.flatMap (· ++ ['\n'])

section Stretches

def kept (inside : Bool) (t : Text) : Text := if inside then t else []

theorem kept_append (inside : Bool) (a b : Text) :
    kept inside (a ++ b) = kept inside a ++ kept inside b := by
  cases inside <;> rfl

theorem commentText_mark (inside : Bool) (rest : Text) :
    commentText inside (mark inside ++ rest) =
      kept inside ['\n'] ++ commentText (!inside) rest := by
  cases inside with
  | false => simp [mark, kept, commentText]
  | true => simp [mark, kept, commentText]

theorem commentText_cons {inside : Bool} {c d : Char} {rest : Text}
    (other : ¬mark inside <+: c :: d :: rest) :
    commentText inside (c :: d :: rest) = kept inside [c] ++ commentText inside (d :: rest) := by
  cases inside with
  | false =>
    have here : ¬(c = '/' ∧ d = '*') := by
      rintro ⟨rfl, rfl⟩
      exact other ⟨rest, rfl⟩
    rw [commentText, if_neg (by simp), if_neg here]
    rfl
  | true =>
    have here : ¬(c = '*' ∧ d = '/') := by
      rintro ⟨rfl, rfl⟩
      exact other ⟨rest, rfl⟩
    rw [commentText, if_pos rfl, if_neg here]
    rfl

/-- The last character of a stretch and the first of its mark are no mark, since a mark does not
start with its second character. -/
theorem not_mark_prefix {inside : Bool} {c : Char} {t rest : Text}
    (unmarked : ¬mark inside <:+: c :: t) : ¬mark inside <+: c :: (t ++ (mark inside ++ rest)) := by
  intro starts
  cases t with
  | nil => cases inside <;> simp [mark] at starts
  | cons d t =>
    apply unmarked
    have front : mark inside <+: c :: d :: t := by
      cases inside with
      | false =>
        simp only [mark] at starts ⊢
        simpa using starts
      | true =>
        simp only [mark] at starts ⊢
        simpa using starts
    exact front.isInfix

theorem commentText_stretch {inside : Bool} (s : Stretch inside) (rest : Text) :
    commentText inside (s.text ++ (mark inside ++ rest)) =
      kept inside (s.text ++ ['\n']) ++ commentText (!inside) rest := by
  obtain ⟨t, unmarked⟩ := s
  induction t with
  | nil => exact commentText_mark inside rest
  | cons c t ih =>
    have later : ¬mark inside <:+: t := fun there => unmarked (List.infix_cons there)
    have other : ¬mark inside <+: c :: (t ++ (mark inside ++ rest)) := not_mark_prefix unmarked
    obtain ⟨d, more, next⟩ : ∃ d more, t ++ (mark inside ++ rest) = d :: more :=
      List.exists_cons_of_ne_nil (by cases inside <;> simp [mark])
    have read := ih later
    simp only at read ⊢
    rw [next] at other read
    rw [List.cons_append, next, commentText_cons other, read, ← List.append_assoc, ← kept_append]
    rfl

theorem commentText_last {inside : Bool} (s : Stretch inside) :
    commentText inside s.text = kept inside (s.text ++ ['\n']) := by
  obtain ⟨t, unmarked⟩ := s
  induction t with
  | nil => cases inside <;> rfl
  | cons c t ih =>
    have later : ¬mark inside <:+: t := fun there => unmarked (List.infix_cons there)
    cases t with
    | nil => cases inside <;> rfl
    | cons d t =>
      have other : ¬mark inside <+: c :: d :: t := fun starts => unmarked starts.isInfix
      have read := ih later
      simp only at read ⊢
      rw [commentText_cons other, read, ← kept_append]
      rfl

theorem exists_stretch (inside : Bool) (t : Text) : (∃ s : Stretch inside, t = s.text) ∨
    ∃ (s : Stretch inside) (rest : Text), t = s.text ++ (mark inside ++ rest) := by
  induction t with
  | nil =>
    refine Or.inl ⟨⟨[], ?_⟩, rfl⟩
    cases inside <;> simp [mark]
  | cons c t ih =>
    by_cases here : mark inside <+: c :: t
    · obtain ⟨rest, split⟩ := here
      have empty : ¬mark inside <:+: [] := by cases inside <;> simp [mark]
      exact Or.inr ⟨⟨[], empty⟩, rest, split.symm⟩
    · rcases ih with ⟨s, rfl⟩ | ⟨s, rest, rfl⟩
      · refine Or.inl ⟨⟨c :: s.text, ?_⟩, rfl⟩
        intro marked
        exact (List.infix_cons_iff.mp marked).elim here s.unmarked
      · refine Or.inr ⟨⟨c :: s.text, ?_⟩, rest, rfl⟩
        intro marked
        rcases List.infix_cons_iff.mp marked with starts | later
        · exact here (starts.trans (List.prefix_append (c :: s.text) _))
        · exact s.unmarked later

end Stretches

namespace Commented

theorem source_cons (code next : Code) (body : CommentBody) (comments : List (CommentBody × Code))
    (unclosed : Option CommentBody) :
    source ⟨code, (body, next) :: comments, unclosed⟩ =
      code.text ++
        (mark false ++ (body.text ++ (mark true ++ source ⟨next, comments, unclosed⟩))) := by
  simp [source, commentSource, mark]

theorem source_unclosed (code : Code) (body : CommentBody) :
    source ⟨code, [], some body⟩ = code.text ++ (mark false ++ body.text) := by
  simp [source, unclosedSource, mark]

theorem source_code (code : Code) : source ⟨code, [], none⟩ = code.text := by
  simp [source]

/-- The induction is on the comments that end; behind each, what is left is a source again. -/
theorem commentText_source (s : Commented) :
    commentText false s.source = joinBodies s.bodies := by
  obtain ⟨code, comments, unclosed⟩ := s
  induction comments generalizing code with
  | nil =>
    cases unclosed with
    | none =>
      rw [source_code, commentText_last]
      rfl
    | some body =>
      rw [source_unclosed, commentText_stretch, Bool.not_false, commentText_last]
      simp [kept, bodies, joinBodies]
  | cons comment comments ih =>
    obtain ⟨body, next⟩ := comment
    rw [source_cons, commentText_stretch, Bool.not_false, commentText_stretch, Bool.not_true, ih]
    simp [kept, bodies, joinBodies]

theorem dropByteOrderMark_source (s : Commented) :
    ∃ code, dropByteOrderMark s.source = source { s with code := code } := by
  obtain ⟨⟨t, unmarked⟩, comments, unclosed⟩ := s
  by_cases first : t.head? = some '\uFEFF'
  · obtain ⟨t, rfl⟩ := List.head?_eq_some_iff.mp first
    exact ⟨⟨t, fun there => unmarked (List.infix_cons there)⟩, rfl⟩
  · refine ⟨⟨t, unmarked⟩, dropByteOrderMark_plain ?_⟩
    cases t with
    | cons c t => exact first
    | nil =>
      cases comments with
      | cons comment comments =>
        obtain ⟨body, next⟩ := comment
        simp [source_cons, mark]
      | nil =>
        cases unclosed with
        | none => simp [source_code]
        | some body => simp [source_unclosed, mark]

theorem exists_source (t : Text) : ∃ s : Commented, s.source = t := by
  induction size : t.length using Nat.strongRecOn generalizing t with
  | ind n ih =>
    rcases exists_stretch false t with ⟨code, rfl⟩ | ⟨code, rest, rfl⟩
    · exact ⟨⟨code, [], none⟩, source_code code⟩
    · rcases exists_stretch true rest with ⟨body, rfl⟩ | ⟨body, rest, rfl⟩
      · exact ⟨⟨code, [], some body⟩, source_unclosed code body⟩
      · have shorter : rest.length < n := by
          rw [← size]
          simp [mark]
          omega
        obtain ⟨⟨next, comments, unclosed⟩, rfl⟩ := ih rest.length shorter rest rfl
        exact ⟨⟨code, (body, next) :: comments, unclosed⟩, source_cons ..⟩

end Commented

/-- What is read of a source with comments is their bodies, and its markup depends on nothing
else. -/
theorem ofSource_comments :
    (∀ s : Commented, commentText false s.source = joinBodies s.bodies ∧
      ofSource .comments s.source = regionLines false (Text.lines (joinBodies s.bodies))) ∧
    ∀ t : Text, ∃ s : Commented, s.source = t := by
  refine ⟨fun s => ⟨s.commentText_source, ?_⟩, Commented.exists_source⟩
  obtain ⟨code, unmarked⟩ := s.dropByteOrderMark_source
  have read := Commented.commentText_source { s with code := code }
  rw [ofSource, unmarked]
  simp only [read]
  rfl

example : commentText false "a/ //*/x**/*c/ /*d*".toList = "/x*\nd*\n".toList := by decide

end PodSite.Markup
