import PodSite.Proofs.Html.Tags

/-!
What a reader of a page sees: the text between the tags, with the references for special characters
read as those characters. Other references are left as they are written.
-/
namespace PodSite.Html

def outsideTags (inside : Bool) : Text → Text
  | [] => []
  | c :: rest =>
    if inside then outsideTags (c != '>') rest
    else if c = '<' then outsideTags true rest
    else c :: outsideTags false rest

def withoutTags (t : Text) : Text := outsideTags false t

/-- Reads the references for special characters and for spaces that do not break a line. -/
def decode : Text → Text
  | [] => []
  | '&' :: 'a' :: 'm' :: 'p' :: ';' :: rest => '&' :: decode rest
  | '&' :: 'l' :: 't' :: ';' :: rest => '<' :: decode rest
  | '&' :: 'g' :: 't' :: ';' :: rest => '>' :: decode rest
  | '&' :: 'q' :: 'u' :: 'o' :: 't' :: ';' :: rest => '"' :: decode rest
  | '&' :: '#' :: '3' :: '9' :: ';' :: rest => '\'' :: decode rest
  | '&' :: 'n' :: 'b' :: 's' :: 'p' :: ';' :: rest => ' ' :: decode rest
  | c :: rest => c :: decode rest

theorem withoutTags_plain {t : Text} (plain : '<' ∉ t) (rest : Text) :
    withoutTags (t ++ rest) = t ++ withoutTags rest := by
  induction t with
  | nil => rfl
  | cons c t ih =>
    simp only [List.mem_cons, not_or] at plain
    rw [List.cons_append, withoutTags, outsideTags, if_neg (by simp), if_neg (Ne.symm plain.1)]
    exact congrArg (c :: ·) (ih plain.2)

theorem outsideTags_inside {t : Text} (plain : '>' ∉ t) (rest : Text) :
    outsideTags true (t ++ '>' :: rest) = withoutTags rest := by
  induction t with
  | nil => simp [outsideTags, withoutTags]
  | cons c t ih =>
    simp only [List.mem_cons, not_or] at plain
    have inside : (c != '>') = true := by simpa using Ne.symm plain.1
    rw [List.cons_append, outsideTags, if_pos rfl, inside]
    exact ih plain.2

theorem withoutTags_tag {t : Text} (plain : '>' ∉ t) (rest : Text) :
    withoutTags ('<' :: t ++ '>' :: rest) = withoutTags rest := by
  rw [List.cons_append, withoutTags, outsideTags, if_neg (by simp), if_pos rfl]
  exact outsideTags_inside plain rest

theorem decode_cons {c : Char} (other : c ≠ '&') (rest : Text) :
    decode (c :: rest) = c :: decode rest := by
  rw [decode]
  all_goals
    intro _ same
    exact absurd same other

theorem decode_append {t : Text} (other : '&' ∉ t) (rest : Text) :
    decode (t ++ rest) = t ++ decode rest := by
  induction t with
  | nil => rfl
  | cons c t ih =>
    simp only [List.mem_cons, not_or] at other
    rw [List.cons_append, decode_cons (Ne.symm other.1), ih other.2, List.cons_append]

theorem decode_special {c : Char} {name : Text} (special : (c, name) ∈ specials) (rest : Text) :
    decode ('&' :: name ++ ';' :: rest) = c :: decode rest := by
  simp only [specials, List.mem_cons, List.not_mem_nil, or_false, Prod.mk.injEq] at special
  obtain ⟨rfl, rfl⟩ | ⟨rfl, rfl⟩ | ⟨rfl, rfl⟩ | ⟨rfl, rfl⟩ | ⟨rfl, rfl⟩ := special
  all_goals simp [decode]

def decoded : List Text := "nbsp".toList :: specials.map Prod.snd

theorem name_unique {a b rest after : Text} (left : ';' ∉ a) (right : ';' ∉ b)
    (same : a ++ ';' :: rest = b ++ ';' :: after) : a = b := by
  -- a name is what stands in front of the first semicolon
  have upTo : ∀ {name : Text} (_ : ';' ∉ name) (t : Text),
      (name ++ ';' :: t).takeWhile (· != ';') = name := by
    intro name ends t
    have letters : ∀ c ∈ name, (c != ';') = true := by
      intro c member
      simp only [bne_iff_ne]
      rintro rfl
      exact ends member
    rw [List.takeWhile_append_of_pos letters]
    simp
  rw [← upTo left rest, same, upTo right after]

theorem decode_reference {name : Text} (ends : ';' ∉ name) (single : '&' ∉ name)
    (other : name ∉ decoded) (rest : Text) :
    decode ('&' :: name ++ ';' :: rest) = '&' :: name ++ ';' :: decode rest := by
  have later : decode (name ++ ';' :: rest) = name ++ ';' :: decode rest := by
    rw [decode_append single, decode_cons (by decide)]
  -- no pattern of `decode` fits, since each would make the name one of those that are read
  have distinct : ∀ known ∈ decoded, ∀ after, name ++ ';' :: rest = known ++ ';' :: after →
      False := by
    intro known member after same
    have marks : ∀ known ∈ decoded, ';' ∉ known := by decide
    rw [name_unique ends (marks known member) same] at other
    exact other member
  rw [List.cons_append, decode, later]
  · rfl
  · exact fun after _ => distinct "amp".toList (by decide) after
  · exact fun after _ => distinct "lt".toList (by decide) after
  · exact fun after _ => distinct "gt".toList (by decide) after
  · exact fun after _ => distinct "quot".toList (by decide) after
  · exact fun after _ => distinct "#39".toList (by decide) after
  · exact fun after _ => distinct "nbsp".toList (by decide) after

theorem decode_escape (t rest : Text) : decode (escape t ++ rest) = t ++ decode rest := by
  induction t with
  | nil => rfl
  | cons c t ih =>
    rw [escape, List.flatMap_cons, List.append_assoc]
    change decode (escapeChar c ++ (escape t ++ rest)) = _
    rcases escapeChar_cases c with ⟨name, special, written⟩ | ⟨ordinary, written⟩
    · rw [written, List.append_assoc, List.singleton_append, decode_special special, ih]
      rfl
    · rw [written, List.singleton_append, decode_cons ordinary.1, ih]
      rfl

example : decode "&lt;b&gt; &amp;lt; &eacute;".toList = "<b> &lt; &eacute;".toList := by decide

mutual
def visible : Html → Text
  | text t => t
  | reference name => if name = "nbsp".toList then [' '] else '&' :: name ++ [';']
  | element _ _ content => visibleAll content
  | image _ => []
  | raw t => t
def visibleAll : List Html → Text
  | [] => []
  | node :: rest => visible node ++ visibleAll rest
end

theorem visibleAll_append (a b : List Html) :
    visibleAll (a ++ b) = visibleAll a ++ visibleAll b := by
  induction a with
  | nil => rfl
  | cons node a ih => simp [visibleAll, ih]

theorem visibleAll_single (node : Html) : visibleAll [node] = visible node := by
  simp [visibleAll]

def seen (t : Text) : Text := decode (withoutTags t)

/-- A text in which the reader sees `shown`, whatever stands after it. -/
def Shows (t shown : Text) : Prop := ∀ rest, seen (t ++ rest) = shown ++ seen rest

theorem shows_nil : Shows [] [] := fun _ => rfl

theorem Shows.append {t u shown later : Text} (first : Shows t shown) (second : Shows u later) :
    Shows (t ++ u) (shown ++ later) := by
  intro rest
  rw [List.append_assoc, first, second, List.append_assoc]

theorem shows_tag {t : Text} (plain : '>' ∉ t) : Shows ('<' :: t ++ ['>']) [] := by
  intro rest
  rw [seen, List.append_assoc, List.singleton_append, withoutTags_tag plain]
  rfl

theorem shows_escape (t : Text) : Shows (escape t) t := by
  intro rest
  rw [seen, withoutTags_plain (escape_plain t).1, decode_escape]
  rfl

theorem shows_space : Shows (writeNode (reference "nbsp".toList)) [' '] := by
  intro rest
  have plain : '<' ∉ writeNode (reference "nbsp".toList) := by decide
  rw [seen, withoutTags_plain plain]
  simp [writeNode, decode, seen]

theorem shows_reference {name : Text} (plain : '<' ∉ name) (ends : ';' ∉ name)
    (single : '&' ∉ name) (other : name ∉ decoded) :
    Shows (writeNode (reference name)) (visible (reference name)) := by
  have spaces : name ≠ "nbsp".toList := by
    rintro rfl
    exact other (by decide)
  have outside : '<' ∉ writeNode (reference name) := by
    simp [writeNode, plain]
  intro rest
  rw [seen, withoutTags_plain outside, writeNode, List.append_assoc, List.singleton_append,
    decode_reference ends single other, visible, if_neg spaces]
  simp [seen]

theorem shows_element {tag : Tag} {attributes : List Attribute} {content : List Html}
    {shown : Text} (plain : PlainAttributes attributes) (inner : Shows (write content) shown) :
    Shows (writeNode (element tag attributes content)) shown := by
  have parts := ((shows_tag (opening_plain plain tag)).append inner).append
    (shows_tag (closing_plain tag))
  simpa [writeNode] using parts

theorem shows_write {nodes : List Html}
    (each : ∀ node ∈ nodes, Shows (writeNode node) (visible node)) :
    Shows (write nodes) (visibleAll nodes) := by
  induction nodes with
  | nil => exact shows_nil
  | cons node rest ih =>
    rw [write, visibleAll]
    exact (each node (by simp)).append (ih fun other member => each other (by simp [member]))

end PodSite.Html
