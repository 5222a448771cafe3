import Mathlib.Data.List.Infix
import PodSite.Proofs.Inline.Print

/-!
Codes with several angle brackets. White space inside the brackets sets the content apart, and in it
angle brackets stand for themselves: up to white space with as many closing brackets after it, the
content is read as it is written. What comes after the code is read as if nothing stood in front.
-/
namespace PodSite.Inline

def startsCode : Text → Bool
  | c :: '<' :: _ => isCodeLetter c
  | _ => false

def startsEnd (n : Nat) : Text → Bool
  | c :: rest => Text.isBlank c && (List.replicate n '>').isPrefixOf rest
  | [] => false

/-- Nothing in the text opens a code. -/
def Unopened (t : Text) : Prop := ∀ s ∈ t.tails, startsCode s = false

def Unended (n : Nat) (t : Text) : Prop := ∀ s ∈ t.tails, startsEnd n s = false

instance : DecidablePred Unopened := fun t =>
  inferInstanceAs (Decidable (∀ s ∈ t.tails, startsCode s = false))

instance (n : Nat) : DecidablePred (Unended n) := fun t =>
  inferInstanceAs (Decidable (∀ s ∈ t.tails, startsEnd n s = false))

section Lookahead
variable {n : Nat} {blanks v back : Text}

theorem unopened_cons {c : Char} {t : Text} :
    Unopened (c :: t) ↔ startsCode (c :: t) = false ∧ Unopened t := by
  simp [Unopened]

theorem unended_cons {c : Char} {t : Text} :
    Unended n (c :: t) ↔ startsEnd n (c :: t) = false ∧ Unended n t := by
  simp [Unended]

theorem Unended.not_prefix (unended : Unended n (blanks ++ v)) (some : blanks ≠ [])
    (blank : Text.isAllBlank blanks = true) : ¬List.replicate n '>' <+: v := by
  obtain ⟨front, c, rfl⟩ : ∃ front c, blanks = front ++ [c] :=
    ⟨_, _, (List.dropLast_concat_getLast some).symm⟩
  have last : Text.isBlank c = true := List.all_eq_true.mp blank c (by simp)
  have here := unended (c :: v) ((List.mem_tails _ _).mpr ⟨front, by simp⟩)
  rw [startsEnd, last, Bool.true_and] at here
  rw [← List.isPrefixOf_iff_prefix, here]
  exact Bool.false_ne_true

theorem replicate_prefix_append (starts : List.replicate n '>' <+: v ++ back)
    (next : back.head? ≠ some '>') : List.replicate n '>' <+: v := by
  rcases List.prefix_or_prefix_of_prefix starts (List.prefix_append v back) with inside | ⟨w, split⟩
  · exact inside
  · rw [← split, List.prefix_append_right_inj] at starts
    cases w with
    | nil =>
      rw [List.append_nil] at split
      exact split ▸ List.prefix_rfl
    | cons c w =>
      have bracket : c = '>' :=
        List.eq_of_mem_replicate (split ▸ List.mem_append_right v List.mem_cons_self)
      obtain ⟨rest, rfl⟩ := starts
      exact absurd (by simp [bracket]) next

theorem takeWhile_blanks (blank : Text.isAllBlank blanks = true)
    (solid : ∀ c ∈ v.head?, Text.isBlank c = false) :
    (blanks ++ v).takeWhile Text.isBlank = blanks := by
  have stops : v.takeWhile Text.isBlank = [] := by
    cases v with
    | nil => rfl
    | cons c v => exact List.takeWhile_cons_of_neg (by simp [solid c rfl])
  rw [List.takeWhile_append_of_pos (List.all_eq_true.mp blank), stops, List.append_nil]

theorem spacedClose?_blanks (blank : Text.isAllBlank blanks = true)
    (solid : ∀ c ∈ v.head?, Text.isBlank c = false) :
    spacedClose? n (blanks ++ v) =
      if List.replicate n '>' <+: v then some (blanks.length + n) else none := by
  have taken : v.take n = List.replicate n '>' ↔ List.replicate n '>' <+: v := by
    rw [List.prefix_iff_eq_take, List.length_replicate, eq_comm]
  unfold spacedClose?
  simp only [takeWhile_blanks blank solid, List.drop_left, taken]

theorem spacedClose?_brackets (blank : Text.isAllBlank blanks = true) (positive : 0 < n)
    (rest : Text) :
    spacedClose? n (blanks ++ (List.replicate n '>' ++ rest)) = some (blanks.length + n) := by
  have solid : ∀ c ∈ (List.replicate n '>' ++ rest).head?, Text.isBlank c = false := by
    obtain ⟨k, rfl⟩ : ∃ k, n = k + 1 := ⟨n - 1, by omega⟩
    simp [List.replicate_succ, Text.isBlank]
  rw [spacedClose?_blanks blank solid, if_pos (List.prefix_append _ _)]

theorem head?_blanks (full : blanks ≠ []) (blank : Text.isAllBlank blanks = true) (rest : Text) :
    ∃ c ∈ (blanks ++ rest).head?, Text.isBlank c = true := by
  obtain ⟨c, blanks, rfl⟩ := List.exists_cons_of_ne_nil full
  exact ⟨c, rfl, List.all_eq_true.mp blank c (by simp)⟩

theorem head?_ne_mark {t : Text} (blank : ∃ c ∈ t.head?, Text.isBlank c = true) {mark : Char}
    (solid : Text.isBlank mark = false) : t.head? ≠ some mark := by
  obtain ⟨c, first, isBlank⟩ := blank
  intro same
  cases (Option.mem_def.mp first).symm.trans same
  rw [isBlank] at solid
  cases solid

theorem exists_blanks (t : Text) : ∃ blanks v, t = blanks ++ v ∧ Text.isAllBlank blanks = true ∧
    ∀ c ∈ v.head?, Text.isBlank c = false := by
  refine ⟨t.takeWhile Text.isBlank, t.dropWhile Text.isBlank, ?_, List.all_takeWhile, ?_⟩
  · exact List.takeWhile_append_dropWhile.symm
  · intro c first
    have shape := List.head?_dropWhile_not Text.isBlank t
    rwa [Option.mem_def.mp first] at shape

theorem opening?_unopened {c : Char} {t : Text} (unopened : Unopened (c :: t))
    (next : back.head? ≠ some '<') : opening? (c :: (t ++ back)) = none := by
  have here := (unopened_cons.mp unopened).1
  unfold opening?
  split
  · rename_i d rest same
    obtain ⟨rfl, tail⟩ := List.cons.inj same
    cases t with
    | nil => simp [show back = '<' :: rest from tail] at next
    | cons e t =>
      obtain ⟨rfl, _⟩ := List.cons.inj tail
      rw [startsCode] at here
      rw [if_neg (by simp [here])]
  · rfl

end Lookahead

/-- A closer that a text does not contain, and that does not start at its end. -/
def Closer.Ignores : Closer → Text → Prop
  | .angle, t => '>' ∉ t
  | .angles n, t => Unended n t ∧ ∀ c ∈ t.getLast?, Text.isBlank c = false

theorem Closer.ignores_cons {closer : Closer} {c : Char} {t : Text}
    (ignores : closer.Ignores (c :: t)) : closer.Ignores t := by
  cases closer with
  | angle => exact fun member => ignores (List.mem_cons_of_mem c member)
  | angles n =>
    refine ⟨(unended_cons.mp ignores.1).2, fun d last => ignores.2 d ?_⟩
    rw [List.getLast?_cons, Option.mem_def.mp last]
    rfl

theorem Closer.width?_ignored {closer : Closer} {c : Char} {t back : Text}
    (ignores : closer.Ignores (c :: t)) (next : back.head? ≠ some '>') :
    closer.width? (c :: (t ++ back)) = none := by
  cases closer with
  | angle =>
    have other : c ≠ '>' := fun same => ignores (same ▸ List.mem_cons_self)
    simp [Closer.width?, other]
  | angles n =>
    rw [Closer.width?]
    split
    swap
    · rfl
    rename_i blank
    obtain ⟨blanks, v, split, allBlank, solid⟩ := exists_blanks (c :: t)
    have some : blanks ≠ [] := by
      rintro rfl
      rw [List.nil_append] at split
      simp [solid c (by simp [← split])] at blank
    -- white space that reaches the end would leave it open what follows
    have ends : v ≠ [] := by
      rintro rfl
      rw [List.append_nil] at split
      have last := ignores.2 _ (List.getLast_mem_getLast? (by simp : c :: t ≠ []))
      rw [List.all_eq_true.mp allBlank _ (split ▸ List.getLast_mem _)] at last
      cases last
    have solid' : ∀ d ∈ (v ++ back).head?, Text.isBlank d = false := by
      rw [List.head?_append_of_ne_nil _ ends]
      exact solid
    have open' := Unended.not_prefix (split ▸ ignores.1) some allBlank
    rw [← List.cons_append, split, List.append_assoc, spacedClose?_blanks allBlank solid',
      if_neg fun starts => open' (replicate_prefix_append starts next)]

namespace Reader

def Ignores (r : Reader) (t : Text) : Prop := ∀ code ∈ r.codes.head?, code.closer.Ignores t

section Step
variable {r : Reader} (rested : r.skip = 0) {c : Char} {rest : Text}
include rested

theorem step_outside (codes : r.codes = []) : r.step c rest = r.enter c rest := by
  rw [step, if_neg (by simp [rested]), codes]

variable {code : OpenCode} {outer : List OpenCode} (codes : r.codes = code :: outer)
include codes

theorem step_inside (goesOn : code.closer.width? (c :: rest) = none) :
    r.step c rest = r.enter c rest := by
  rw [step, if_neg (by simp [rested]), codes]
  simp only [goesOn]

theorem step_ends {width : Nat} (ends : code.closer.width? (c :: rest) = some width) :
    r.step c rest = ⟨outer, code.close (flush r.nodes r.text) (c :: rest), [], width - 1⟩ := by
  rw [step, if_neg (by simp [rested]), codes]
  simp only [ends]

end Step

theorem step_ignored {r : Reader} (rested : r.skip = 0) {c : Char} {t back : Text}
    (ignores : r.Ignores (c :: t)) (next : back.head? ≠ some '>') :
    r.step c (t ++ back) = r.enter c (t ++ back) := by
  cases codes : r.codes with
  | nil => exact step_outside rested codes
  | cons code outer =>
    exact step_inside rested codes (Closer.width?_ignored (ignores code (by simp [codes])) next)

theorem run_ignored {r : Reader} (rested : r.skip = 0) {t back : Text} (ignores : r.Ignores t)
    (unopened : Unopened t) (noEnd : back.head? ≠ some '>') (noStart : back.head? ≠ some '<') :
    r.run (t ++ back) = ({ r with text := t.reverse ++ r.text } : Reader).run back := by
  induction t generalizing r with
  | nil => rfl
  | cons c t ih =>
    have entered : r.step c (t ++ back) = { r with text := c :: r.text } := by
      rw [step_ignored rested ignores noEnd, enter, opening?_unopened unopened noStart]
    have later : ({ r with text := c :: r.text } : Reader).Ignores t :=
      fun code inside => Closer.ignores_cons (ignores code inside)
    have ready : ({ r with text := c :: r.text } : Reader).skip = 0 := rested
    rw [List.cons_append, run, entered, ih ready later (unopened_cons.mp unopened).2]
    simp

theorem run_skip {r : Reader} {t : Text} (skip : r.skip = t.length) (rest : Text) :
    r.run (t ++ rest) = ({ r with skip := 0 } : Reader).run rest := by
  induction t generalizing r with
  | nil =>
    rw [List.nil_append, ← List.length_nil, ← skip]
  | cons c t ih =>
    have passed : r.step c (t ++ rest) = { r with skip := t.length } := by
      rw [step, if_pos (by simp [skip]), skip, List.length_cons, Nat.add_sub_cancel]
    rw [List.cons_append, run, passed, ih rfl]

def codesAfter (front : List Inline) (code : OpenCode) : List OpenCode → List OpenCode
  | [] => [{ code with before := code.before ++ front }]
  | next :: outer => code :: codesAfter front next outer

def after (front : List Inline) (r : Reader) : Reader :=
  match r.codes with
  | [] => { r with nodes := r.nodes ++ front }
  | code :: outer => { r with codes := codesAfter front code outer }

section After
variable (front : List Inline)

theorem flush_after (nodes : List Inline) (t : Text) :
    flush (nodes ++ front) t = flush nodes t ++ front := by
  unfold flush
  split <;> rfl

theorem close_after (code : OpenCode) (nodes : List Inline) (rest : Text) :
    ({ code with before := code.before ++ front } : OpenCode).close nodes rest =
      code.close nodes rest ++ front := by
  unfold OpenCode.close
  simp only
  split <;> rfl

theorem enter_after (r : Reader) (c : Char) (rest : Text) :
    (r.after front).enter c rest = (r.enter c rest).after front := by
  obtain ⟨codes, nodes, text, skip⟩ := r
  unfold enter
  cases codes with
  | nil =>
    simp only [after]
    split
    · simp only [flush_after, codesAfter]
    · rfl
  | cons code outer =>
    simp only [after]
    split
    · simp only [codesAfter]
    · rfl

theorem step_after (r : Reader) (c : Char) (rest : Text) :
    (r.after front).step c rest = (r.step c rest).after front := by
  have entered := enter_after front r c rest
  obtain ⟨codes, nodes, text, skip⟩ := r
  cases skip with
  | succ skip => cases codes <;> rfl
  | zero =>
    cases codes with
    | nil => exact entered
    | cons code outer =>
      cases outer with
      | nil =>
        cases ends : code.closer.width? (c :: rest) with
        | none =>
          rw [step_inside (r := ⟨[code], nodes, text, 0⟩) rfl rfl ends, ← entered]
          exact step_inside rfl rfl ends
        | some width =>
          have same : ({ code with before := code.before ++ front } : OpenCode).closer.width?
              (c :: rest) = some width := ends
          rw [step_ends (r := ⟨[code], nodes, text, 0⟩) rfl rfl ends]
          refine (step_ends rfl rfl same).trans ?_
          rw [close_after]
          rfl
      | cons next outer =>
        cases ends : code.closer.width? (c :: rest) with
        | none =>
          rw [step_inside (r := ⟨code :: next :: outer, nodes, text, 0⟩) rfl rfl ends, ← entered]
          exact step_inside rfl rfl ends
        | some width =>
          rw [step_ends (r := ⟨code :: next :: outer, nodes, text, 0⟩) rfl rfl ends]
          exact step_ends rfl rfl ends

theorem run_after (r : Reader) (t : Text) : (r.after front).run t = (r.run t).after front := by
  induction t generalizing r with
  | nil => rfl
  | cons c t ih => rw [run, run, step_after, ih]

theorem closeAll_after (nodes : List Inline) (code : OpenCode) (outer : List OpenCode) :
    closeAll nodes (codesAfter front code outer) = closeAll nodes (code :: outer) ++ front := by
  induction outer generalizing nodes code with
  | nil => rw [codesAfter, closeAll, closeAll, closeAll, closeAll, close_after]
  | cons next outer ih =>
    rw [codesAfter, closeAll, ih]
    rfl

theorem finish_after (r : Reader) : (r.after front).finish = front.reverse ++ r.finish := by
  obtain ⟨codes, nodes, text, skip⟩ := r
  cases codes with
  | nil => simp [after, finish, closeAll, flush_after]
  | cons code outer => simp [after, finish, closeAll_after]

end After

end Reader

theorem codeLetter_solid {c : Char} (code : isCodeLetter c = true) :
    c ≠ '>' ∧ Text.isBlank c = false := by
  have all : ("BICLEFSXZ".toList.all fun c => c != '>' && !Text.isBlank c) = true := by decide
  have listed : c ∈ "BICLEFSXZ".toList := by simpa [isCodeLetter] using code
  simpa using List.all_eq_true.mp all c listed

theorem Closer.width?_codeLetter (closer : Closer) {c : Char} (code : isCodeLetter c = true)
    (rest : Text) : closer.width? (c :: rest) = none := by
  obtain ⟨other, solid⟩ := codeLetter_solid code
  cases closer <;> simp [Closer.width?, other, solid]

section Opening
variable {letter : Char} (code : isCodeLetter letter = true) {n : Nat} {inner : Text}
include code

/-- What a letter with brackets after it opens depends on what comes behind the brackets. -/
theorem opening?_brackets (positive : 0 < n) (other : inner.head? ≠ some '<') :
    opening? (letter :: (List.replicate n '<' ++ inner)) =
      if 1 < n ∧ 0 < (inner.takeWhile Text.isBlank).length then
        some (.angles n, 1 + n + if (spacedClose? n inner).isSome then 0
          else (inner.takeWhile Text.isBlank).length)
      else some (.angle, 2) := by
  obtain ⟨k, rfl⟩ : ∃ k, n = k + 1 := ⟨n - 1, by omega⟩
  have angles : (List.replicate k '<' ++ inner).takeWhile (· == '<') = List.replicate k '<' := by
    have stops : inner.takeWhile (· == '<') = [] := by
      cases inner with
      | nil => rfl
      | cons c inner => exact List.takeWhile_cons_of_neg (by simpa using other)
    rw [List.takeWhile_append_of_pos (by simp), stops, List.append_nil]
  rw [List.replicate_succ, List.cons_append, opening?, if_pos code]
  simp only [angles, List.length_replicate, Nat.add_sub_cancel,
    List.drop_left' (List.length_replicate (n := k) (a := '<'))]

theorem opening?_wide (several : 2 ≤ n) (blank : ∃ c ∈ inner.head?, Text.isBlank c = true) :
    opening? (letter :: (List.replicate n '<' ++ inner)) = some (.angles n,
      1 + n + if (spacedClose? n inner).isSome then 0
        else (inner.takeWhile Text.isBlank).length) := by
  have spaces : 0 < (inner.takeWhile Text.isBlank).length := by
    cases inner with
    | nil => simp at blank
    | cons c inner =>
      rw [List.takeWhile_cons_of_pos (by simpa using blank), List.length_cons]
      omega
  rw [opening?_brackets code (by omega) (head?_ne_mark blank (by decide)),
    if_pos ⟨by omega, spaces⟩]

theorem opening?_narrow (positive : 0 < n) (other : inner.head? ≠ some '<')
    (solid : ∀ c ∈ inner.head?, Text.isBlank c = false) :
    opening? (letter :: (List.replicate n '<' ++ inner)) = some (.angle, 2) := by
  have none : inner.takeWhile Text.isBlank = [] := @takeWhile_blanks [] inner rfl solid
  rw [opening?_brackets code positive other, if_neg (by simp [none])]

end Opening

namespace Reader

theorem step_codeLetter {r : Reader} (rested : r.skip = 0) {letter : Char}
    (code : isCodeLetter letter = true) (rest : Text) :
    r.step letter rest = r.enter letter rest := by
  cases codes : r.codes with
  | nil => exact step_outside rested codes
  | cons first outer => exact step_inside rested codes (Closer.width?_codeLetter _ code _)

theorem run_end {r : Reader} (rested : r.skip = 0) {code : OpenCode} {outer : List OpenCode}
    (codes : r.codes = code :: outer) {n : Nat} (closer : code.closer = .angles n)
    (positive : 0 < n) {trail : Text} (full : trail ≠ []) (blank : Text.isAllBlank trail = true)
    (rest : Text) :
    r.run (trail ++ (List.replicate n '>' ++ rest)) =
      (⟨outer, code.close (flush r.nodes r.text) (trail ++ (List.replicate n '>' ++ rest)), [],
        0⟩ : Reader).run rest := by
  obtain ⟨b, trail, rfl⟩ := List.exists_cons_of_ne_nil full
  have first : Text.isBlank b = true := List.all_eq_true.mp blank b (by simp)
  have ends : code.closer.width? (b :: (trail ++ (List.replicate n '>' ++ rest))) =
      some ((b :: trail).length + n) := by
    rw [closer, Closer.width?, if_pos first, ← List.cons_append,
      spacedClose?_brackets blank positive]
  rw [List.cons_append, run, step_ends rested codes ends, ← List.append_assoc,
    run_skip (by simp)]

theorem run_opening {r : Reader} (rested : r.skip = 0) {letter : Char}
    (code : isCodeLetter letter = true) {n : Nat} {lead inner : Text}
    (opens : opening? (letter :: (List.replicate n '<' ++ (lead ++ inner))) =
      some (.angles n, 1 + n + lead.length)) :
    r.run (letter :: (List.replicate n '<' ++ (lead ++ inner))) =
      (⟨⟨letter, .angles n, inner, flush r.nodes r.text⟩ :: r.codes, [], [], 0⟩ : Reader).run
        inner := by
  have start : (letter :: (List.replicate n '<' ++ (lead ++ inner))).drop (1 + n + lead.length) =
      inner := by
    rw [← List.append_assoc, ← List.cons_append]
    exact List.drop_left' (by simp; omega)
  have width : 1 + n + lead.length - 1 = (List.replicate n '<' ++ lead).length := by
    rw [List.length_append, List.length_replicate]
    omega
  -- one character of the opening is read, the others are passed over
  rw [run, step_codeLetter rested code, enter, opens]
  simp only [start, width]
  rw [← List.append_assoc, run_skip rfl]

theorem run_wide {r : Reader} (rested : r.skip = 0) {letter : Char}
    (code : isCodeLetter letter = true) {n : Nat} (positive : 0 < n)
    {lead content trail rest : Text}
    (opens : opening? (letter :: (List.replicate n '<' ++
      (lead ++ (content ++ (trail ++ (List.replicate n '>' ++ rest)))))) =
        some (.angles n, 1 + n + lead.length))
    (full : trail ≠ []) (blank : Text.isAllBlank trail = true)
    (ignored : (Closer.angles n).Ignores content) (unopened : Unopened content)
    {node : Inline} (made : ofCode? letter (flush [] content.reverse).reverse content = some node) :
    r.run (letter :: (List.replicate n '<' ++
      (lead ++ (content ++ (trail ++ (List.replicate n '>' ++ rest)))))) =
        (⟨r.codes, node :: flush r.nodes r.text, [], 0⟩ : Reader).run rest := by
  have spaced := head?_blanks full blank (List.replicate n '>' ++ rest)
  have raw : ∀ back : Text,
      (content ++ back).take ((content ++ back).length - back.length) = content := by
    intro back
    rw [List.length_append, Nat.add_sub_cancel, List.take_left]
  rw [run_opening rested code opens, run_ignored rfl (by simpa [Ignores] using ignored) unopened
    (head?_ne_mark spaced (by decide)) (head?_ne_mark spaced (by decide)),
    run_end rfl rfl rfl positive full blank]
  simp only [List.append_nil, OpenCode.close, raw, made]

end Reader

def spelledWide (letter : Char) (n : Nat) (front content back : Text) : Text :=
  letter :: (List.replicate n '<' ++ (front ++ (content ++ (back ++ List.replicate n '>'))))

/-- What a code with `n` brackets protects: between white space stands a text that neither opens a
code nor ends this one. -/
structure Protected (n : Nat) (front content back : Text) : Prop where
  several : 2 ≤ n
  front_full : front ≠ []
  front_blank : Text.isAllBlank front = true
  back_full : back ≠ []
  back_blank : Text.isAllBlank back = true
  first : ∀ c ∈ content.head?, Text.isBlank c = false
  last : ∀ c ∈ content.getLast?, Text.isBlank c = false
  unopened : Unopened content
  unended : Unended n (front ++ content)

namespace Protected
variable {n : Nat} {front content back : Text} (inside : Protected n front content back)
include inside

theorem ignored : (Closer.angles n).Ignores content :=
  ⟨fun s member => inside.unended s ((List.mem_tails _ _).mpr
    (((List.mem_tails _ _).mp member).trans (List.suffix_append front content))), inside.last⟩

/-- The white space in front of the content belongs to the opening, unless there is no content: then
all white space belongs to the end. -/
theorem opening {letter : Char} (code : isCodeLetter letter = true) (rest : Text) :
    ∃ lead trail, front ++ (content ++ (back ++ (List.replicate n '>' ++ rest))) =
        lead ++ (content ++ (trail ++ (List.replicate n '>' ++ rest))) ∧
      trail ≠ [] ∧ Text.isAllBlank trail = true ∧
      opening? (letter :: (List.replicate n '<' ++
        (front ++ (content ++ (back ++ (List.replicate n '>' ++ rest)))))) =
          some (.angles n, 1 + n + lead.length) := by
  have several := inside.several
  rw [opening?_wide code several (head?_blanks inside.front_full inside.front_blank _)]
  by_cases empty : content = []
  · subst empty
    have blank : Text.isAllBlank (front ++ back) = true := by
      rw [Text.isAllBlank, List.all_append, Bool.and_eq_true]
      exact ⟨inside.front_blank, inside.back_blank⟩
    refine ⟨[], front ++ back, by simp, by simp [inside.front_full], blank, ?_⟩
    rw [List.nil_append, ← List.append_assoc, spacedClose?_brackets blank (by omega)]
    rfl
  · refine ⟨front, back, rfl, inside.back_full, inside.back_blank, ?_⟩
    have solid : ∀ c ∈ (content ++ (back ++ (List.replicate n '>' ++ rest))).head?,
        Text.isBlank c = false := by
      rw [List.head?_append_of_ne_nil _ empty]
      exact inside.first
    have spaced := head?_blanks inside.back_full inside.back_blank (List.replicate n '>' ++ rest)
    have goesOn : ¬List.replicate n '>' <+: content ++ (back ++ (List.replicate n '>' ++ rest)) :=
      fun starts => inside.unended.not_prefix inside.front_full inside.front_blank
        (replicate_prefix_append starts (head?_ne_mark spaced (by decide)))
    rw [spacedClose?_blanks inside.front_blank solid, if_neg goesOn,
      takeWhile_blanks inside.front_blank solid]
    rfl

theorem run_spelledWide {r : Reader} (rested : r.skip = 0) {letter : Char}
    (code : isCodeLetter letter = true) {node : Inline}
    (made : ofCode? letter (flush [] content.reverse).reverse content = some node) (rest : Text) :
    r.run (spelledWide letter n front content back ++ rest) =
      (⟨r.codes, node :: flush r.nodes r.text, [], 0⟩ : Reader).run rest := by
  obtain ⟨lead, trail, same, full, blank, opens⟩ := inside.opening code rest
  have spelling : spelledWide letter n front content back ++ rest =
      letter :: (List.replicate n '<' ++
        (front ++ (content ++ (back ++ (List.replicate n '>' ++ rest))))) := by
    simp [spelledWide]
  have several := inside.several
  rw [spelling, same]
  rw [same] at opens
  exact Reader.run_wide rested code (by omega) opens full blank inside.ignored inside.unopened made

end Protected

/-- A code with several brackets holds its content as it is written, and what follows is read by
itself. -/
theorem parse_spelledWide {n : Nat} {front content back : Text}
    (inside : Protected n front content back) (rest : Text) :
    (∀ style : Style, parse (spelledWide style.letter n front content back ++ rest) =
        .styled style (if content = [] then [] else [.text content]) :: parse rest) ∧
      parse (spelledWide 'L' n front content back ++ rest) = .link content :: parse rest := by
  have read : ∀ {letter : Char} {node : Inline}, isCodeLetter letter = true →
      ofCode? letter (flush [] content.reverse).reverse content = some node →
      parse (spelledWide letter n front content back ++ rest) = node :: parse rest := by
    intro letter node code made
    have start : (⟨[], [node], [], 0⟩ : Reader) = Reader.initial.after [node] := rfl
    have ready : Reader.initial.skip = 0 := rfl
    calc
      parse (spelledWide letter n front content back ++ rest)
        = ((⟨[], [node], [], 0⟩ : Reader).run rest).finish :=
          congrArg Reader.finish (inside.run_spelledWide ready code made rest)
      _ = node :: parse rest := by
          rw [start, Reader.run_after, Reader.finish_after]
          rfl
  refine ⟨fun style => ?_, ?_⟩
  · obtain ⟨code, made⟩ := ofCode?_letter style (flush [] content.reverse).reverse content
    rw [read code made]
    by_cases empty : content = []
    · simp [empty, flush]
    · simp [empty, flush]
  · refine read (by decide) ?_
    rw [ofCode?, Text.trim_eq_self inside.first inside.last]

theorem parse_spelledWide_arrows :
    parse "L<<< \nx >> y->z <T> C\t>>>> B<b".toList =
        .link "x >> y->z <T> C".toList :: parse "> B<b".toList ∧
      parse "S<<< \nx >> y->z <T> C\t>>>> B<b".toList =
        .styled .unbroken [.text "x >> y->z <T> C".toList] :: parse "> B<b".toList := by
  have inside : Protected 3 " \n".toList "x >> y->z <T> C".toList "\t".toList :=
    ⟨by decide, by decide, by decide, by decide, by decide, by rintro c ⟨⟩; decide,
      by rintro c ⟨⟩; decide, by decide +kernel, by decide +kernel⟩
  obtain ⟨styled, link⟩ := parse_spelledWide inside "> B<b".toList
  exact ⟨link, styled .unbroken⟩

end PodSite.Inline
