import PodSite.Proofs.Inline.Labels
import PodSite.Proofs.Inline.Spaced

/-!
Codes that are left open. They end with the text, as if their ends had been written after it. The
characters of these ends come into view of openings and ends that were read before, but change none
of them.
-/
namespace PodSite.Inline

def Closer.text : Closer → Text
  | .angle => ['>']
  | .angles n => ' ' :: List.replicate n '>'

def openCodes (t : Text) : List OpenCode := (Reader.initial.run t).codes

/-- What is written to end some codes, innermost first. -/
def endings (codes : List OpenCode) : Text := codes.flatMap fun code => code.closer.text

def EndsSolid (t : Text) : Prop := ∀ c ∈ t.getLast?, Text.isBlank c = false

instance : DecidablePred EndsSolid := fun t =>
  decidable_of_iff (t.getLast?.all (!Text.isBlank ·) = true) (by simp [EndsSolid, Option.all_eq_true])

theorem EndsSolid.tail {c : Char} {t : Text} (solid : EndsSolid (c :: t)) : EndsSolid t := by
  intro d last
  refine solid d ?_
  rw [List.getLast?_cons, Option.mem_def.mp last]
  rfl

theorem EndsSolid.append_right {s t : Text} (solid : EndsSolid (s ++ t)) : EndsSolid t := by
  induction s with
  | nil => exact solid
  | cons c s ih => exact ih solid.tail

theorem EndsSolid.ne_nil {blanks v : Text} (solid : EndsSolid (blanks ++ v)) (full : blanks ≠ [])
    (blank : Text.isAllBlank blanks = true) : v ≠ [] := by
  rintro rfl
  rw [List.append_nil] at solid
  have last := solid _ (List.getLast_mem_getLast? full)
  rw [List.all_eq_true.mp blank _ (List.getLast_mem full)] at last
  cases last

theorem Closer.head?_text_ne (closer : Closer) : closer.text.head? ≠ some '<' := by
  cases closer <;> simp [Closer.text]

section Width
variable {t : Text} {width : Nat}

theorem spacedClose?_le {n : Nat} (found : spacedClose? n t = some width) : width ≤ t.length := by
  obtain ⟨size, taken⟩ := spacedClose?_eq_some found
  have length := congrArg List.length taken
  rw [List.length_take, List.length_append, List.length_replicate] at length
  omega

theorem Closer.width?_le {closer : Closer} (found : closer.width? t = some width) :
    width ≤ t.length := by
  unfold Closer.width? at found
  split at found
  · cases found
    simp
  · split at found
    · exact spacedClose?_le found
    · cases found
  · cases found

theorem opening?_le {closer : Closer} (found : opening? t = some (closer, width)) :
    width ≤ t.length := by
  unfold opening? at found
  split at found
  swap
  · cases found
  rename_i c rest
  split at found
  swap
  · cases found
  simp only [Nat.add_sub_cancel] at found
  have angles : (rest.takeWhile (· == '<')).length ≤ rest.length :=
    (List.takeWhile_prefix _).length_le
  have blanks : ((rest.drop (rest.takeWhile (· == '<')).length).takeWhile Text.isBlank).length ≤
      rest.length - (rest.takeWhile (· == '<')).length := by
    rw [← List.length_drop]
    exact (List.takeWhile_prefix _).length_le
  rw [List.length_cons, List.length_cons]
  split at found
  · simp only [Option.some.injEq, Prod.mk.injEq] at found
    split at found <;> omega
  · cases found
    omega

end Width

namespace Reader
variable {r : Reader} {c : Char} {rest : Text}

theorem enter_cases (r : Reader) (c : Char) (rest : Text) :
    (opening? (c :: rest) = none ∧ r.enter c rest = { r with text := c :: r.text }) ∨
      ∃ closer width, opening? (c :: rest) = some (closer, width) ∧
        r.enter c rest = ⟨⟨c, closer, (c :: rest).drop width, flush r.nodes r.text⟩ :: r.codes, [],
          [], width - 1⟩ := by
  unfold enter
  split
  · rename_i closer width found
    exact .inr ⟨closer, width, found, rfl⟩
  · rename_i none
    exact .inl ⟨none, rfl⟩

theorem step_cases (r : Reader) (c : Char) (rest : Text) :
    (0 < r.skip ∧ r.step c rest = { r with skip := r.skip - 1 }) ∨
      (r.skip = 0 ∧ ∃ code outer width, r.codes = code :: outer ∧
        code.closer.width? (c :: rest) = some width ∧
        r.step c rest =
          ⟨outer, code.close (flush r.nodes r.text) (c :: rest), [], width - 1⟩) ∨
      (r.skip = 0 ∧ (∀ code ∈ r.codes.head?, code.closer.width? (c :: rest) = none) ∧
        r.step c rest = r.enter c rest) := by
  by_cases skips : 0 < r.skip
  · exact .inl ⟨skips, by rw [step, if_pos skips]⟩
  have rested : r.skip = 0 := by omega
  refine .inr ?_
  cases codes : r.codes with
  | nil => exact .inr ⟨rested, by simp, step_outside rested codes⟩
  | cons code outer =>
    cases found : code.closer.width? (c :: rest) with
    | some width =>
      exact .inl ⟨rested, code, outer, width, rfl, found, step_ends rested codes found⟩
    | none => exact .inr ⟨rested, by simpa using found, step_inside rested codes found⟩

theorem step_skip (inside : r.skip ≤ (c :: rest).length) : (r.step c rest).skip ≤ rest.length := by
  rw [List.length_cons] at inside
  rcases step_cases r c rest with ⟨_, next⟩ | ⟨_, code, outer, width, _, found, next⟩ |
    ⟨rested, _, next⟩
  · rw [next]
    simp only
    omega
  · have bound := Closer.width?_le found
    rw [List.length_cons] at bound
    rw [next]
    simp only
    omega
  · rcases enter_cases r c rest with ⟨_, text⟩ | ⟨closer, width, found, opened⟩
    · rw [next, text]
      simp only
      omega
    · have bound := opening?_le found
      rw [List.length_cons] at bound
      rw [next, opened]
      simp only
      omega

theorem run_rests {t : Text} (inside : r.skip ≤ t.length) : (r.run t).skip = 0 := by
  induction t generalizing r with
  | nil => exact Nat.le_zero.mp inside
  | cons c rest ih => exact ih (step_skip inside)

theorem step_sized (sized : ∀ code ∈ r.codes, 0 < code.closer.size) :
    ∀ code ∈ (r.step c rest).codes, 0 < code.closer.size := by
  rcases step_cases r c rest with ⟨_, next⟩ | ⟨_, code, outer, width, codes, _, next⟩ | ⟨_, _, next⟩
  · rw [next]
    exact sized
  · rw [next]
    rw [codes] at sized
    exact fun other member => sized other (List.mem_cons_of_mem code member)
  · rcases enter_cases r c rest with ⟨_, text⟩ | ⟨closer, width, found, opened⟩
    · rw [next, text]
      exact sized
    · rw [next, opened]
      exact List.forall_mem_cons.mpr ⟨(opening?_eq_some found).2.1, sized⟩

theorem run_sized {t : Text} (sized : ∀ code ∈ r.codes, 0 < code.closer.size) :
    ∀ code ∈ (r.run t).codes, 0 < code.closer.size := by
  induction t generalizing r with
  | nil => exact sized
  | cons c rest ih => exact ih (step_sized sized)

end Reader

def OpenCode.extend (back : Text) (code : OpenCode) : OpenCode :=
  { code with start := code.start ++ back }

def Reader.extend (back : Text) (r : Reader) : Reader :=
  { r with codes := r.codes.map (OpenCode.extend back) }

theorem OpenCode.close_extend (back : Text) (code : OpenCode) (nodes : List Inline) (rest : Text) :
    (code.extend back).close nodes (rest ++ back) = code.close nodes rest := by
  have raw : (code.start ++ back).take ((code.start ++ back).length - (rest ++ back).length) =
      code.start.take (code.start.length - rest.length) := by
    rw [List.length_append, List.length_append, Nat.add_sub_add_right]
    exact List.take_append_of_le_length (Nat.sub_le _ _)
  simp only [OpenCode.close, OpenCode.extend, raw]

namespace Reader
variable {r : Reader} {c : Char} {rest back : Text}

theorem codes_extend (back : Text) (r : Reader) :
    (r.extend back).codes = r.codes.map (OpenCode.extend back) := rfl

/-- A step is the same in a text that goes on, if what it sees of the text means the same. -/
theorem step_extend
    (ends : r.skip = 0 → ∀ code ∈ r.codes.head?,
      code.closer.width? (c :: (rest ++ back)) = code.closer.width? (c :: rest))
    (opens : r.skip = 0 → r.step c rest = r.enter c rest →
      opening? (c :: (rest ++ back)) = opening? (c :: rest)) :
    (r.extend back).step c (rest ++ back) = (r.step c rest).extend back := by
  rcases step_cases r c rest with ⟨skips, next⟩ | ⟨rested, code, outer, width, codes, found, next⟩ |
    ⟨rested, goesOn, next⟩
  · have still : 0 < (r.extend back).skip := skips
    rw [next, step, if_pos still]
    rfl
  · have ready : (r.extend back).skip = 0 := rested
    have here : (r.extend back).codes = code.extend back :: outer.map (OpenCode.extend back) := by
      rw [codes_extend, codes, List.map_cons]
    have same : (code.extend back).closer.width? (c :: (rest ++ back)) = some width :=
      (ends rested code (by simp [codes])).trans found
    have closed := OpenCode.close_extend back code (flush r.nodes r.text) (c :: rest)
    rw [next, step_ends ready here same, extend, ← closed]
    rfl
  · have ready : (r.extend back).skip = 0 := rested
    have entered : (r.extend back).step c (rest ++ back) =
        (r.extend back).enter c (rest ++ back) := by
      cases codes : r.codes with
      | nil => exact step_outside ready (by rw [codes_extend, codes, List.map_nil])
      | cons code outer =>
        refine step_inside ready (by rw [codes_extend, codes, List.map_cons]) ?_
        have same := ends rested code (by simp [codes])
        exact same.trans (goesOn code (by simp [codes]))
    rw [entered, next]
    have seen := opens rested next
    rcases enter_cases r c rest with ⟨found, text⟩ | ⟨closer, width, found, opened⟩
    · rw [text, enter, seen, found]
      rfl
    · have start : (c :: (rest ++ back)).drop width = (c :: rest).drop width ++ back := by
        rw [← List.cons_append]
        exact List.drop_append_of_le_length (opening?_le found)
      rw [opened, enter, seen, found]
      simp only [start, extend, List.map_cons, OpenCode.extend]

end Reader

section Sight
variable {n : Nat} {t back : Text}

def Short (n : Nat) (t : Text) : Prop :=
  ∃ blanks k, t = blanks ++ List.replicate k '>' ∧ Text.isAllBlank blanks = true ∧ k < n

/-- White space and closing brackets are seen alike in a text that goes on, unless it goes on with a
bracket that was wanted. -/
theorem spacedClose?_extend (solid : EndsSolid t) (blank : ∃ c ∈ t.head?, Text.isBlank c = true)
    (enough : Short n t → back.head? ≠ some '>') :
    spacedClose? n (t ++ back) = spacedClose? n t := by
  obtain ⟨blanks, v, rfl, allBlank, firstSolid⟩ := exists_blanks t
  have full : blanks ≠ [] := by
    rintro rfl
    obtain ⟨c, first, isBlank⟩ := blank
    rw [firstSolid c (by simpa using first)] at isBlank
    cases isBlank
  have more := solid.ne_nil full allBlank
  have still : ∀ c ∈ (v ++ back).head?, Text.isBlank c = false := by
    rw [List.head?_append_of_ne_nil _ more]
    exact firstSolid
  have seen : List.replicate n '>' <+: v ++ back ↔ List.replicate n '>' <+: v := by
    refine ⟨fun starts => ?_, fun starts => starts.trans (List.prefix_append v back)⟩
    by_contra missing
    -- the brackets reach over the end of the text, so all that is left of it are brackets
    have within : v <+: List.replicate n '>' :=
      (List.prefix_or_prefix_of_prefix starts (List.prefix_append v back)).resolve_left missing
    obtain ⟨few, brackets⟩ : v.length ≤ n ∧ v = List.replicate v.length '>' := by
      refine ⟨by simpa using within.length_le, ?_⟩
      exact List.eq_replicate_of_mem fun c member => List.eq_of_mem_replicate (within.subset member)
    have fewer : v.length < n := by
      refine Nat.lt_of_le_of_ne few fun same => missing ?_
      rw [brackets, same]
    exact missing (replicate_prefix_append starts
      (enough ⟨blanks, v.length, by rw [← brackets], allBlank, fewer⟩))
  rw [List.append_assoc, spacedClose?_blanks allBlank still,
    spacedClose?_blanks allBlank firstSolid]
  simp only [seen]

theorem Short.count_lt (short : Short n t) : t.count '>' < n := by
  obtain ⟨blanks, k, rfl, blank, few⟩ := short
  have bracketless : '>' ∉ blanks := by
    intro member
    have := List.all_eq_true.mp blank _ member
    cases this
  rw [List.count_append, List.count_eq_zero.mpr bracketless, List.count_replicate_self]
  omega

theorem Short.ignored (short : Short n t) (solid : EndsSolid t) :
    (Closer.angles n).Ignores t := by
  refine ⟨fun s member => ?_, solid⟩
  cases s with
  | nil => rfl
  | cons c rest =>
    have inside : rest <:+ t :=
      (List.suffix_cons c rest).trans ((List.mem_tails _ _).mp member)
    rw [startsEnd, Bool.and_eq_false_iff]
    refine Or.inr (Bool.eq_false_iff.mpr fun starts => ?_)
    have brackets := (List.isPrefixOf_iff_prefix.mp starts).sublist.count_le '>'
    have all := inside.sublist.count_le '>'
    have few := short.count_lt
    rw [List.count_replicate_self] at brackets
    omega

theorem Short.unopened (short : Short n t) : Unopened t := by
  obtain ⟨blanks, k, rfl, blank, _⟩ := short
  intro s member
  cases first : startsCode s with
  | false => rfl
  | true =>
    unfold startsCode at first
    split at first
    · rename_i c rest
      have inside : '<' ∈ blanks ++ List.replicate k '>' :=
        ((List.mem_tails _ _).mp member).subset (by simp)
      rcases List.mem_append.mp inside with early | late
      · have := List.all_eq_true.mp blank _ early
        cases this
      · cases List.eq_of_mem_replicate late
    · cases first

theorem Reader.run_short {r : Reader} (rested : r.skip = 0) {code : OpenCode}
    {outer : List OpenCode} (codes : r.codes = code :: outer) (closer : code.closer = .angles n)
    (short : Short n t) (solid : EndsSolid t) : (r.run t).codes = r.codes := by
  have ignored : r.Ignores t := by
    intro other first
    rw [codes] at first
    cases first
    rw [closer]
    exact short.ignored solid
  have read : r.run (t ++ []) = ({ r with text := t.reverse ++ r.text } : Reader).run [] :=
    run_ignored rested ignored short.unopened (by simp) (by simp)
  rw [List.append_nil] at read
  rw [read]
  rfl

theorem opening?_noLetter {c : Char} (plain : isCodeLetter c = false) (rest : Text) :
    opening? (c :: rest) = none := by
  unfold opening?
  split
  · rename_i same
    obtain ⟨rfl, _⟩ := List.cons.inj same
    rw [if_neg (by simp [plain])]
  · rfl

theorem exists_brackets (t : Text) :
    ∃ n inner, t = List.replicate n '<' ++ inner ∧ inner.head? ≠ some '<' := by
  induction t with
  | nil => exact ⟨0, [], rfl, by simp⟩
  | cons c t ih =>
    by_cases bracket : c = '<'
    · obtain ⟨n, inner, rfl, other⟩ := ih
      exact ⟨n + 1, inner, by rw [bracket, List.replicate_succ, List.cons_append], other⟩
    · exact ⟨0, c :: t, rfl, by simpa using bracket⟩

theorem takeWhile_extend (solid : EndsSolid t) (still : t = [] → ∀ d ∈ back.head?,
    Text.isBlank d = false) :
    (t ++ back).takeWhile Text.isBlank = t.takeWhile Text.isBlank := by
  obtain ⟨blanks, v, rfl, blank, first⟩ := exists_blanks t
  have next : ∀ d ∈ (v ++ back).head?, Text.isBlank d = false := by
    by_cases empty : v = []
    · subst empty
      by_cases none : blanks = []
      · exact still (by rw [none]; rfl)
      · exact absurd rfl (solid.ne_nil none blank)
    · rw [List.head?_append_of_ne_nil _ empty]
      exact first
  rw [List.append_assoc, takeWhile_blanks blank next, takeWhile_blanks blank first]

/-- An opening is seen alike in a text that goes on, unless it goes on with what the opening was
short of. -/
theorem opening?_extend {c : Char} {rest : Text} (solid : EndsSolid rest)
    (other : back.head? ≠ some '<')
    (edge : ∀ n, isCodeLetter c = true → 2 ≤ n → rest = List.replicate n '<' →
      ∀ d ∈ back.head?, Text.isBlank d = false)
    (enough : ∀ n inner, isCodeLetter c = true → 2 ≤ n → rest = List.replicate n '<' ++ inner →
      (∃ d ∈ inner.head?, Text.isBlank d = true) → Short n inner → back.head? ≠ some '>') :
    opening? (c :: (rest ++ back)) = opening? (c :: rest) := by
  cases code : isCodeLetter c with
  | false => rw [opening?_noLetter code, opening?_noLetter code]
  | true =>
    obtain ⟨n, inner, rfl, last⟩ := exists_brackets rest
    have solidInner : EndsSolid inner := solid.append_right
    have next : (inner ++ back).head? ≠ some '<' := by
      cases inner with
      | nil => exact other
      | cons d inner => exact last
    by_cases none : n = 0
    · subst none
      rw [List.replicate_zero, List.nil_append, Reader.opening?_eq_none next,
        Reader.opening?_eq_none last]
    rw [List.append_assoc, opening?_brackets code (by omega) next,
      opening?_brackets code (by omega) last]
    -- one bracket opens a code whatever comes next; with several, white space behind them decides
    by_cases one : n = 1
    · simp [one]
    have several : 2 ≤ n := by omega
    have blanks : (inner ++ back).takeWhile Text.isBlank = inner.takeWhile Text.isBlank :=
      takeWhile_extend solidInner fun empty => edge n code several (by rw [empty, List.append_nil])
    rw [blanks]
    split
    · rename_i spaced
      have first : ∃ d ∈ inner.head?, Text.isBlank d = true := by
        cases inner with
        | nil => simp at spaced
        | cons d inner =>
          refine ⟨d, rfl, ?_⟩
          by_contra solid
          rw [List.takeWhile_cons_of_neg solid] at spaced
          simp at spaced
      rw [spacedClose?_extend solidInner first (enough n inner code several rfl first)]
    · rfl

end Sight

namespace Reader
variable {r : Reader} {t : Text} {code : OpenCode} {outer : List OpenCode}

theorem head?_text_angles {n : Nat} (closer : code.closer = .angles n) :
    code.closer.text.head? ≠ some '>' := by
  simp [closer, Closer.text]

theorem width?_extend (rested : r.skip = 0) {c : Char} {rest : Text} (solid : EndsSolid (c :: rest))
    (final : (r.run (c :: rest)).codes = code :: outer) {first : OpenCode}
    (innermost : first ∈ r.codes.head?) :
    first.closer.width? (c :: (rest ++ code.closer.text)) = first.closer.width? (c :: rest) := by
  obtain ⟨others, codes⟩ := List.head?_eq_some_iff.mp (Option.mem_def.mp innermost)
  cases closer : first.closer with
  | angle =>
    by_cases bracket : c = '>'
    · simp [Closer.width?, bracket]
    · simp [Closer.width?, bracket]
  | angles n =>
    rw [Closer.width?, Closer.width?]
    split
    · rename_i blank
      rw [← List.cons_append]
      refine spacedClose?_extend solid ⟨c, rfl, blank⟩ fun short => ?_
      -- the code stays open to the end, so its own end is what comes there
      have open' := run_short rested codes closer short solid
      rw [final, codes] at open'
      exact head?_text_angles ((List.cons.inj open').1 ▸ closer)
    · rfl

theorem unopened_brackets (k : Nat) : Unopened (List.replicate k '<') := by
  intro s member
  unfold startsCode
  split
  · rename_i c rest
    have bracket : c = '<' :=
      List.eq_of_mem_replicate (((List.mem_tails _ _).mp member).subset List.mem_cons_self)
    rw [bracket]
    decide
  · rfl

theorem closer_of_brackets (rested : r.skip = 0) {letter : Char}
    (isCode : isCodeLetter letter = true) {n : Nat} (positive : 0 < n)
    (final : (r.run (letter :: List.replicate n '<')).codes = code :: outer) :
    code.closer = .angle := by
  obtain ⟨k, rfl⟩ : ∃ k, n = k + 1 := ⟨n - 1, by omega⟩
  have opens : opening? (letter :: (List.replicate (k + 1) '<' ++ [])) = some (.angle, 2) :=
    opening?_narrow isCode positive (by simp) (by simp)
  rw [List.append_nil] at opens
  let opened : OpenCode := ⟨letter, .angle, (letter :: List.replicate (k + 1) '<').drop 2,
    flush r.nodes r.text⟩
  have entered : r.step letter (List.replicate (k + 1) '<') = ⟨opened :: r.codes, [], [], 1⟩ := by
    rw [step_codeLetter rested isCode, enter, opens]
  have skipped : (⟨opened :: r.codes, [], [], 1⟩ : Reader).run (List.replicate (k + 1) '<') =
      (⟨opened :: r.codes, [], [], 0⟩ : Reader).run (List.replicate k '<') :=
    run_skip (t := ['<']) rfl _
  have ignored : (⟨opened :: r.codes, [], [], 0⟩ : Reader).Ignores (List.replicate k '<') := by
    intro first innermost
    cases innermost
    simp [opened, Closer.Ignores]
  have read : (⟨opened :: r.codes, [], [], 0⟩ : Reader).run (List.replicate k '<' ++ []) =
      (⟨opened :: r.codes, [], (List.replicate k '<').reverse ++ [], 0⟩ : Reader).run [] :=
    run_ignored rfl ignored (unopened_brackets k) (by simp) (by simp)
  rw [List.append_nil] at read
  rw [run, entered, skipped, read] at final
  exact (List.cons.inj final).1 ▸ rfl

theorem closer_of_short (rested : r.skip = 0) {letter : Char}
    (isCode : isCodeLetter letter = true) {n : Nat} (several : 2 ≤ n) {inner : Text}
    (blank : ∃ c ∈ inner.head?, Text.isBlank c = true) (short : Short n inner)
    (solid : EndsSolid inner)
    (final : (r.run (letter :: (List.replicate n '<' ++ inner))).codes = code :: outer) :
    code.closer = .angles n := by
  obtain ⟨blanks, k, rfl, allBlank, few⟩ := short
  have first : ∀ c ∈ (List.replicate k '>').head?, Text.isBlank c = false := by
    intro c member
    rw [List.eq_of_mem_replicate (List.mem_of_mem_head? member)]
    decide
  have missing : ¬List.replicate n '>' <+: List.replicate k '>' := by
    intro starts
    have longer := starts.length_le
    rw [List.length_replicate, List.length_replicate] at longer
    omega
  have opens : opening? (letter :: (List.replicate n '<' ++ (blanks ++ List.replicate k '>'))) =
      some (.angles n, 1 + n + blanks.length) := by
    rw [opening?_wide isCode several blank, spacedClose?_blanks allBlank first, if_neg missing,
      takeWhile_blanks allBlank first]
    rfl
  let opened : OpenCode := ⟨letter, .angles n, List.replicate k '>', flush r.nodes r.text⟩
  have short : Short n (List.replicate k '>') := ⟨[], k, rfl, rfl, few⟩
  have left := run_short (r := ⟨opened :: r.codes, [], [], 0⟩) rfl rfl rfl short
    solid.append_right
  rw [run_opening rested isCode opens, left] at final
  exact (List.cons.inj final).1 ▸ rfl

theorem run_extend (inside : r.skip ≤ t.length) (solid : EndsSolid t)
    (final : (r.run t).codes = code :: outer) :
    (r.extend code.closer.text).run (t ++ code.closer.text) =
      ((r.run t).extend code.closer.text).run code.closer.text := by
  induction t generalizing r with
  | nil => rfl
  | cons c rest ih =>
    have next : (r.extend code.closer.text).step c (rest ++ code.closer.text) =
        (r.step c rest).extend code.closer.text := by
      -- an opening or an end that reaches up to the end of the text leaves its code open there, and
      -- then `final` says what follows
      refine step_extend (fun rested first innermost => width?_extend rested solid final innermost)
        fun rested _ => opening?_extend solid.tail code.closer.head?_text_ne ?_ ?_
      · intro n letter several brackets
        have closer := closer_of_brackets rested letter (by omega) (brackets ▸ final)
        simp [closer, Closer.text, Text.isBlank]
      · intro n inner letter several split blank short
        have inner_solid : EndsSolid inner := EndsSolid.append_right (split ▸ solid.tail)
        exact head?_text_angles
          (closer_of_short rested letter several blank short inner_solid (split ▸ final))
    rw [List.cons_append, run, next, run]
    exact ih (step_skip inside) solid.tail final

theorem run_text_closer (rested : r.skip = 0) (codes : r.codes = code :: outer)
    (sized : 0 < code.closer.size) :
    r.run code.closer.text =
      ⟨outer, code.close (flush r.nodes r.text) code.closer.text, [], 0⟩ := by
  cases closer : code.closer with
  | angle =>
    have ends : code.closer.width? ['>'] = some 1 := by rw [closer, Closer.width?]
    rw [Closer.text, run, step_ends rested codes ends, run]
  | angles n =>
    rw [closer] at sized
    have ended : r.run ([' '] ++ (List.replicate n '>' ++ [])) = _ :=
      run_end rested codes closer sized (by simp) (by decide) []
    rw [List.append_nil] at ended
    exact ended

theorem ofCode?_raw {letter : Char} (plain : letter ≠ 'L' ∧ letter ≠ 'E') (content : List Inline)
    (raw other : Text) : ofCode? letter content raw = ofCode? letter content other := by
  unfold ofCode?
  split
  iterate 5
    · rfl
  · exact absurd rfl plain.1
  · exact absurd rfl plain.2
  · rfl

theorem closeAll_extend {codes : List OpenCode}
    (plain : ∀ code ∈ codes, code.letter ≠ 'L' ∧ code.letter ≠ 'E') (back : Text)
    (nodes : List Inline) :
    closeAll nodes (codes.map (OpenCode.extend back)) = closeAll nodes codes := by
  induction codes generalizing nodes with
  | nil => rfl
  | cons code outer ih =>
    obtain ⟨here, later⟩ := List.forall_mem_cons.mp plain
    have same : (code.extend back).close nodes [] = code.close nodes [] := by
      simp only [OpenCode.close, OpenCode.extend, ofCode?_raw here nodes.reverse _ []]
    rw [List.map_cons, closeAll, closeAll, same, ih later]

end Reader

theorem openCodes_sized (t : Text) : ∀ code ∈ openCodes t, 0 < code.closer.size :=
  Reader.run_sized (r := .initial) (by simp [Reader.initial])

section Ending
variable {t : Text} {code : OpenCode} {outer : List OpenCode}

theorem run_closed (solid : EndsSolid t) (left : openCodes t = code :: outer) :
    Reader.initial.run (t ++ code.closer.text) =
      ⟨outer.map (OpenCode.extend code.closer.text),
        code.close (flush (Reader.initial.run t).nodes (Reader.initial.run t).text) [], [], 0⟩ := by
  have inside : Reader.initial.skip ≤ t.length := Nat.zero_le _
  have sized := openCodes_sized t code (by simp [left])
  have rests := Reader.run_rests inside
  have read := Reader.run_extend inside solid left
  have codes : ((Reader.initial.run t).extend code.closer.text).codes =
      code.extend code.closer.text :: outer.map (OpenCode.extend code.closer.text) := by
    rw [Reader.codes_extend, show (Reader.initial.run t).codes = code :: outer from left,
      List.map_cons]
  have ended := Reader.run_text_closer
    (r := (Reader.initial.run t).extend code.closer.text) rests codes sized
  have closed := OpenCode.close_extend code.closer.text code
    (flush (Reader.initial.run t).nodes (Reader.initial.run t).text) []
  rw [← closed]
  exact read.trans ended

theorem parse_closed (solid : EndsSolid t) (left : openCodes t = code :: outer)
    (plain : ∀ other ∈ outer, other.letter ≠ 'L' ∧ other.letter ≠ 'E') :
    parse (t ++ code.closer.text) = parse t := by
  rw [parse, run_closed solid left, parse, Reader.finish, Reader.finish,
    Reader.closeAll_extend plain, show (Reader.initial.run t).codes = code :: outer from left]
  rfl

theorem endings_extend (back : Text) (codes : List OpenCode) :
    endings (codes.map (OpenCode.extend back)) = endings codes := by
  rw [endings, List.flatMap_map]
  rfl

theorem endsSolid_closed (sized : 0 < code.closer.size) : EndsSolid (t ++ code.closer.text) := by
  have last : code.closer.text.getLast? = some '>' := by
    cases closer : code.closer with
    | angle => rfl
    | angles n =>
      rw [closer] at sized
      obtain ⟨k, rfl⟩ : ∃ k, n = k + 1 := Nat.exists_eq_add_one.mpr sized
      rw [Closer.text, List.replicate_succ', ← List.cons_append, List.getLast?_concat]
  intro c ends
  rw [List.getLast?_append, last] at ends
  cases ends
  decide

end Ending

/-- The ends of all open codes change nothing that is read, and leave no code open. -/
theorem parse_endings {t : Text} (solid : EndsSolid t)
    (plain : ∀ code ∈ openCodes t, code.letter ≠ 'L' ∧ code.letter ≠ 'E') :
    parse (t ++ endings (openCodes t)) = parse t ∧ openCodes (t ++ endings (openCodes t)) = [] := by
  induction depth : (openCodes t).length generalizing t with
  | zero =>
    have none : openCodes t = [] := List.length_eq_zero_iff.mp depth
    rw [none, endings, List.flatMap_nil, List.append_nil]
    exact ⟨rfl, none⟩
  | succ depth ih =>
    obtain ⟨code, outer, left⟩ : ∃ code outer, openCodes t = code :: outer :=
      List.exists_cons_of_ne_nil (by rintro none; simp [none] at depth)
    rw [left] at plain depth
    -- the end of the innermost code leaves a text in which one code less is open
    have next : openCodes (t ++ code.closer.text) =
        outer.map (OpenCode.extend code.closer.text) := by
      rw [openCodes, run_closed solid left]
    have later := ih (endsSolid_closed (openCodes_sized t code (by simp [left])))
      (by
        rw [next]
        intro other member
        obtain ⟨inner, listed, rfl⟩ := List.mem_map.mp member
        exact plain inner (List.mem_cons_of_mem code listed))
      (by simpa [next] using depth)
    rw [next, endings_extend, List.append_assoc] at later
    have all : endings (code :: outer) = code.closer.text ++ endings outer := rfl
    rw [left, all]
    refine ⟨later.1.trans (parse_closed solid left fun other member => ?_), later.2⟩
    exact plain other (List.mem_cons_of_mem code member)

theorem parse_endings_nested :
    endings (openCodes "I<< x > B<y C<<<  z >> X<w E".toList) = "> >>>> >>".toList ∧
      parse "I<< x > B<y C<<<  z >> X<w E> >>>> >>".toList =
        parse "I<< x > B<y C<<<  z >> X<w E".toList ∧
      openCodes "I<< x > B<y C<<<  z >> X<w E> >>>> >>".toList = [] := by
  have ends : endings (openCodes "I<< x > B<y C<<<  z >> X<w E".toList) = "> >>>> >>".toList := by
    decide +kernel
  have closed := @parse_endings "I<< x > B<y C<<<  z >> X<w E".toList (by decide +kernel)
    (by decide +kernel)
  rw [ends] at closed
  exact ⟨ends, closed⟩

end PodSite.Inline
