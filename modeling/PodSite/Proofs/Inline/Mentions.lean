import Mathlib.Data.List.TakeWhile
import PodSite.Proofs.Inline.Visible

/-!
Module names in running text. The names that are found one after the other from the left are those
that stand in the text by a rule on their place alone: identifiers joined by double colons, as many
as there are, and no letter, digit, colon or sigil in front. All other text is written as it is.
-/
namespace PodSite

namespace ModuleName

def IsIdentifier (t : Text) : Prop :=
  ∃ c rest, t = c :: rest ∧ isFirst c = true ∧ ∀ d ∈ rest, isNext d = true

def Qualified (n : Text) : Prop :=
  ∃ parts : List Text, 2 ≤ parts.length ∧ (∀ part ∈ parts, IsIdentifier part) ∧
    n = "::".toList.intercalate parts

/-- A text goes on with the name in front of it: with its last identifier, or with another one. -/
def Continues (rest : Text) : Prop :=
  (∃ c ∈ rest.head?, isNext c = true) ∨
    ∃ c tail, rest = ':' :: ':' :: c :: tail ∧ isFirst c = true

/-- A module name stands in the text from `i` up to `j`. -/
structure MentionedAt (t : Text) (i j : Nat) : Prop where
  within : j ≤ t.length
  named : Qualified (t.extract i j)
  whole : ¬Continues (t.drop j)
  free : ∀ c ∈ (t.take i).getLast?, c ∉ "$@%&*:_".toList ∧ Text.isAlphanumeric c = false

section Names

def chain (parts : List Text) : Text := parts.flatMap fun part => ':' :: ':' :: part

theorem chain_cons (part : Text) (others : List Text) :
    chain (part :: others) = ':' :: ':' :: part ++ chain others := rfl

theorem intercalate_chain (first : Text) (others : List Text) :
    "::".toList.intercalate (first :: others) = first ++ chain others := by
  induction others generalizing first with
  | nil => simp [chain]
  | cons next others ih =>
    rw [List.intercalate_cons_cons, ih, chain_cons]
    simp

theorem qualified_iff {n : Text} : Qualified n ↔ ∃ first others, others ≠ [] ∧
    IsIdentifier first ∧ (∀ part ∈ others, IsIdentifier part) ∧ n = first ++ chain others := by
  constructor
  · rintro ⟨parts, several, valid, rfl⟩
    match parts, several with
    | first :: next :: others, _ =>
      obtain ⟨here, later⟩ := List.forall_mem_cons.mp valid
      exact ⟨first, next :: others, by simp, here, later, intercalate_chain first _⟩
  · rintro ⟨first, others, some, here, later, rfl⟩
    refine ⟨first :: others, ?_, List.forall_mem_cons.mpr ⟨here, later⟩,
      (intercalate_chain first others).symm⟩
    have := List.length_pos_iff.mpr some
    simp only [List.length_cons]
    omega

theorem IsIdentifier.length_pos {part : Text} (valid : IsIdentifier part) : 0 < part.length := by
  obtain ⟨c, rest, rfl, _⟩ := valid
  exact Nat.succ_pos _

theorem identifierLength_append {part rest : Text} (valid : IsIdentifier part)
    (ends : ∀ c ∈ rest.head?, isNext c = false) :
    identifierLength (part ++ rest) = part.length := by
  obtain ⟨c, more, rfl, first, next⟩ := valid
  have stops : rest.takeWhile isNext = [] := by
    cases rest with
    | nil => rfl
    | cons d rest => simp [ends d rfl]
  rw [List.cons_append, identifierLength, if_pos first, List.takeWhile_append_of_pos next, stops,
    List.append_nil, List.length_cons]

theorem identifierLength_split {t : Text} (found : identifierLength t ≠ 0) :
    ∃ part rest, t = part ++ rest ∧ IsIdentifier part ∧ ∀ c ∈ rest.head?, isNext c = false := by
  cases t with
  | nil => exact absurd rfl found
  | cons c t =>
    rw [identifierLength] at found
    split at found
    · rename_i first
      refine ⟨c :: t.takeWhile isNext, t.dropWhile isNext, ?_, ⟨c, _, rfl, first, ?_⟩, ?_⟩
      · rw [List.cons_append, List.takeWhile_append_dropWhile]
      · exact fun d member => List.mem_takeWhile_imp member
      · intro d head
        have stopped := List.head?_dropWhile_not isNext t
        rw [Option.mem_def.mp head] at stopped
        simpa using stopped
    · exact absurd rfl found

theorem chainLength_skip (front rest : Text) :
    chainLength front.length (front ++ rest) = front.length + chainLength 0 rest := by
  induction front with
  | nil => simp
  | cons c front ih =>
    rw [List.cons_append, List.length_cons, chainLength, ih]
    omega

theorem chainLength_cons {part rest : Text} (valid : IsIdentifier part)
    (ends : ∀ c ∈ rest.head?, isNext c = false) :
    chainLength 0 (':' :: ':' :: part ++ rest) = part.length + 2 + chainLength 0 rest := by
  have read := identifierLength_append valid ends
  have positive := valid.length_pos
  have skipped := chainLength_skip (':' :: part) rest
  rw [List.length_cons, List.cons_append] at skipped
  rw [List.cons_append, List.cons_append, chainLength, read, if_neg (by omega), skipped]
  omega

theorem chainLength_of_not_continues {rest : Text} (whole : ¬Continues rest) :
    chainLength 0 rest = 0 := by
  cases rest with
  | nil => rfl
  | cons d rest =>
    simp only [chainLength]
    split
    · rename_i after
      have unnamed : identifierLength after = 0 := by
        cases after with
        | nil => rfl
        | cons c tail =>
          rw [identifierLength, if_neg]
          exact fun first => whole (Or.inr ⟨c, tail, rfl, first⟩)
      rw [if_pos unnamed]
    · rfl

theorem chain_head {others : List Text} {rest : Text} (ends : ∀ c ∈ rest.head?, isNext c = false) :
    ∀ c ∈ (chain others ++ rest).head?, isNext c = false := by
  cases others with
  | nil => exact ends
  | cons part others =>
    intro c head
    obtain rfl : ':' = c := Option.some.inj head
    decide

theorem not_isNext {rest : Text} (whole : ¬Continues rest) :
    ∀ c ∈ rest.head?, isNext c = false := by
  intro c head
  rw [Bool.eq_false_iff]
  exact fun next => whole (Or.inl ⟨c, head, next⟩)

theorem chainLength_chain {others : List Text} {rest : Text}
    (valid : ∀ part ∈ others, IsIdentifier part) (whole : ¬Continues rest) :
    chainLength 0 (chain others ++ rest) = (chain others).length := by
  induction others with
  | nil => exact chainLength_of_not_continues whole
  | cons part others ih =>
    obtain ⟨here, later⟩ := List.forall_mem_cons.mp valid
    rw [chain_cons, List.append_assoc, chainLength_cons here (chain_head (not_isNext whole)),
      ih later]
    simp only [List.cons_append, List.length_cons, List.length_append]
    omega

theorem chain_split (t : Text) (ends : ∀ c ∈ t.head?, isNext c = false) :
    ∃ others back, t = chain others ++ back ∧ (∀ part ∈ others, IsIdentifier part) ∧
      ¬Continues back := by
  by_cases more : Continues t
  · obtain ⟨c, head, next⟩ | ⟨c, tail, rfl, first⟩ := more
    · rw [ends c head] at next
      cases next
    · have found : identifierLength (c :: tail) ≠ 0 := by
        rw [identifierLength, if_pos first]
        omega
      obtain ⟨part, rest, cut, valid, stops⟩ := identifierLength_split found
      have shorter : rest.length < tail.length + 3 := by
        have := congrArg List.length cut
        simp only [List.length_cons, List.length_append] at this
        omega
      obtain ⟨others, back, rfl, later, whole⟩ := chain_split rest stops
      refine ⟨part :: others, back, ?_, List.forall_mem_cons.mpr ⟨valid, later⟩, whole⟩
      rw [chain_cons, cut]
      simp
  · exact ⟨[], t, rfl, by simp, more⟩
termination_by t.length

theorem length?_eq_some_iff {t : Text} {n : Nat} : length? t = some n ↔
    ∃ m back, t = m ++ back ∧ m.length = n ∧ Qualified m ∧ ¬Continues back := by
  simp only [length?]
  constructor
  · intro found
    split at found
    · cases found
    · rename_i both
      obtain ⟨named, more⟩ := not_or.mp both
      obtain ⟨first, rest, rfl, valid, stops⟩ := identifierLength_split named
      obtain ⟨others, back, rfl, later, whole⟩ := chain_split rest stops
      rw [identifierLength_append valid stops, List.drop_left,
        chainLength_chain later whole] at found more
      refine ⟨first ++ chain others, back, (List.append_assoc ..).symm, ?_,
        qualified_iff.mpr ⟨first, others, ?_, valid, later, rfl⟩, whole⟩
      · rw [List.length_append]
        exact Option.some.inj found
      · rintro rfl
        exact more rfl
  · rintro ⟨m, back, rfl, rfl, named, whole⟩
    obtain ⟨first, others, some, valid, later, rfl⟩ := qualified_iff.mp named
    have read := identifierLength_append valid (@chain_head others _ (not_isNext whole))
    have positive := valid.length_pos
    have joined : 0 < (chain others).length := by
      obtain ⟨part, others, rfl⟩ := List.exists_cons_of_ne_nil some
      exact Nat.succ_pos _
    rw [List.append_assoc, read, List.drop_left, chainLength_chain later whole, if_neg (by omega),
      List.length_append]

end Names

section Places

theorem bars_eq_false_iff {c : Char} :
    bars c = false ↔ c ∉ "$@%&*:_".toList ∧ Text.isAlphanumeric c = false := by
  have ends : "$@%&*:_".toList = "$@%&*:".toList ++ ['_'] := rfl
  rw [bars, ends, List.mem_append, List.mem_singleton]
  simp only [Bool.or_eq_false_iff, List.contains_eq_mem, decide_eq_false_iff_not,
    beq_eq_false_iff_ne]
  rw [not_or, and_right_comm]

theorem bars_of_isNext {c : Char} (next : isNext c = true) : bars c = true := by
  have ascii : ∀ n < 128, isNext (Char.ofNat n) = true → bars (Char.ofNat n) = true := by
    decide +kernel
  have small : c.toNat < 128 := by
    simp only [isNext, Text.isAsciiAlphanumeric, Text.isAsciiLetter, Text.isAsciiDigit,
      Bool.or_eq_true, Bool.and_eq_true, decide_eq_true_eq, beq_iff_eq] at next
    obtain ((⟨_, last⟩ | ⟨_, last⟩) | ⟨_, last⟩) | rfl := next
    · exact Nat.lt_of_le_of_lt last (by decide)
    · exact Nat.lt_of_le_of_lt last (by decide)
    · exact Nat.lt_of_le_of_lt last (by decide)
    · decide
  have here := ascii c.toNat small
  rw [Char.ofNat_toNat] at here
  exact here next

theorem IsIdentifier.bars {part : Text} (valid : IsIdentifier part) :
    ∀ c ∈ part, bars c = true := by
  obtain ⟨c, rest, rfl, first, next⟩ := valid
  have start : isNext c = true := by
    simp only [isFirst, isNext, Text.isAsciiAlphanumeric, Bool.or_eq_true] at first ⊢
    exact first.imp_left Or.inl
  exact List.forall_mem_cons.mpr
    ⟨bars_of_isNext start, fun d member => bars_of_isNext (next d member)⟩

theorem Qualified.bars {n : Text} (named : Qualified n) : ∀ c ∈ n, bars c = true := by
  obtain ⟨first, others, _, valid, later, rfl⟩ := qualified_iff.mp named
  intro c member
  rcases List.mem_append.mp member with here | there
  · exact valid.bars c here
  · obtain ⟨part, among, inside⟩ := List.mem_flatMap.mp there
    rcases List.mem_cons.mp inside with rfl | inside
    · decide
    · rcases List.mem_cons.mp inside with rfl | inside
      · decide
      · exact (later part among).bars c inside

theorem Qualified.ne_nil {n : Text} (named : Qualified n) : n ≠ [] := by
  obtain ⟨first, others, _, valid, _, rfl⟩ := qualified_iff.mp named
  exact List.append_ne_nil_of_left_ne_nil (List.ne_nil_of_length_pos valid.length_pos) _

theorem MentionedAt.lt {t : Text} {i j : Nat} (mentioned : MentionedAt t i j) : i < j := by
  by_contra back
  apply mentioned.named.ne_nil
  rw [List.extract_eq_take_drop, Nat.sub_eq_zero_of_le (by omega), List.take_zero]

theorem mentionedAt_append {front t : Text} {j : Nat} :
    MentionedAt (front ++ t) front.length j ↔
      front.getLast?.any bars = false ∧ ∃ n, length? t = some n ∧ j = front.length + n := by
  have free : front.getLast?.any bars = false ↔ ∀ c ∈ ((front ++ t).take front.length).getLast?,
      c ∉ "$@%&*:_".toList ∧ Text.isAlphanumeric c = false := by
    simp only [Option.any_eq_false, bars_eq_false_iff, List.take_left, Option.mem_def]
  rw [free]
  constructor
  · intro mentioned
    obtain ⟨n, rfl⟩ := Nat.exists_eq_add_of_le mentioned.lt.le
    obtain ⟨within, named, whole, unbarred⟩ := mentioned
    rw [List.length_append] at within
    rw [List.extract_eq_take_drop, List.drop_left, Nat.add_sub_cancel_left] at named
    rw [List.drop_length_add_append] at whole
    refine ⟨unbarred, n, length?_eq_some_iff.mpr ⟨t.take n, t.drop n, ?_, ?_, named, whole⟩, rfl⟩
    · exact (List.take_append_drop n t).symm
    · exact List.length_take_of_le (by omega)
  · rintro ⟨unbarred, n, found, rfl⟩
    obtain ⟨m, back, rfl, rfl, named, whole⟩ := length?_eq_some_iff.mp found
    refine ⟨?_, ?_, ?_, unbarred⟩
    · simp only [List.length_append]
      omega
    · rwa [List.extract_eq_take_drop, List.drop_left, Nat.add_sub_cancel_left, List.take_left]
    · rwa [List.drop_length_add_append, List.drop_left]

theorem not_mentionedAt_inside {front m back : Text} {i j : Nat} (barred : ∀ c ∈ m, bars c = true)
    (after : front.length < i) (inside : i ≤ front.length + m.length) :
    ¬MentionedAt (front ++ (m ++ back)) i j := by
  intro mentioned
  obtain ⟨k, rfl⟩ := Nat.exists_eq_add_of_lt after
  have some : m.take (k + 1) ≠ [] := by
    apply List.ne_nil_of_length_pos
    rw [List.length_take]
    omega
  have last : ((front ++ (m ++ back)).take (front.length + k + 1)).getLast? =
      Option.some ((m.take (k + 1)).getLast some) := by
    rw [Nat.add_assoc, List.take_length_add_append, List.take_append_of_le_length (by omega),
      List.getLast?_append, List.getLast?_eq_some_getLast some, Option.some_or]
  have unbarred := bars_eq_false_iff.mpr (mentioned.free _ last)
  rw [barred _ (List.mem_of_mem_take (List.getLast_mem some))] at unbarred
  cases unbarred

theorem pieces_past (before : Option Char) (m back : Text) :
    pieces before m.length (m ++ back) = pieces (m.getLast?.or before) 0 back := by
  induction m generalizing before with
  | nil => rfl
  | cons c m ih =>
    rw [List.cons_append, List.length_cons, pieces, ih, List.getLast?_cons]
    cases m.getLast? <;> rfl

theorem pieces_name {before : Option Char} {m back : Text} (named : Qualified m)
    (whole : ¬Continues back) :
    pieces before 0 (m ++ back) =
      (if before.any bars then .plain m else .name m) :: pieces m.getLast? 0 back := by
  have found := length?_eq_some_iff.mpr ⟨m, back, rfl, rfl, named, whole⟩
  obtain ⟨c, m, rfl⟩ := List.exists_cons_of_ne_nil named.ne_nil
  rw [List.cons_append] at found ⊢
  rw [pieces, found]
  simp only [List.length_cons, Nat.add_sub_cancel]
  rw [pieces_past, ← List.cons_append, ← List.length_cons, List.take_left, List.getLast?_cons]
  cases m.getLast? <;> rfl

def spans (k : Nat) : List Piece → List (Nat × Nat)
  | [] => []
  | .plain t :: rest => spans (k + t.length) rest
  | .name n :: rest => (k, k + n.length) :: spans (k + n.length) rest

theorem le_of_mem_spans {k : Nat} {ps : List Piece} {span : Nat × Nat}
    (member : span ∈ spans k ps) : k ≤ span.1 := by
  induction ps generalizing k with
  | nil => cases member
  | cons piece rest ih =>
    cases piece with
    | plain t =>
      have := ih member
      omega
    | name n =>
      rcases List.mem_cons.mp member with rfl | later
      · exact Nat.le_refl k
      · have := ih later
        omega

theorem spans_pairwise (k : Nat) (ps : List Piece) :
    (spans k ps).Pairwise fun a b => a.2 ≤ b.1 := by
  induction ps generalizing k with
  | nil => exact List.Pairwise.nil
  | cons piece rest ih =>
    cases piece with
    | plain t => exact ih _
    | name n => exact List.Pairwise.cons (fun _ later => le_of_mem_spans later) (ih _)

/-- Running text is read name by name, and where none stands, character by character. -/
theorem reading_induction {motive : Text → Prop} (nil : motive [])
    (character : ∀ c rest, length? (c :: rest) = none → motive rest → motive (c :: rest))
    (name : ∀ m back, Qualified m → ¬Continues back → motive back → motive (m ++ back))
    (t : Text) : motive t := by
  match found : length? t with
  | some n =>
    obtain ⟨m, back, rfl, rfl, named, whole⟩ := length?_eq_some_iff.mp found
    have shorter := List.length_pos_iff.mpr named.ne_nil
    exact name m back named whole (reading_induction nil character name back)
  | none =>
    match t, found with
    | [], _ => exact nil
    | c :: rest, unnamed =>
      exact character c rest unnamed (reading_induction nil character name rest)
termination_by t.length
decreasing_by all_goals simp_all

theorem mentionedAt_from {front m back : Text} {i j : Nat} (some : m ≠ [])
    (inside : ∀ k, front.length < k → k < front.length + m.length →
      ¬MentionedAt (front ++ (m ++ back)) k j) :
    front.length ≤ i ∧ MentionedAt (front ++ (m ++ back)) i j ↔
      i = front.length ∧ MentionedAt (front ++ (m ++ back)) front.length j ∨
        (front ++ m).length ≤ i ∧ MentionedAt (front ++ m ++ back) i j := by
  have positive := List.length_pos_iff.mpr some
  rw [List.length_append, List.append_assoc]
  constructor
  · rintro ⟨after, mentioned⟩
    rcases Nat.eq_or_lt_of_le after with rfl | after
    · exact Or.inl ⟨rfl, mentioned⟩
    · refine Or.inr ⟨?_, mentioned⟩
      by_contra within
      exact inside i after (by omega) mentioned
  · rintro (⟨rfl, mentioned⟩ | ⟨after, mentioned⟩)
    · exact ⟨Nat.le_refl _, mentioned⟩
    · exact ⟨by omega, mentioned⟩

/-- The names that are found from the left are those that stand in the text by their place. -/
theorem mem_spans_pieces (front t : Text) {i j : Nat} :
    (i, j) ∈ spans front.length (pieces front.getLast? 0 t) ↔
      front.length ≤ i ∧ MentionedAt (front ++ t) i j := by
  induction t using reading_induction generalizing front with
  | nil =>
    constructor
    · intro member
      cases member
    · rintro ⟨after, mentioned⟩
      have := mentioned.lt
      have := mentioned.within
      rw [List.append_nil] at this
      omega
  | character c rest unnamed ih =>
    have elsewhere : ¬MentionedAt (front ++ c :: rest) front.length j := by
      rw [mentionedAt_append, unnamed]
      simp
    have inside : ∀ k, front.length < k → k < front.length + [c].length →
        ¬MentionedAt (front ++ ([c] ++ rest)) k j := by
      intro k after within
      rw [List.length_singleton] at within
      omega
    rw [← List.singleton_append, mentionedAt_from (by simp) inside, ← ih, List.singleton_append,
      pieces, unnamed, List.getLast?_concat, List.length_append]
    simp [spans, elsewhere]
  | name m back named whole ih =>
    have found := length?_eq_some_iff.mpr ⟨m, back, rfl, rfl, named, whole⟩
    have here : MentionedAt (front ++ (m ++ back)) front.length j ↔
        front.getLast?.any bars = false ∧ j = front.length + m.length := by
      rw [mentionedAt_append, found]
      simp only [Option.some.injEq, exists_eq_left']
    have last : (front ++ m).getLast? = m.getLast? := by
      rw [List.getLast?_append, List.getLast?_eq_some_getLast named.ne_nil, Option.some_or]
    -- skipping a name, barred or not, loses no other: all its characters bar what follows them
    have inside : ∀ k, front.length < k → k < front.length + m.length →
        ¬MentionedAt (front ++ (m ++ back)) k j :=
      fun k after within => not_mentionedAt_inside named.bars after within.le
    rw [mentionedAt_from named.ne_nil inside, here, ← ih, last, pieces_name named whole,
      List.length_append]
    cases front.getLast?.any bars with
    | true => simp [spans]
    | false => simp [spans]

end Places

end ModuleName

namespace Inline

open ModuleName (MentionedAt spans)

def escaped (mode : Mode) (t : Text) : Text :=
  if mode.unbroken then Text.replaceChar ' ' "&nbsp;".toList (Html.escape t) else Html.escape t

/-- A name as it is written: a link if it leads to the page of another module. -/
def mention (s : Setting) (mode : Mode) (n : Text) : Text :=
  match s.references.resolve? n with
  | some target =>
    if n ≠ s.ownName then
      "<a href=\"".toList ++ Html.escape (Href.relative s.here target) ++ "\">".toList ++
        escaped mode n ++ "</a>".toList
    else "<code>".toList ++ escaped mode n ++ "</code>".toList
  | none => "<code>".toList ++ escaped mode n ++ "</code>".toList

/-- The text from `k` on, with the names at the given places written as mentions. -/
def shownAlong (s : Setting) (mode : Mode) (t : Text) (k : Nat) : List (Nat × Nat) → Text
  | [] => escaped mode (t.drop k)
  | (i, j) :: places =>
    escaped mode (t.extract k i) ++ mention s mode (t.extract i j) ++ shownAlong s mode t j places

theorem escaped_nil (mode : Mode) : escaped mode [] = [] := by
  unfold escaped
  split <;> rfl

theorem escaped_append (mode : Mode) (a b : Text) :
    escaped mode (a ++ b) = escaped mode a ++ escaped mode b := by
  unfold escaped
  split
  · simp only [Html.escape, Text.replaceChar, List.flatMap_append]
  · simp only [Html.escape, List.flatMap_append]

theorem replaceChar_escapeChar (c : Char) :
    Text.replaceChar ' ' "&nbsp;".toList (Html.escapeChar c) =
      if c = ' ' then "&nbsp;".toList else Html.escapeChar c := by
  rcases Html.escapeChar_cases c with ⟨name, special, written⟩ | ⟨_, written⟩
  · have solid : ∀ pair ∈ Html.specials, pair.1 ≠ ' ' ∧
        Text.replaceChar ' ' "&nbsp;".toList ('&' :: pair.2 ++ [';']) = '&' :: pair.2 ++ [';'] := by
      decide
    obtain ⟨other, kept⟩ := solid _ special
    rw [written, if_neg other, kept]
  · rw [written, Text.replaceChar, List.flatMap_singleton]

theorem write_words (mode : Mode) (t : Text) : Html.write (words mode t) = escaped mode t := by
  unfold words escaped
  split
  · induction t with
    | nil => rfl
    | cons c t ih =>
      have cut : Text.replaceChar ' ' "&nbsp;".toList (Html.escape (c :: t)) =
          Text.replaceChar ' ' "&nbsp;".toList (Html.escapeChar c) ++
            Text.replaceChar ' ' "&nbsp;".toList (Html.escape t) := by
        rw [Html.escape, List.flatMap_cons, Text.replaceChar, List.flatMap_append]
        rfl
      rw [List.map_cons, Html.write, ih, cut, replaceChar_escapeChar]
      split
      · rfl
      · rw [Html.writeNode, Html.escape, List.flatMap_singleton]
  · rw [Html.write, Html.write, Html.writeNode, List.append_nil]

section Running
variable (s : Setting) (mode : Mode)

theorem write_name (n : Text) : Html.write (pieceHtml s mode (.name n)) = mention s mode n := by
  have code : Html.write [.plain .code (words mode n)] =
      "<code>".toList ++ escaped mode n ++ "</code>".toList := by
    rw [← write_words, Html.plain, Html.write, Html.write, Html.writeNode, List.append_nil,
      List.append_assoc, List.append_assoc]
    rfl
  have anchor : ∀ href, Html.write [anchorTo href (words mode n)] =
      "<a href=\"".toList ++ Html.escape href ++ "\">".toList ++ escaped mode n ++
        "</a>".toList := by
    intro href
    rw [← write_words, anchorTo, Html.write, Html.write, Html.writeNode, List.append_nil,
      List.append_assoc, List.append_assoc]
    simp [show Tag.anchor.name = ['a'] from rfl, Html.writeAttributes, Html.writeAttribute]
  rw [pieceHtml, mention, Setting.hrefOf?]
  cases s.references.resolve? n with
  | none => simpa using code
  | some target =>
    by_cases own : n = s.ownName
    · simpa [own] using code
    · simpa [own] using anchor (Href.relative s.here target)

theorem shownAlong_front {t front rest : Text} {k : Nat} {places : List (Nat × Nat)}
    (cut : t.drop k = front ++ rest) (later : ∀ place ∈ places, k + front.length ≤ place.1) :
    shownAlong s mode t k places =
      escaped mode front ++ shownAlong s mode t (k + front.length) places := by
  have behind : t.drop (k + front.length) = rest := by
    rw [← List.drop_drop, cut, List.drop_left]
  cases places with
  | nil => rw [shownAlong, shownAlong, cut, behind, escaped_append]
  | cons place places =>
    obtain ⟨i, j⟩ := place
    have start : k + front.length ≤ i := later (i, j) List.mem_cons_self
    have head : t.extract k i = front ++ t.extract (k + front.length) i := by
      rw [List.extract_eq_take_drop, List.extract_eq_take_drop, cut, behind, List.take_append,
        List.take_of_length_le (by omega), Nat.sub_sub]
    simp only [shownAlong, head, escaped_append, List.append_assoc]

theorem write_pieces {t : Text} {k : Nat} {ps : List ModuleName.Piece}
    (cut : t.drop k = ps.flatMap ModuleName.Piece.text) :
    Html.write (ps.flatMap (pieceHtml s mode)) = shownAlong s mode t k (spans k ps) := by
  induction ps generalizing k with
  | nil => rw [spans, shownAlong, cut, List.flatMap_nil, List.flatMap_nil, escaped_nil, Html.write]
  | cons piece rest ih =>
    rw [List.flatMap_cons] at cut
    have behind : t.drop (k + piece.text.length) = rest.flatMap ModuleName.Piece.text := by
      rw [← List.drop_drop, cut, List.drop_left]
    rw [List.flatMap_cons, Html.write_append, ih behind]
    cases piece with
    | plain front =>
      rw [pieceHtml, write_words, spans, shownAlong_front s mode cut]
      · rfl
      · exact fun place member => ModuleName.le_of_mem_spans member
    | name n =>
      have between : t.extract k k = [] := by
        rw [List.extract_eq_take_drop, Nat.sub_self, List.take_zero]
      have here : t.extract k (k + n.length) = n := by
        rw [List.extract_eq_take_drop, Nat.add_sub_cancel_left, cut]
        exact List.take_left
      rw [write_name, spans, shownAlong, between, here, escaped_nil]
      rfl

end Running

/-- Outside code and links the names in a text are those that are mentioned by their place, each is
a link just if it leads to the page of another module, and all else is written as it is. -/
theorem text_mentions (s : Setting) (link : Mode → Text → List Html) (textOf : Text → Text)
    {mode : Mode} (outside : mode.inCode = false ∧ mode.inLink = false) (t : Text) :
    ∃ places : List (Nat × Nat), places.Pairwise (fun a b => a.2 ≤ b.1) ∧
      (∀ i j, (i, j) ∈ places ↔ MentionedAt t i j) ∧
      Html.write (nodeHtml s link textOf mode (.text t)) = shownAlong s mode t 0 places := by
  have cut : t.drop 0 = (ModuleName.pieces none 0 t).flatMap ModuleName.Piece.text :=
    (ModuleName.pieces_text none 0 t).symm
  refine ⟨spans 0 (ModuleName.pieces none 0 t), ModuleName.spans_pairwise 0 _, ?_, ?_⟩
  · intro i j
    simpa using @ModuleName.mem_spans_pieces [] t i j
  · rw [nodeHtml, outside.1, outside.2, Bool.or_false, if_neg Bool.false_ne_true, running,
      write_pieces s mode cut]

theorem text_mentions_mixed :
    let s : Setting := ⟨⟨[("A::B".toList, Path.absolute ["o".toList, "b.html".toList])]⟩,
      Path.absolute ["o".toList, "c".toList, "d.html".toList], "C::D".toList⟩
    let shown := Html.write
      (nodeHtml s (fun _ _ => []) id .outside (.text "$A::B <A::B> éA::B C::D A::B::C:".toList))
    (Mode.outside.inCode = false ∧ Mode.outside.inLink = false) ∧
      shown = ("$A::B &lt;<a href=\"../b.html\">A::B</a>&gt; éA::B <code>C::D</code> " ++
        "<code>A::B::C</code>:").toList ∧
      ∃ places : List (Nat × Nat), places.Pairwise (fun a b => a.2 ≤ b.1) ∧
        (∀ i j, (i, j) ∈ places ↔ MentionedAt "$A::B <A::B> éA::B C::D A::B::C:".toList i j) ∧
        shown = shownAlong s .outside "$A::B <A::B> éA::B C::D A::B::C:".toList 0 places := by
  intro s shown
  exact ⟨⟨rfl, rfl⟩, by decide +kernel, text_mentions s _ _ ⟨rfl, rfl⟩ _⟩

end Inline
end PodSite
