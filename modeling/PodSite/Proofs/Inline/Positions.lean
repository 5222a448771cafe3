import PodSite.Proofs.Inline.Unclosed

/-!
Reading by position. A scanner stands at a position of the text, keeps the positions where the
contents of its open codes start, and cuts a content out of the text between two positions. It never
asks for a part that the text does not have, and it reads the same nodes as the reader that goes
through the text character by character.
-/
namespace PodSite.Inline

def slice? (t : Text) (start stop : Nat) : Option Text :=
  if start ≤ stop ∧ stop ≤ t.length then some ((t.take stop).drop start) else none

structure PlacedCode where
  letter : Char
  closer : Closer
  start : Nat
  /-- The nodes in front of the code, last first. -/
  before : List Inline

def PlacedCode.withContent (code : PlacedCode) (content : Text) : OpenCode :=
  ⟨code.letter, code.closer, content, code.before⟩

def PlacedCode.close? (t : Text) (code : PlacedCode) (nodes : List Inline) (stop : Nat) :
    Option (List Inline) :=
  (slice? t code.start stop).map fun raw => (code.withContent raw).close nodes []

structure Scanner where
  position : Nat
  codes : List PlacedCode
  nodes : List Inline
  text : Text

namespace Scanner

def initial : Scanner := ⟨0, [], [], []⟩

def enter (s : Scanner) (c : Char) (rest : Text) : Scanner :=
  match opening? (c :: rest) with
  | some (closer, width) =>
    ⟨s.position + width,
      ⟨c, closer, s.position + width, flush s.nodes s.text⟩ :: s.codes, [], []⟩
  | none => { s with position := s.position + 1, text := c :: s.text }

def step? (t : Text) (s : Scanner) (c : Char) (rest : Text) : Option Scanner :=
  match s.codes with
  | code :: outer =>
    match code.closer.width? (c :: rest) with
    | some width =>
      (code.close? t (flush s.nodes s.text) s.position).map fun nodes =>
        ⟨s.position + width, outer, nodes, []⟩
    | none => some (s.enter c rest)
  | [] => some (s.enter c rest)

theorem enter_advances (s : Scanner) (c : Char) (rest : Text) :
    s.position < (s.enter c rest).position := by
  unfold enter
  split
  · rename_i found
    have wide := (opening?_bounds found).1
    simp only
    omega
  · exact Nat.lt_succ_self _

theorem step?_advances {t : Text} {s s' : Scanner} {c : Char} {rest : Text}
    (next : s.step? t c rest = some s') : s.position < s'.position := by
  unfold step? at next
  split at next
  · split at next
    · rename_i found
      have wide := (Closer.width?_eq_some found).1
      obtain ⟨nodes, _, rfl⟩ := Option.map_eq_some_iff.mp next
      simp only
      omega
    · cases next
      exact enter_advances s c rest
  · cases next
    exact enter_advances s c rest

theorem step?_shortens {t : Text} {s s' : Scanner} {c : Char} {rest : Text}
    (here : t.drop s.position = c :: rest) (next : s.step? t c rest = some s') :
    t.length - s'.position < t.length - s.position := by
  have further := step?_advances next
  have left := congrArg List.length here
  rw [List.length_drop, List.length_cons] at left
  omega

def run? (t : Text) (s : Scanner) : Option Scanner :=
  match here : t.drop s.position with
  | [] => some s
  | c :: rest =>
    match next : s.step? t c rest with
    | some s' =>
      have := step?_shortens here next
      s'.run? t
    | none => none
termination_by t.length - s.position

def closeAll? (t : Text) (nodes : List Inline) : List PlacedCode → Option (List Inline)
  | [] => some nodes
  | code :: outer => (code.close? t nodes t.length).bind fun nodes => closeAll? t nodes outer

def finish? (t : Text) (s : Scanner) : Option (List Inline) :=
  (closeAll? t (flush s.nodes s.text) s.codes).map List.reverse

end Scanner

/-- The nodes of a text, read by position; none if a part is asked for that the text does not
have. -/
def scan? (t : Text) : Option (List Inline) :=
  (Scanner.initial.run? t).bind fun s => s.finish? t

variable {t : Text}

/-- A part between two positions is what a reader takes that has the text behind each of them. -/
theorem close?_eq {code : PlacedCode} {stop : Nat} (ordered : code.start ≤ stop)
    (inside : stop ≤ t.length) (nodes : List Inline) :
    code.close? t nodes stop =
      some ((code.withContent (t.drop code.start)).close nodes (t.drop stop)) := by
  have size : t.length - code.start - (t.length - stop) = stop - code.start := by omega
  rw [PlacedCode.close?, slice?, if_pos ⟨ordered, inside⟩, List.drop_take]
  simp only [Option.map_some, OpenCode.close, PlacedCode.withContent, List.length_drop, size,
    List.length_nil, Nat.sub_zero, List.take_length]

namespace Scanner
variable {s : Scanner} {c : Char} {rest : Text}

def reader (t : Text) (s : Scanner) : Reader :=
  ⟨s.codes.map fun code => code.withContent (t.drop code.start), s.nodes, s.text, 0⟩

structure Ordered (t : Text) (s : Scanner) : Prop where
  inside : s.position ≤ t.length
  starts : ∀ code ∈ s.codes, code.start ≤ s.position

theorem run_past {r : Reader} {width : Nat} (wide : 0 < width) (fits : width ≤ (c :: rest).length)
    (skip : r.skip = width - 1) :
    r.run rest = ({ r with skip := 0 } : Reader).run ((c :: rest).drop width) := by
  obtain ⟨k, rfl⟩ : ∃ k, width = k + 1 := ⟨width - 1, by omega⟩
  rw [List.length_cons] at fits
  have passed := Reader.run_skip (r := r) (t := rest.take k)
    (by rw [skip, List.length_take]; omega) (rest.drop k)
  rw [List.take_append_drop] at passed
  exact passed

theorem length_left (ordered : s.Ordered t) (here : t.drop s.position = c :: rest) :
    s.position + (c :: rest).length = t.length := by
  have bound := ordered.inside
  rw [← here, List.length_drop]
  omega

theorem drop_further (here : t.drop s.position = c :: rest) (width : Nat) :
    t.drop (s.position + width) = (c :: rest).drop width := by
  rw [← here, List.drop_drop]

theorem enter_reads (ordered : s.Ordered t) (here : t.drop s.position = c :: rest) :
    (s.enter c rest).Ordered t ∧
      ((s.reader t).enter c rest).run rest =
        ((s.enter c rest).reader t).run (t.drop (s.enter c rest).position) := by
  have left := length_left ordered here
  rw [List.length_cons] at left
  cases found : opening? (c :: rest) with
  | none =>
    simp only [enter, Reader.enter, found]
    refine ⟨⟨by simp only; omega, ?_⟩, ?_⟩
    · intro code member
      exact (ordered.starts code member).trans (Nat.le_succ _)
    · rw [drop_further here, List.drop_succ_cons, List.drop_zero]
      rfl
  | some opened =>
    obtain ⟨closer, width⟩ := opened
    have fits := opening?_le found
    simp only [enter, Reader.enter, found]
    refine ⟨⟨by simp only; rw [List.length_cons] at fits; omega, ?_⟩, ?_⟩
    · intro code member
      rcases List.mem_cons.mp member with rfl | member
      · exact Nat.le_refl _
      · exact (ordered.starts code member).trans (Nat.le_add_right _ _)
    · rw [run_past (opening?_eq_some found).1 fits rfl, drop_further here]
      simp only [reader, List.map_cons, PlacedCode.withContent, drop_further here]

theorem step?_reads (ordered : s.Ordered t) (here : t.drop s.position = c :: rest) :
    ∃ s', s.step? t c rest = some s' ∧ s'.Ordered t ∧
      (s.reader t).run (c :: rest) = (s'.reader t).run (t.drop s'.position) := by
  have entered := enter_reads ordered here
  cases codes : s.codes with
  | nil =>
    have outside : (s.reader t).codes = [] := by rw [reader, codes, List.map_nil]
    refine ⟨_, by rw [step?, codes], entered.1, ?_⟩
    rw [Reader.run, Reader.step_outside rfl outside, entered.2]
  | cons code outer =>
    have opened : (s.reader t).codes = code.withContent (t.drop code.start) ::
        outer.map fun code => code.withContent (t.drop code.start) := by
      rw [reader, codes, List.map_cons]
    cases found : code.closer.width? (c :: rest) with
    | none =>
      refine ⟨_, by simp only [step?, codes, found], entered.1, ?_⟩
      rw [Reader.run, Reader.step_inside rfl opened found, entered.2]
    | some width =>
      have starts := ordered.starts
      rw [codes] at starts
      have cut := close?_eq (starts code (by simp)) ordered.inside (flush s.nodes s.text)
      have left := length_left ordered here
      have fits := Closer.width?_le found
      have next : s.step? t c rest = some ⟨s.position + width, outer,
          (code.withContent (t.drop code.start)).close (flush s.nodes s.text) (t.drop s.position),
          []⟩ := by
        simp only [step?, codes, found, cut, Option.map_some]
      refine ⟨_, next, ⟨?_, ?_⟩, ?_⟩
      · simp only
        omega
      · intro other member
        exact (starts other (List.mem_cons_of_mem code member)).trans (Nat.le_add_right _ _)
      · rw [Reader.run, Reader.step_ends rfl opened found,
          run_past (Closer.width?_eq_some found).1 fits rfl, drop_further here, here]
        rfl

theorem run?_reads (ordered : s.Ordered t) :
    ∃ s', s.run? t = some s' ∧ s'.Ordered t ∧
      (s.reader t).run (t.drop s.position) = s'.reader t := by
  fun_induction run? t s with
  | case1 s here => exact ⟨s, rfl, ordered, by rw [here, Reader.run]⟩
  | case2 s c rest here s' next _ ih =>
    obtain ⟨s₁, stepped, kept, reads⟩ := step?_reads ordered here
    cases next.symm.trans stepped
    obtain ⟨last, ran, end_ordered, same⟩ := ih kept
    exact ⟨last, ran, end_ordered, by rw [here, reads, same]⟩
  | case3 s c rest here next =>
    obtain ⟨s₁, stepped, _⟩ := step?_reads ordered here
    cases next.symm.trans stepped

theorem closeAll?_reads {codes : List PlacedCode} (inside : ∀ code ∈ codes, code.start ≤ t.length)
    (nodes : List Inline) :
    closeAll? t nodes codes =
      some (Reader.closeAll nodes
        (codes.map fun code => code.withContent (t.drop code.start))) := by
  induction codes generalizing nodes with
  | nil => rfl
  | cons code outer ih =>
    obtain ⟨here, later⟩ := List.forall_mem_cons.mp inside
    rw [closeAll?, close?_eq here (Nat.le_refl _), List.drop_length, Option.bind_some, ih later]
    rfl

end Scanner

/-- Every part that reading asks for is there, and the nodes are those that the reader finds. -/
theorem scan?_eq_some (t : Text) : scan? t = some (parse t) := by
  have start : Scanner.initial.Ordered t := ⟨Nat.zero_le _, by simp [Scanner.initial]⟩
  obtain ⟨s, ran, ordered, reads⟩ := Scanner.run?_reads start
  have inside : ∀ code ∈ s.codes, code.start ≤ t.length :=
    fun code member => (ordered.starts code member).trans ordered.inside
  have read : Reader.initial.run t = s.reader t := reads
  rw [scan?, ran, Option.bind_some, Scanner.finish?, Scanner.closeAll?_reads inside, parse, read]
  rfl

end PodSite.Inline
