import PodSite.Inline.Scan
import PodSite.Proofs.Html.Tags

/-!
The leaves of what is read from a text: the nodes at any depth that hold no others. Each of them is
text, or it was made of a part of the text inside of a code. So a reference is a name that no
character has, and the content of a link is shorter than the text.
-/
namespace PodSite.Inline

theorem notMem_alphanumeric {name : Text} (letters : name.all Text.isAsciiAlphanumeric = true)
    {c : Char} (mark : Text.isAsciiAlphanumeric c = false) : c ∉ name := by
  intro member
  rw [List.all_eq_true.mp letters c member] at mark
  contradiction

theorem alphanumeric_plain {name : Text} (letters : name.all Text.isAsciiAlphanumeric = true) :
    Html.Plain name :=
  ⟨notMem_alphanumeric letters (by decide), notMem_alphanumeric letters (by decide)⟩

theorem ofCharacterCode_entity {code name : Text} (named : ofCharacterCode code = .entity name) :
    name = code ∧ name ≠ [] ∧ name.all Text.isAsciiAlphanumeric = true ∧
      namedCharacters.lookup name = none := by
  unfold ofCharacterCode at named
  split at named
  · cases named
  rename_i unnamed
  split at named
  · cases named
  split at named
  · rename_i letters
    cases named
    rw [Bool.and_eq_true] at letters
    exact ⟨rfl, by simpa using letters.1, letters.2, unnamed⟩
  · cases named

mutual
def leaves : Inline → List Inline
  | text t => [text t]
  | styled _ content => leavesAll content
  | character t => [character t]
  | entity name => [entity name]
  | link raw => [link raw]
def leavesAll : List Inline → List Inline
  | [] => []
  | node :: rest => leaves node ++ leavesAll rest
end

theorem mem_leavesAll {leaf : Inline} {nodes : List Inline} :
    leaf ∈ leavesAll nodes ↔ ∃ node ∈ nodes, leaf ∈ leaves node := by
  induction nodes with
  | nil => simp [leavesAll]
  | cons node rest ih => simp [leavesAll, ih]

theorem leavesAll_reverse {leaf : Inline} {nodes : List Inline} :
    leaf ∈ leavesAll nodes.reverse ↔ leaf ∈ leavesAll nodes := by
  simp [mem_leavesAll]

theorem leaves_ofCharacterCode (code : Text) :
    leaves (ofCharacterCode code) = [ofCharacterCode code] := by
  unfold ofCharacterCode
  split
  · rfl
  · split
    · rfl
    · split <;> rfl

def LeafWithin (length : Nat) (leaf : Inline) : Prop :=
  (∃ t, leaf = text t) ∨
    ∃ raw : Text, raw.length + 2 ≤ length ∧
      (leaf = link (Text.trim raw) ∨ leaf = ofCharacterCode (Text.trim raw))

def NodesWithin (length : Nat) (nodes : List Inline) : Prop :=
  ∀ leaf ∈ leavesAll nodes, LeafWithin length leaf

variable {length : Nat}

theorem nodesWithin_nil : NodesWithin length [] := by
  simp [NodesWithin, leavesAll]

theorem nodesWithin_cons {node : Inline} {nodes : List Inline}
    (first : ∀ leaf ∈ leaves node, LeafWithin length leaf) (later : NodesWithin length nodes) :
    NodesWithin length (node :: nodes) := by
  intro leaf member
  rw [leavesAll, List.mem_append] at member
  rcases member with here | there
  · exact first leaf here
  · exact later leaf there

theorem ofCode?_within {letter : Char} {content : List Inline} {raw : Text} {node : Inline}
    (made : ofCode? letter content raw = some node) (inside : raw.length + 2 ≤ length)
    (within : NodesWithin length content) : ∀ leaf ∈ leaves node, LeafWithin length leaf := by
  unfold ofCode? at made
  split at made
  iterate 5
    · cases made
      exact within
  · cases made
    intro leaf member
    exact Or.inr ⟨raw, inside, Or.inl (List.mem_singleton.mp member)⟩
  · cases made
    intro leaf member
    rw [leaves_ofCharacterCode] at member
    exact Or.inr ⟨raw, inside, Or.inr (List.mem_singleton.mp member)⟩
  · cases made

theorem flush_within {nodes : List Inline} (within : NodesWithin length nodes) (t : Text) :
    NodesWithin length (flush nodes t) := by
  unfold flush
  split
  · exact within
  · refine nodesWithin_cons ?_ within
    intro leaf member
    exact Or.inl ⟨_, List.mem_singleton.mp member⟩

/-- What stands in front of an open code, and how much of the text the code can hold. -/
structure OpenCode.Within (length : Nat) (code : OpenCode) : Prop where
  before : NodesWithin length code.before
  start : code.start.length + 2 ≤ length

theorem close_within {code : OpenCode} (within : code.Within length) {nodes : List Inline}
    (inner : NodesWithin length nodes) (rest : Text) :
    NodesWithin length (code.close nodes rest) := by
  have inside : (code.start.take (code.start.length - rest.length)).length + 2 ≤ length := by
    have := within.start
    rw [List.length_take]
    omega
  unfold OpenCode.close
  simp only
  split
  · rename_i made
    refine nodesWithin_cons (ofCode?_within made inside ?_) within.before
    intro leaf member
    exact inner leaf (leavesAll_reverse.mp member)
  · exact within.before

theorem opening?_bounds {t : Text} {closer : Closer} {width : Nat}
    (found : opening? t = some (closer, width)) : 2 ≤ width ∧ 2 ≤ t.length := by
  unfold opening? at found
  split at found
  · refine ⟨?_, by simp⟩
    split at found
    · simp only at found
      split at found
      · simp only [Option.some.injEq, Prod.mk.injEq] at found
        omega
      · simp only [Option.some.injEq, Prod.mk.injEq] at found
        omega
    · cases found
  · cases found

namespace Reader

structure Within (length : Nat) (r : Reader) : Prop where
  nodes : NodesWithin length r.nodes
  codes : ∀ code ∈ r.codes, code.Within length

theorem enter_within {r : Reader} (within : r.Within length) {c : Char} {rest : Text}
    (left : (c :: rest).length ≤ length) : (r.enter c rest).Within length := by
  unfold enter
  split
  · rename_i closer width found
    obtain ⟨wide, long⟩ := opening?_bounds found
    have shorter : ((c :: rest).drop width).length + 2 ≤ length := by
      rw [List.length_drop]
      omega
    refine ⟨nodesWithin_nil, ?_⟩
    intro code member
    rcases List.mem_cons.mp member with rfl | member
    · exact ⟨flush_within within.nodes r.text, shorter⟩
    · exact within.codes code member
  · exact ⟨within.nodes, within.codes⟩

theorem step_within {r : Reader} (within : r.Within length) {c : Char} {rest : Text}
    (left : (c :: rest).length ≤ length) : (r.step c rest).Within length := by
  unfold step
  split
  · exact ⟨within.nodes, within.codes⟩
  · split
    · rename_i code outer opened
      have codes : ∀ other ∈ code :: outer, other.Within length := opened ▸ within.codes
      split
      · refine ⟨close_within (codes code (by simp)) (flush_within within.nodes _) _, ?_⟩
        exact fun other member => codes other (by simp [member])
      · exact enter_within within left
    · exact enter_within within left

theorem run_within {r : Reader} (within : r.Within length) {t : Text} (left : t.length ≤ length) :
    (r.run t).Within length := by
  induction t generalizing r with
  | nil => exact within
  | cons c rest ih =>
    rw [List.length_cons] at left
    exact ih (step_within within (by simpa using left)) (by omega)

theorem closeAll_within (codes : List OpenCode) {nodes : List Inline}
    (inner : NodesWithin length nodes) (within : ∀ code ∈ codes, code.Within length) :
    NodesWithin length (closeAll nodes codes) := by
  induction codes generalizing nodes with
  | nil => exact inner
  | cons code outer ih =>
    refine ih (close_within (within code (by simp)) inner []) ?_
    exact fun other member => within other (by simp [member])

end Reader

theorem parse_within (t : Text) : NodesWithin t.length (parse t) := by
  have start : Reader.initial.Within t.length := ⟨nodesWithin_nil, by simp [Reader.initial]⟩
  have done := Reader.run_within start (Nat.le_refl t.length)
  have closed := Reader.closeAll_within _ (flush_within done.nodes (Reader.initial.run t).text)
    done.codes
  intro leaf member
  exact closed leaf (leavesAll_reverse.mp member)

theorem entity_of_parse {t name : Text} (read : entity name ∈ leavesAll (parse t)) :
    ofCharacterCode name = entity name := by
  rcases parse_within t _ read with ⟨u, same⟩ | ⟨raw, _, same | same⟩
  · cases same
  · cases same
  · have own := (ofCharacterCode_entity same.symm).1
    rw [← own] at same
    exact same.symm

end PodSite.Inline
