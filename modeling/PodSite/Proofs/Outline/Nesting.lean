import PodSite.Proofs.Outline.Contents

/-!
How headings nest. While an outline is built, each open heading is deeper than the one around it,
and no later heading is deeper than one that ended beside it. So in the finished outline every
heading stands under the nearest one before it that has a smaller level.
-/
namespace PodSite

namespace Heading

def at? (h : Heading) : List Nat → Option Heading
  | [] => some h
  | i :: rest => h.children[i]?.bind fun child => child.at? rest

/-- The given headings and all below them with their addresses, in document order; the first of them
has the number `i`. -/
def placedFrom (i : Nat) : List Heading → List (List Nat × Heading)
  | [] => []
  | ⟨level, anchor, title, blocks, children⟩ :: rest =>
    ([i], ⟨level, anchor, title, blocks, children⟩) ::
      ((placedFrom 0 children).map (fun x => (i :: x.1, x.2)) ++ placedFrom (i + 1) rest)

def placed (h : Heading) : List (List Nat × Heading) := placedFrom 0 h.children

/-- Headings that stand side by side under one of the given level: all are deeper than it, none is
deeper than one before it, and the same holds below each of them. -/
def Nested (level : Nat) : List Heading → Prop
  | [] => True
  | ⟨own, _, _, _, children⟩ :: rest =>
    level < own ∧ (∀ h ∈ rest, h.level ≤ own) ∧ Nested own children ∧ Nested level rest

@[elab_as_elim]
theorem forest_induction {motive : List Heading → Prop} (nil : motive [])
    (cons : ∀ h rest, motive h.children → motive rest → motive (h :: rest)) (hs : List Heading) :
    motive hs := by
  fun_induction flattened hs with
  | case1 => exact nil
  | case2 level anchor title blocks children rest below beside => exact cons _ _ below beside

theorem placedFrom_cons (i : Nat) (h : Heading) (rest : List Heading) :
    placedFrom i (h :: rest) =
      ([i], h) :: ((placedFrom 0 h.children).map (fun x => (i :: x.1, x.2)) ++
        placedFrom (i + 1) rest) := by
  obtain ⟨level, anchor, title, blocks, children⟩ := h
  rw [placedFrom]

theorem nested_cons {level : Nat} {h : Heading} {rest : List Heading} :
    Nested level (h :: rest) ↔
      level < h.level ∧ (∀ s ∈ rest, s.level ≤ h.level) ∧ Nested h.level h.children ∧
        Nested level rest := by
  obtain ⟨own, anchor, title, blocks, children⟩ := h
  rw [Nested]

section Addresses

theorem placedFrom_headings (i : Nat) (hs : List Heading) :
    (placedFrom i hs).map (·.2) = flattened hs := by
  induction hs using forest_induction generalizing i with
  | nil => simp [placedFrom, flattened]
  | cons h rest below beside =>
    simp [placedFrom_cons, flattened_cons, headings, Function.comp_def, below, beside]

theorem placed_headings (h : Heading) : h.placed.map (·.2) = h.headings :=
  placedFrom_headings 0 h.children

theorem mem_placedFrom {hs : List Heading} {i : Nat} {a : List Nat} {h : Heading} :
    (a, h) ∈ placedFrom i hs ↔
      ∃ k rest c, a = (i + k) :: rest ∧ hs[k]? = some c ∧ c.at? rest = some h := by
  induction hs using forest_induction generalizing i a with
  | nil => simp [placedFrom]
  | cons first others below beside =>
    have inner : ∀ r, (r, h) ∈ placedFrom 0 first.children ↔ r ≠ [] ∧ first.at? r = some h := by
      intro r
      rw [below]
      cases r with
      | nil => simp
      | cons k r => simp [at?, Option.bind_eq_some_iff]
    rw [placedFrom_cons, List.mem_cons, List.mem_append, beside]
    constructor
    · rintro (here | under | ⟨k, rest, c, rfl, found, leads⟩)
      · cases here
        exact ⟨0, [], _, rfl, rfl, rfl⟩
      · obtain ⟨⟨r, _⟩, member, same⟩ := List.mem_map.mp under
        cases same
        exact ⟨0, r, first, rfl, rfl, ((inner r).mp member).2⟩
      · exact ⟨k + 1, rest, c, by rw [Nat.add_right_comm]; rfl, found, leads⟩
    · rintro ⟨k, rest, c, rfl, found, leads⟩
      cases k with
      | succ k =>
        exact Or.inr (Or.inr ⟨k, rest, c, by rw [Nat.add_right_comm]; rfl, found, leads⟩)
      | zero =>
        cases found
        cases rest with
        | nil =>
          cases leads
          exact Or.inl rfl
        | cons j rest =>
          have under := (inner (j :: rest)).mpr ⟨by simp, leads⟩
          exact Or.inr (Or.inl (List.mem_map.mpr ⟨_, under, rfl⟩))

theorem mem_placed {root h : Heading} {a : List Nat} :
    (a, h) ∈ root.placed ↔ a ≠ [] ∧ root.at? a = some h := by
  rw [placed, mem_placedFrom]
  cases a with
  | nil => simp
  | cons i a => simp [at?, Option.bind_eq_some_iff]

theorem address_cons {i : Nat} {hs : List Heading} {x : List Nat × Heading}
    (member : x ∈ placedFrom i hs) : ∃ k rest, x.1 = k :: rest ∧ i ≤ k := by
  obtain ⟨k, rest, _, address, _⟩ := mem_placedFrom.mp member
  exact ⟨i + k, rest, address, Nat.le_add_right i k⟩

theorem placedFrom_sorted (i : Nat) (hs : List Heading) :
    (placedFrom i hs).Pairwise fun x y => x.1 < y.1 := by
  induction hs using forest_induction generalizing i with
  | nil => simp [placedFrom]
  | cons h rest below beside =>
    have under : ((placedFrom 0 h.children).map fun x => (i :: x.1, x.2)).Pairwise
        fun x y => x.1 < y.1 := by
      rw [List.pairwise_map]
      exact (below 0).imp fun less => List.cons_lt_cons_self.mpr less
    rw [placedFrom_cons, List.pairwise_cons, List.pairwise_append]
    refine ⟨?_, under, beside (i + 1), ?_⟩
    · rw [List.forall_mem_append, List.forall_mem_map]
      constructor
      · intro x member
        obtain ⟨k, r, address, _⟩ := address_cons member
        simp [address]
      · intro x member
        obtain ⟨k, r, address, later⟩ := address_cons member
        rw [address]
        exact List.cons_lt_cons_iff.mpr (Or.inl later)
    · rw [List.forall_mem_map]
      intro x _ y member
      obtain ⟨k, r, address, later⟩ := address_cons member
      rw [address]
      exact List.cons_lt_cons_iff.mpr (Or.inl later)

theorem lt_of_siblings {m n : Nat} (above : List Nat) (less : above ++ [m] < above ++ [n]) :
    m < n := by
  induction above with
  | nil => simpa [List.cons_lt_cons_iff] using less
  | cons i above ih => exact ih (List.cons_lt_cons_self.mp less)

end Addresses

section Parents

theorem append_cons_cases {α : Type} {xs ys front back : List α} {x : α}
    (split : xs ++ ys = front ++ x :: back) :
    (∃ more, xs = front ++ x :: more) ∨ ∃ more, front = xs ++ more ∧ ys = more ++ x :: back := by
  rcases List.append_eq_append_iff.mp split with ⟨more, whole, rest⟩ | ⟨more, whole, rest⟩
  · exact Or.inr ⟨more, whole, rest⟩
  · cases more with
    | nil => exact Or.inr ⟨[], by simpa using whole.symm, by simpa using rest.symm⟩
    | cons y more =>
      cases rest
      exact Or.inl ⟨more, whole⟩

theorem Nested.deeper {level : Nat} {hs : List Heading} (nested : Nested level hs) :
    ∀ h ∈ flattened hs, level < h.level := by
  induction hs using forest_induction generalizing level with
  | nil => simp [flattened]
  | cons h rest below beside =>
    obtain ⟨deep, _, inner, later⟩ := nested_cons.mp nested
    rw [flattened_cons]
    refine List.forall_mem_cons.mpr ⟨deep, List.forall_mem_append.mpr ⟨?_, beside later⟩⟩
    exact fun s member => Nat.lt_trans deep (below inner s member)

/-- The address of the nearest heading with a smaller level, where the nearest comes first; that of
the root if there is none. -/
def parentAmong (before : List (List Nat × Heading)) (level : Nat) : List Nat :=
  ((before.find? (·.2.level < level)).map (·.1)).getD []

theorem parentAmong_beyond {before more : List (List Nat × Heading)} {level : Nat}
    (beyond : (∀ x ∈ before, level ≤ x.2.level) → ∀ x ∈ more, level ≤ x.2.level) :
    parentAmong (before ++ more) level = parentAmong before level := by
  unfold parentAmong
  rw [List.find?_append]
  cases found : before.find? (·.2.level < level) with
  | some x => rfl
  | none =>
    have deep : ∀ x ∈ before, level ≤ x.2.level := by simpa using found
    have none : more.find? (·.2.level < level) = none := by simpa using beyond deep
    rw [none]
    rfl

theorem parentAmong_under {i level : Nat} {h : Heading} (deep : h.level < level)
    (before : List (List Nat × Heading)) :
    parentAmong ((before.map fun x => (i :: x.1, x.2)) ++ [([i], h)]) level =
      i :: parentAmong before level := by
  unfold parentAmong
  rw [List.find?_append, List.find?_map, Function.comp_def]
  cases before.find? (·.2.level < level) with
  | some x => rfl
  | none => simp [deep]

theorem level_le_of_placed {bound i : Nat} {others : List Heading}
    (shallow : ∀ s ∈ others, s.level ≤ bound) {more back : List (List Nat × Heading)}
    {a : List Nat} {h : Heading} (next : placedFrom i others = more ++ (a, h) :: back)
    (deep : ∀ x ∈ more, h.level ≤ x.2.level) : h.level ≤ bound := by
  cases others with
  | nil => simp [placedFrom] at next
  | cons first others =>
    rw [placedFrom_cons] at next
    have least := shallow first List.mem_cons_self
    cases more with
    | nil =>
      cases next
      exact least
    | cons x more =>
      obtain ⟨rfl, _⟩ := List.cons.inj next
      exact Nat.le_trans (deep ([i], first) List.mem_cons_self) least

theorem placedFrom_parent {level : Nat} {hs : List Heading} (nested : Nested level hs) (i : Nat)
    {front back : List (List Nat × Heading)} {a : List Nat} {h : Heading}
    (split : placedFrom i hs = front ++ (a, h) :: back) :
    a.dropLast = parentAmong front.reverse h.level := by
  induction hs using forest_induction generalizing level i front back a with
  | nil => simp [placedFrom] at split
  | cons first others below beside =>
    obtain ⟨_, shallow, inner, later⟩ := nested_cons.mp nested
    have deeper := inner.deeper
    rw [← placedFrom_headings 0, List.forall_mem_map] at deeper
    rw [placedFrom_cons] at split
    cases front with
    | nil =>
      cases split
      rfl
    | cons x front =>
      obtain ⟨same, rest⟩ := List.cons.inj split
      subst same
      rw [List.reverse_cons]
      rcases append_cons_cases rest with ⟨more, under⟩ | ⟨more, rfl, next⟩
      -- below the first heading: the search goes on inside it and ends at it at the latest
      · obtain ⟨front, tail, whole, rfl, ends⟩ := List.map_eq_append_iff.mp under
        obtain ⟨⟨a, h⟩, tail, rfl, same, _⟩ := List.map_eq_cons_iff.mp ends
        cases same
        have member : (a, h) ∈ placedFrom 0 first.children := by simp [whole]
        obtain ⟨k, r, rfl, _⟩ := address_cons member
        rw [← List.map_reverse, parentAmong_under (deeper _ member), ← below inner 0 whole]
        rfl
      -- beside it: if the search comes back to the first heading, nothing there is less deep
      · rw [List.reverse_append, List.append_assoc, parentAmong_beyond]
        · exact beside later (i + 1) next
        intro deep
        have top := level_le_of_placed shallow next fun x member => deep x (by simpa using member)
        rw [List.forall_mem_append]
        refine ⟨?_, by simpa using top⟩
        intro y member
        obtain ⟨z, inside, rfl⟩ := List.mem_map.mp (List.mem_reverse.mp member)
        exact Nat.le_trans top (Nat.le_of_lt (deeper z inside))

end Parents

theorem nested_concat {level : Nat} {hs : List Heading} {child : Heading}
    (nested : Nested level hs) (deep : level < child.level)
    (inner : Nested child.level child.children) (last : ∀ s ∈ hs, child.level ≤ s.level) :
    Nested level (hs ++ [child]) := by
  induction hs with
  | nil => exact nested_cons.mpr ⟨deep, by simp, inner, nested⟩
  | cons h hs ih =>
    obtain ⟨own, beside, below, later⟩ := nested_cons.mp nested
    obtain ⟨here, others⟩ := List.forall_mem_cons.mp last
    refine nested_cons.mpr ⟨own, ?_, below, ih later others⟩
    exact List.forall_mem_append.mpr ⟨beside, by simpa using here⟩

end Heading

namespace Outline

open PodSite.Markup (Paragraph)
open Heading (Nested nested_concat)

/-- The open headings, innermost first: each is deeper than the one around it, and no deeper than
those that ended beside it. The last one is the root. -/
def Ranked : List Heading → Prop
  | [] => False
  | [root] => root.level = 0 ∧ Nested root.level root.children
  | h :: around :: outer =>
    around.level < h.level ∧ Nested h.level h.children ∧
      (∀ s ∈ around.children, h.level ≤ s.level) ∧ Ranked (around :: outer)

theorem level_attach (child : Option Heading) (h : Heading) :
    (attach child h).level = h.level := by
  cases child with
  | none => rfl
  | some c => rfl

theorem Ranked.attach {h around : Heading} {outer : List Heading}
    (ranked : Ranked (h :: around :: outer)) : Ranked (attach (some h) around :: outer) := by
  obtain ⟨deep, inner, last, rest⟩ := ranked
  cases outer with
  | nil => exact ⟨rest.1, nested_concat rest.2 deep inner last⟩
  | cons next outer =>
    obtain ⟨around_deep, around_inner, around_last, rest⟩ := rest
    exact ⟨around_deep, nested_concat around_inner deep inner last, around_last, rest⟩

theorem closeHeadings_ranked (level : Nat) (child : Option Heading) (h : Heading)
    (outer : List Heading) (ranked : Ranked (attach child h :: outer))
    (ended : ∀ s ∈ (attach child h).children, level ≤ s.level) :
    ∃ top rest, closeHeadings level child (h :: outer) = top :: rest ∧ Ranked (top :: rest) ∧
      (∀ s ∈ top.children, level ≤ s.level) ∧ (0 < level → top.level < level) := by
  induction outer generalizing child h with
  | nil =>
    refine ⟨_, [], rfl, ranked, ended, fun positive => ?_⟩
    rw [ranked.1]
    exact positive
  | cons around outer ih =>
    rw [closeHeadings]
    split
    · rename_i deep
      refine ih (some (attach child h)) around ranked.attach ?_
      have last : ∀ s ∈ around.children, level ≤ s.level := fun s member =>
        Nat.le_trans deep (level_attach child h ▸ ranked.2.2.1 s member)
      refine List.forall_mem_append.mpr ⟨last, ?_⟩
      simpa [level_attach] using deep
    · rename_i shallow
      refine ⟨_, _, rfl, ranked, ended, fun _ => ?_⟩
      rw [level_attach]
      exact Nat.lt_of_not_le shallow
    · simp

def SameFrame (hs hs' : List Heading) : Prop :=
  hs'.map (fun h => (h.level, h.children)) = hs.map fun h => (h.level, h.children)

theorem sameFrame_cons {h : Heading} {hs hs' : List Heading} (same : SameFrame (h :: hs) hs') :
    ∃ h' rest, hs' = h' :: rest ∧ h'.level = h.level ∧ h'.children = h.children ∧
      SameFrame hs rest := by
  obtain ⟨h', rest, rfl, first, later⟩ := List.map_eq_cons_iff.mp same
  obtain ⟨level, children⟩ := Prod.mk.inj first
  exact ⟨h', rest, rfl, level, children, later⟩

theorem SameFrame.ranked {hs hs' : List Heading} (same : SameFrame hs hs') (ranked : Ranked hs) :
    Ranked hs' := by
  induction hs generalizing hs' with
  | nil => exact ranked.elim
  | cons h hs ih =>
    obtain ⟨h', rest, rfl, level, children, later⟩ := sameFrame_cons same
    cases hs with
    | nil =>
      obtain rfl := List.map_eq_nil_iff.mp later
      rwa [Ranked, level, children]
    | cons around outer =>
      obtain ⟨deep, inner, last, below⟩ := ranked
      have outer_ranked := ih later below
      obtain ⟨around', rest, rfl, level', children', _⟩ := sameFrame_cons later
      rw [Ranked, level, children, level', children']
      exact ⟨deep, inner, last, outer_ranked⟩

namespace Builder

theorem sameFrame_addBlocks (b : Builder) (blocks : List Block) :
    SameFrame b.headings (b.addBlocks blocks).headings := by
  unfold addBlocks
  split
  · rfl
  · rename_i shape
    rw [shape]
    rfl
  · rfl

theorem sameFrame_closeList (b : Builder) : SameFrame b.headings b.closeList.headings := by
  unfold closeList
  split
  · exact sameFrame_addBlocks _ _
  · rfl

theorem sameFrame_closeRegion (b : Builder) : SameFrame b.headings b.closeRegion.headings := by
  unfold closeRegion
  split
  · dsimp only
    split
    · exact sameFrame_addBlocks _ _
    · rfl
  · rfl

theorem headings_startItem (b : Builder) (text : Text) :
    (b.startItem text).headings = b.headings := by
  unfold startItem
  dsimp only
  split <;> rfl

theorem sameFrame_formatParagraph (b : Builder) (text : Text) :
    SameFrame b.headings (b.formatParagraph text).headings := by
  unfold formatParagraph
  dsimp only
  split
  · exact sameFrame_addBlocks _ _
  · rfl

theorem command_headings (b : Builder) (name text : Text) :
    SameFrame b.headings (b.command name text).headings ∨
      ∃ level anchor hs, 0 < level ∧ SameFrame b.headings hs ∧
        (b.command name text).headings =
          Heading.fresh level anchor text :: closeHeadings level none hs := by
  unfold command
  split
  · split
    · rename_i level numbered
      have positive : 0 < level := by
        obtain ⟨_, range⟩ := Option.filter_eq_some_iff.mp numbered
        simp at range
        exact range.1
      exact Or.inr ⟨level, _, b.closeLists.headings, positive, sameFrame_addBlocks _ _, rfl⟩
    · exact Or.inl rfl
  · refine Or.inl ?_
    split
    · rfl
    · split
      · rw [headings_startItem]
        rfl
      · split
        · exact sameFrame_closeList b
        · split
          · rfl
          · split
            · exact sameFrame_formatParagraph b text
            · rfl

theorem next_headings (b : Builder) (p : Paragraph) :
    SameFrame b.headings (b.next p).headings ∨
      ∃ level anchor title hs, 0 < level ∧ SameFrame b.headings hs ∧
        (b.next p).headings =
          Heading.fresh level anchor title :: closeHeadings level none hs := by
  have added : ∀ b' : Builder, SameFrame b.headings b'.headings →
      SameFrame b.headings (b'.add p).headings ∨
        ∃ level anchor title hs, 0 < level ∧ SameFrame b.headings hs ∧
          (b'.add p).headings =
            Heading.fresh level anchor title :: closeHeadings level none hs := by
    intro b' same
    cases p with
    | command name text =>
      rcases command_headings b' name text with frame | ⟨level, anchor, hs, positive, frame, shape⟩
      · exact Or.inl (frame.trans same)
      · exact Or.inr ⟨level, anchor, text, hs, positive, frame.trans same, shape⟩
    | verbatim text => exact Or.inl ((sameFrame_addBlocks b' _).trans same)
    | prose text => exact Or.inl ((sameFrame_addBlocks b' _).trans same)
  unfold next
  split
  · exact added b rfl
  · cases p with
    | command name text =>
      dsimp only
      split
      · exact Or.inl (sameFrame_closeRegion b)
      · split
        · exact added _ (sameFrame_closeRegion b)
        · exact Or.inl rfl
    | verbatim text => exact Or.inl rfl
    | prose text => exact Or.inl rfl

structure Layered (b : Builder) : Prop where
  opened : b.Opened
  ranked : Ranked b.headings

theorem initial_layered : initial.Layered := by
  refine ⟨initial_sound.opened, rfl, ?_⟩
  rw [Heading.root, Nested]
  trivial

theorem next_layered {b : Builder} (layered : b.Layered) (p : Paragraph) : (b.next p).Layered := by
  obtain ⟨⟨h, outer, shape, childless⟩, ranked⟩ := layered
  rw [shape] at ranked
  rcases next_headings b p with same | ⟨level, anchor, title, hs, positive, same, started⟩
  · rw [shape] at same
    refine ⟨?_, same.ranked ranked⟩
    obtain ⟨h', rest, shape', _, children, _⟩ := sameFrame_cons same
    exact ⟨h', rest, shape', children.trans childless⟩
  · rw [shape] at same
    have kept := same.ranked ranked
    obtain ⟨h', rest, rfl, _, children, _⟩ := sameFrame_cons same
    have ended : ∀ s ∈ (attach none h').children, level ≤ s.level := by
      simp [attach, children, childless]
    obtain ⟨top, below, closed, ranked, shallow, deep⟩ :=
      closeHeadings_ranked level none h' rest kept ended
    refine ⟨⟨_, _, started, rfl⟩, ?_⟩
    rw [started, closed]
    refine ⟨deep positive, ?_, shallow, ranked⟩
    rw [Heading.fresh, Nested]
    trivial

theorem foldl_next_layered {b : Builder} (layered : b.Layered) (ps : List Paragraph) :
    (ps.foldl next b).Layered := by
  induction ps generalizing b with
  | nil => exact layered
  | cons p ps ih => exact ih (next_layered layered p)

theorem finish_nested {b : Builder} (layered : b.Layered) : Nested 0 b.finish.children := by
  have same : SameFrame b.headings b.closeRegion.closeLists.headings :=
    (sameFrame_addBlocks _ _).trans (sameFrame_closeRegion b)
  have ranked := same.ranked layered.ranked
  rw [finish]
  cases shape : b.closeRegion.closeLists.headings with
  | nil =>
    rw [shape] at ranked
    exact ranked.elim
  | cons h outer =>
    rw [shape] at ranked
    obtain ⟨root, left⟩ := closeHeadings_zero none (List.cons_ne_nil h outer)
    obtain ⟨top, rest, closed, ranked, _⟩ :=
      closeHeadings_ranked 0 none h outer ranked fun s _ => Nat.zero_le s.level
    rw [left] at closed
    cases closed
    rw [left]
    exact ranked.1 ▸ ranked.2

end Builder

section Titles

def heading? : Paragraph → Option (Nat × Text)
  | .command ('h' :: 'e' :: 'a' :: 'd' :: digits) title =>
    match Text.number? 10 digits with
    | some level => if 0 < level ∧ level < 256 then some (level, title) else none
    | none => none
  | _ => none

example :
    ["head1", "head+02", "head0", "head256", "head", "head 1", "over"].filterMap
        (fun name => heading? (.command name.toList [])) =
      [(1, []), (2, [])] := by
  decide

theorem heading?_headed (digits title : Text) :
    heading? (.command ("head".toList ++ digits) title) =
      (headingLevel? digits).map fun level => (level, title) := by
  have headed : "head".toList ++ digits = 'h' :: 'e' :: 'a' :: 'd' :: digits := rfl
  rw [headed, heading?, headingLevel?]
  cases Text.number? 10 digits with
  | none => rfl
  | some level =>
    by_cases valid : 0 < level ∧ level < 256
    · simp [valid, Option.filter]
    · simp [valid, Option.filter]

theorem heading?_other {name : Text} (other : ∀ digits, name ≠ "head".toList ++ digits)
    (title : Text) : heading? (.command name title) = none := by
  unfold heading?
  split
  · rename_i digits _ same
    cases same
    exact absurd rfl (other digits)
  · rfl

theorem dropPrefix?_eq_some {front t rest : Text} :
    Text.dropPrefix? front t = some rest ↔ t = front ++ rest := by
  fun_induction Text.dropPrefix? front t with
  | case1 t => simp [eq_comm]
  | case2 c front => simp
  | case3 front c t ih => simpa using ih
  | case4 c front d t differ => simp [Ne.symm differ]

theorem heading?_command (name title : Text) :
    heading? (.command name title) = (headingOf? name).map fun level => (level, title) := by
  rw [headingOf?]
  cases cut : Text.dropPrefix? "head".toList name with
  | some digits =>
    rw [dropPrefix?_eq_some.mp cut, heading?_headed, Option.bind_some]
  | none =>
    refine heading?_other (fun digits same => ?_) title
    rw [dropPrefix?_eq_some.mpr same] at cut
    cases cut

def title? : Content → Option (Nat × Text)
  | .title level text => some (level, text)
  | _ => none

mutual
theorem blockContents_untitled (b : Block) : (blockContents b).filterMap title? = [] := by
  cases b with
  | paragraph t => simp [blockContents, title?]
  | verbatim t => simp [blockContents, title?]
  | html t => simp [blockContents, title?]
  | list ordered items =>
    rw [blockContents]
    exact itemsContents_untitled ordered items
  | definitions entries =>
    rw [blockContents]
    exact entriesContents_untitled entries

theorem blocksContents_untitled (blocks : List Block) :
    (blocksContents blocks).filterMap title? = [] := by
  cases blocks with
  | nil => simp
  | cons b rest =>
    rw [blocksContents, List.filterMap_append, blockContents_untitled b,
      blocksContents_untitled rest, List.append_nil]

theorem itemsContents_untitled (ordered : Bool) (items : List (List Block)) :
    (itemsContents ordered items).filterMap title? = [] := by
  cases items with
  | nil => simp [itemsContents]
  | cons item rest =>
    rw [itemsContents, List.filterMap_cons_none rfl, List.filterMap_append,
      blocksContents_untitled item, itemsContents_untitled ordered rest, List.append_nil]

theorem entriesContents_untitled (entries : List (Text × Text × List Block)) :
    (entriesContents entries).filterMap title? = [] := by
  match entries with
  | [] => simp [entriesContents]
  | (term, anchor, blocks) :: rest =>
    rw [entriesContents, List.filterMap_cons_none rfl, List.filterMap_append,
      blocksContents_untitled blocks, entriesContents_untitled rest, List.append_nil]
end

theorem contentsAll_titles (hs : List Heading) :
    (Heading.contentsAll hs).filterMap title? =
      (Heading.flattened hs).map fun h => (h.level, h.title) := by
  fun_induction Heading.flattened hs with
  | case1 => simp [Heading.contentsAll]
  | case2 level anchor title blocks children rest below beside =>
    simp [Heading.contentsAll, title?, blocksContents_untitled, below, beside]

theorem contents_titles (root : Heading) :
    root.contents.filterMap title? = root.headings.map fun h => (h.level, h.title) := by
  rw [Heading.contents, List.filterMap_append, blocksContents_untitled, List.nil_append,
    contentsAll_titles, Heading.headings]

theorem leadingContents_untitled (t : Text) : (leadingContents t).filterMap title? = [] := by
  unfold leadingContents
  split <;> simp [title?]

theorem itemContents_untitled (style : ListStyle) (text : Text) :
    (itemContents style text).filterMap title? = [] := by
  cases style with
  | bullet => exact leadingContents_untitled (ListStyle.bulletText text)
  | number => exact leadingContents_untitled (ListStyle.numberText text)
  | definition => rfl

theorem formatContents_untitled (text : Text) : (formatContents text).filterMap title? = [] := by
  unfold formatContents
  dsimp only
  split <;> simp [title?]

theorem regionContents_untitled (isHtml : Bool) (body : List Paragraph) :
    (regionContents isHtml body).filterMap title? = [] := by
  unfold regionContents
  split <;> simp [title?]

theorem ownContents_titles (styles : List (Option ListStyle)) (p : Paragraph) :
    (ownContents styles p).filterMap title? = (heading? p).toList := by
  cases p with
  | prose t => simp [ownContents, title?, heading?]
  | verbatim t => simp [ownContents, title?, heading?]
  | command name text =>
    rw [heading?_command, ownContents]
    split
    · rename_i item
      subst item
      rw [itemContents_untitled]
      rfl
    · split
      · rename_i format
        subst format
        rw [formatContents_untitled]
        rfl
      · cases headingOf? name with
        | none => rfl
        | some level => rfl

theorem heading?_starts {p : Paragraph} {isHtml : Bool} (starts : startsRegion? p = some isHtml) :
    heading? p = none := by
  cases p with
  | prose t => rfl
  | verbatim t => rfl
  | command name text =>
    rw [startsRegion?] at starts
    split at starts
    · rename_i begins
      subst begins
      rfl
    · cases starts

theorem heading?_inside {p : Paragraph} (inside : endsRegion p = false) : heading? p = none := by
  cases p with
  | prose t => rfl
  | verbatim t => rfl
  | command name text =>
    have other : Text.dropPrefix? "head".toList name = none := by
      simp [endsRegion] at inside
      exact inside.2
    rw [heading?_command, headingOf?, other]
    rfl

theorem contentsOf_titles (styles : List (Option ListStyle)) (ps : List Paragraph) :
    (contentsOf styles ps).filterMap title? = ps.filterMap heading? := by
  fun_induction contentsOf styles ps with
  | case1 styles => rfl
  | case2 styles p rest isHtml starts ih =>
    have inside : (rest.takeWhile (!endsRegion ·)).filterMap heading? = [] := by
      refine List.filterMap_eq_nil_iff.mpr fun q member => heading?_inside ?_
      simpa using List.all_eq_true.mp (List.all_takeWhile (p := (!endsRegion ·))) q member
    rw [List.filterMap_append, regionContents_untitled, ih, List.nil_append,
      List.filterMap_cons_none (heading?_starts starts)]
    conv_rhs => rw [← List.takeWhile_append_dropWhile (p := (!endsRegion ·)) (l := rest),
      List.filterMap_append, inside, List.nil_append]
  | case3 styles p rest plain ih =>
    rw [List.filterMap_append, ownContents_titles, ih, List.filterMap_cons]
    cases heading? p with
    | none => rfl
    | some x => rfl

theorem initial_untitled : Builder.initial.contents.filterMap title? = [] := by
  have root : Heading.root.contents = [] := Heading.contents_fresh 0 [] []
  simp [Builder.contents, Builder.initial, openContents, root, closedLists]

theorem titles_ofParagraphs (ps : List Paragraph) :
    ((ofParagraphs ps).headings.map fun h => (h.level, h.title)) = ps.filterMap heading? := by
  rw [← contents_titles, ofParagraphs,
    Builder.finish_foldl_contents [] ps .initial Builder.initial_sound.opened rfl rfl,
    List.filterMap_append, initial_untitled, contentsOf_titles, List.nil_append]

end Titles

/-- The headings of an outline are those that its paragraphs start, in their order. Each stands
under the nearest heading before it with a smaller level, or under the root if there is none, and
after the headings beside it that come before it. -/
theorem headings_nest (ps : List Paragraph) :
    let root := ofParagraphs ps
    (root.headings.map fun h => (h.level, h.title)) = ps.filterMap heading? ∧
      root.placed.map (·.2) = root.headings ∧
      (∀ a h, (a, h) ∈ root.placed ↔ a ≠ [] ∧ root.at? a = some h) ∧
      (∀ front a h back, root.placed = front ++ (a, h) :: back →
        a.dropLast = Heading.parentAmong front.reverse h.level) ∧
      root.placed.Pairwise fun x y =>
        ∀ parent m n, x.1 = parent ++ [m] → y.1 = parent ++ [n] → m < n := by
  intro root
  have nested : Nested 0 root.children :=
    Builder.finish_nested (Builder.foldl_next_layered Builder.initial_layered ps)
  refine ⟨titles_ofParagraphs ps, root.placed_headings, fun a h => Heading.mem_placed, ?_, ?_⟩
  · intro front a h back split
    exact Heading.placedFrom_parent nested 0 split
  · refine (Heading.placedFrom_sorted 0 root.children).imp ?_
    intro x y less parent m n first second
    rw [first, second] at less
    exact Heading.lt_of_siblings parent less

end Outline
end PodSite
