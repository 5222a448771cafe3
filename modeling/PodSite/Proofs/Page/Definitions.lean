import PodSite.Proofs.Outline.Nesting
import PodSite.Proofs.Page.Links

/-!
The names that a document defines, by where they stand. A place in a document leads to a heading and
from there to a term in its blocks, and places are in document order. The names that are listed are
those that sub-headings and terms under headings define, each at the first place where it is found.
Terms in front of the first heading are not looked at.
-/
namespace PodSite

def Block.part? : Block → Nat → Option (List Block)
  | .list _ items, j => items[j]?
  | .definitions entries, j => entries[j]?.map (·.2.2)
  | _, _ => none

def Block.term? : Block → Nat → Option (Text × Text)
  | .definitions entries, j => entries[j]?.map fun e => (e.1, e.2.1)
  | _, _ => none

/-- The term at an address: the number of a block and of a part of it, from there on again. -/
def termAt? : List Block → List Nat → Option (Text × Text)
  | blocks, [i, j] => blocks[i]?.bind (·.term? j)
  | blocks, i :: j :: rest => (blocks[i]?.bind (·.part? j)).bind fun inner => termAt? inner rest
  | _, _ => none

section Listing
variable {α β : Type}

def under (i : Nat) (xs : List (List Nat × β)) : List (List Nat × β) :=
  xs.map fun x => (i :: x.1, x.2)

def numbered (f : α → List (List Nat × β)) (i : Nat) : List α → List (List Nat × β)
  | [] => []
  | a :: rest => under i (f a) ++ numbered f (i + 1) rest

theorem mem_under {i : Nat} {xs : List (List Nat × β)} {place : List Nat} {x : β} :
    (place, x) ∈ under i xs ↔ ∃ rest, place = i :: rest ∧ (rest, x) ∈ xs := by
  unfold under
  constructor
  · intro member
    obtain ⟨⟨rest, y⟩, inside, same⟩ := List.mem_map.mp member
    cases same
    exact ⟨rest, rfl, inside⟩
  · rintro ⟨rest, rfl, inside⟩
    exact List.mem_map.mpr ⟨(rest, x), inside, rfl⟩

theorem mem_numbered {f : α → List (List Nat × β)} {i : Nat} {as : List α} {place : List Nat}
    {x : β} :
    (place, x) ∈ numbered f i as ↔
      ∃ k rest a, place = (i + k) :: rest ∧ as[k]? = some a ∧ (rest, x) ∈ f a := by
  induction as generalizing i with
  | nil => simp [numbered]
  | cons a as ih =>
    rw [numbered, List.mem_append, mem_under, ih]
    constructor
    · rintro (⟨rest, rfl, inside⟩ | ⟨k, rest, b, rfl, found, inside⟩)
      · exact ⟨0, rest, a, rfl, rfl, inside⟩
      · exact ⟨k + 1, rest, b, by rw [Nat.add_right_comm, Nat.add_assoc], found, inside⟩
    · rintro ⟨k, rest, b, rfl, found, inside⟩
      cases k with
      | zero =>
        cases found
        exact Or.inl ⟨rest, rfl, inside⟩
      | succ k =>
        exact Or.inr ⟨k, rest, b, by rw [Nat.add_right_comm, Nat.add_assoc], found, inside⟩

theorem numbered_sorted {f : α → List (List Nat × β)} (i : Nat) {as : List α}
    (each : ∀ a ∈ as, (f a).Pairwise fun x y => x.1 < y.1) :
    (numbered f i as).Pairwise fun x y => x.1 < y.1 := by
  induction as generalizing i with
  | nil => exact List.Pairwise.nil
  | cons a as ih =>
    obtain ⟨here, later⟩ := List.forall_mem_cons.mp each
    rw [numbered, List.pairwise_append]
    refine ⟨?_, ih (i + 1) later, ?_⟩
    · unfold under
      rw [List.pairwise_map]
      exact here.imp fun less => List.cons_lt_cons_self.mpr less
    · rintro ⟨place, x⟩ first ⟨other, y⟩ second
      obtain ⟨rest, rfl, _⟩ := mem_under.mp first
      obtain ⟨k, more, _, rfl, _⟩ := mem_numbered.mp second
      apply List.cons_lt_cons_iff.mpr
      left
      omega

end Listing

mutual
def placedTerms : Block → List (List Nat × Text × Text)
  | .list _ items => itemsPlaced 0 items
  | .definitions entries => entriesPlaced 0 entries
  | .paragraph _ | .verbatim _ | .html _ => []
def blocksPlaced (i : Nat) : List Block → List (List Nat × Text × Text)
  | [] => []
  | b :: rest => under i (placedTerms b) ++ blocksPlaced (i + 1) rest
def itemsPlaced (j : Nat) : List (List Block) → List (List Nat × Text × Text)
  | [] => []
  | item :: rest => under j (blocksPlaced 0 item) ++ itemsPlaced (j + 1) rest
def entriesPlaced (j : Nat) : List (Text × Text × List Block) → List (List Nat × Text × Text)
  | [] => []
  | (term, anchor, blocks) :: rest =>
    under j (([], term, anchor) :: blocksPlaced 0 blocks) ++ entriesPlaced (j + 1) rest
end

section Terms

theorem blocksPlaced_eq (i : Nat) (blocks : List Block) :
    blocksPlaced i blocks = numbered placedTerms i blocks := by
  induction blocks generalizing i with
  | nil => rw [blocksPlaced, numbered]
  | cons b rest ih => rw [blocksPlaced, numbered, ih]

theorem itemsPlaced_eq (j : Nat) (items : List (List Block)) :
    itemsPlaced j items = numbered (blocksPlaced 0) j items := by
  induction items generalizing j with
  | nil => rw [itemsPlaced, numbered]
  | cons item rest ih => rw [itemsPlaced, numbered, ih]

theorem entriesPlaced_eq (j : Nat) (entries : List (Text × Text × List Block)) :
    entriesPlaced j entries =
      numbered (fun e => ([], e.1, e.2.1) :: blocksPlaced 0 e.2.2) j entries := by
  induction entries generalizing j with
  | nil => rw [entriesPlaced, numbered]
  | cons entry rest ih =>
    obtain ⟨term, anchor, blocks⟩ := entry
    rw [entriesPlaced, numbered, ih]

theorem mem_placedTerms {b : Block} {place : List Nat} {x : Text × Text} :
    (place, x) ∈ placedTerms b ↔
      ∃ j inner, place = j :: inner ∧ (inner = [] ∧ b.term? j = some x ∨
        ∃ blocks, b.part? j = some blocks ∧ (inner, x) ∈ blocksPlaced 0 blocks) := by
  cases b with
  | paragraph t => simp [placedTerms, Block.term?, Block.part?]
  | verbatim t => simp [placedTerms, Block.term?, Block.part?]
  | html t => simp [placedTerms, Block.term?, Block.part?]
  | list ordered items =>
    rw [placedTerms, itemsPlaced_eq, mem_numbered]
    simp [Block.term?, Block.part?]
  | definitions entries =>
    rw [placedTerms, entriesPlaced_eq, mem_numbered]
    constructor
    · rintro ⟨j, inner, e, rfl, found, member⟩
      refine ⟨j, inner, by rw [Nat.zero_add], ?_⟩
      rcases List.mem_cons.mp member with same | deeper
      · cases same
        exact Or.inl ⟨rfl, by rw [Block.term?, found]; rfl⟩
      · exact Or.inr ⟨e.2.2, by rw [Block.part?, found]; rfl, deeper⟩
    · rintro ⟨j, inner, rfl, ⟨rfl, found⟩ | ⟨blocks, found, member⟩⟩
      · obtain ⟨e, at_j, rfl⟩ := Option.map_eq_some_iff.mp found
        exact ⟨j, [], e, by rw [Nat.zero_add], at_j, List.mem_cons_self⟩
      · obtain ⟨e, at_j, rfl⟩ := Option.map_eq_some_iff.mp found
        exact ⟨j, inner, e, by rw [Nat.zero_add], at_j, List.mem_cons_of_mem _ member⟩

theorem mem_blocksPlaced_cons {blocks : List Block} {place : List Nat} {x : Text × Text} :
    (place, x) ∈ blocksPlaced 0 blocks ↔
      ∃ i j inner b, place = i :: j :: inner ∧ blocks[i]? = some b ∧
        (inner = [] ∧ b.term? j = some x ∨
          ∃ more, b.part? j = some more ∧ (inner, x) ∈ blocksPlaced 0 more) := by
  rw [blocksPlaced_eq, mem_numbered]
  constructor
  · rintro ⟨i, rest, b, rfl, found, member⟩
    obtain ⟨j, inner, rfl, cases⟩ := mem_placedTerms.mp member
    exact ⟨i, j, inner, b, by rw [Nat.zero_add], found, cases⟩
  · rintro ⟨i, j, inner, b, rfl, found, cases⟩
    refine ⟨i, j :: inner, b, by rw [Nat.zero_add], found, ?_⟩
    exact mem_placedTerms.mpr ⟨j, inner, rfl, cases⟩

theorem mem_blocksPlaced {blocks : List Block} {place : List Nat} {x : Text × Text} :
    (place, x) ∈ blocksPlaced 0 blocks ↔ termAt? blocks place = some x := by
  fun_induction termAt? blocks place with
  | case1 blocks i j =>
    rw [mem_blocksPlaced_cons, Option.bind_eq_some_iff]
    constructor
    · rintro ⟨_, _, _, b, same, found, ⟨_, term⟩ | ⟨more, _, deeper⟩⟩
      · cases same
        exact ⟨b, found, term⟩
      · cases same
        obtain ⟨_, _, _, _, impossible, _⟩ := mem_blocksPlaced_cons.mp deeper
        cases impossible
    · rintro ⟨b, found, term⟩
      exact ⟨i, j, [], b, rfl, found, Or.inl ⟨rfl, term⟩⟩
  | case2 blocks i j rest longer ih =>
    rw [mem_blocksPlaced_cons, Option.bind_eq_some_iff]
    constructor
    · rintro ⟨_, _, _, b, same, found, ⟨short, _⟩ | ⟨more, part, deeper⟩⟩
      · cases same
        exact absurd short longer
      · cases same
        refine ⟨more, ?_, (ih more).mp deeper⟩
        rw [found, Option.bind_some, part]
    · rintro ⟨more, part, deeper⟩
      obtain ⟨b, found, part⟩ := Option.bind_eq_some_iff.mp part
      exact ⟨i, j, rest, b, rfl, found, Or.inr ⟨more, part, (ih more).mpr deeper⟩⟩
  | case3 blocks place short long =>
    rw [mem_blocksPlaced_cons]
    constructor
    · rintro ⟨i, j, inner, b, rfl, _⟩
      exact absurd rfl (long i j inner)
    · intro impossible
      cases impossible

mutual
theorem placedTerms_sorted : (b : Block) → (placedTerms b).Pairwise fun x y => x.1 < y.1
  | .paragraph _ => by simp [placedTerms]
  | .verbatim _ => by simp [placedTerms]
  | .html _ => by simp [placedTerms]
  | .list _ items => by
    rw [placedTerms, itemsPlaced_eq]
    exact numbered_sorted 0 (items_sorted items)
  | .definitions entries => by
    rw [placedTerms, entriesPlaced_eq]
    apply numbered_sorted
    intro e member
    rw [List.pairwise_cons]
    refine ⟨?_, entries_sorted entries e member⟩
    rintro ⟨place, x⟩ inside
    obtain ⟨i, j, inner, _, rfl, _⟩ := mem_blocksPlaced_cons.mp inside
    exact List.nil_lt_cons _ _
theorem blocks_sorted : (blocks : List Block) → ∀ b ∈ blocks,
    (placedTerms b).Pairwise fun x y => x.1 < y.1
  | [] => by simp
  | b :: rest => List.forall_mem_cons.mpr ⟨placedTerms_sorted b, blocks_sorted rest⟩
theorem items_sorted : (items : List (List Block)) → ∀ item ∈ items,
    (blocksPlaced 0 item).Pairwise fun x y => x.1 < y.1
  | [] => by simp
  | item :: rest => by
    have here := numbered_sorted 0 (blocks_sorted item)
    rw [← blocksPlaced_eq] at here
    exact List.forall_mem_cons.mpr ⟨here, items_sorted rest⟩
theorem entries_sorted : (entries : List (Text × Text × List Block)) → ∀ e ∈ entries,
    (blocksPlaced 0 e.2.2).Pairwise fun x y => x.1 < y.1
  | [] => by simp
  | (_, _, blocks) :: rest => by
    have here := numbered_sorted 0 (blocks_sorted blocks)
    rw [← blocksPlaced_eq] at here
    exact List.forall_mem_cons.mpr ⟨here, entries_sorted rest⟩
end

theorem under_map {β γ : Type} (f : β → γ) (i : Nat) (xs : List (List Nat × β)) :
    (under i xs).map (fun x => f x.2) = xs.map fun x => f x.2 := by
  unfold under
  rw [List.map_map]
  rfl

def shownTerm (x : Text × Text) : Text × Text := (Inline.unmarked x.1, x.2)

mutual
theorem placedTerms_terms : (b : Block) →
    (placedTerms b).map (fun x => shownTerm x.2) = Page.blockTerms b
  | .paragraph _ => by rw [placedTerms, Page.blockTerms, List.map_nil]
  | .verbatim _ => by rw [placedTerms, Page.blockTerms, List.map_nil]
  | .html _ => by rw [placedTerms, Page.blockTerms, List.map_nil]
  | .list _ items => by
    rw [placedTerms, Page.blockTerms]
    exact itemsPlaced_terms 0 items
  | .definitions entries => by
    rw [placedTerms, Page.blockTerms]
    exact entriesPlaced_terms 0 entries
theorem blocksPlaced_terms (i : Nat) : (blocks : List Block) →
    (blocksPlaced i blocks).map (fun x => shownTerm x.2) = Page.blocksTerms blocks
  | [] => by rw [blocksPlaced, Page.blocksTerms, List.map_nil]
  | b :: rest => by
    rw [blocksPlaced, Page.blocksTerms, List.map_append, under_map, placedTerms_terms b,
      blocksPlaced_terms (i + 1) rest]
theorem itemsPlaced_terms (j : Nat) : (items : List (List Block)) →
    (itemsPlaced j items).map (fun x => shownTerm x.2) = Page.itemsTerms items
  | [] => by rw [itemsPlaced, Page.itemsTerms, List.map_nil]
  | item :: rest => by
    rw [itemsPlaced, Page.itemsTerms, List.map_append, under_map, blocksPlaced_terms 0 item,
      itemsPlaced_terms (j + 1) rest]
theorem entriesPlaced_terms (j : Nat) : (entries : List (Text × Text × List Block)) →
    (entriesPlaced j entries).map (fun x => shownTerm x.2) = Page.entriesTerms entries
  | [] => by rw [entriesPlaced, Page.entriesTerms, List.map_nil]
  | (term, anchor, blocks) :: rest => by
    rw [entriesPlaced, Page.entriesTerms, List.map_append, under_map, List.map_cons,
      blocksPlaced_terms 0 blocks, entriesPlaced_terms (j + 1) rest]
    rfl
end

end Terms

namespace Page

abbrev Place := List Nat × List Nat

/-- Document order. What stands under a heading comes before the headings below it. -/
def Place.Before (a b : Place) : Prop := a.1 < b.1 ∨ a.1 = b.1 ∧ a.2 < b.2

theorem Place.before_asymm {a b : Place} (before : a.Before b) : ¬b.Before a := by
  rintro (less | ⟨same, less⟩)
  · rcases before with first | ⟨same, _⟩
    · exact List.lt_asymm first less
    · rw [same] at less
      exact List.lt_irrefl _ less
  · rcases before with first | ⟨_, first⟩
    · rw [same] at first
      exact List.lt_irrefl _ first
    · exact List.lt_asymm first less

theorem Place.before_irrefl (a : Place) : ¬a.Before a := fun before => before_asymm before before

/-- The text at a place that may define a name, with its anchor: the title of a sub-heading, or a
term. The root has no title. -/
def definingAt? (root : Heading) (place : Place) : Option (Text × Text) :=
  (root.at? place.1).bind fun h =>
    match place.2 with
    | [] => if place.1 ≠ [] ∧ 2 ≤ h.level then some (h.title, h.anchor) else none
    | address => termAt? h.blocks address

/-- The text at a place defines the given name, and has the given anchor. -/
def DefinitionFinder.DefinesAt (rule : DefinitionFinder) (root : Heading) (place : Place)
    (entry : DefinedName) : Prop :=
  ∃ text, definingAt? root place = some (text, entry.anchor) ∧
    rule.name? (Inline.unmarked text) = some entry.name

/-- The entries are in document order, no name is repeated, and they are just those that are defined
at some place and nowhere before. -/
def ListsFirst (defines : Place → DefinedName → Prop) (entries : List DefinedName) : Prop :=
  (entries.map (·.name)).Nodup ∧
    ∃ found : List (Place × DefinedName), found.map (·.2) = entries ∧
      found.Pairwise (fun x y => x.1.Before y.1) ∧
      ∀ place entry, (place, entry) ∈ found ↔ defines place entry ∧
        ∀ other e, defines other e → e.name = entry.name → ¬other.Before place

section Sites

def ownSites (address : List Nat) (h : Heading) : List (Place × Text × Text) :=
  (if 2 ≤ h.level then [((address, []), h.title, h.anchor)] else []) ++
    (blocksPlaced 0 h.blocks).map fun x => ((address, x.1), x.2)

def sites (root : Heading) : List (Place × Text × Text) :=
  root.placed.flatMap fun x => ownSites x.1 x.2

theorem mem_ownSites {address : List Nat} {h : Heading} {place : Place} {x : Text × Text} :
    (place, x) ∈ ownSites address h ↔ place.1 = address ∧
      (place.2 = [] ∧ 2 ≤ h.level ∧ x = (h.title, h.anchor) ∨
        termAt? h.blocks place.2 = some x) := by
  obtain ⟨a, p⟩ := place
  rw [ownSites, List.mem_append]
  constructor
  · rintro (title | term)
    · split at title
      · rename_i deep
        cases List.mem_singleton.mp title
        exact ⟨rfl, Or.inl ⟨rfl, deep, rfl⟩⟩
      · exact absurd title List.not_mem_nil
    · obtain ⟨⟨q, y⟩, member, same⟩ := List.mem_map.mp term
      cases same
      exact ⟨rfl, Or.inr (mem_blocksPlaced.mp member)⟩
  · rintro ⟨rfl, ⟨rfl, deep, rfl⟩ | term⟩
    · exact Or.inl (by simp [deep])
    · exact Or.inr (List.mem_map.mpr ⟨(p, x), mem_blocksPlaced.mpr term, rfl⟩)

theorem termAt?_nil (blocks : List Block) : termAt? blocks [] = none := by
  rw [termAt?]
  all_goals
    intros
    simp_all

theorem mem_sites {root : Heading} {place : Place} {x : Text × Text} :
    (place, x) ∈ sites root ↔ place.1 ≠ [] ∧ definingAt? root place = some x := by
  obtain ⟨a, p⟩ := place
  rw [sites, List.mem_flatMap, definingAt?, Option.bind_eq_some_iff]
  constructor
  · rintro ⟨⟨b, h⟩, placed, own⟩
    obtain ⟨inner, found⟩ := Heading.mem_placed.mp placed
    obtain ⟨rfl, cases⟩ := mem_ownSites.mp own
    refine ⟨inner, h, found, ?_⟩
    rcases cases with ⟨rfl, deep, rfl⟩ | term
    · exact if_pos ⟨inner, deep⟩
    · cases p with
      | nil =>
        rw [termAt?_nil] at term
        cases term
      | cons i p => exact term
  · rintro ⟨inner, h, found, defined⟩
    refine ⟨(a, h), Heading.mem_placed.mpr ⟨inner, found⟩, mem_ownSites.mpr ⟨rfl, ?_⟩⟩
    cases p with
    | nil =>
      simp only at defined
      split at defined
      · rename_i deep
        cases defined
        exact Or.inl ⟨rfl, deep.2, rfl⟩
      · cases defined
    | cons i p => exact Or.inr defined

theorem ownSites_sorted (address : List Nat) (h : Heading) :
    (ownSites address h).Pairwise fun x y => x.1.Before y.1 := by
  have terms : ((blocksPlaced 0 h.blocks).map fun x => ((address, x.1), x.2)).Pairwise
      fun (x y : Place × Text × Text) => x.1.Before y.1 := by
    rw [List.pairwise_map, blocksPlaced_eq]
    apply (numbered_sorted 0 (blocks_sorted h.blocks)).imp
    intro x y less
    exact Or.inr ⟨rfl, less⟩
  unfold ownSites
  split
  · rw [List.singleton_append, List.pairwise_cons]
    refine ⟨?_, terms⟩
    intro x member
    obtain ⟨⟨p, y⟩, inside, rfl⟩ := List.mem_map.mp member
    obtain ⟨i, j, inner, _, rfl, _⟩ := mem_blocksPlaced_cons.mp inside
    exact Or.inr ⟨rfl, List.nil_lt_cons _ _⟩
  · exact terms

theorem sites_sorted (root : Heading) :
    (sites root).Pairwise fun x y => x.1.Before y.1 := by
  unfold sites
  rw [List.pairwise_flatMap]
  constructor
  · intro x _
    exact ownSites_sorted x.1 x.2
  · apply (Heading.placedFrom_sorted 0 root.children).imp
    rintro ⟨a, h⟩ ⟨b, g⟩ less ⟨place, x⟩ first ⟨other, y⟩ second
    obtain ⟨rfl, _⟩ := mem_ownSites.mp first
    obtain ⟨rfl, _⟩ := mem_ownSites.mp second
    exact Or.inl less

def ownCandidates (h : Heading) : List (Text × Text) :=
  (if 2 ≤ h.level then [(Inline.unmarked h.title, h.anchor)] else []) ++ blocksTerms h.blocks

theorem candidates_flattened (headings : List Heading) :
    candidates headings = (Heading.flattened headings).flatMap ownCandidates := by
  induction headings using Heading.forest_induction with
  | nil => rw [candidates, Heading.flattened, List.flatMap_nil]
  | cons h rest below beside =>
    obtain ⟨level, anchor, title, blocks, children⟩ := h
    rw [candidates, Heading.flattened, List.flatMap_cons, List.flatMap_append, below, beside,
      ownCandidates]
    simp only [List.append_assoc]

theorem ownSites_candidates (address : List Nat) (h : Heading) :
    (ownSites address h).map (fun x => shownTerm x.2) = ownCandidates h := by
  rw [ownSites, ownCandidates, List.map_append, ← blocksPlaced_terms 0 h.blocks, List.map_map]
  congr 1
  split <;> rfl

theorem sites_candidates (root : Heading) :
    (sites root).map (fun x => shownTerm x.2) = candidates root.children := by
  have headings := Heading.placedFrom_headings 0 root.children
  rw [candidates_flattened, ← headings, List.flatMap_map, sites, List.map_flatMap]
  simp only [ownSites_candidates]
  rfl

end Sites

section Selection
variable {rule : DefinitionFinder}

def DefinedAmong (rule : DefinitionFinder) (sites : List (Place × Text × Text)) (place : Place)
    (entry : DefinedName) : Prop :=
  ∃ text, (place, text, entry.anchor) ∈ sites ∧
    rule.name? (Inline.unmarked text) = some entry.name

/-- The name is not seen yet, one of the sites defines it, and none before does. -/
def NewAmong (rule : DefinitionFinder) (seen : List Text) (sites : List (Place × Text × Text))
    (place : Place) (entry : DefinedName) : Prop :=
  entry.name ∉ seen ∧ DefinedAmong rule sites place entry ∧
    ∀ other e, DefinedAmong rule sites other e → e.name = entry.name → ¬other.Before place

theorem definedAmong_cons {place p : Place} {entry : DefinedName} {text anchor : Text}
    {rest : List (Place × Text × Text)} :
    DefinedAmong rule ((p, text, anchor) :: rest) place entry ↔
      (place = p ∧ entry.anchor = anchor ∧ rule.name? (Inline.unmarked text) = some entry.name) ∨
        DefinedAmong rule rest place entry := by
  constructor
  · rintro ⟨t, member, named⟩
    rcases List.mem_cons.mp member with same | later
    · cases same
      exact Or.inl ⟨rfl, rfl, named⟩
    · exact Or.inr ⟨t, later, named⟩
  · rintro (⟨rfl, rfl, named⟩ | ⟨t, later, named⟩)
    · exact ⟨text, List.mem_cons_self, named⟩
    · exact ⟨t, List.mem_cons_of_mem _ later, named⟩

theorem newAmong_skip {seen : List Text} {p : Place} {text anchor : Text}
    {rest : List (Place × Text × Text)}
    (old : ∀ name ∈ rule.name? (Inline.unmarked text), name ∈ seen) (place : Place)
    (entry : DefinedName) :
    NewAmong rule seen ((p, text, anchor) :: rest) place entry ↔
      NewAmong rule seen rest place entry := by
  -- the first site could only define a name that was seen
  have other : ∀ {q : Place} {e : DefinedName}, e.name ∉ seen →
      (DefinedAmong rule ((p, text, anchor) :: rest) q e ↔ DefinedAmong rule rest q e) := by
    intro q e new
    rw [definedAmong_cons]
    apply or_iff_right
    rintro ⟨_, _, named⟩
    exact new (old e.name named)
  unfold NewAmong
  constructor
  · rintro ⟨new, defined, first⟩
    refine ⟨new, (other new).mp defined, ?_⟩
    intro q e later same
    exact first q e ((other (same ▸ new)).mpr later) same
  · rintro ⟨new, defined, first⟩
    refine ⟨new, (other new).mpr defined, ?_⟩
    intro q e here same
    exact first q e ((other (same ▸ new)).mp here) same

/-- A site that defines a new name comes first, and from then on the name is seen. -/
theorem newAmong_first {seen : List Text} {p : Place} {text anchor name : Text}
    {rest : List (Place × Text × Text)}
    (named : rule.name? (Inline.unmarked text) = some name) (new : name ∉ seen)
    (ahead : ∀ x ∈ rest, p.Before x.1) (place : Place) (entry : DefinedName) :
    NewAmong rule seen ((p, text, anchor) :: rest) place entry ↔
      (place, entry) = (p, ⟨name, anchor⟩) ∨ NewAmong rule (name :: seen) rest place entry := by
  have after : ∀ {q : Place} {e : DefinedName}, DefinedAmong rule rest q e → p.Before q := by
    rintro q e ⟨t, member, _⟩
    exact ahead _ member
  -- for every other name the first site makes no difference
  have here : ∀ {q : Place} {e : DefinedName}, e.name ≠ name →
      (DefinedAmong rule ((p, text, anchor) :: rest) q e ↔ DefinedAmong rule rest q e) := by
    intro q e different
    rw [definedAmong_cons]
    apply or_iff_right
    rintro ⟨_, _, also⟩
    rw [named] at also
    exact different (Option.some.inj also).symm
  obtain ⟨own, its⟩ := entry
  constructor
  · rintro ⟨unseen, defined, first⟩
    by_cases same : own = name
    · subst same
      rcases definedAmong_cons.mp defined with ⟨rfl, rfl, _⟩ | later
      · exact Or.inl rfl
      · have start : DefinedAmong rule ((p, text, anchor) :: rest) p ⟨own, anchor⟩ :=
          definedAmong_cons.mpr (Or.inl ⟨rfl, rfl, named⟩)
        exact absurd (after later) (first p _ start rfl)
    · refine Or.inr ⟨?_, (here same).mp defined, ?_⟩
      · intro member
        exact (List.mem_cons.mp member).elim same unseen
      · intro q e later equal
        exact first q e (definedAmong_cons.mpr (Or.inr later)) equal
  · rintro (start | ⟨unseen, defined, first⟩)
    · cases start
      refine ⟨new, definedAmong_cons.mpr (Or.inl ⟨rfl, rfl, named⟩), ?_⟩
      intro q e found _
      rcases definedAmong_cons.mp found with ⟨rfl, _⟩ | later
      · exact Place.before_irrefl q
      · exact Place.before_asymm (after later)
    · have different : own ≠ name := fun same => unseen (same ▸ List.mem_cons_self)
      refine ⟨fun member => unseen (List.mem_cons_of_mem name member), ?_, ?_⟩
      · exact (here different).mpr defined
      · intro q e found equal
        exact first q e ((here (equal ▸ different)).mp found) equal

/-- From sites in document order, the names are taken where they are new. -/
theorem select_new (rule : DefinitionFinder) (seen : List Text) {sites : List (Place × Text × Text)}
    (sorted : sites.Pairwise fun x y => x.1.Before y.1) :
    ∃ found : List (Place × DefinedName),
      found.map (·.2) = rule.select seen (sites.map fun x => shownTerm x.2) ∧
      found.Pairwise (fun x y => x.1.Before y.1) ∧
      ∀ place entry, (place, entry) ∈ found ↔ NewAmong rule seen sites place entry := by
  induction sites generalizing seen with
  | nil => exact ⟨[], rfl, List.Pairwise.nil, by simp [NewAmong, DefinedAmong]⟩
  | cons site rest ih =>
    obtain ⟨p, text, anchor⟩ := site
    obtain ⟨ahead, later⟩ := List.pairwise_cons.mp sorted
    simp only [List.map_cons, shownTerm, DefinitionFinder.select]
    cases named : rule.name? (Inline.unmarked text) with
    | none =>
      obtain ⟨found, entries, inOrder, members⟩ := ih seen later
      refine ⟨found, entries, inOrder, fun place entry => ?_⟩
      rw [members, newAmong_skip (by simp [named])]
    | some name =>
      by_cases old : name ∈ seen
      · obtain ⟨found, entries, inOrder, members⟩ := ih seen later
        refine ⟨found, ?_, inOrder, fun place entry => ?_⟩
        · rw [entries]
          simp [old, shownTerm]
        · rw [members, newAmong_skip (by simpa [named] using old)]
      · obtain ⟨found, entries, inOrder, members⟩ := ih (name :: seen) later
        refine ⟨(p, ⟨name, anchor⟩) :: found, ?_, ?_, fun place entry => ?_⟩
        · rw [List.map_cons, entries]
          simp [old, shownTerm]
        · rw [List.pairwise_cons]
          refine ⟨?_, inOrder⟩
          rintro ⟨q, e⟩ member
          obtain ⟨_, ⟨t, inRest, _⟩, _⟩ := (members q e).mp member
          exact ahead _ inRest
        · rw [List.mem_cons, members, newAmong_first named old ahead]

end Selection

theorem definedAmong_sites {rule : DefinitionFinder} {root : Heading} {place : Place}
    {entry : DefinedName} :
    DefinedAmong rule (sites root) place entry ↔
      place.1 ≠ [] ∧ rule.DefinesAt root place entry := by
  unfold DefinedAmong DefinitionFinder.DefinesAt
  simp only [mem_sites]
  constructor
  · rintro ⟨text, ⟨inner, found⟩, named⟩
    exact ⟨inner, text, found, named⟩
  · rintro ⟨inner, text, found, named⟩
    exact ⟨text, ⟨inner, found⟩, named⟩

/-- A document lists the names that its sub-headings and the terms under headings define, in
document order and each from the first place on that defines it. These are all the names that the
document defines, if no term in front of the first heading defines one. -/
theorem entries_listFirst (rule : DefinitionFinder) (root : Heading) :
    ListsFirst (fun place entry => place.1 ≠ [] ∧ rule.DefinesAt root place entry)
        (rule.entries root) ∧
      ((∀ place entry, rule.DefinesAt root place entry → place.1 ≠ []) →
        ListsFirst (rule.DefinesAt root) (rule.entries root)) := by
  have under : ListsFirst (fun place entry => place.1 ≠ [] ∧ rule.DefinesAt root place entry)
      (rule.entries root) := by
    obtain ⟨found, entries, inOrder, members⟩ := select_new rule [] (sites_sorted root)
    rw [sites_candidates] at entries
    refine ⟨(select_names rule [] _).1, found, entries, inOrder, fun place entry => ?_⟩
    rw [members, NewAmong]
    simp only [definedAmong_sites, List.not_mem_nil, not_false_eq_true, true_and]
  refine ⟨under, fun inner => ?_⟩
  have same : (fun place entry => place.1 ≠ [] ∧ rule.DefinesAt root place entry) =
      rule.DefinesAt root := by
    funext place entry
    exact propext (and_iff_right_of_imp (inner place entry))
  rwa [same] at under

def wordFinder : DefinitionFinder :=
  ⟨(Pattern.ofText? "[a-z]+".toList).getD ⟨[], 0, #[]⟩, "Words".toList⟩

def nestedRoot : Heading :=
  ⟨0, [], [], [], [⟨1, "a".toList, "A".toList, [], [⟨2, "run".toList, "run".toList,
    [.list false [[.definitions [("new()".toList, "new".toList,
      [.definitions [("run".toList, "run-2".toList, []), ("go".toList, "go".toList, [])]])]]]],
    []⟩]⟩]⟩

theorem entries_listFirst_nested :
    wordFinder.entries nestedRoot =
        [⟨"run".toList, "run".toList⟩, ⟨"new".toList, "new".toList⟩, ⟨"go".toList, "go".toList⟩] ∧
      (∀ place entry, wordFinder.DefinesAt nestedRoot place entry → place.1 ≠ []) ∧
      ListsFirst (wordFinder.DefinesAt nestedRoot) (wordFinder.entries nestedRoot) := by
  have inner : ∀ place entry, wordFinder.DefinesAt nestedRoot place entry → place.1 ≠ [] := by
    rintro ⟨a, p⟩ entry ⟨text, found, _⟩ rfl
    cases p with
    | nil => simp [definingAt?, Heading.at?] at found
    | cons i p =>
      have listed := mem_blocksPlaced.mpr (show termAt? [] (i :: p) = some _ from found)
      simp [blocksPlaced] at listed
  have texts : candidates nestedRoot.children =
      [("run".toList, "run".toList), ("new()".toList, "new".toList),
        ("run".toList, "run-2".toList), ("go".toList, "go".toList)] := by
    rw [candidates_flattened]
    simp only [nestedRoot, Heading.flattened, List.flatMap_cons, ownCandidates]
    decide +kernel
  refine ⟨?_, inner, (entries_listFirst wordFinder nestedRoot).2 inner⟩
  rw [DefinitionFinder.entries, texts]
  decide +kernel

def frontRoot : Heading := Outline.ofSource .lines "=over\n\n=item new()\n\n=back\n".toList

/-- What stands in front of the first heading is not listed. -/
theorem entries_miss_front :
    wordFinder.DefinesAt frontRoot ([], [0, 0]) ⟨"new".toList, "new".toList⟩ ∧
      wordFinder.entries frontRoot = [] ∧
      ¬ListsFirst (wordFinder.DefinesAt frontRoot) (wordFinder.entries frontRoot) := by
  have defined : wordFinder.DefinesAt frontRoot ([], [0, 0]) ⟨"new".toList, "new".toList⟩ :=
    ⟨"new()".toList, by decide +kernel, by decide +kernel⟩
  have nothing : wordFinder.entries frontRoot = [] := by
    have flat : frontRoot.children.isEmpty = true := by decide +kernel
    rw [DefinitionFinder.entries, List.isEmpty_iff.mp flat, candidates, DefinitionFinder.select]
  refine ⟨defined, nothing, ?_⟩
  rintro ⟨_, found, entries, _, members⟩
  rw [nothing, List.map_eq_nil_iff] at entries
  subst entries
  apply absurd ((members _ _).mpr ⟨defined, ?_⟩) List.not_mem_nil
  -- no address of a term is less than the one of the first part of the first block
  rintro ⟨a, p⟩ e ⟨text, there, _⟩ _ before
  rcases before with less | ⟨rfl, less⟩
  · exact absurd less (List.not_lt_nil a)
  · cases p with
    | nil => simp [definingAt?, Heading.at?] at there
    | cons i p =>
      have term : termAt? frontRoot.blocks (i :: p) = some (text, e.anchor) := there
      obtain ⟨i, j, inner, _, same, _⟩ := mem_blocksPlaced_cons.mp (mem_blocksPlaced.mpr term)
      cases same
      simp [List.cons_lt_cons_iff] at less

end Page
end PodSite
