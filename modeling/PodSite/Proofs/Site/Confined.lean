import PodSite.Proofs.Site.Status
import PodSite.Proofs.SourceLink

/-!
Documents stay below the output root. A source makes a document just when names alone lead down to
it from its library root. Its page and its copy are then files below the output root, and the steps
up that its page writes in front of a name take off what lies between, no more and no less.
-/
namespace PodSite

namespace Path

/-- One step of a path from a directory, judged by the names alone: only a name can be taken off. -/
def stepFrom (dir : Path) : Component → Option Path
  | .root => some [.root]
  | .current => some dir
  | .parent =>
    match dir.getLast? with
    | some (.name _) => some dir.dropLast
    | _ => none
  | .name n => some (dir ++ [.name n])

def walkFrom (dir p : Path) : Option Path := p.foldlM stepFrom dir

theorem walkFrom_append (dir p q : Path) :
    walkFrom dir (p ++ q) = (walkFrom dir p).bind fun there => walkFrom there q := by
  simp [walkFrom, List.foldlM_append]

theorem walkFrom_up (dir : Path) (names : List Text) :
    walkFrom (dir ++ ofNames names) (List.replicate names.length .parent) = some dir := by
  induction names using List.reverseRecOn with
  | nil => simp [walkFrom, ofNames]
  | append_singleton front last ih =>
    have first : stepFrom (dir ++ ofNames (front ++ [last])) .parent =
        some (dir ++ ofNames front) := by
      rw [ofNames, List.map_append, ← List.append_assoc, List.map_singleton, stepFrom,
        List.getLast?_concat, List.dropLast_concat, ofNames]
    rw [List.length_append, List.length_singleton, List.replicate_succ, walkFrom,
      List.foldlM_cons, first]
    exact ih

section Up
variable (steps : Nat)

theorem ofText_up {rest : List Text} (some : rest ≠ []) (whole : ∀ n ∈ rest, '/' ∉ n)
    (plain : steps = 0 → ∀ n ∈ rest.head?, n ≠ [] ∧ n ≠ ['.']) :
    ofText ((List.replicate steps "../".toList).flatten ++ ['/'].intercalate rest) =
      List.replicate steps .parent ++ (rest.map Component.ofSegment).filter (· != .current) := by
  have slashless : ∀ n ∈ List.replicate steps ['.', '.'] ++ rest, '/' ∉ n := by
    intro n member
    rcases List.mem_append.mp member with dots | later
    · rw [(List.mem_replicate.mp dots).2]
      decide
    · exact whole n later
  rw [← Href.intercalate_up steps some, ofText_intercalate (by simp [some]) slashless]
  · simp [List.filter_append, Component.ofSegment]
  · cases steps with
    | zero => simpa using plain rfl
    | succ steps => simp [List.replicate_succ]

theorem ofText_up_alone :
    ofText (List.replicate steps "../".toList).flatten = List.replicate steps .parent := by
  cases steps with
  | zero => rfl
  | succ steps =>
    -- the last slash leaves an empty segment
    have read := @ofText_up (steps + 1) [[]] (by simp) (by simp) (by simp)
    simpa [Component.ofSegment] using read

theorem ofText_up_name {n : Text} (valid : n.IsFileName) :
    ofText ((List.replicate steps "../".toList).flatten ++ n) =
      List.replicate steps .parent ++ [.name n] := by
  obtain ⟨full, dot, dots, whole⟩ := valid
  have read := @ofText_up steps [n] (by simp) (by simpa using whole) (by simp [full, dot])
  simpa [Component.ofSegment, full, dot, dots] using read

end Up

end Path

namespace Document

theorem namesBelow?_isSome_iff {p : Path} : (namesBelow? p).isSome ↔
    (∀ part ∈ p, part = .current ∨ part.isName) ∧ ∃ part ∈ p, part.isName := by
  have listed : p.names ≠ [] ↔ ∃ part ∈ p, part.isName := by
    simp only [Path.names, ne_eq, List.filterMap_eq_nil_iff, not_forall, exists_prop]
    refine exists_congr fun part => and_congr_right fun _ => ?_
    cases part <;> simp [Component.isName]
  rw [Option.isSome_iff_exists]
  constructor
  · rintro ⟨names, found⟩
    obtain ⟨found, some⟩ := Option.filter_eq_some_iff.mp found
    obtain ⟨down, rfl⟩ := names_eq_some_iff.mp found
    exact ⟨down, listed.mp (by simpa using some)⟩
  · rintro ⟨down, some⟩
    refine ⟨p.names, Option.filter_eq_some_iff.mpr ⟨names_eq_some_iff.mpr ⟨down, rfl⟩, ?_⟩⟩
    simpa using listed.mpr some

theorem ofSource?_isSome_iff (out : Path) (g : Group) (root source : Path) (m : Nat) :
    (ofSource? out g root source m).isSome ↔
      ∃ rest, source = root ++ rest ∧ (∀ part ∈ rest, part = .current ∨ part.isName) ∧
        ∃ part ∈ rest, part.isName := by
  constructor
  · intro made
    obtain ⟨d, made⟩ := Option.isSome_iff_exists.mp made
    obtain ⟨rest, below, named, _⟩ := ofSource?_made made
    exact ⟨rest, Path.below?_eq_some below, namesBelow?_isSome_iff.mp (by simp [named])⟩
  · rintro ⟨rest, rfl, down⟩
    obtain ⟨names, named⟩ := Option.isSome_iff_exists.mp (namesBelow?_isSome_iff.mpr down)
    simp [ofSource?, Path.below?_append, named]

/-- A file below the output root: names lead there from it, and nothing else. -/
def Below (out p : Path) : Prop :=
  ∃ names, names ≠ [] ∧ (∀ n ∈ names, n.IsFileName) ∧ p = out ++ Path.ofNames names

/-- A document that keeps to the output root. -/
structure Confined (out : Path) (d : Document) : Prop where
  page : Below out d.output
  copy : Below out d.copy
  /-- What is written for the page below the output root is the way to it. -/
  written : d.output = out ++ Path.ofNames (Text.splitOn '/' d.outputRelative)
  up : ∀ part ∈ Path.ofText d.rootHref, part = .parent
  /-- The steps up end at the output root. -/
  back : (Path.parent? d.output).bind (Path.walkFrom · (Path.ofText d.rootHref)) = some out
  /-- With a name after them they lead to the file of that name at the top. -/
  top : ∀ n : Text, n.IsFileName →
    (Path.parent? d.output).bind (Path.walkFrom · (Path.ofText (d.rootHref ++ n))) =
      some (out ++ [.name n])
  /-- As a link they lead there too, if the name reads as itself. -/
  link : ∀ n : Text, n.IsFileName → Href.Literal n →
    Href.follow d.output (Href.pathOf (d.rootHref ++ n)) = out ++ [.name n]

theorem pagePlace_valid {d : Document} (valid : ∀ n ∈ d.relative, n.IsFileName) :
    ∀ n ∈ d.pagePlace, n.IsFileName := by
  unfold pagePlace
  split
  · exact List.forall_mem_cons.mpr ⟨by decide, valid⟩
  · exact pageNames_valid valid

section Page
variable {out : Path} {d : Document} {front : List Text} {last : Text}
  (page : d.output = out ++ Path.ofNames (front ++ [last]))
include page

theorem walkFrom_page (p : Path) : (Path.parent? d.output).bind
    (Path.walkFrom · (List.replicate front.length .parent ++ p)) = Path.walkFrom out p := by
  have directory : Path.parent? d.output = some (out ++ Path.ofNames front) := by
    rw [page, Path.ofNames, List.map_append, List.map_singleton, ← List.append_assoc]
    simp [Path.parent?, Path.ofNames]
  rw [directory, Option.bind_some, Path.walkFrom_append, Path.walkFrom_up, Option.bind_some]

theorem follow_page {n : Text} (valid : n.IsFileName) (literal : Href.Literal n) :
    Href.follow d.output (Href.pathOf
      ((List.replicate front.length "../".toList).flatten ++ n)) = out ++ [.name n] := by
  have written := Href.intercalate_up front.length (List.cons_ne_nil n [])
  rw [List.intercalate_singleton] at written
  generalize steps : List.replicate front.length ['.', '.'] ++ [n] = segments at written
  have whole : ∀ s ∈ segments, s.all Href.isPathChar = true ∧ '/' ∉ s := by
    rw [← steps]
    intro s member
    rcases List.mem_append.mp member with dots | ends
    · rw [(List.mem_replicate.mp dots).2]
      decide
    · rw [List.mem_singleton.mp ends]
      exact ⟨literal.1, valid.2.2.2⟩
  have kept : Href.cutSegments segments = segments := by
    simpa [Href.cutSegments] using Href.cutSegments_append (fun s member => (whole s member).1) []
  have plain : ∀ s ∈ segments, ∀ c ∈ s, c ≠ '/' ∧ c ≠ '#' := by
    intro s member c there
    refine ⟨fun slash => (whole s member).2 (slash ▸ there), ?_⟩
    rintro rfl
    cases List.all_eq_true.mp (whole s member).1 '#' there
  have directory : d.output.dropLast = out ++ Path.ofNames front := by simp [page, Path.ofNames]
  have climbed : (out ++ Path.ofNames front).take
      ((out ++ Path.ofNames front).length - front.length) = out := by simp [Path.ofNames]
  have followed := @Href.follow_slashed _ plain [] (by simp) d.output
  rw [List.append_nil, directory, ← steps, List.foldl_append, Href.followSegments_up, climbed,
    List.foldl_cons, List.foldl_nil, Href.followSegment_fileName valid,
    Href.decodeSegment_eq_self.mpr literal.2, steps] at followed
  rw [← written, Href.pathOf_slashed, kept, followed]

end Page

theorem confined_of_made {out root : Path} {written : Text} {g : Group} {m : Nat} {d : Document}
    (made : ofSource? out g root (Path.ofText written) m = some d) : d.Confined out := by
  obtain ⟨_, _, _, _, _, _, laid⟩ := ofSource?_made made
  have named := made_valid made
  have valid := pagePlace_valid named
  have page := laid.page
  have cut : Text.splitOn '/' d.outputRelative = d.pagePlace := by
    rw [ofSource?_outputRelative made, Text.splitOn_eq]
    exact List.splitOn_intercalate '/' (fun n member => (valid n member).2.2.2)
      laid.pagePlace_ne_nil
  obtain ⟨front, last, place⟩ : ∃ front last, d.pagePlace = front ++ [last] :=
    ⟨_, _, (List.dropLast_concat_getLast laid.pagePlace_ne_nil).symm⟩
  have href : d.rootHref = (List.replicate front.length "../".toList).flatten := by
    rw [rootHref, ofSource?_outputRelative made, place,
      count_slashed fun n member => (valid n (place ▸ member)).2.2.2]
  have above : d.output = out ++ Path.ofNames (front ++ [last]) := by rw [page, place]
  exact {
    page := ⟨d.pagePlace, laid.pagePlace_ne_nil, valid, page⟩
    copy := ⟨_, by simp, List.forall_mem_cons.mpr ⟨by decide, named⟩, laid.copy⟩
    written := by rw [cut, page]
    up := by
      rw [href, Path.ofText_up_alone]
      exact fun part member => (List.mem_replicate.mp member).2
    back := by
      rw [href, Path.ofText_up_alone]
      simpa [Path.walkFrom] using walkFrom_page above []
    top := by
      intro n name
      rw [href, Path.ofText_up_name _ name]
      exact walkFrom_page above [.name n]
    link := by
      intro n name literal
      rw [href]
      exact follow_page above name literal }

/-- A source makes a document just when it lies below its library root by names alone, with dots
between them at most; and each document that is made keeps to the output root. -/
theorem source_confined (out : Path) (g : Group) (root : Path) (written : Text) (m : Nat) :
    ((ofSource? out g root (Path.ofText written) m).isSome ↔
      ∃ rest, Path.ofText written = root ++ rest ∧
        (∀ part ∈ rest, part = .current ∨ part.isName) ∧ ∃ part ∈ rest, part.isName) ∧
    ∀ d, ofSource? out g root (Path.ofText written) m = some d → d.Confined out :=
  ⟨ofSource?_isSome_iff out g root (Path.ofText written) m, fun _ made => confined_of_made made⟩

def imageGroup : Group := ⟨"Images".toList, .binaries, ["png".toList], .lines, false, none⟩

theorem source_confined_deep :
    (∃ d, ofSource? (Path.absolute ["o".toList]) imageGroup (Path.ofText [])
        (Path.ofText "./a//b/./c.png".toList) 0 = some d ∧
      d.outputRelative = "src/a/b/c.png".toList ∧ d.rootHref = "../../../".toList ∧
      d.Confined (Path.absolute ["o".toList])) ∧
    ofSource? (Path.absolute ["o".toList]) imageGroup (Path.ofText [])
      (Path.ofText "./a//b/../c.png".toList) 0 = none := by
  obtain ⟨_, confined⟩ := source_confined (Path.absolute ["o".toList]) imageGroup
    (Path.ofText []) "./a//b/./c.png".toList 0
  exact ⟨⟨_, rfl, by decide +kernel, by decide +kernel, confined _ rfl⟩, by decide +kernel⟩

end Document
end PodSite
