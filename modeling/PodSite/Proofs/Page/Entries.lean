import PodSite.Proofs.Html.Symbols
import PodSite.Proofs.Inline.Visible
import PodSite.Proofs.Page.Links
import PodSite.Proofs.Page.Placed

/-!
Entries of the contents against the headings that they lead to. An entry shows what its heading
shows, with each named reference spelled out: a title goes into the contents as text, and the
references in it are escaped with it.
-/
namespace PodSite

namespace Inline

theorem ofName?_entity {name : Text} (named : ofCharacterCode name = .entity name) :
    Html.Symbol.ofName? name = some (.named name) := by
  have other := entity_other named
  obtain ⟨_, filled, letters, _⟩ := ofCharacterCode_entity named
  have spaces : name ≠ "nbsp".toList := by
    rintro rfl
    exact other (by decide)
  have unknown : Html.specials.find? (fun special => special.2 = name) = none := by
    rw [List.find?_eq_none]
    intro special member same
    have listed : special.2 ∈ Html.decoded :=
      List.mem_cons_of_mem _ (List.mem_map_of_mem member)
    rw [of_decide_eq_true same] at listed
    exact other listed
  rw [Html.Symbol.ofName?, unknown]
  simp only [if_neg spaces]
  rw [if_pos (by simp [filled, letters])]

theorem written_legible {node : Html} (written : Written node) : Html.Legible node := by
  induction written with
  | text t => exact Html.legible_text t
  | space =>
    have known : Html.Symbol.ofName? "nbsp".toList = some (.char ' ') := by decide
    exact Html.legible_reference (by decide) known
  | entity named =>
    obtain ⟨_, _, letters, _⟩ := ofCharacterCode_entity named
    exact Html.legible_reference (notMem_alphanumeric letters (by decide)) (ofName?_entity named)
  | anchor href _ ih => exact Html.legible_element ih
  | styled _ _ ih => exact Html.legible_element ih
  | file _ ih => exact Html.legible_element ih

theorem spelled_all {nodes : List Html}
    (each : ∀ node ∈ nodes,
      (Html.symbolsOf node).flatMap Html.Symbol.spelled = (Html.visible node).map .ofChar) :
    (Html.symbolsOfAll nodes).flatMap Html.Symbol.spelled =
      (Html.visibleAll nodes).map .ofChar := by
  induction nodes with
  | nil => rfl
  | cons node nodes ih =>
    rw [Html.symbolsOfAll, List.flatMap_append, each node List.mem_cons_self,
      ih fun other member => each other (List.mem_cons_of_mem _ member), Html.visibleAll,
      List.map_append]

theorem written_spelled {node : Html} (written : Written node) :
    (Html.symbolsOf node).flatMap Html.Symbol.spelled = (Html.visible node).map .ofChar := by
  induction written with
  | text t => exact Html.spelled_chars t
  | space => decide
  | @entity name named =>
    have spaces : name ≠ "nbsp".toList := by
      rintro rfl
      exact entity_other named (by decide)
    rw [Html.symbolsOf, ofName?_entity named, Html.visible, if_neg spaces]
    simp [Html.Symbol.spelled]
  | anchor href _ ih => exact spelled_all ih
  | styled _ _ ih => exact spelled_all ih
  | file _ ih => exact spelled_all ih

theorem displayed_render (s : Setting) (t : Text) :
    Html.displayed (render s t) = Html.symbolsOfAll (html s t) :=
  Html.displayed_write (html_clean s t) fun node member =>
    written_legible (html_written s t node member)

theorem spelled_render (s : Setting) (t : Text) :
    (Html.displayed (render s t)).flatMap Html.Symbol.spelled = (unmarked t).map .ofChar := by
  have spelled := spelled_all fun node member => written_spelled (html_written s t node member)
  rw [displayed_render, spelled, html_visible]

end Inline

namespace Page

theorem displayed_contentsLink (h : Heading) :
    Html.displayed (Html.writeNode (contentsLink h)) = h.titleText.map .ofChar := by
  have clean : Html.CleanAll [contentsLink h] := ⟨contentsLink_clean h, trivial⟩
  have legible : ∀ node ∈ [contentsLink h], Html.Legible node := by
    rw [List.forall_mem_singleton]
    apply Html.legible_element
    rw [List.forall_mem_singleton]
    exact Html.legible_text h.titleText
  rw [← Html.write_single, Html.displayed_write clean legible]
  simp [contentsLink, Html.symbolsOfAll, Html.symbolsOf]

/-- An entry of the contents shows the title of its heading with the named references spelled out.
So the two show the same just if the heading shows no named reference. -/
theorem entry_spells_heading {root h : Heading} (member : h ∈ root.headings)
    (s : Inline.Setting) (assets : Text) :
    (∃ t, contents? root = some t ∧ Html.writeNode (contentsLink h) <:+: t) ∧
      Html.writeNode (headingHtml s assets h) <:+: body s assets root ∧
      Html.displayed (Html.writeNode (contentsLink h)) =
        (Html.displayed (Inline.render s h.title)).flatMap Html.Symbol.spelled ∧
      (Html.displayed (Html.writeNode (contentsLink h)) =
          Html.displayed (Inline.render s h.title) ↔
        ∀ name, .named name ∉ Html.displayed (Inline.render s h.title)) := by
  have spells : Html.displayed (Html.writeNode (contentsLink h)) =
      (Html.displayed (Inline.render s h.title)).flatMap Html.Symbol.spelled := by
    rw [displayed_contentsLink, Inline.spelled_render, Heading.titleText]
  refine ⟨contents?_link member, body_heading s assets member, spells, ?_⟩
  rw [spells]
  exact Html.spelled_eq_self_iff

def accented : Heading :=
  ⟨2, "a-caf-eacute".toList, "S<A &> CafE<eacute>".toList, [], []⟩

def accentedRoot : Heading :=
  ⟨0, [], [], [], [⟨1, "menu".toList, "Menu".toList, [], [accented]⟩]⟩

def accentedPage : Inline.Setting := ⟨⟨[]⟩, Path.absolute ["a.html".toList], "A::B".toList⟩

theorem entry_spells_heading_accented :
    accented ∈ accentedRoot.headings ∧
      Html.writeNode (headingHtml accentedPage "../".toList accented) <:+:
        body accentedPage "../".toList accentedRoot ∧
      Html.displayed (Inline.render accentedPage accented.title) =
        "A & Caf".toList.map .char ++ [.named "eacute".toList] ∧
      Html.displayed (Html.writeNode (contentsLink accented)) =
        "A & Caf&eacute;".toList.map .char := by
  have member : accented ∈ accentedRoot.headings := by
    rw [accentedRoot, Heading.headings, Heading.flattened, Heading.flattened_cons]
    simp
  have title : Html.displayed (Inline.render accentedPage accented.title) =
      "A & Caf".toList.map .char ++ [.named "eacute".toList] := by
    decide +kernel
  obtain ⟨-, placed, spells, -⟩ := entry_spells_heading member accentedPage "../".toList
  refine ⟨member, placed, title, ?_⟩
  rw [spells, title]
  decide

/-- The only heading of this source shows a letter, and its entry shows how the letter is spelled.
-/
theorem entry_misspells_reference :
    ∃ h ∈ (Outline.ofSource .lines "=head1 CafE<eacute>\n".toList).headings,
      Html.displayed (Html.writeNode (contentsLink h)) = "Caf&eacute;".toList.map .char ∧
      Html.displayed (Inline.render accentedPage h.title) =
        "Caf".toList.map .char ++ [.named "eacute".toList] ∧
      Html.displayed (Html.writeNode (contentsLink h)) ≠
        Html.displayed (Inline.render accentedPage h.title) := by
  have titles : (Outline.ofSource .lines "=head1 CafE<eacute>\n".toList).children.map (·.title) =
      ["CafE<eacute>".toList] := by
    decide +kernel
  obtain ⟨h, only, title⟩ := List.map_eq_singleton_iff.mp titles
  have entry : Html.displayed (Html.writeNode (contentsLink h)) =
      "Caf&eacute;".toList.map .char := by
    rw [displayed_contentsLink, Heading.titleText, title]
    decide +kernel
  have shown : Html.displayed (Inline.render accentedPage h.title) =
      "Caf".toList.map .char ++ [.named "eacute".toList] := by
    rw [title]
    decide +kernel
  refine ⟨h, ?_, entry, shown, ?_⟩
  · rw [Heading.headings, only, Heading.flattened_cons]
    exact List.mem_cons_self
  · rw [entry, shown]
    decide

end Page
end PodSite
