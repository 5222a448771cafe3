import PodSite.Page.Body
import PodSite.Proofs.Inline.Hrefs

/-!
What the links of a page refer to. Apart from addresses and parts of the page itself, every link
that is made from markup refers to the page of a module that the references know.
-/
namespace PodSite

theorem Link.ofText_url {raw address : Text} (found : (ofText raw).target = .url address) :
    isAddress address = true := by
  have target : ∀ t, targetOf t = .url address → isAddress address = true := by
    intro t
    unfold targetOf
    split
    · rintro ⟨⟩
      assumption
    · split
      · intro other
        cases other
      · split <;> intro other <;> cases other
  unfold ofText at found
  split at found
  · exact target _ found
  · exact target _ found

namespace Inline

/-- What the `href` of a link on a page may be: an address, a part of the page, or the page of a
known module with or without a part of it. -/
def Setting.Refers (s : Setting) (value : Text) : Prop :=
  ∃ href, value = Html.escape href ∧
    (Link.isAddress href = true ∨ href.head? = some '#' ∨
      ∃ name start tail, s.hrefOf? name = some start ∧ href = start ++ tail ∧
        ∀ c ∈ tail.head?, c = '#')

def RefersAll (s : Setting) (nodes : List Html) : Prop :=
  ∀ value ∈ Html.hrefsOfAll nodes, s.Refers value

variable {s : Setting}

theorem refers_page {name href : Text} (known : s.hrefOf? name = some href) :
    s.Refers (Html.escape href) :=
  ⟨href, rfl, Or.inr (Or.inr ⟨name, href, [], known, by simp, by simp⟩)⟩

theorem targetHref?_refers {plain : Text → Text} {raw href : Text}
    (leads : targetHref? s plain (Link.ofText raw).target = some href) :
    s.Refers (Html.escape href) := by
  refine ⟨href, rfl, ?_⟩
  cases target : (Link.ofText raw).target with
  | url address =>
    rw [target] at leads
    cases leads
    exact Or.inl (Link.ofText_url target)
  | page name part =>
    rw [target] at leads
    have fragment : ∀ tail ∈ part.map fun p => '#' :: Slug.ofText (plain p),
        tail.head? = some '#' := by
      intro tail member
      obtain ⟨p, _, rfl⟩ := Option.map_eq_some_iff.mp member
      rfl
    simp only [targetHref?] at leads
    split at leads
    · exact Or.inr (Or.inl (fragment href leads))
    · obtain ⟨start, known, rfl⟩ := Option.map_eq_some_iff.mp leads
      refine Or.inr (Or.inr ⟨name, start, _, known, rfl, ?_⟩)
      cases whole : part.map fun p => '#' :: Slug.ofText (plain p) with
      | none => simp
      | some tail =>
        intro c first
        rw [Option.getD_some, fragment tail whole] at first
        exact (Option.some.inj first).symm

theorem html_refers (t : Text) : RefersAll s (html s t) := by
  apply html_hrefs
  · intro name href known
    exact refers_page known
  · intro raw _ plain href leads
    exact targetHref?_refers leads

end Inline

namespace Page
open Inline (RefersAll html_refers)
open Html (hrefsAll_nil hrefsAll_append hrefsAll_single)
variable {s : Inline.Setting}

theorem anchorAttributes_hrefs (tag : Tag) (anchor : Text) (content : List Html) :
    Html.hrefsOf (.element tag (anchorAttributes anchor) content) = Html.hrefsOfAll content := by
  simp [Html.hrefsOf, anchorAttributes]

theorem refersAll_line {node : Html} {rest : List Html} (first : RefersAll s [node])
    (later : RefersAll s rest) : RefersAll s (node :: .newline :: rest) := by
  have newline : RefersAll s [.newline] := by simp [RefersAll]
  exact hrefsAll_append first (hrefsAll_append newline later)

mutual
theorem blockHtml_refers : (b : Block) → RefersAll s (blockHtml s b)
  | .paragraph t => by
    rw [blockHtml]
    exact refersAll_line (hrefsAll_single (Html.hrefsOf_plain _ _) (html_refers _)) hrefsAll_nil
  | .verbatim t => by simp [blockHtml, RefersAll]
  | .list ordered items => by
    rw [blockHtml]
    exact refersAll_line (hrefsAll_single (by simp) (itemsHtml_refers items)) hrefsAll_nil
  | .definitions entries => by
    rw [blockHtml]
    exact refersAll_line (hrefsAll_single (by simp) (entriesHtml_refers entries)) hrefsAll_nil
  | .html t => by simp [blockHtml, RefersAll]
theorem blocksHtml_refers : (blocks : List Block) → RefersAll s (blocksHtml s blocks)
  | [] => by
    rw [blocksHtml]
    exact hrefsAll_nil
  | b :: rest => by
    rw [blocksHtml]
    exact hrefsAll_append (blockHtml_refers b) (blocksHtml_refers rest)
theorem itemsHtml_refers : (items : List (List Block)) → RefersAll s (itemsHtml s items)
  | [] => by
    rw [itemsHtml]
    exact hrefsAll_nil
  | item :: rest => by
    rw [itemsHtml]
    refine refersAll_line (hrefsAll_single (Html.hrefsOf_plain _ _) ?_) (itemsHtml_refers rest)
    split
    · exact html_refers _
    · exact blocksHtml_refers item
theorem entriesHtml_refers : (entries : List (Text × Text × List Block)) →
    RefersAll s (entriesHtml s entries)
  | [] => by
    rw [entriesHtml]
    exact hrefsAll_nil
  | (term, anchor, blocks) :: rest => by
    rw [entriesHtml]
    refine refersAll_line ?_ (refersAll_line ?_ (entriesHtml_refers rest))
    · exact hrefsAll_single (anchorAttributes_hrefs _ _ _) (html_refers term)
    · exact hrefsAll_single (Html.hrefsOf_plain _ _) (blocksHtml_refers blocks)
end

theorem topLink_refers (assets : Text) : RefersAll s [topLink assets] := by
  have values : Html.hrefsOfAll [topLink assets] = ["#TOP".toList] := by
    simp [topLink, Html.hrefsOf]
  intro value member
  rw [values, List.mem_singleton] at member
  exact ⟨"#TOP".toList, member.trans (by decide), Or.inr (Or.inl rfl)⟩

theorem headingsHtml_refers (assets : Text) : (headings : List Heading) →
    RefersAll s (headingsHtml s assets headings)
  | [] => by
    rw [headingsHtml]
    exact hrefsAll_nil
  | ⟨level, anchor, title, blocks, children⟩ :: rest => by
    rw [headingsHtml]
    refine refersAll_line ?_ (hrefsAll_append (hrefsAll_append ?_ ?_) ?_)
    · exact hrefsAll_single (anchorAttributes_hrefs _ _ _)
        (hrefsAll_append (html_refers title) (topLink_refers assets))
    · exact blocksHtml_refers blocks
    · exact headingsHtml_refers assets children
    · exact headingsHtml_refers assets rest

/-- Every link in the body of a page refers to something. -/
theorem bodyHtml_refers (assets : Text) (root : Heading) : RefersAll s (bodyHtml s assets root) :=
  hrefsAll_append (blocksHtml_refers root.blocks) (headingsHtml_refers assets root.children)

end Page
end PodSite
