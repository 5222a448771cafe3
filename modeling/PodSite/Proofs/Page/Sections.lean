import PodSite.Proofs.Inline.Depth
import PodSite.Proofs.Inline.Written
import PodSite.Proofs.Outline.Titles
import PodSite.Proofs.Page.Links
import PodSite.Proofs.Page.Placed

/-!
Links to parts of their own page. A link computes the slug of the part that it names, while titles
get numbers where slugs meet. The slug of a title is an anchor of the page all the same, so such a
link leads somewhere.
-/
namespace PodSite

namespace Inline

section Place
variable {s : Setting} {link : Mode → Text → List Html} {textOf : Text → Text} {raw : Text}

/-- A link code is shown within the given nodes as a link that stands inside of another just if
`mode` does. -/
def Shown (link : Mode → Text → List Html) (raw : Text) (mode : Mode) (nodes : List Html) : Prop :=
  ∃ mode', mode'.inLink = mode.inLink ∧ Html.write (link mode' raw) <:+: Html.write nodes

theorem Shown.within {mode : Mode} {nodes around : List Html} (shown : Shown link raw mode nodes)
    (inside : Html.write nodes <:+: Html.write around) : Shown link raw mode around := by
  obtain ⟨mode', same, written⟩ := shown
  exact ⟨mode', same, written.trans inside⟩

theorem Shown.element {mode : Mode} {content : List Html} (shown : Shown link raw mode content)
    (tag : Tag) (attributes : List Attribute) :
    Shown link raw mode [.element tag attributes content] := by
  apply shown.within
  rw [Html.write_single]
  exact Html.infix_element tag attributes content

mutual
theorem nodeHtml_shown : (node : Inline) → .link raw ∈ leaves node → (mode : Mode) →
    Shown link raw mode (nodeHtml s link textOf mode node)
  | text t, read, mode => by simp [leaves] at read
  | character t, read, mode => by simp [leaves] at read
  | entity name, read, mode => by simp [leaves] at read
  | .link other, read, mode => by
    simp only [leaves, List.mem_singleton, Inline.link.injEq] at read
    rw [nodeHtml, read]
    exact ⟨mode, rfl, List.infix_refl _⟩
  | styled style content, read, mode => by
    rw [leaves] at read
    have inner := nodesHtml_shown content read
    cases style with
    | bold =>
      rw [nodeHtml]
      exact (inner mode).element _ _
    | italic =>
      rw [nodeHtml]
      exact (inner mode).element _ _
    | file =>
      rw [nodeHtml]
      exact (inner mode).element _ _
    | unbroken =>
      rw [nodeHtml]
      exact inner { mode with unbroken := true }
    | code =>
      have shown : Shown link raw mode _ := (inner { mode with inCode := true }).element .code []
      rw [nodeHtml]
      split
      · split
        · exact shown.element _ _
        · exact shown
      · exact shown
theorem nodesHtml_shown : (nodes : List Inline) → .link raw ∈ leavesAll nodes → (mode : Mode) →
    Shown link raw mode (nodesHtml s link textOf mode nodes)
  | [], read, mode => by simp [leavesAll] at read
  | node :: rest, read, mode => by
    rw [leavesAll, List.mem_append] at read
    rw [nodesHtml]
    rcases read with here | there
    · apply (nodeHtml_shown node here mode).within
      rw [Html.write_append]
      exact (List.prefix_append _ _).isInfix
    · apply (nodesHtml_shown rest there mode).within
      rw [Html.write_append]
      exact (List.suffix_append _ _).isInfix
end

end Place

/-- A link to a part of the page that it stands on, outside of other links. The bound on nested
labels does not matter for the slug, since the part is shorter than the text. -/
theorem linkHtml_own {s : Setting} {t raw name part : Text}
    (read : .link raw ∈ leavesAll (parse t))
    (target : (Link.ofText raw).target = .page name (some part))
    (own : name = [] ∨ name = s.ownName) {mode : Mode} (outside : mode.inLink = false) :
    ∃ label,
      linkHtml s t.length mode raw = [anchorTo ('#' :: Slug.ofText (unmarked part)) label] := by
  have shorter := length_of_link read
  have inside := (Link.ofText_part target).length_le
  obtain ⟨depth, size⟩ : ∃ depth, t.length = depth + 1 := ⟨t.length - 1, by omega⟩
  have plain : unmarkedWithin depth part = unmarked part := unmarkedWithin_eq (by omega)
  have leads : targetHref? s (unmarkedWithin depth) (Link.ofText raw).target =
      some ('#' :: Slug.ofText (unmarked part)) := by
    rw [target, targetHref?, Option.map_some, if_pos own, plain]
  refine ⟨labelHtml s depth mode (Link.ofText raw), ?_⟩
  rw [size, linkHtml_succ, if_neg (by simp [outside]), leads]

end Inline

namespace Anchors

theorem base_eq {title : Text} (solid : Slug.ofText title ≠ []) :
    base title = Slug.ofText title := by
  unfold base
  split
  · contradiction
  · rfl

end Anchors

namespace Page

open Outline (ofParagraphs)

/-- The slug of every title and every term is the anchor of just one of them, an element of the page
has this anchor, and a link to a part of its own page with that slug is shown as a link to it. -/
theorem own_links_lead (ps : List Markup.Paragraph) {mark : Text × Text}
    (placed : mark ∈ (ofParagraphs ps).marks) (solid : Slug.ofText mark.1 ≠ []) :
    ((ofParagraphs ps).marks.map (·.2)).count (Slug.ofText mark.1) = 1 ∧
      (∀ (s : Inline.Setting) (assets : Text), ∃ tag content,
        Html.writeNode (.element tag (anchorAttributes (Slug.ofText mark.1)) content) <:+:
          body s assets (ofParagraphs ps)) ∧
      ∀ (s : Inline.Setting) (t raw name part : Text),
        .link raw ∈ Inline.leavesAll (Inline.parse t) →
        (Link.ofText raw).target = .page name (some part) → (name = [] ∨ name = s.ownName) →
        Slug.ofText (Inline.unmarked part) = Slug.ofText mark.1 →
        ∃ mode label, mode.inLink = false ∧
          Inline.linkHtml s t.length mode raw =
            [.element .anchor [⟨"href".toList, '#' :: Slug.ofText mark.1⟩] label] ∧
          Html.write (Inline.linkHtml s t.length mode raw) <:+: Inline.render s t := by
  obtain ⟨distinct, shaped⟩ := Outline.ofParagraphs_anchors ps
  have anchor := Outline.base_mem_anchors placed
  rw [Anchors.base_eq solid] at anchor
  have written : Html.escape ('#' :: Slug.ofText mark.1) = '#' :: Slug.ofText mark.1 :=
    congrArg ('#' :: ·) (Html.escape_anchor (shaped _ anchor))
  rw [Heading.marks_anchors]
  refine ⟨List.count_eq_one_of_mem distinct anchor, ?_, ?_⟩
  · intro s assets
    obtain ⟨tag, content, part⟩ := bodyHtml_anchored s assets anchor
    exact ⟨tag, content, Html.infix_write _ part⟩
  intro s t raw name part read target own same
  have placed : Inline.Shown (Inline.linkHtml s t.length) raw .outside (Inline.html s t) :=
    Inline.nodesHtml_shown (Inline.parse t) read .outside
  obtain ⟨mode, outside, shown⟩ := placed
  obtain ⟨label, link⟩ := Inline.linkHtml_own read target own outside
  refine ⟨mode, label, outside, ?_, shown⟩
  rw [link, same, Inline.anchorTo, written]

def meetingTopics : List Markup.Paragraph :=
  [.command "head1".toList "Topic".toList, .command "head2".toList "B<Topic>!".toList,
    .command "item".toList "Topic 2".toList]

def ownPage : Inline.Setting := ⟨⟨[]⟩, Path.absolute ["a.html".toList], "A::B".toList⟩

def ownLinkText : Text := "I<see L<A::B/Topic 2>>".toList

theorem own_links_lead_meeting :
    (ofParagraphs meetingTopics).marks.map (·.1) =
        ["Topic".toList, "Topic!".toList, "Topic 2".toList] ∧
      (ofParagraphs meetingTopics).marks.map (·.2) =
        ["topic".toList, "topic-2".toList, "topic-2-2".toList] ∧
      ((ofParagraphs meetingTopics).marks.map (·.2)).count "topic-2".toList = 1 ∧
      ∃ mode label, mode.inLink = false ∧
        Inline.linkHtml ownPage ownLinkText.length mode "A::B/Topic 2".toList =
          [.element .anchor [⟨"href".toList, "#topic-2".toList⟩] label] ∧
        Html.write (Inline.linkHtml ownPage ownLinkText.length mode "A::B/Topic 2".toList) <:+:
          Inline.render ownPage ownLinkText := by
  have texts : (ofParagraphs meetingTopics).marks.map (·.1) =
      ["Topic".toList, "Topic!".toList, "Topic 2".toList] := by
    rw [Heading.marks_texts, Outline.contents_ofParagraphs]
    decide +kernel
  have anchors : (ofParagraphs meetingTopics).marks.map (·.2) =
      ["topic".toList, "topic-2".toList, "topic-2-2".toList] := by
    rw [Heading.marks_anchors, Outline.ofParagraphs_marks, texts]
    decide +kernel
  have slug : Slug.ofText "Topic 2".toList = "topic-2".toList := by decide +kernel
  have read : Inline.parse ownLinkText =
      [.styled .italic [.text "see ".toList, .link "A::B/Topic 2".toList]] := rfl
  have target : (Link.ofText "A::B/Topic 2".toList).target =
      .page "A::B".toList (some "Topic 2".toList) := by decide +kernel
  have part : Inline.unmarked "Topic 2".toList = "Topic 2".toList := by decide +kernel
  have listed : "Topic 2".toList ∈ (ofParagraphs meetingTopics).marks.map (·.1) := by
    rw [texts]
    decide
  obtain ⟨mark, placed, text⟩ := List.mem_map.mp listed
  rw [← text] at slug
  obtain ⟨once, -, links⟩ := own_links_lead meetingTopics placed (by rw [slug]; decide)
  have shown := links ownPage ownLinkText "A::B/Topic 2".toList "A::B".toList "Topic 2".toList
    (by simp [read, Inline.leavesAll, Inline.leaves]) target (.inr rfl) (by rw [part, text])
  rw [slug] at once shown
  exact ⟨texts, anchors, once, shown⟩

end Page
end PodSite
