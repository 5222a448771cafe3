import PodSite.Page.Contents
import PodSite.Proofs.Html.Hrefs
import PodSite.Proofs.Outline.Anchors

/-!
The links of a page to its own anchors: those of its contents, and those of the names that it
defines. All of them lead to a heading or a term of the outline.
-/
namespace PodSite

namespace Html

theorem escapeChar_slugChar {c : Char} (word : c = '-' ∨ isSlugChar c = true) :
    escapeChar c = [c] := by
  unfold escapeChar
  split
  · exact absurd word (by decide)
  · exact absurd word (by decide)
  · exact absurd word (by decide)
  · exact absurd word (by decide)
  · exact absurd word (by decide)
  · rfl

theorem escape_anchor {a : Text} (isAnchor : IsAnchor a) : escape a = a := by
  have same : ∀ c ∈ a, escapeChar c = [c] :=
    fun c member => escapeChar_slugChar (isAnchor.word c member)
  calc
    a.flatMap escapeChar = a.flatMap fun c => [c] := List.flatMap_congr same
    _ = a := List.flatMap_singleton' a

end Html

namespace Page

theorem levelItem_hrefs (level : Nat) (content rest : List Html) :
    Html.hrefsIn (.element .listItem
        [⟨"class".toList, "toc-level-".toList ++ Text.decimal level⟩] content :: rest) =
      Html.hrefsIn content ++ Html.hrefsIn rest := by
  have digits := Html.decimal_notMem level (by decide : 'f'.isDigit = false)
  have front : 'f' ∉ "li class=\"toc-level-".toList := by decide
  have written : Tag.listItem.name ++
      Html.writeAttributes [⟨"class".toList, "toc-level-".toList ++ Text.decimal level⟩] =
        "li class=\"toc-level-".toList ++ (Text.decimal level ++ ['"']) := by
    rw [Html.writeAttributes, List.flatMap_singleton, Html.writeAttribute]
    rfl
  apply Html.hrefsIn_other
  rw [written, List.mem_append, List.mem_append, not_or, not_or]
  exact ⟨front, digits, by decide⟩

theorem contentsList_hrefs (items rest : List Html) :
    Html.hrefsIn (contentsList items :: rest) = Html.hrefsIn items ++ Html.hrefsIn rest :=
  Html.hrefsIn_other (by decide) items rest

theorem contentsLink_hrefs (h : Heading) (rest : List Html) :
    Html.hrefsIn (contentsLink h :: rest) = ('#' :: Html.escape h.anchor) :: Html.hrefsIn rest := by
  have unquoted : '"' ∉ '#' :: Html.escape h.anchor := by
    simp [Html.escape_unquoted]
  rw [contentsLink, Html.hrefsIn_element, Html.href?_anchor unquoted, Html.hrefsIn_text,
    Html.hrefsIn_nil]
  rfl

theorem contentsItems_hrefs : (headings : List Heading) →
    Html.hrefsIn (contentsItems headings) =
      (Heading.flattened headings).map fun h => '#' :: Html.escape h.anchor
  | [] => by simp [contentsItems, Html.hrefsIn_nil, Heading.flattened]
  | ⟨level, anchor, title, blocks, children⟩ :: rest => by
    have below := contentsItems_hrefs children
    have later := contentsItems_hrefs rest
    have nested : Html.hrefsIn (if children.isEmpty then []
        else [contentsList (contentsItems children)]) =
        (Heading.flattened children).map fun h => '#' :: Html.escape h.anchor := by
      cases children with
      | nil => simp [Html.hrefsIn_nil, Heading.flattened]
      | cons child children =>
        rw [← below, if_neg (by simp), contentsList_hrefs, Html.hrefsIn_nil, List.append_nil]
    rw [contentsItems, levelItem_hrefs, contentsLink_hrefs, nested, later, Heading.flattened,
      List.map_cons, List.map_append]
    rfl

theorem contentsLink_clean (h : Heading) : Html.Clean (contentsLink h) := by
  have value : Html.Plain ('#' :: Html.escape h.anchor) :=
    Html.plain_cons.mpr ⟨by decide, Html.escape_plain h.anchor⟩
  exact ⟨Html.plainAttributes_single (by decide) value, trivial, trivial⟩

theorem contentsList_clean {items : List Html} (clean : Html.CleanAll items) :
    Html.Clean (contentsList items) := ⟨by decide, clean⟩

theorem contentsItems_clean : (headings : List Heading) → Html.CleanAll (contentsItems headings)
  | [] => by simp [contentsItems, Html.CleanAll]
  | ⟨level, anchor, title, blocks, children⟩ :: rest => by
    have below := contentsList_clean (contentsItems_clean children)
    have later := contentsItems_clean rest
    have value : Html.Plain ("toc-level-".toList ++ Text.decimal level) :=
      Html.plain_append.mpr ⟨by decide, Html.decimal_plain level⟩
    have nested : Html.CleanAll (if children.isEmpty then []
        else [contentsList (contentsItems children)]) := by
      split
      · trivial
      · exact ⟨below, trivial⟩
    rw [contentsItems]
    exact ⟨⟨Html.plainAttributes_single (by decide) value, contentsLink_clean _, nested⟩, later⟩

theorem hrefs_contents (root : Heading) :
    (contents? root).elim [] Html.hrefs =
      root.headings.map fun h => '#' :: Html.escape h.anchor := by
  unfold contents?
  split
  · rename_i childless
    rw [Heading.headings, List.isEmpty_iff.mp childless, Heading.flattened]
    rfl
  · have links : Html.hrefsIn [.plain (.heading 3) [.text "Contents".toList],
        contentsList (contentsItems root.children)] =
          root.headings.map fun h => '#' :: Html.escape h.anchor := by
      rw [Html.plain, Html.hrefsIn_other (by decide), Html.hrefsIn_text, Html.hrefsIn_nil,
        contentsList_hrefs, Html.hrefsIn_nil, contentsItems_hrefs, List.nil_append, List.append_nil,
        Heading.headings]
    have clean : Html.CleanAll [.plain (.heading 3) [.text "Contents".toList],
        contentsList (contentsItems root.children)] :=
      ⟨⟨by decide, trivial, trivial⟩, contentsList_clean (contentsItems_clean root.children),
        trivial⟩
    have framed : Html.Clean (.element .navigation [⟨"class".toList, "toc-nav".toList⟩]
        [.plain (.heading 3) [.text "Contents".toList],
          contentsList (contentsItems root.children)]) :=
      ⟨by decide, clean⟩
    rw [Option.elim_some, Html.hrefs_writeNode framed, Html.hrefsIn_other (by decide),
      Html.hrefsIn_nil, List.append_nil, links]

theorem candidates_anchors : (headings : List Heading) → ∀ c ∈ candidates headings,
    c.2 ∈ (Heading.flattened headings).flatMap Heading.ownAnchors
  | [], c, member => by simp [candidates] at member
  | ⟨level, anchor, title, blocks, children⟩ :: rest, c, member => by
    have below := candidates_anchors children c
    have later := candidates_anchors rest c
    rw [Heading.flattened, List.flatMap_cons, List.flatMap_append, List.mem_append,
      List.mem_append, Heading.ownAnchors, List.mem_cons]
    simp only [candidates, List.mem_append] at member
    rcases member with ((own | term) | inChildren) | inRest
    · split at own
      · rw [List.mem_singleton.mp own]
        exact .inl (.inl rfl)
      · simp at own
    · exact .inl (.inr (List.mem_map_of_mem term))
    · exact .inr (.inl (below inChildren))
    · exact .inr (.inr (later inRest))

theorem select_anchors (rule : DefinitionFinder) (seen : List Text) (found : List (Text × Text)) :
    ∀ entry ∈ rule.select seen found, ∃ c ∈ found, c.2 = entry.anchor := by
  fun_induction rule.select seen found with
  | case1 => simp
  | case2 seen t anchor rest name named old ih =>
    intro entry member
    obtain ⟨c, inRest, same⟩ := ih entry member
    exact ⟨c, List.mem_cons_of_mem _ inRest, same⟩
  | case3 seen t anchor rest name named new ih =>
    intro entry member
    rcases List.mem_cons.mp member with rfl | later
    · exact ⟨(t, anchor), List.mem_cons_self, rfl⟩
    · obtain ⟨c, inRest, same⟩ := ih entry later
      exact ⟨c, List.mem_cons_of_mem _ inRest, same⟩
  | case4 seen t anchor rest unnamed ih =>
    intro entry member
    obtain ⟨c, inRest, same⟩ := ih entry member
    exact ⟨c, List.mem_cons_of_mem _ inRest, same⟩

theorem select_names (rule : DefinitionFinder) (seen : List Text) (found : List (Text × Text)) :
    ((rule.select seen found).map (·.name)).Nodup ∧
      ∀ name ∈ (rule.select seen found).map (·.name), name ∉ seen := by
  fun_induction rule.select seen found with
  | case1 => simp
  | case2 seen t anchor rest name named old ih => exact ih
  | case3 seen t anchor rest name named new ih =>
    rw [List.map_cons, List.nodup_cons]
    refine ⟨⟨fun again => ih.2 name again List.mem_cons_self, ih.1⟩, ?_⟩
    intro other member
    rcases List.mem_cons.mp member with rfl | later
    · exact fun old => new (List.contains_iff_mem.mpr old)
    · exact fun old => ih.2 other later (List.mem_cons_of_mem name old)
  | case4 seen t anchor rest unnamed ih => exact ih

theorem entries_anchors (rule : DefinitionFinder) (root : Heading) :
    ∀ entry ∈ rule.entries root, entry.anchor ∈ root.anchors := by
  intro entry member
  obtain ⟨c, isCandidate, same⟩ := select_anchors rule [] (candidates root.children) entry member
  rw [← same]
  exact List.mem_append_right _ (candidates_anchors root.children c isCandidate)

theorem heading_anchor_mem {root h : Heading} (member : h ∈ root.headings) :
    h.anchor ∈ root.anchors :=
  List.mem_append_right _ (List.mem_flatMap.mpr ⟨h, member, List.mem_cons_self⟩)

/-- The anchors of a document differ from each other and from the one at the top of its page; its
contents link its headings in their order, and every name that it is found to define is listed once
and leads to a heading or a term. -/
theorem links_of_source (placement : Markup.Placement) (source : Text) :
    let root := Outline.ofSource placement source
    root.anchors.Nodup ∧ (∀ a ∈ root.anchors, a ≠ [] ∧ a ≠ "TOP".toList) ∧
      (contents? root).elim [] Html.hrefs = root.headings.map (fun h => '#' :: h.anchor) ∧
      ∀ rule : DefinitionFinder,
        (∀ entry ∈ rule.entries root, entry.anchor ∈ root.anchors) ∧
          ((rule.entries root).map (·.name)).Nodup := by
  intro root
  obtain ⟨distinct, shaped⟩ : root.anchors.Nodup ∧ ∀ a ∈ root.anchors, IsAnchor a :=
    Outline.ofParagraphs_anchors _
  refine ⟨distinct, fun a member => ⟨(shaped a member).nonempty, ?_⟩, ?_, fun rule => ⟨?_, ?_⟩⟩
  · rintro rfl
    exact absurd ((shaped _ member).small 'T' (by decide)) (by decide)
  · rw [hrefs_contents]
    refine List.map_congr_left fun h member => ?_
    rw [Html.escape_anchor (shaped _ (heading_anchor_mem member))]
  · exact entries_anchors rule root
  · exact (select_names rule [] _).1

end Page
end PodSite
