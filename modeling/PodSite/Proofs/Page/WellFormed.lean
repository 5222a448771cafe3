import PodSite.Outline.Build
import PodSite.Page.Body
import PodSite.Proofs.Html.WellFormed
import PodSite.Proofs.Inline.Written

/-!
Page bodies are well formed. Whatever a source holds, the body written for it is a balanced fragment
with its own tags alone and every special character escaped, unless the source brings blocks that
are written as they are.
-/
namespace PodSite

namespace Inline

theorem written_passes {node : Html} (written : Written node) :
    Html.Passes (Html.writeNode node) := by
  induction written with
  | text t => exact Html.passes_escape t
  | space => exact Html.passes_reference (by decide)
  | entity named =>
    obtain ⟨_, filled, letters, _⟩ := ofCharacterCode_entity named
    exact Html.passes_reference (by simp [Html.isReferenceName, filled, letters])
  | anchor href _ ih =>
    have name : Html.IsAttributeName "href".toList := by decide
    have fits : Html.Fits ⟨"href".toList, Html.escape href⟩ := ⟨name, Html.escape_quoted href⟩
    exact Html.passes_element (by decide) (List.forall_mem_singleton.mpr fits)
      (Html.passes_write ih)
  | styled known _ ih =>
    have names : ∀ tag ∈ [Tag.strong, .emphasis, .code], tag.name ∈ Html.elementNames := by decide
    exact Html.passes_element (names _ known) (by simp) (Html.passes_write ih)
  | file _ ih =>
    have fits : Html.Fits ⟨"class".toList, "file".toList⟩ := ⟨by decide, by decide⟩
    exact Html.passes_element (by decide) (List.forall_mem_singleton.mpr fits)
      (Html.passes_write ih)

theorem html_passes (s : Setting) (t : Text) : Html.Passes (Html.write (html s t)) :=
  Html.passes_write fun node member => written_passes (html_written s t node member)

end Inline

namespace Page

mutual
/-- Nothing in the block is written as it is, at any depth. -/
def isEscaped : Block → Bool
  | .paragraph _ => true
  | .verbatim _ => true
  | .list _ items => areItemsEscaped items
  | .definitions entries => areEntriesEscaped entries
  | .html _ => false
def areEscaped : List Block → Bool
  | [] => true
  | b :: rest => isEscaped b && areEscaped rest
def areItemsEscaped : List (List Block) → Bool
  | [] => true
  | item :: rest => areEscaped item && areItemsEscaped rest
def areEntriesEscaped : List (Text × Text × List Block) → Bool
  | [] => true
  | (_, _, blocks) :: rest => areEscaped blocks && areEntriesEscaped rest
end

mutual
def hasNoHtml : Heading → Bool
  | ⟨_, _, _, blocks, children⟩ => areEscaped blocks && haveNoHtml children
def haveNoHtml : List Heading → Bool
  | [] => true
  | h :: rest => hasNoHtml h && haveNoHtml rest
end

theorem fits_anchor (anchor : Text) : ∀ a ∈ anchorAttributes anchor, Html.Fits a := by
  have id : Html.IsAttributeName "id".toList := by decide
  have name : Html.IsAttributeName "name".toList := by decide
  have quoted := Html.escape_quoted anchor
  rw [anchorAttributes, List.forall_mem_cons, List.forall_mem_singleton]
  exact ⟨⟨id, quoted⟩, ⟨name, quoted⟩⟩

theorem passes_newline {rest : List Html} (later : Html.Passes (Html.write rest)) :
    Html.Passes (Html.write (.newline :: rest)) :=
  Html.passes_cons (Html.passes_escape ['\n']) later

theorem passes_line {tag : Tag} (known : tag.name ∈ Html.elementNames) {content rest : List Html}
    (inner : Html.Passes (Html.write content)) (later : Html.Passes (Html.write rest)) :
    Html.Passes (Html.write (.plain tag content :: .newline :: rest)) :=
  Html.passes_cons (Html.passes_element known (by simp) inner) (passes_newline later)

section Blocks
variable (s : Inline.Setting)

mutual
theorem blockHtml_passes : (b : Block) → isEscaped b = true →
    Html.Passes (Html.write (blockHtml s b))
  | .paragraph t, _ => by
    rw [blockHtml]
    exact passes_line (by decide) (Inline.html_passes s _) Html.passes_nil
  | .verbatim t, _ => by
    have text : Html.Passes (Html.write [.text (outdent t)]) :=
      Html.passes_cons (Html.passes_escape (outdent t)) Html.passes_nil
    rw [blockHtml]
    exact passes_line (by decide) text Html.passes_nil
  | .list ordered items, escaped => by
    have known :
        (if ordered then Tag.orderedList else .unorderedList).name ∈ Html.elementNames := by
      cases ordered <;> decide
    rw [blockHtml]
    exact passes_line known (passes_newline (itemsHtml_passes items escaped)) Html.passes_nil
  | .definitions entries, escaped => by
    rw [blockHtml]
    exact passes_line (by decide) (passes_newline (entriesHtml_passes entries escaped))
      Html.passes_nil
theorem blocksHtml_passes : (blocks : List Block) → areEscaped blocks = true →
    Html.Passes (Html.write (blocksHtml s blocks))
  | [], _ => by
    rw [blocksHtml]
    exact Html.passes_nil
  | b :: rest, escaped => by
    rw [areEscaped, Bool.and_eq_true] at escaped
    rw [blocksHtml, Html.write_append]
    exact (blockHtml_passes b escaped.1).append (blocksHtml_passes rest escaped.2)
theorem itemsHtml_passes : (items : List (List Block)) → areItemsEscaped items = true →
    Html.Passes (Html.write (itemsHtml s items))
  | [], _ => by
    rw [itemsHtml]
    exact Html.passes_nil
  | item :: rest, escaped => by
    rw [areItemsEscaped, Bool.and_eq_true] at escaped
    rw [itemsHtml]
    refine passes_line (by decide) ?_ (itemsHtml_passes rest escaped.2)
    split
    · exact Inline.html_passes s _
    · exact blocksHtml_passes item escaped.1
theorem entriesHtml_passes : (entries : List (Text × Text × List Block)) →
    areEntriesEscaped entries = true → Html.Passes (Html.write (entriesHtml s entries))
  | [], _ => by
    rw [entriesHtml]
    exact Html.passes_nil
  | (term, anchor, blocks) :: rest, escaped => by
    rw [areEntriesEscaped, Bool.and_eq_true] at escaped
    rw [entriesHtml]
    refine Html.passes_cons ?_ (passes_newline ?_)
    · exact Html.passes_element (by decide) (fits_anchor anchor) (Inline.html_passes s term)
    · exact passes_line (by decide) (blocksHtml_passes blocks escaped.1)
        (entriesHtml_passes rest escaped.2)
end

def climb (levels : Nat) : Text := (List.replicate levels "../".toList).flatten

theorem topLink_passes (levels : Nat) :
    Html.Passes (Html.writeNode (topLink (climb levels))) := by
  have quoted : Html.Quoted (climb levels ++ "up.svg".toList) := by
    intro c member
    rcases List.mem_append.mp member with up | name
    · obtain ⟨step, isStep, inStep⟩ := List.mem_flatten.mp up
      rw [(List.mem_replicate.mp isStep).2] at inStep
      exact (by decide : Html.Quoted "../".toList) c inStep
    · exact (by decide : Html.Quoted "up.svg".toList) c name
  have alt : Html.Fits ⟨"alt".toList, ['^']⟩ := ⟨by decide, by decide⟩
  have source : Html.IsAttributeName "src".toList := by decide
  have href : Html.Fits ⟨"href".toList, "#TOP".toList⟩ := ⟨by decide, by decide⟩
  have style : Html.Fits ⟨"class".toList, "toplink".toList⟩ := ⟨by decide, by decide⟩
  have image : Html.Passes (Html.writeNode (.image [⟨"alt".toList, ['^']⟩,
      ⟨"src".toList, climb levels ++ "up.svg".toList⟩])) := by
    refine Html.passes_image ?_
    rw [List.forall_mem_cons, List.forall_mem_singleton]
    exact ⟨alt, ⟨source, quoted⟩⟩
  refine Html.passes_element (by decide) ?_ (Html.passes_cons image Html.passes_nil)
  rw [List.forall_mem_cons, List.forall_mem_singleton]
  exact ⟨href, style⟩

theorem headingsHtml_passes (levels : Nat) : (headings : List Heading) →
    haveNoHtml headings = true →
      Html.Passes (Html.write (headingsHtml s (climb levels) headings))
  | [], _ => by
    rw [headingsHtml]
    exact Html.passes_nil
  | ⟨level, anchor, title, blocks, children⟩ :: rest, escaped => by
    rw [haveNoHtml, hasNoHtml, Bool.and_eq_true, Bool.and_eq_true] at escaped
    obtain ⟨⟨own, below⟩, later⟩ := escaped
    have known : (Tag.heading (max 1 (min level 6))).name ∈ Html.elementNames := by
      have all : ∀ k ≤ 6, 1 ≤ k → (Tag.heading k).name ∈ Html.elementNames := by decide
      exact all _ (by omega) (by omega)
    have title : Html.Passes (Html.write (Inline.html s title ++ [topLink (climb levels)])) := by
      rw [Html.write_append]
      exact (Inline.html_passes s title).append
        (Html.passes_cons (topLink_passes levels) Html.passes_nil)
    rw [headingsHtml]
    refine Html.passes_cons (Html.passes_element known (fits_anchor anchor) title)
      (passes_newline ?_)
    rw [Html.write_append, Html.write_append]
    have inside := headingsHtml_passes levels children below
    exact ((blocksHtml_passes s blocks own).append inside).append
      (headingsHtml_passes levels rest later)

end Blocks

/-- The body of a page is well formed, whatever its source holds, unless parts of the source are
written as they are. -/
theorem body_wellFormed (s : Inline.Setting) (levels : Nat) (placement : Markup.Placement)
    (source : Text) (escaped : hasNoHtml (Outline.ofSource placement source) = true) :
    Html.WellFormed (body s (climb levels) (Outline.ofSource placement source)) := by
  cases outline : Outline.ofSource placement source with
  | mk level anchor title blocks children =>
    rw [outline, hasNoHtml, Bool.and_eq_true] at escaped
    have top := blocksHtml_passes s blocks escaped.1
    have below := headingsHtml_passes s levels children escaped.2
    rw [body, bodyHtml, Html.write_append]
    exact (top.append below).wellFormed

def sampleSetting : Inline.Setting where
  references := ⟨[("Foo::Bar".toList, Path.ofText "Foo/Bar.pm.html".toList)]⟩
  here := Path.ofText "Foo/A.html".toList
  ownName := "Foo::A".toList

def sampleSource : Text :=
  ["=head1 \"A\" & b", "", "L<I<it's> <|Foo::Bar>, S<a & b>E<eacute>", "", "  if (a < b)", "",
    "=over", "", "=item * Foo::Bar > L<http://a/?b&c=\"d\">", "", "=back", "", "=item <t>", "",
    "C<Foo::Bar> and F<'>", "", "=head2 C<", "", "=cut"].flatMap fun line => line.toList ++ ['\n']

theorem body_wellFormed_sample :
    hasNoHtml (Outline.ofSource .lines sampleSource) = true ∧
      Html.WellFormed (body sampleSetting (climb 1) (Outline.ofSource .lines sampleSource)) := by
  have escaped : hasNoHtml (Outline.ofSource .lines sampleSource) = true := by decide +kernel
  exact ⟨escaped, body_wellFormed sampleSetting 1 .lines sampleSource escaped⟩

end Page
end PodSite
