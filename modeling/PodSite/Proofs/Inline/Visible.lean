import PodSite.Proofs.Html.Visible
import PodSite.Proofs.Inline.Written

/-!
Inline markup shows its text. On a page, names become links, spaces become references and labels of
links are read again; without the tags, and with references read as characters, what is left is the
text without its markup.
-/
namespace PodSite.ModuleName

def Piece.text : Piece → Text
  | plain t => t
  | name n => n

theorem length?_pos {t : Text} {n : Nat} (found : length? t = some n) : 0 < n := by
  unfold length? at found
  simp only at found
  split at found
  · cases found
  · simp only [Option.some.injEq] at found
    omega

theorem pieces_text (before : Option Char) (skip : Nat) (t : Text) :
    (pieces before skip t).flatMap Piece.text = t.drop skip := by
  fun_induction pieces before skip t with
  | case1 => simp
  | case2 before c rest skip ih => rw [ih, List.drop_succ_cons]
  | case3 before c rest unnamed ih => rw [List.flatMap_cons, ih, Piece.text]; rfl
  | case4 before c rest n named found piece ih =>
    have kept : piece.text = found := by
      unfold piece
      split <;> rfl
    have positive := length?_pos named
    obtain ⟨m, rfl⟩ : ∃ m, n = m + 1 := ⟨n - 1, by omega⟩
    rw [List.flatMap_cons, ih, kept]
    simp [found]

end PodSite.ModuleName

namespace PodSite.Inline

open Html (visible visibleAll visibleAll_append visibleAll_single)

theorem entity_other {name : Text} (named : ofCharacterCode name = .entity name) :
    name ∉ Html.decoded := by
  have known : ∀ other ∈ Html.decoded, (namedCharacters.lookup other).isSome ∨ '#' ∈ other := by
    decide
  obtain ⟨_, _, letters, unnamed⟩ := ofCharacterCode_entity named
  intro member
  rcases known name member with character | mark
  · rw [unnamed] at character
    cases character
  · exact notMem_alphanumeric letters (by decide) mark

theorem words_visible (mode : Mode) (t : Text) : visibleAll (words mode t) = t := by
  unfold words
  split
  · induction t with
    | nil => rfl
    | cons c t ih =>
      rw [List.map_cons, visibleAll, ih]
      split
      · rename_i space
        rw [space, visible, if_pos rfl, List.singleton_append]
      · rfl
  · rw [visibleAll_single, visible]

section Trees
variable (s : Setting)

theorem pieceHtml_visible (mode : Mode) (piece : ModuleName.Piece) :
    visibleAll (pieceHtml s mode piece) = piece.text := by
  cases piece with
  | plain t => exact words_visible mode t
  | name n =>
    rw [pieceHtml]
    split
    · rw [visibleAll_single, anchorTo, visible, words_visible, ModuleName.Piece.text]
    · rw [visibleAll_single, Html.plain, visible, words_visible, ModuleName.Piece.text]

theorem running_visible (mode : Mode) (t : Text) : visibleAll (running s mode t) = t := by
  have cut : ∀ pieces : List ModuleName.Piece,
      visibleAll (pieces.flatMap (pieceHtml s mode)) = pieces.flatMap ModuleName.Piece.text := by
    intro pieces
    induction pieces with
    | nil => rfl
    | cons piece rest ih =>
      rw [List.flatMap_cons, visibleAll_append, ih, pieceHtml_visible, List.flatMap_cons]
  rw [running, cut, ModuleName.pieces_text, List.drop_zero]

variable {link : Mode → Text → List Html} {textOf : Text → Text}

mutual
theorem nodeHtml_visible (links : ∀ mode raw, visibleAll (link mode raw) = textOf raw) :
    (node : Inline) → (∀ name, entity name ∈ leaves node → ofCharacterCode name = entity name) →
      (mode : Mode) → visibleAll (nodeHtml s link textOf mode node) = nodeText textOf node
  | text t, _, mode => by
    rw [nodeHtml, nodeText]
    split
    · exact words_visible mode t
    · exact running_visible s mode t
  | character t, _, mode => by
    rw [nodeHtml, nodeText, words_visible]
  | entity name, named, mode => by
    have other : name ≠ "nbsp".toList := by
      intro space
      have unread := entity_other (named name (by simp [leaves]))
      rw [space] at unread
      exact unread (by decide)
    rw [nodeHtml, nodeText, visibleAll_single, visible, if_neg other]
  | .link raw, _, mode => by
    rw [nodeHtml, nodeText, links]
  | styled style content, named, mode => by
    rw [leaves] at named
    have inner := fun mode => nodesHtml_visible links content named mode
    rw [nodeText]
    cases style with
    | bold => rw [nodeHtml, visibleAll_single, Html.plain, visible, inner]
    | italic => rw [nodeHtml, visibleAll_single, Html.plain, visible, inner]
    | file => rw [nodeHtml, visibleAll_single, visible, inner]
    | unbroken => rw [nodeHtml, inner]
    | code =>
      rw [nodeHtml]
      split
      · split
        · rw [visibleAll_single, anchorTo, visible, visibleAll_single, Html.plain, visible, inner]
        · rw [visibleAll_single, Html.plain, visible, inner]
      · rw [visibleAll_single, Html.plain, visible, inner]
theorem nodesHtml_visible (links : ∀ mode raw, visibleAll (link mode raw) = textOf raw) :
    (nodes : List Inline) →
      (∀ name, entity name ∈ leavesAll nodes → ofCharacterCode name = entity name) →
      (mode : Mode) → visibleAll (nodesHtml s link textOf mode nodes) = contentText textOf nodes
  | [], _, mode => by
    rw [nodesHtml, contentText, visibleAll]
  | node :: rest, named, mode => by
    simp only [leavesAll, List.mem_append] at named
    rw [nodesHtml, contentText, visibleAll_append,
      nodeHtml_visible links node (fun name here => named name (Or.inl here)) mode,
      nodesHtml_visible links rest (fun name there => named name (Or.inr there)) mode]
end

theorem linkHtml_visible (depth : Nat) (mode : Mode) (raw : Text) :
    visibleAll (linkHtml s depth mode raw) = linkText depth raw := by
  induction depth generalizing mode raw with
  | zero => exact words_visible mode raw
  | succ depth ih =>
    have label : visibleAll (labelHtml s depth mode (Link.ofText raw)) =
        linkText (depth + 1) raw := by
      unfold labelHtml linkText
      split
      · rename_i t labelled
        rw [nodesHtml_visible s ih (parse t) (fun _ => entity_of_parse), Link.shown, labelled]
      · rw [words_visible]
        rfl
    rw [linkHtml_succ]
    split
    · exact label
    · split
      · rw [visibleAll_single, anchorTo, visible, label]
      · split
        · exact label
        · rw [visibleAll_single, Html.plain, visible, label]

theorem html_visible (t : Text) : visibleAll (html s t) = unmarked t :=
  nodesHtml_visible s (linkHtml_visible s t.length) (parse t) (fun _ => entity_of_parse) .outside

end Trees

theorem written_shows {node : Html} (written : Written node) :
    Html.Shows (Html.writeNode node) (visible node) := by
  induction written with
  | text t => exact Html.shows_escape t
  | space => exact Html.shows_space
  | entity named =>
    have other := entity_other named
    obtain ⟨_, _, letters, _⟩ := ofCharacterCode_entity named
    exact Html.shows_reference (notMem_alphanumeric letters (by decide))
      (notMem_alphanumeric letters (by decide)) (notMem_alphanumeric letters (by decide)) other
  | anchor href _ ih =>
    have plain := Html.plainAttributes_single (by decide : Html.Plain "href".toList)
      (Html.escape_plain href)
    exact Html.shows_element plain (Html.shows_write ih)
  | styled _ _ ih => exact Html.shows_element (by simp [Html.PlainAttributes]) (Html.shows_write ih)
  | file _ ih => exact Html.shows_element (by decide) (Html.shows_write ih)

/-- A text with inline markup shows on a page what it says without its markup. -/
theorem decode_render (s : Setting) (t : Text) :
    Html.decode (Html.withoutTags (render s t)) = unmarked t := by
  have shown := Html.shows_write fun node member => written_shows (html_written s t node member)
  have whole := shown []
  rw [List.append_nil, html_visible] at whole
  exact whole.trans (List.append_nil _)

end PodSite.Inline
